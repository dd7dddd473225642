/-! The working folder of a run with what is around it, as far as opening files by path is concerned. A
path is walked part by part: every part but the last leads to a directory. Files hold bytes. -/

namespace StraightLine

/-- Why a path cannot be opened or read. -/
inductive FileFault
  | notFound (path : String)
  | notADirectory (path : String)
  | isADirectory (path : String)
  | invalidName (path : String)
  | nameTooLong (path : String)
  /-- The path could be opened, but it is a directory. -/
  | readDirectory (path : String)
  | alreadyClosed (path : String)
  deriving DecidableEq, Repr

def FileFault.message : FileFault → String
  | notFound p => "open " ++ p ++ ": no such file or directory"
  | notADirectory p => "open " ++ p ++ ": not a directory"
  | isADirectory p => "open " ++ p ++ ": is a directory"
  | invalidName p => "open " ++ p ++ ": invalid argument"
  | nameTooLong p => "open " ++ p ++ ": file name too long"
  | readDirectory p => "read " ++ p ++ ": is a directory"
  | alreadyClosed p => "close " ++ p ++ ": file already closed"

/-- The names on the way from the root to a place. -/
abbrev Place := List String

inductive FileNode
  | directory
  | file (content : List UInt8)
  /-- Reads as an empty file and forgets what is written to it. -/
  | null
  deriving DecidableEq, Repr

def maxNameBytes : Nat := 255

def maxPathBytes : Nat := 4095

structure Folder where
  /-- What is at each place. -/
  nodes : List (Place × FileNode)
  deriving DecidableEq, Repr

namespace Folder

/-- The place of the working folder. Its own name is not known, and no path can spell it. -/
def working : Place := ["tmp", ""]

/-- What is there beside the content of the working folder. -/
def surroundings : List (Place × FileNode) :=
  let directories := ["bin", "dev", "etc", "home", "proc", "root", "sys", "tmp", "usr", "var"]
  ([], .directory) :: (working, .directory) :: (["dev", "null"], .null)
    :: directories.map fun name => ([name], .directory)

/-- A working folder with some files and empty subfolders. -/
def ofFiles (files : List (String × String)) (subfolders : List String) : Folder where
  nodes :=
    files.map (fun f => (working ++ [f.1], .file f.2.toUTF8.toList))
      ++ subfolders.map (fun s => (working ++ [s], .directory))
      ++ surroundings

def empty : Folder := ofFiles [] []

def find? (d : Folder) (l : Place) : Option FileNode :=
  (d.nodes.find? fun n => n.1 = l).map (·.2)

def put (d : Folder) (l : Place) (n : FileNode) : Folder :=
  { d with nodes := (l, n) :: d.nodes.filter fun e => e.1 ≠ l }

theorem find?_put (d : Folder) (l l' : Place) (n : FileNode) :
    (d.put l n).find? l' = if l = l' then some n else d.find? l' := by
  by_cases h : l = l'
  · simp [find?, put, h]
  · have hf : ∀ e : Place × FileNode, (e.1 ≠ l ∧ e.1 = l') ↔ e.1 = l' := fun e =>
      ⟨And.right, fun he => ⟨fun hl => h (hl ▸ he), he⟩⟩
    simp [find?, put, h, List.find?_filter, hf]

/-- Goes from a directory to the next one on a path. -/
def descend (d : Folder) (path : String) (l : Place) (part : String) :
    Except FileFault Place :=
  if part = "." then .ok l
  else if part = ".." then .ok l.dropLast
  else if part.utf8ByteSize > maxNameBytes then .error (.nameTooLong path)
  else
    match d.find? (l ++ [part]) with
    | some .directory => .ok (l ++ [part])
    | some _ => .error (.notADirectory path)
    | none => .error (.notFound path)

/-- What a path asks for. -/
inductive Target
  /-- A directory, by a dot or two. -/
  | directory
  /-- A name in a directory. A slash behind it asks for a directory of that name. -/
  | entry (parent : Place) (name : String) (slash : Bool)
  deriving DecidableEq, Repr

def walk (d : Folder) (path : String) : Except FileFault Target :=
  if path.toList.contains (Char.ofNat 0) then .error (.invalidName path)
  else if path.isEmpty then .error (.notFound path)
  else if path.utf8ByteSize > maxPathBytes then .error (.nameTooLong path)
  else
    let parts := (path.splitOn "/").filter fun part => !part.isEmpty
    let start := if path.startsWith "/" then [] else working
    match parts.getLast? with
    | none => .ok .directory
    | some last => do
      let parent ← parts.dropLast.foldlM (d.descend path) start
      return if last = "." || last = ".." then .directory
        else .entry parent last (path.endsWith "/")

def read (d : Folder) (path : String) : Except FileFault (List UInt8) := do
  match ← d.walk path with
  | .directory => throw (.readDirectory path)
  | .entry parent name slash =>
    if name.utf8ByteSize > maxNameBytes then throw (.nameTooLong path)
    match d.find? (parent ++ [name]) with
    | none => throw (.notFound path)
    | some .directory => throw (.readDirectory path)
    | some (.file content) => if slash then throw (.notADirectory path) else return content
    | some .null => if slash then throw (.notADirectory path) else return []

/-- Creates a file at a path, or empties the one that is there, and gives its place. -/
def create (d : Folder) (path : String) : Except FileFault (Place × Folder) := do
  match ← d.walk path with
  | .directory => throw (.isADirectory path)
  | .entry parent name slash =>
    if slash then throw (.isADirectory path)
    if name.utf8ByteSize > maxNameBytes then throw (.nameTooLong path)
    let l := parent ++ [name]
    match d.find? l with
    | some .directory => throw (.isADirectory path)
    | some .null => return (l, d)
    | some (.file _) | none => return (l, d.put l (.file []))

/-- Lays bytes over others from an offset on; a gap in front is filled with zeros. -/
def overlay (old : List UInt8) (offset : Nat) (new : List UInt8) : List UInt8 :=
  old.take offset ++ List.replicate (offset - old.length) 0 ++ new
    ++ old.drop (offset + new.length)

/-- Writing at the end appends. -/
theorem overlay_length (old new : List UInt8) : overlay old old.length new = old ++ new := by
  simp [overlay]

/-- Writes bytes into the file at a place from an offset on. -/
def writeAt (d : Folder) (l : Place) (offset : Nat) (bs : List UInt8) : Folder :=
  match d.find? l with
  | some (.file old) => d.put l (.file (overlay old offset bs))
  | _ => d

end Folder

end StraightLine
