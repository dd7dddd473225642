import StraightLine.Alloc.Location
import StraightLine.Toml.Document
import StraightLine.Trace.Tracer

/-! The settings of a run: the registers of the machine and what is traced. They come from a settings
file with the tables `machine` and `trace`. Names of tables and keys are recognised without regard to
case, but only those in small letters are used, the output of the tracer apart. -/

namespace StraightLine

open StraightLine.Alloc StraightLine.Trace StraightLine.Toml

structure Settings where
  /-- The registers, ascending. -/
  registers : List Reg := [0, 1, 2, 3, 4, 5]
  level : Level := .off
  mode : Mode := .stream
  format : Format := .text
  /-- The path that a stream of events is written to. -/
  output : String := ""
  deriving DecidableEq, Repr

namespace Settings

inductive RegisterFault
  | number (fault : RegFault)
  | duplicate (r : Reg)
  deriving DecidableEq, Repr

/-- Why a settings file is refused. -/
inductive Fault
  /-- The file is not well formed, or a known key has a value of the wrong type. -/
  | malformed
  | unknownKey (key : Key)
  | registers (fault : RegisterFault)
  | keyword (fault : KeywordFault)
  | unreadable (path : String) (fault : FileFault)
  /-- The fault of the file at a path. -/
  | inFile (path : String) (fault : Fault)
  deriving DecidableEq, Repr

def RegisterFault.message : RegisterFault → String
  | number f => f.message
  | duplicate r => "duplicate register " ++ r.name

/-- The wording of a fault; a file that is not well formed has none. -/
def Fault.message : Fault → String
  | malformed => ""
  | unknownKey k => "config: unknown key " ++ Text.quote k.text
  | registers f => "config: " ++ f.message
  | keyword f => "config: " ++ f.message
  | unreadable path f => "config: failed to read " ++ path ++ ": " ++ f.message
  | inFile path f => path ++ ": " ++ f.message

/-- Checks registers one after the other; `seen` has those that passed. -/
def checkRegisters (seen : List Reg) : List Int64 → Except RegisterFault (List Reg)
  | [] => .ok seen
  | n :: ns =>
    match Reg.ofNumber n with
    | .error f => .error (.number f)
    | .ok r => if seen.contains r then .error (.duplicate r) else checkRegisters (seen ++ [r]) ns

/-- The registers with the given numbers, ascending. All numbers are in range and none comes twice. -/
def registersOf (ns : List Int64) : Except RegisterFault (List Reg) :=
  (checkRegisters [] ns).map fun rs => rs.mergeSort (· ≤ ·)

/-! ## Reading a file -/

/-- The small form of a letter, for the comparison of names. -/
def foldChar (c : Char) : Char :=
  if c.toNat = 0x17F then 's' else if c.toNat = 0x212A then 'k' else c.toLower

def sameName (known name : String) : Bool := name.map foldChar == known

/-- The keys that are known below the table `machine` and below the table `trace`. -/
def knownKeys : List (String × List String) :=
  [("machine", ["registers"]), ("trace", ["level", "mode", "format", "output"])]

def keysOf? (name : String) : Option (List String) :=
  (knownKeys.find? fun k => sameName k.1 name).map (·.2)

/-- A key is known: it names a table or an entry of one. -/
def isKnown : Key → Bool
  | [t] => (keysOf? t).isSome
  | [t, e] => (keysOf? t).any fun keys => keys.any (sameName · e)
  | _ => false

/-- A key is used: it is known and still there at the end of the file. -/
def isUsed (d : Document) (k : Key) : Bool := isKnown k && (d.find? k).isSome

def integers? : Value → Option (List Int64)
  | .array vs => vs.mapM fun
    | .integer n => some n
    | _ => none
  | _ => none

/-- An entry of a known table has a value of its type: registers are an array of integers, and every
other known entry is a text. -/
def entryTyped (keys : List String) (r : Row) : Bool :=
  !keys.any (sameName · r.part) ||
    match r.entry with
    | .value (.string _) => !sameName "registers" r.part
    | .value v => sameName "registers" r.part && (integers? v).isSome
    | .table _ | .tables .. => false

/-- Every known key has a value of its type; the known tables are tables. -/
def wellTyped (d : Document) : Bool :=
  (d.lines 0).all fun r =>
    match keysOf? r.part, r.entry with
    | none, _ => true
    | some keys, .table n => (d.lines n).all (entryTyped keys)
    | some _, _ => false

def text? (d : Document) (k : Key) : Option String :=
  match d.find? k with
  | some (.value (.string s)) => some s
  | _ => none

/-- The path of the output: the one in small letters, or else one under another spelling. -/
def outputOf (d : Document) : String :=
  match text? d ["trace", "output"] with
  | some s => s
  | none =>
    let tables := (d.lines 0).filter fun r => sameName "trace" r.part
    let rows := tables.flatMap fun r => (r.entry.inside?.map d.lines).getD []
    (rows.findSome? fun r =>
      match r.entry with
      | .value (.string s) => if sameName "output" r.part then some s else none
      | _ => none).getD ""

/-- A value that a keyword chooses, and a default without the keyword. -/
def keywordOr {α : Type} (parse : String → Except KeywordFault α) (default : α) :
    Option String → Except Fault α
  | none => .ok default
  | some w =>
    match parse w with
    | .ok a => .ok a
    | .error f => .error (.keyword f)

/-- The settings that a file asks for. Keys that are not used are looked for first, then registers, level, mode
and format are checked in this order. -/
def ofDocument (d : Document) : Except Fault Settings := do
  if !wellTyped d then throw .malformed
  match d.order.find? fun k => !isUsed d k with
  | some k => throw (.unknownKey k)
  | none => pure ()
  let base : Settings := {}
  let registers ←
    match d.find? ["machine", "registers"] with
    | some (.value v) =>
      match registersOf ((integers? v).getD []) with
      | .ok rs => .ok rs
      | .error f => .error (.registers f)
    | _ => .ok base.registers
  let level ← keywordOr Level.parse base.level (text? d ["trace", "level"])
  let mode ← keywordOr Mode.parse base.mode (text? d ["trace", "mode"])
  let format ← keywordOr Format.parse base.format (text? d ["trace", "format"])
  return { registers, level, mode, format, output := outputOf d }

def parseChars (cs : Option (List Char)) : Except Fault Settings :=
  match cs.bind Toml.parse with
  | none => .error .malformed
  | some d => ofDocument d

def parseText (s : String) : Except Fault Settings :=
  parseChars (some (match s.toList with
    | c :: cs => if c.toNat = 0xFEFF then cs else c :: cs
    | [] => []))

def parseBytes (bs : List UInt8) : Except Fault Settings := parseChars (Toml.charsOfBytes bs)

/-- Reads the settings file at a path in a folder. -/
def load (d : Folder) (path : String) : Except Fault Settings :=
  match d.read path with
  | .error f => .error (.unreadable path f)
  | .ok bs =>
    match parseBytes bs with
    | .ok c => .ok c
    | .error .malformed => .error .malformed
    | .error f => .error (.inFile path f)

def tracerSettings (s : Settings) : TracerSettings :=
  { level := s.level, mode := s.mode, format := s.format, output := .path s.output }

end Settings

end StraightLine
