import StraightLine.Toml.Grammar

/-! A settings file as numbered tables. A key is defined once, with these exceptions: a table that was
only implied by a longer key may be opened by a header of its own, and a key that holds an array may be
defined anew.

An inline table is read twice. Its entries are set one by one below its key, like those of any table,
and they are collected in a table of its own, each under the last part of its key. The key stands for
the first of the two, unless it held an array before: then it stands for the second. -/

namespace StraightLine.Toml

/-- What stands at a key. -/
inductive Entry
  | value (v : Value)
  | table (number : Nat)
  /-- An array of tables, the last one first; the keys below are those of the last one. -/
  | tables (last : Nat) (others : List Nat)
  deriving Repr

/-- The table that the keys below belong to. -/
def Entry.inside? : Entry → Option Nat
  | value _ => none
  | table n => some n
  | tables n _ => some n

structure Row where
  table : Nat
  part : String
  entry : Entry
  deriving Repr

structure Document where
  /-- The lines of all tables; table zero is the whole file. -/
  rows : List Row := []
  /-- The number of tables so far. -/
  count : Nat := 1
  /-- The tables that are implied by longer keys and may still be opened. -/
  implied : List Key := []
  /-- The keys that hold an array. -/
  arrays : List Key := []
  /-- The keys in the order of the file. -/
  order : List Key := []
  deriving Repr

namespace Document

def get? (d : Document) (table : Nat) (part : String) : Option Entry :=
  (d.rows.find? fun r => r.table = table && r.part = part).map (·.entry)

def set (d : Document) (table : Nat) (part : String) (e : Entry) : Document :=
  { d with rows := ⟨table, part, e⟩ :: d.rows.filter fun r => !(r.table = table && r.part = part) }

def lines (d : Document) (table : Nat) : List Row := d.rows.filter fun r => r.table = table

def newTable (d : Document) : Nat × Document := (d.count, { d with count := d.count + 1 })

def inside? (d : Document) (k : Key) : Option Nat :=
  k.foldlM (fun table part => (d.get? table part).bind Entry.inside?) 0

def find? (d : Document) (k : Key) : Option Entry :=
  (d.inside? k.dropLast).bind fun table => d.get? table (k.getLastD "")

def imply (d : Document) (k : Key) : Document := { d with implied := k :: d.implied }

def settle (d : Document) (k : Key) : Document := { d with implied := d.implied.filter (· ≠ k) }

/-- The key whose kind is recorded when `part` is set in a context. An empty part records the kind of
the context. -/
def kindKey (context : Key) (part : String) : Key :=
  if part.isEmpty then if context.isEmpty then [""] else context else context ++ [part]

/-- Records whether a key holds an array. -/
def recordKind (d : Document) (k : Key) (isArray : Bool) : Document :=
  { d with arrays := if isArray then k :: d.arrays else d.arrays.filter (· ≠ k) }

/-- Defines a key in a context. A key that holds an array is defined anew; a table that is implied stays
as it is. -/
def define (d : Document) (context : Key) (part : String) (e : Entry) : Option Document := do
  let table ← d.inside? context
  let k := context ++ [part]
  if (d.get? table part).isNone then return d.set table part e
  else if d.arrays.contains k then return (d.settle k).set table part e
  else if d.implied.contains k then return d.settle k
  else none

/-- Opens the tables around a key, from the table at `done` on; those that are missing are implied. -/
def openAround (d : Document) (table : Nat) (done : Key) : Key → Option (Nat × Document)
  | [] => some (table, d)
  | part :: rest =>
    let k := done ++ [part]
    match d.get? table part with
    | none =>
      let (n, d) := d.newTable
      ((d.imply k).set table part (.table n)).openAround n k rest
    | some e =>
      match e.inside? with
      | some n => d.openAround n k rest
      | none => none

/-- Opens the table at a key, or adds one more table to the array there. -/
def openTable (d : Document) (k : Key) (inArray : Bool) : Option Document := do
  let (table, d) ← d.openAround 0 [] k.dropLast
  let (n, d) := d.newTable
  let part := k.getLastD ""
  if inArray then
    match d.get? table part with
    | none => return d.set table part (.tables n [])
    | some (.tables last others) => return d.set table part (.tables n (last :: others))
    | some _ => none
  else d.define k.dropLast part (.table n)

/-- Opens the tables that a dotted key goes through, from a context on. -/
def openDotted (d : Document) (context : Key) : List String → Option (Document × Key)
  | [] => some (d, context)
  | part :: rest => do
    let k := context ++ [part]
    let d ← (d.imply k).openTable k false
    d.openDotted k rest

mutual

/-- Takes a value into account that is about to be set at `part`, and gives what will stand there. The
entries of an inline table are set below its key and collected in a table of its own. -/
def enter (context : Key) (part : String) (inArray : Bool) :
    Value → Document → Option (Entry × Document)
  | .array items, d => do
    let d ← enterItems context part items (d.recordKind (kindKey context part) true)
    return (.value (.array items), d)
  | .table entries, d => do
    let k := context ++ [part]
    let (own, d) := d.newTable
    let d ← (d.imply k).openTable k inArray
    let d ← enterEntries k own entries d
    return (.table own, d)
  | v, d => some (.value v, d)

def enterItems (context : Key) (part : String) : List Value → Document → Option Document
  | [], d => some d
  | v :: vs, d => do
    let (_, d) ← enter context part true v d
    enterItems context part vs d

/-- Sets the entries of an inline table and collects them in the table `own`. -/
def enterEntries (context : Key) (own : Nat) : List (Key × Value) → Document → Option Document
  | [], d => some d
  | (key, v) :: rest, d => do
    let (d, inner) ← d.openDotted context key.dropLast
    let part := key.getLastD ""
    let d := { d with order := d.order ++ [inner ++ [part]] }
    let (e, d) ← enter inner part false v d
    let d ← d.define inner part e
    let d := d.set own part e
    enterEntries context own rest (d.recordKind (kindKey inner part) v.isArray)

end

/-- Sets a value in a context. -/
def assign (d : Document) (context key : Key) (v : Value) : Option Document := do
  let (d, inner) ← d.openDotted context key.dropLast
  let part := key.getLastD ""
  let d := { d with order := d.order ++ [inner ++ [part]] }
  let (e, d) ← enter inner part false v d
  let d ← d.define inner part e
  return d.recordKind (kindKey inner part) v.isArray

def addLines (d : Document) (context : Key) : List Line → Option Document
  | [] => some d
  | .header key inArray :: rest => do
    let d ← d.openTable key inArray
    let d := d.recordKind (kindKey key "") false
    { d with order := d.order ++ [key] }.addLines key rest
  | .assignment key v :: rest => do
    let d ← d.assign context key v
    d.addLines context rest

end Document

def parse (cs : List Char) : Option Document := do
  let ls ← lines cs
  Document.addLines {} [] ls

end StraightLine.Toml
