/-! The table of names. Each name gets a number when it first appears, counted from zero; the empty
name is there from the start. The table is read both ways: the names stand in the order of their
numbers, and an index leads from a name to its number. Names are compared by their normal form, which
is a parameter: the table works for every way of choosing one spelling among several. -/

namespace StraightLine.Source

abbrev NameId := UInt32

structure NameTable where
  /-- The normal forms that have a number, in the order of their numbers. -/
  names : List String
  /-- The normal forms with their numbers. -/
  index : List (String × NameId)
  deriving DecidableEq, Repr

namespace NameTable

/-- The table that knows the empty name only. -/
def empty : NameTable := ⟨[""], [("", 0)]⟩

def size (t : NameTable) : Nat := t.names.length

def number? (t : NameTable) (form : String) : Option NameId :=
  (t.index.find? fun e => e.1 = form).map (·.2)

/-- Gives a normal form the next number. -/
def add (t : NameTable) (form : String) : NameId × NameTable :=
  let i := UInt32.ofNat t.size
  (i, ⟨t.names ++ [form], t.index ++ [(form, i)]⟩)

def find? (norm : String → String) (t : NameTable) (s : String) : Option NameId :=
  t.number? (norm s)

/-- The number of a name, which gets the next one if it has none. -/
def intern (norm : String → String) (t : NameTable) (s : String) : NameId × NameTable :=
  match t.number? (norm s) with
  | some i => (i, t)
  | none => t.add (norm s)

def lookup? (t : NameTable) (i : NameId) : Option String := t.names[i.toNat]?

def toList (t : NameTable) : List String := t.names

end NameTable

end StraightLine.Source
