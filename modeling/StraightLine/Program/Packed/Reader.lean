import StraightLine.Program.Packed.Writer

/-! Reading the packed form. Any well-formed spelling is accepted: numbers of every width, which are
reduced to the width of their field, records as maps, as arrays of all their fields, or as nothing, and
entries with unknown names, which are skipped. A field that comes again is read over its earlier value.
What stands behind the program is not looked at. -/

namespace StraightLine.Program.Packed

inductive ReadFault
  /-- The bytes are not a packed program, or end too early. -/
  | malformed
  | schemaMismatch (found : UInt16)
  deriving DecidableEq, Repr

def schemaMessage (found : UInt16) : String :=
  "asm: schema mismatch: got " ++ toString found.toNat ++ ", want "
    ++ toString currentSchema.toNat

/-- Reads a number; nothing counts as zero. -/
def readInt (bs : Bytes) : Option (Int × Bytes) :=
  match takeToken bs with
  | some (.int n, rest) => some (n, rest)
  | some (.null, rest) => some (0, rest)
  | _ => none

def readUInt8 (bs : Bytes) : Option (UInt8 × Bytes) :=
  (readInt bs).map fun r => (UInt8.ofInt r.1, r.2)

def readUInt16 (bs : Bytes) : Option (UInt16 × Bytes) :=
  (readInt bs).map fun r => (UInt16.ofInt r.1, r.2)

def readUInt32 (bs : Bytes) : Option (UInt32 × Bytes) :=
  (readInt bs).map fun r => (UInt32.ofInt r.1, r.2)

def readInt64 (bs : Bytes) : Option (Int64 × Bytes) :=
  (readInt bs).map fun r => (Int64.ofInt r.1, r.2)

/-- Reads the name of a field; nothing counts as the empty name. -/
def readName (bs : Bytes) : Option (Bytes × Bytes) :=
  match takeToken bs with
  | some (.text name, rest) => some (name, rest)
  | some (.null, rest) => some ([], rest)
  | _ => none

/-- Reads the value of a named field into a record. -/
abbrev FieldReader (α : Type) := Bytes → α → Bytes → Option (α × Bytes)

/-- Reads entries of a map into a record. -/
def readEntries {α : Type} (field : FieldReader α) : Nat → α → Bytes → Option (α × Bytes)
  | 0, x, bs => some (x, bs)
  | n + 1, x, bs =>
    match readName bs with
    | none => none
    | some (name, rest) =>
      match field name x rest with
      | none => none
      | some (y, rest) => readEntries field n y rest

/-- Reads the values of the named fields, one after the other, into a record. -/
def readInOrder {α : Type} (field : FieldReader α) : List Bytes → α → Bytes → Option (α × Bytes)
  | [], x, bs => some (x, bs)
  | name :: names, x, bs =>
    match field name x bs with
    | none => none
    | some (y, rest) => readInOrder field names y rest

/-- Reads a record over its earlier value `x`: from a map, from an array of all its fields, or from
nothing. An empty array and nothing give the `zero` record. -/
def readRecord {α : Type} (names : List Bytes) (field : FieldReader α) (zero x : α) (bs : Bytes) :
    Option (α × Bytes) :=
  match takeToken bs with
  | some (.null, rest) => some (zero, rest)
  | some (.map n, rest) => readEntries field n x rest
  | some (.array n, rest) =>
    if n = 0 then some (zero, rest)
    else if n = names.length then readInOrder field names x rest
    else none
  | _ => none

/-- Skips the value of a field that the record does not have. -/
def skipField {α : Type} (x : α) (bs : Bytes) : Option (α × Bytes) :=
  (skipValue bs).map fun rest => (x, rest)

def targetField : FieldReader Target := fun name t bs =>
  if name = nameBytes "k" then (readUInt8 bs).map fun r => ({ t with kind := r.1 }, r.2)
  else if name = nameBytes "r" then (readUInt32 bs).map fun r => ({ t with reg := r.1 }, r.2)
  else if name = nameBytes "s" then (readUInt32 bs).map fun r => ({ t with slot := r.1 }, r.2)
  else skipField t bs

def readTarget : Target → Bytes → Option (Target × Bytes) :=
  readRecord [nameBytes "k", nameBytes "r", nameBytes "s"] targetField {}

def sourceField : FieldReader Source := fun name s bs =>
  if name = nameBytes "k" then (readUInt8 bs).map fun r => ({ s with kind := r.1 }, r.2)
  else if name = nameBytes "i" then (readInt64 bs).map fun r => ({ s with imm := r.1 }, r.2)
  else if name = nameBytes "r" then (readUInt32 bs).map fun r => ({ s with reg := r.1 }, r.2)
  else if name = nameBytes "s" then (readUInt32 bs).map fun r => ({ s with slot := r.1 }, r.2)
  else skipField s bs

def readSource : Source → Bytes → Option (Source × Bytes) :=
  readRecord [nameBytes "k", nameBytes "i", nameBytes "r", nameBytes "s"] sourceField {}

def instrField : FieldReader Instr := fun name i bs =>
  if name = nameBytes "o" then (readUInt8 bs).map fun r => ({ i with op := r.1 }, r.2)
  else if name = nameBytes "d" then
    (readTarget i.dst bs).map fun r => ({ i with dst := r.1 }, r.2)
  else if name = nameBytes "s" then
    (readSource i.src bs).map fun r => ({ i with src := r.1 }, r.2)
  else skipField i bs

def readInstr : Instr → Bytes → Option (Instr × Bytes) :=
  readRecord [nameBytes "o", nameBytes "d", nameBytes "s"] instrField {}

/-- A program in reading: the instructions, and those of an earlier, longer array behind them, over
which a later array is read. -/
structure Draft where
  schema : UInt16 := 0
  instrs : List Instr := []
  earlier : List Instr := []

/-- Reads the instructions of an array over the earlier ones. -/
def readArray : Nat → List Instr → Bytes → Option (List Instr × Bytes)
  | 0, _, bs => some ([], bs)
  | n + 1, earlier, bs =>
    match readInstr (earlier.headD {}) bs with
    | none => none
    | some (i, rest) =>
      match readArray n earlier.tail rest with
      | none => none
      | some (is, rest) => some (i :: is, rest)

def readInstrs (d : Draft) (bs : Bytes) : Option (Draft × Bytes) :=
  match takeToken bs with
  | some (.null, rest) => some ({ d with instrs := [], earlier := [] }, rest)
  | some (.array n, rest) =>
    let all := d.instrs ++ d.earlier
    (readArray n all rest).map fun r => ({ d with instrs := r.1, earlier := all.drop n }, r.2)
  | _ => none

def draftField : FieldReader Draft := fun name d bs =>
  if name = nameBytes "schema" then (readUInt16 bs).map fun r => ({ d with schema := r.1 }, r.2)
  else if name = nameBytes "instrs" then readInstrs d bs
  else skipField d bs

def unpack (bs : Bytes) : Except ReadFault Program :=
  match readRecord [nameBytes "schema", nameBytes "instrs"] draftField {} {} bs with
  | none => .error .malformed
  | some (d, _) =>
    if d.schema = currentSchema then .ok { schema := d.schema, instrs := d.instrs }
    else .error (.schemaMismatch d.schema)

end StraightLine.Program.Packed
