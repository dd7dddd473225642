import StraightLine.Program.Instr
import StraightLine.Program.Packed.Token

/-! The packed form of a program. Records are maps from short names; numbers have a fixed width, and a
register, slot or immediate that is zero is left out. The heads of maps, arrays and names are as short
as can be. A program without instructions has no array for them. -/

namespace StraightLine.Program.Packed

/-- The bytes of an ASCII name. -/
def nameBytes (s : String) : Bytes := s.toList.map fun c => UInt8.ofNat c.toNat

def packUInt8 (n : UInt8) : Bytes := [0xCC, n]
def packUInt16 (n : UInt16) : Bytes := 0xCD :: bigEndian 2 n.toNat
def packUInt32 (n : UInt32) : Bytes := 0xCE :: bigEndian 4 n.toNat
def packInt64 (n : Int64) : Bytes := 0xD3 :: bigEndian 8 n.toUInt64.toNat

/-- The head of a map with fewer than sixteen entries. -/
def mapHead (n : Nat) : UInt8 := UInt8.ofNat (0x80 + n)

/-- The head of an array. -/
def arrayHead (n : Nat) : Bytes :=
  if n < 16 then [UInt8.ofNat (0x90 + n)]
  else if n < UInt16.size then 0xDC :: bigEndian 2 n
  else 0xDD :: bigEndian 4 n

/-- A name with fewer than 32 bytes. -/
def packName (s : String) : Bytes :=
  let bs := nameBytes s
  UInt8.ofNat (0xA0 + bs.length) :: bs

/-- A record: its fields with their names, those that are left out apart. -/
def packRecord (fields : List (String × Option Bytes)) : Bytes :=
  let present := fields.filterMap fun f => f.2.map fun bs => packName f.1 ++ bs
  mapHead present.length :: present.flatten

/-- A word that is left out when it is zero. -/
def packWord (n : UInt32) : Option Bytes := if n = 0 then none else some (packUInt32 n)

def packTarget (t : Target) : Bytes :=
  packRecord [("k", some (packUInt8 t.kind)), ("r", packWord t.reg), ("s", packWord t.slot)]

def packSource (s : Source) : Bytes :=
  packRecord [("k", some (packUInt8 s.kind)),
    ("i", if s.imm = 0 then none else some (packInt64 s.imm)),
    ("r", packWord s.reg), ("s", packWord s.slot)]

def packInstr (i : Instr) : Bytes :=
  packRecord [("o", some (packUInt8 i.op)), ("d", some (packTarget i.dst)),
    ("s", some (packSource i.src))]

def packInstrs (is : List Instr) : Bytes :=
  if is.isEmpty then [0xC0] else arrayHead is.length ++ is.flatMap packInstr

def pack (p : Program) : Bytes :=
  packRecord [("schema", some (packUInt16 p.schema)), ("instrs", some (packInstrs p.instrs))]

inductive PackFault
  | noProgram
  deriving DecidableEq, Repr

def PackFault.message : PackFault → String
  | noProgram => "asm: encode: nil program"

/-- The packed form of a program that may be missing. -/
def packOption : Option Program → Except PackFault Bytes
  | some p => .ok (pack p)
  | none => .error .noProgram

end StraightLine.Program.Packed
