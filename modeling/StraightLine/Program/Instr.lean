import StraightLine.Alloc.Location

/-! Two-address machine code. An instruction combines its target with its source and leaves the result
in the target. Operators and kinds are codes, so that a program from elsewhere can be held, shown and
packed whatever its codes are. -/

namespace StraightLine.Program

open StraightLine.Alloc

def opName (op : UInt8) : String :=
  match op with
  | 1 => "move"
  | 2 => "add"
  | 3 => "subtract"
  | 4 => "multiply"
  | 5 => "divide"
  | n => "op(" ++ toString n.toNat ++ ")"

def slotText (slot : UInt32) : String := "[" ++ toString slot.toNat ++ "]"

/-- What an instruction reads: kind 1 is a number, kind 3 a slot, any other kind a register. -/
structure Source where
  kind : UInt8 := 0
  imm : Int64 := 0
  reg : Reg := 0
  slot : UInt32 := 0
  deriving DecidableEq, Repr, Inhabited

namespace Source

def immediate (n : Int64) : Source := { kind := 1, imm := n }
def register (r : Reg) : Source := { kind := 2, reg := r }
def memory (slot : UInt32) : Source := { kind := 3, slot := slot }

def text (s : Source) : String :=
  if s.kind = 1 then "#" ++ Text.Decimal.write s.imm
  else if s.kind = 3 then slotText s.slot
  else s.reg.name

end Source

/-- What an instruction changes: kind 2 is a slot, any other kind a register. -/
structure Target where
  kind : UInt8 := 0
  reg : Reg := 0
  slot : UInt32 := 0
  deriving DecidableEq, Repr, Inhabited

namespace Target

def register (r : Reg) : Target := { kind := 1, reg := r }
def memory (slot : UInt32) : Target := { kind := 2, slot := slot }

def text (t : Target) : String := if t.kind = 2 then slotText t.slot else t.reg.name

/-- The source that reads what the target holds. -/
def asSource (t : Target) : Source := if t.kind = 2 then .memory t.slot else .register t.reg

/-- Target and source are the same register or the same slot. -/
def same (t : Target) (s : Source) : Bool :=
  if t.kind = 1 && s.kind = 2 then t.reg = s.reg
  else if t.kind = 2 && s.kind = 3 then t.slot = s.slot
  else false

end Target

structure Instr where
  op : UInt8 := 0
  dst : Target := {}
  src : Source := {}
  deriving DecidableEq, Repr, Inhabited

def Instr.text (i : Instr) : String := opName i.op ++ " " ++ i.dst.text ++ ", " ++ i.src.text

/-- The version of the packed form that this library reads. -/
def currentSchema : UInt16 := 1

end StraightLine.Program

namespace StraightLine

structure Program where
  schema : UInt16 := Program.currentSchema
  instrs : List Program.Instr
  deriving DecidableEq, Repr

def Program.listing (p : Program) : List String := p.instrs.map Program.Instr.text

end StraightLine
