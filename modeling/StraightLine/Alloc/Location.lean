import StraightLine.Code.Var

/-! Where a variable lives: in a register or in a numbered slot of memory. -/

namespace StraightLine.Alloc

open StraightLine.Code StraightLine.Source

abbrev Reg := UInt32

def Reg.name (r : Reg) : String := "r" ++ toString r.toNat

inductive RegFault
  | outOfRange (n : Int64)
  deriving DecidableEq, Repr

def RegFault.message : RegFault → String
  | outOfRange n => "asm: register " ++ Text.Decimal.write n ++ ": out of range"

def Reg.ofNumber (n : Int64) : Except RegFault Reg :=
  if 0 ≤ n.toInt ∧ n.toInt < UInt32.size then .ok (UInt32.ofNat n.toInt.toNat)
  else .error (.outOfRange n)

inductive Location
  | register (r : Reg)
  | spilled (slot : Int64)
  /-- A location whose tag has no meaning. It is shown and addressed as a register, and looked up in
  memory. -/
  | untagged (r : Reg) (slot : Int64)
  deriving DecidableEq, Repr

namespace Location

def text : Location → String
  | register r => r.name
  | spilled slot => "spilled(" ++ Text.Decimal.write slot ++ ")"
  | untagged r _ => r.name

def isSpilled : Location → Bool
  | spilled _ => true
  | _ => false

end Location

/-- The locations of the variables of a piece of code. A variable has a register, or it has the slot
whose number is its position among the spilled ones. -/
structure Allocation where
  regs : List (Var × Reg)
  slots : List Var
  deriving DecidableEq, Repr

namespace Allocation

def empty : Allocation := ⟨[], []⟩

def reg? (a : Allocation) (v : Var) : Option Reg := (a.regs.find? fun e => e.1 = v).map (·.2)

def slot? (a : Allocation) (v : Var) : Option Nat := a.slots.findIdx? (· = v)

def find? (a : Allocation) (v : Var) : Option Location :=
  match a.reg? v with
  | some r => some (.register r)
  | none => (a.slot? v).map fun n => .spilled (Int64.ofNat n)

def size (a : Allocation) : Nat := a.regs.length + a.slots.length

def spillSlots (a : Allocation) : Nat := a.slots.length

/-- All variables with their locations, in the order of the variables. -/
def assignments (a : Allocation) : List (Var × Location) :=
  (Var.sort (a.regs.map (·.1) ++ a.slots)).filterMap fun v => (a.find? v).map (v, ·)

/-- Spilled locations are yellow. -/
def paint (color : Bool) (l : Location) : String :=
  if color && l.isSpilled then "\x1b[33m" ++ l.text ++ "\x1b[0m" else l.text

def listing (resolve : Resolver) (color : Bool) (a : Allocation) : List String :=
  a.assignments.map fun e => e.1.name resolve ++ ": " ++ paint color e.2

end Allocation

end StraightLine.Alloc
