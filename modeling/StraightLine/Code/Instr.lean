import StraightLine.Code.Var

/-! Three-address code: an instruction defines a variable from one operand, or from two operands and
an operator. -/

namespace StraightLine.Code

open StraightLine.Source

/-- What an instruction reads. -/
inductive Operand
  | var (v : Var)
  /-- A number, known by the handle of its text. -/
  | literal (h : Handle)
  /-- An operand whose tag has no meaning: it carries both a variable and a handle. It is named and
  located like a variable, evaluated like a literal, and keeps no variable alive. -/
  | untagged (v : Var) (h : Handle)
  deriving DecidableEq, Repr

namespace Operand

/-- The variable that the operand keeps alive. -/
def var? : Operand → Option Var
  | var v => some v
  | _ => none

/-- The operand in a listing: a literal shows its text. -/
def text (resolve : Resolver) : Operand → String
  | var v => v.name resolve
  | literal h => resolve h
  | untagged v _ => v.name resolve

end Operand

/-- A binary operator. A code without a meaning is kept as it came. -/
inductive Operator
  | add
  | sub
  | mul
  | div
  | other (code : UInt8)
  deriving DecidableEq, Repr

namespace Operator

def ofCode (code : UInt8) : Operator :=
  match code with
  | 1 => add
  | 2 => sub
  | 3 => mul
  | 4 => div
  | n => other n

def code : Operator → UInt8
  | add => 1
  | sub => 2
  | mul => 3
  | div => 4
  | other n => n

theorem code_ofCode (n : UInt8) : (ofCode n).code = n := by
  unfold ofCode
  split <;> rfl

def name : Operator → String
  | add => "plus"
  | sub => "minus"
  | mul => "times"
  | div => "div"
  | other _ => "?"

def ofKind? : Kind → Option Operator
  | .add => some add
  | .sub => some sub
  | .mul => some mul
  | .div => some div
  | _ => none

end Operator

/-- One instruction: `dst = left`, or `dst = left op right`. -/
structure Instr where
  dst : Var
  left : Operand
  right : Option (Operator × Operand) := none
  deriving DecidableEq, Repr

namespace Instr

/-- The variables that the instruction touches: its destination and the variables among its
operands, from left to right. -/
def vars (i : Instr) : List Var :=
  i.dst :: (i.left.var?.toList ++ (i.right.bind fun r => r.2.var?).toList)

def text (resolve : Resolver) (i : Instr) : String :=
  i.dst.name resolve ++ " = " ++ i.left.text resolve ++
    match i.right with
    | none => ""
    | some (op, v) => " " ++ op.name ++ " " ++ v.text resolve

end Instr

def listing (resolve : Resolver) (is : List Instr) : List String := is.map (Instr.text resolve)

end StraightLine.Code
