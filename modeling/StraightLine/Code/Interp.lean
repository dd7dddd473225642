import StraightLine.Code.Instr
import StraightLine.Text.Quoted

/-! The meaning of three-address code: instructions are stepped over an environment of 64-bit words
that wrap around. A variable that was never written reads as zero. -/

namespace StraightLine.Code

open StraightLine.Source

/-- Why a step has no value. -/
inductive StepFault
  | badLiteral (text : String) (cause : Text.Decimal.Fault)
  | divisionByZero (instr : Instr)
  deriving DecidableEq, Repr

/-- The wording of a literal that is not a number. -/
def literalMessage (text : String) (cause : Text.Decimal.Fault) : String :=
  "strconv.ParseInt: parsing " ++ Text.quote text ++ ": " ++ cause.message

def StepFault.message (resolve : Resolver) : StepFault → String
  | badLiteral text cause => "literal " ++ Text.quote text ++ ": " ++ literalMessage text cause
  | divisionByZero i => i.text resolve ++ ": division by zero"

/-- The value of an operator on two words; `none` for a division by zero. An operator without a
meaning gives its left operand. -/
def Operator.apply? (op : Operator) (a b : Int64) : Option Int64 :=
  match op with
  | add => some (a + b)
  | sub => some (a - b)
  | mul => some (a * b)
  | div => if b = 0 then none else some (a / b)
  | other _ => some a

abbrev Env := Var → Int64

namespace Env

def empty : Env := fun _ => 0

def set (env : Env) (v : Var) (x : Int64) : Env := fun w => if w = v then x else env w

theorem set_self (env : Env) (v : Var) (x : Int64) : env.set v x v = x := by
  simp [set]

theorem set_of_ne (env : Env) {v w : Var} (x : Int64) (h : w ≠ v) : env.set v x w = env w := by
  simp [set, h]

end Env

def Operand.value (resolve : Resolver) (env : Env) : Operand → Except StepFault Int64
  | var v => .ok (env v)
  | literal h | untagged _ h =>
    match Text.Decimal.read (resolve h) with
    | .ok n => .ok n
    | .error cause => .error (.badLiteral (resolve h) cause)

/-- The value of an instruction, the left operand being looked at first. -/
def Instr.value (resolve : Resolver) (env : Env) (i : Instr) : Except StepFault Int64 := do
  let a ← i.left.value resolve env
  match i.right with
  | none => .ok a
  | some (op, right) => do
    let b ← right.value resolve env
    match op.apply? a b with
    | some c => .ok c
    | none => .error (.divisionByZero i)

/-- One step: the value of the instruction and the environment that has it at the destination. A step
that fails changes nothing. -/
def Instr.step (resolve : Resolver) (env : Env) (i : Instr) : Except StepFault (Int64 × Env) := do
  let x ← i.value resolve env
  return (x, env.set i.dst x)

def stepAll (resolve : Resolver) (env : Env) : List Instr → Except StepFault Env
  | [] => .ok env
  | i :: is => do
    let (_, env) ← i.step resolve env
    stepAll resolve env is

end StraightLine.Code
