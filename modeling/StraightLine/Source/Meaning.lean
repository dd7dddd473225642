import StraightLine.Source.Syntax
import StraightLine.Text.Decimal

/-! The meaning of a program, read off its tree: a store holds one 64-bit word per name, arithmetic wraps
around, and division goes toward zero. Names are told apart by a key, and a name that was never
assigned is zero. -/

namespace StraightLine.Source

inductive EvalFault
  | badLiteral (h : Handle)
  | divisionByZero
  deriving DecidableEq, Repr

/-- The value of an operator on two words; `none` for a division by zero. -/
def Arith.apply? (op : Arith) (a b : Int64) : Option Int64 :=
  match op with
  | add => some (a + b)
  | sub => some (a - b)
  | mul => some (a * b)
  | div => if b = 0 then none else some (a / b)

/-- The words of the names, by key. -/
abbrev Store := String → Int64

namespace Store

def empty : Store := fun _ => 0

def set (st : Store) (key : String) (x : Int64) : Store := fun k => if k = key then x else st k

theorem set_self (st : Store) (key : String) (x : Int64) : st.set key x key = x := by
  simp [set]

theorem set_of_ne (st : Store) {key k : String} (x : Int64) (h : k ≠ key) : st.set key x k = st k := by
  simp [set, h]

end Store

/-- The value of an expression, the left operand being looked at first. -/
def Expr.eval (key : Handle → String) (resolve : Resolver) (st : Store) :
    Expr → Except EvalFault Int64
  | number h =>
    match Text.Decimal.read (resolve h) with
    | .ok n => .ok n
    | .error _ => .error (.badLiteral h)
  | name h => .ok (st (key h))
  | binary op _ left right => do
    let a ← left.eval key resolve st
    let b ← right.eval key resolve st
    match op.apply? a b with
    | some c => .ok c
    | none => .error .divisionByZero

/-- The store after a statement. A leaf that stands alone is not looked at. -/
def Statement.exec (key : Handle → String) (resolve : Resolver) (st : Store) :
    Statement → Except EvalFault Store
  | scopeOpen _ => .ok st
  | scopeEnd _ => .ok st
  | assign _ target value => do
    let x ← value.eval key resolve st
    return st.set (key target) x
  | bare e =>
    if e.isLeaf then .ok st
    else do
      let _ ← e.eval key resolve st
      return st

def exec (key : Handle → String) (resolve : Resolver) (st : Store) (p : List Statement) :
    Except EvalFault Store :=
  p.foldlM (Statement.exec key resolve) st

end StraightLine.Source
