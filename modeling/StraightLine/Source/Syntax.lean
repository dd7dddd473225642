import StraightLine.Source.Node

/-! Programs as trees. A tree spells its node stream: an operator comes before its operands, and an
assignment before its target and its value. Nodes without a text have a handle all the same, and the
tree keeps it, so that a stream is spelled by at most one sequence of statements. -/

namespace StraightLine.Source

inductive Arith
  | add
  | sub
  | mul
  | div
  deriving DecidableEq, Repr

def Arith.kind : Arith → Kind
  | add => .add
  | sub => .sub
  | mul => .mul
  | div => .div

theorem Arith.isOperator_kind (op : Arith) : op.kind.isOperator = true := by
  cases op <;> rfl

inductive Expr
  | number (h : Handle)
  | name (h : Handle)
  | binary (op : Arith) (mark : Handle) (left right : Expr)
  deriving DecidableEq, Repr

namespace Expr

def isLeaf : Expr → Bool
  | number _ | name _ => true
  | binary .. => false

def nodes : Expr → List Node
  | number h => [.number h]
  | name h => [.identifier h]
  | binary op mark left right => { kind := op.kind, handle := mark } :: (left.nodes ++ right.nodes)

def operators : Expr → Nat
  | number _ | name _ => 0
  | binary _ _ left right => left.operators + right.operators + 1

/-- An expression has one leaf more than it has operators. -/
theorem length_nodes (e : Expr) : e.nodes.length = 2 * e.operators + 1 := by
  induction e with
  | number h => rfl
  | name h => rfl
  | binary op mark left right ihl ihr =>
    simp only [nodes, operators, List.length_cons, List.length_append, ihl, ihr]
    omega

end Expr

inductive Statement
  /-- A scope opens. -/
  | scopeOpen (mark : Handle)
  /-- A scope ends. -/
  | scopeEnd (mark : Handle)
  | assign (mark target : Handle) (value : Expr)
  /-- An expression whose value is dropped. -/
  | bare (e : Expr)
  deriving DecidableEq, Repr

def Statement.nodes : Statement → List Node
  | scopeOpen mark => [{ kind := .scopeOpen, handle := mark }]
  | scopeEnd mark => [{ kind := .scopeEnd, handle := mark }]
  | assign mark target value =>
    { kind := .assignment, handle := mark } :: .identifier target :: value.nodes
  | bare e => e.nodes

theorem Statement.nodes_ne_nil (s : Statement) : s.nodes ≠ [] := by
  cases s with
  | scopeOpen mark => simp [nodes]
  | scopeEnd mark => simp [nodes]
  | assign mark target value => simp [nodes]
  | bare e =>
    intro h
    have hl := e.length_nodes
    simp only [nodes] at h
    simp [h] at hl

/-- The node stream that a sequence of statements spells. -/
def spell (p : List Statement) : List Node := p.flatMap Statement.nodes

end StraightLine.Source
