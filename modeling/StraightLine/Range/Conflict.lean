import StraightLine.Range.Basic

/-! The conflict graph: two variables conflict when their ranges overlap. The ranges are swept from
left to right; those that start behind the end of a range cannot overlap it, so a sweep stops at the
first of them. -/

namespace StraightLine.Range

open StraightLine.Code

structure ConflictGraph where
  /-- The variables in their order. -/
  vars : List Var
  /-- The conflicts, each once, as found from left to right. -/
  edges : List (Var × Var)
  deriving DecidableEq, Repr

namespace ConflictGraph

/-- By start, then by variable. The difference of the starts wraps around. -/
def sweepLe (a b : Interval) : Bool :=
  if a.range.start = b.range.start then a.var.le b.var else a.range.start - b.range.start < 0

/-- The conflicts of `cur` with the ranges behind it. -/
def sweepOne (cur : Interval) (later : List Interval) : List (Var × Var) :=
  (later.takeWhile fun other => other.range.start < cur.range.stop).filterMap fun other =>
    if cur.range.overlaps other.range then some (cur.var, other.var) else none

def sweep : List Interval → List (Var × Var)
  | [] => []
  | cur :: later => sweepOne cur later ++ sweep later

/-- The graph of ranges that come in any order, each variable once. -/
def build (entries : List Interval) : ConflictGraph where
  vars := Var.sort (entries.map (·.var))
  edges := sweep (entries.mergeSort sweepLe)

def size (g : ConflictGraph) : Nat := g.vars.length

def edgeCount (g : ConflictGraph) : Nat := g.edges.length

def adjacent (g : ConflictGraph) (u v : Var) : Bool :=
  g.edges.contains (u, v) || g.edges.contains (v, u)

/-- The other end of an edge at `v`. -/
def otherEnd? (v : Var) (e : Var × Var) : Option Var :=
  if e.1 = v then some e.2 else if e.2 = v then some e.1 else none

/-- The variables in conflict with `v`, in their order. -/
def neighbors (g : ConflictGraph) (v : Var) : List Var := Var.sort (g.edges.filterMap (otherEnd? v))

def degree (g : ConflictGraph) (v : Var) : Nat := (g.neighbors v).length

end ConflictGraph

end StraightLine.Range
