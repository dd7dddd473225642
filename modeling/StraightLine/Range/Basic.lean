import StraightLine.Code.Instr
import StraightLine.Order.BlockSort

/-! Live ranges over straight-line code. A range is half open: it starts at the first instruction that
touches its variable and ends at the last one, or right behind the first if there is no other. -/

namespace StraightLine.Range

open StraightLine.Code

/-- Positions from `start` up to, and without, `stop`. Ranges from elsewhere may be empty or
inverted. -/
structure LiveRange where
  start : Int64
  stop : Int64
  deriving DecidableEq, Repr, Inhabited

namespace LiveRange

/-- The two ranges share a position. -/
def overlaps (r s : LiveRange) : Bool := r.start < s.stop && s.start < r.stop

/-- The distance of the ends, which wraps around. -/
def length (r : LiveRange) : Int64 := r.stop - r.start

def describe (r : LiveRange) : String :=
  "\x7b" ++ Text.Decimal.write r.start ++ " " ++ Text.Decimal.write r.stop ++ "\x7d"

end LiveRange

structure Interval where
  var : Var
  range : LiveRange
  deriving DecidableEq, Repr

/-- The ranges of a piece of code: each variable once, in the order in which ties are broken. -/
structure Ranges where
  entries : List Interval
  deriving DecidableEq, Repr

namespace Ranges

def size (r : Ranges) : Nat := r.entries.length

def find? (r : Ranges) (v : Var) : Option LiveRange :=
  (r.entries.find? fun e => e.var = v).map (·.range)

/-- Takes a touch of `v` at `pos` into account: a new variable gets a range of one position, a known one
is alive up to `pos` at least. -/
def touch (pos : Int64) (entries : List Interval) (v : Var) : List Interval :=
  if entries.any (fun e => e.var = v) then
    entries.map fun e =>
      if e.var = v && e.range.stop < pos then { e with range := { e.range with stop := pos } } else e
  else entries ++ [⟨v, ⟨pos, pos + 1⟩⟩]

def touchAll (entries : List Interval) (i : Instr) (pos : Nat) : List Interval :=
  i.vars.foldl (touch (Int64.ofNat pos)) entries

/-- The ranges of a piece of code, in the order of first touch. -/
def analyze (code : List Instr) : Ranges :=
  ⟨code.zipIdx.foldl (fun entries e => touchAll entries e.1 e.2) []⟩

/-- The entries without those whose variable comes again later. -/
def lastOf : List Interval → List Interval
  | [] => []
  | e :: es => if es.any (fun f => f.var = e.var) then lastOf es else e :: lastOf es

/-- Ranges from elsewhere, in the order of their variables. Of several ranges for one variable the
last one counts. -/
def ofList (entries : List Interval) : Ranges :=
  ⟨(lastOf entries).mergeSort fun a b => a.var.le b.var⟩

/-- `a` starts before `b`: the difference of the starts, which wraps around, is negative. -/
def startsBefore (a b : Interval) : Bool := a.range.start - b.range.start < 0

/-- The ranges by start; of equal starts the one that comes first among the entries is first. -/
def intervals (r : Ranges) : List Interval := Order.blockSort startsBefore r.entries

end Ranges

end StraightLine.Range
