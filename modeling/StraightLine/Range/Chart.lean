import StraightLine.Range.Basic
import StraightLine.Text.Column

/-! A chart of live ranges: one bar per variable over an axis of instruction positions.

    a1: +---+
    b1:   +-+
        0 1 2
-/

namespace StraightLine.Range

open StraightLine.Code StraightLine.Source

inductive ChartFault
  /-- A bar would start left of the axis. -/
  | negativeStart
  /-- A line would be longer than any text can be. -/
  | tooLong
  deriving DecidableEq, Repr

def ChartFault.message : ChartFault → String
  | negativeStart => "strings: negative Repeat count"
  | tooLong => "strings: Repeat output length overflow"

namespace Chart

def repeated (s : String) (n : Nat) : String := String.join (List.replicate n s)

/-- Bars are cyan and bold. -/
def paint (color : Bool) (s : String) : String :=
  if color then "\x1b[36;1m" ++ s ++ "\x1b[0;22m" else s

def label (resolve : Resolver) (e : Interval) : String := e.var.name resolve ++ ": "

/-- A bar: two columns for each position, one position at least. -/
def bar (s : LiveRange) : String := "+-" ++ repeated "--" (s.length - 1).toInt.toNat ++ "+"

def labelWidth (resolve : Resolver) (es : List Interval) : Nat :=
  es.foldl (fun w e => max w (Text.Column.width (label resolve e))) 0

def lastPosition (es : List Interval) : Nat :=
  es.foldl (fun p e => max p e.range.stop.toInt.toNat) 0

/-- A position whose two columns per step still can be counted. -/
def inReach (n : Int64) : Bool := n.toInt * 2 ≤ Int64.maxValue.toInt

/-- One line of the chart. -/
def row (resolve : Resolver) (color : Bool) (width : Nat) (e : Interval) :
    Except ChartFault String :=
  if e.range.start < 0 then .error .negativeStart
  else if !(inReach e.range.start && inReach (e.range.length - 1)) then .error .tooLong
  else .ok (Text.Column.padRight (label resolve e) width
    ++ repeated "  " e.range.start.toInt.toNat ++ paint color (bar e.range) ++ "\n")

def axis (width last : Nat) : String :=
  repeated " " width ++ " ".intercalate ((List.range (last + 1)).map toString) ++ "\n"

end Chart

/-- The chart of some ranges; without ranges there is nothing to show. -/
def Ranges.chart (resolve : Resolver) (color : Bool) (r : Ranges) : Except ChartFault String := do
  let es := r.intervals
  if es.isEmpty then return ""
  let width := Chart.labelWidth resolve es
  let rows ← es.mapM (Chart.row resolve color width)
  return String.join rows ++ Chart.axis width (Chart.lastPosition es)

end StraightLine.Range
