import StraightLine.Alloc.Location
import StraightLine.Range.Basic

/-! Linear-scan register allocation. The ranges are taken by start. A range that ended before the start
of the next one gives its register back; a register that is read at a position is still taken there.
When no register is left, the active range that ends last gives up its register if it outlives the new
one, and moves to a slot; otherwise the new one does. -/

namespace StraightLine.Alloc

open StraightLine.Code StraightLine.Range

structure Active where
  var : Var
  reg : Reg
  stop : Int64
  deriving DecidableEq, Repr

structure Scan where
  /-- The free registers; the first one is handed out next. -/
  free : List Reg
  /-- The variables that hold a register, by end; of equal ends the newest is first. -/
  active : List Active
  alloc : Allocation
  deriving Repr

namespace Scan

/-- The state before the first range. The last register is handed out first. -/
def start (registers : List Reg) : Scan := ⟨registers.reverse, [], .empty⟩

/-- Puts a variable in front of the first one that does not end before it. -/
def insertActive (a : Active) : List Active → List Active
  | [] => [a]
  | b :: rest => if b.stop < a.stop then b :: insertActive a rest else a :: b :: rest

/-- Takes the registers of the ranges back that ended before `pos`. The one that ended last is handed
out next. -/
def expire (pos : Int64) (s : Scan) : Scan :=
  { s with
    free := ((s.active.takeWhile (·.stop < pos)).map (·.reg)).reverse ++ s.free
    active := s.active.dropWhile (·.stop < pos) }

def assign (e : Interval) (r : Reg) (s : Scan) : Scan :=
  { s with
    active := insertActive ⟨e.var, r, e.range.stop⟩ s.active
    alloc := { s.alloc with regs := s.alloc.regs ++ [(e.var, r)] } }

def spill (v : Var) (s : Scan) : Scan :=
  { s with
    alloc := {
      regs := s.alloc.regs.filter fun e => e.1 ≠ v
      slots := s.alloc.slots ++ [v] } }

/-- Finds a place for a range when no register is free. -/
def spillAt (e : Interval) (s : Scan) : Scan :=
  match s.active.getLast? with
  | some last =>
    if e.range.stop < last.stop then
      assign e last.reg (spill last.var { s with active := s.active.dropLast })
    else spill e.var s
  | none => spill e.var s

def place (e : Interval) (s : Scan) : Scan :=
  match s.free with
  | r :: free => assign e r { s with free := free }
  | [] => spillAt e s

def step (s : Scan) (e : Interval) : Scan := place e (expire e.range.start s)

def run (s : Scan) (es : List Interval) : Scan := es.foldl step s

end Scan

def allocate (r : Ranges) (registers : List Reg) : Allocation :=
  ((Scan.start registers).run r.intervals).alloc

end StraightLine.Alloc
