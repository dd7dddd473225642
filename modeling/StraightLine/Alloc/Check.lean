import StraightLine.Alloc.Location
import StraightLine.Range.Basic

/-! A check of an allocation against live ranges: every variable has a location, no slot is shared, and
variables whose ranges overlap are in different registers. -/

namespace StraightLine.Alloc

open StraightLine.Code StraightLine.Range

/-- What is wrong with an allocation. -/
inductive Defect
  /-- There are no ranges or no allocation to look at. -/
  | missing
  | sizeMismatch (allocated live : Nat)
  | unplaced (v : Var)
  | sharedSlot (slot : Int64) (u v : Var)
  | sharedRegister (e f : Interval) (r : Reg)
  deriving DecidableEq, Repr

def Defect.message : Defect → String
  | missing => "nil liveness or allocation"
  | sizeMismatch a l =>
    "allocation has " ++ toString a ++ " entries, liveness has " ++ toString l
  | unplaced v => "variable " ++ v.describe ++ " has no location"
  | sharedSlot n u v =>
    "spill slot " ++ Text.Decimal.write n ++ " shared by " ++ u.describe ++ " and " ++ v.describe
  | sharedRegister e f r =>
    e.var.describe ++ " " ++ e.range.describe ++ " and " ++ f.var.describe ++ " "
      ++ f.range.describe ++ " overlap in " ++ r.name

/-- Looks every variable up and sees that no slot comes twice. `seen` has the slots met so far. -/
def placeAll (a : Allocation) (seen : List (Int64 × Var)) :
    List Interval → Except Defect (List (Interval × Location))
  | [] => .ok []
  | e :: es =>
    match a.find? e.var with
    | none => .error (.unplaced e.var)
    | some l => do
      let seen ←
        match l with
        | .spilled n =>
          match seen.find? fun p => p.1 = n with
          | some p => .error (.sharedSlot n p.2 e.var)
          | none => .ok ((n, e.var) :: seen)
        | _ => .ok seen
      let rest ← placeAll a seen es
      return (e, l) :: rest

/-- The first later range that overlaps `e` in the register `r`. -/
def clash? (e : Interval) (r : Reg) (later : List (Interval × Location)) : Option Defect :=
  (later.find? fun f => f.2 = .register r && e.range.overlaps f.1.range).map fun f =>
    .sharedRegister e f.1 r

/-- The first pair of ranges that overlap in one register. -/
def firstClash? : List (Interval × Location) → Option Defect
  | [] => none
  | (e, l) :: later =>
    match l with
    | .register r =>
      match clash? e r later with
      | some d => some d
      | none => firstClash? later
    | _ => firstClash? later

def check (ranges : Ranges) (a : Allocation) : Option Defect :=
  let es := ranges.intervals
  if a.size ≠ es.length then some (.sizeMismatch a.size es.length)
  else
    match placeAll a [] es with
    | .error d => some d
    | .ok placed => firstClash? placed

/-- The check for ranges and an allocation that may be missing. -/
def checkBoth (ranges : Option Ranges) (a : Option Allocation) : Option Defect :=
  match ranges, a with
  | some r, some a => check r a
  | _, _ => some .missing

end StraightLine.Alloc
