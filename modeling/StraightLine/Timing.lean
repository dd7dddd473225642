/-! The stages of a run, in the order in which they began. How long a stage took is measured outside;
here a stage says what it was and what came of it. -/

namespace StraightLine

structure Stage where
  name : String
  /-- What came of the stage; empty while it is open. -/
  note : String := ""
  closed : Bool := false
  deriving DecidableEq, Repr

structure Timing where
  stages : List Stage := []
  deriving DecidableEq, Repr

namespace Timing

/-- Opens a stage and gives its number. -/
def begin (t : Timing) (name : String) : Nat × Timing :=
  (t.stages.length, ⟨t.stages ++ [{ name := name }]⟩)

/-- Closes a stage with a note. A stage that is closed already, or is not there, is left alone. -/
def finish (t : Timing) (number : Int) (note : String) : Timing :=
  if number < 0 then t
  else
    ⟨t.stages.mapIdx fun i s =>
      if i = number.toNat && !s.closed then { s with note := note, closed := true } else s⟩

def padName (s : String) : String :=
  s ++ String.ofList (List.replicate (14 - s.length) ' ')

/-- The line of a stage; `duration` is the text of its length. -/
def stageLine (duration : Stage → String) (s : Stage) : String :=
  "  " ++ padName s.name ++ " " ++ duration s ++ " ms"
    ++ (if s.note.isEmpty then "" else "  // " ++ s.note) ++ "\n"

def summary (duration : Stage → String) (total : String) (t : Timing) : String :=
  "timings:\n" ++ String.join (t.stages.map (stageLine duration))
    ++ "  " ++ padName "total" ++ " " ++ total ++ " ms\n"

end Timing

end StraightLine
