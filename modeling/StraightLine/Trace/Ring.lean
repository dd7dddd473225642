import StraightLine.Trace.Event

/-! A ring of events: it has a place for each of the most recent ones and numbers all that its level lets
through. Places are taken one after the other, and behind the last one the first comes again. -/

namespace StraightLine.Trace

def defaultCapacity : Nat := 4096

/-- What a place holds before an event is put there: no kind, no scope, and the first second of year 1. -/
def Event.blank : Event :=
  { time := { seconds := -62135596800 }, kind := .other 0, scope := 0, name := "" }

structure Ring where
  capacity : Nat
  level : Level
  /-- The places for events. -/
  slots : Vector Event capacity
  /-- The place that the next event takes. -/
  head : Fin capacity
  /-- All places have been taken. -/
  full : Bool := false
  /-- The number of events let through. -/
  count : Nat := 0
  /-- The number of span numbers handed out. -/
  spans : Nat := 0
  deriving Repr

namespace Ring

/-- The capacity that is meant by a number: one that is not positive asks for the default. -/
def capacityOf (n : Int) : Nat := if n ≤ 0 then defaultCapacity else n.toNat

theorem capacityOf_pos (n : Int) : 0 < capacityOf n := by
  unfold capacityOf
  split
  · exact Nat.succ_pos _
  · omega

def new (capacity : Int) (level : Level) : Ring :=
  { capacity := capacityOf capacity
    level := level
    slots := Vector.replicate (capacityOf capacity) Event.blank
    head := ⟨0, capacityOf_pos capacity⟩ }

/-- The place behind `i`, which is the first one behind the last. -/
def next {n : Nat} (i : Fin n) : Fin n := ⟨(i + 1) % n, Nat.mod_lt _ i.pos⟩

theorem val_next {n : Nat} (i : Fin n) : (next i).val = (i.val + 1) % n := rfl

/-- Records an event in the next place. Where all places are taken it is that of the oldest event. -/
def emit (r : Ring) (e : Event) : Ring :=
  if r.level.emits e.scope then
    { r with
      slots := r.slots.set r.head { e with seq := UInt64.ofNat (r.count + 1) }
      head := next r.head
      full := r.full || (next r.head).val = 0
      count := r.count + 1 }
  else r

/-- The events in the ring, the oldest first. -/
def snapshot (r : Ring) : List Event :=
  if r.full then r.slots.toList.drop r.head ++ r.slots.toList.take r.head
  else r.slots.toList.take r.head

/-- Dumps the ring into a writer that refuses everything: the first event is rendered, and its write
fails. Without events nothing is written. -/
def dumpRefused (r : Ring) (f : Format) : Except RenderFault Bool :=
  match r.snapshot with
  | [] => .ok false
  | e :: _ => (e.render f).map fun _ => true

def dump (r : Ring) (f : Format) : Except RenderFault (List String) := r.snapshot.mapM (Event.render f)

end Ring

end StraightLine.Trace
