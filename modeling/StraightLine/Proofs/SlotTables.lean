import StraightLine.Proofs.AllocationSafety

/-! The tables of an allocation as a scan keeps them: registers and slots by variable, and a counter
that gives every new slot its number. An allocation only lists the variables in slots, the first slot
first, so its tables have the positions in this list for numbers and its length for the counter. They
answer as it does, and they stay its tables when a variable that is not in them gets a place. -/

namespace StraightLine.Alloc

open StraightLine.Code StraightLine.Range

def setEntry {β : Type} (v : Var) (x : β) (es : List (Var × β)) : List (Var × β) :=
  (es.filter fun e => e.1 ≠ v) ++ [(v, x)]

structure Tables where
  regs : List (Var × Reg)
  slots : List (Var × Int64)
  /-- The number of the next slot. -/
  next : Int64
  deriving DecidableEq, Repr

namespace Tables

def empty : Tables := ⟨[], [], 0⟩

def giveRegister (v : Var) (r : Reg) (t : Tables) : Tables :=
  { t with regs := setEntry v r t.regs }

def takeRegister (v : Var) (t : Tables) : Tables :=
  { t with regs := t.regs.filter fun e => e.1 ≠ v }

def giveSlot (v : Var) (t : Tables) : Tables :=
  { t with slots := setEntry v t.next t.slots, next := t.next + 1 }

/-- The location of a variable. Its register counts if it has a slot as well. -/
def find? (t : Tables) (v : Var) : Option Location :=
  match t.regs.find? fun e => e.1 = v with
  | some e => some (.register e.2)
  | none => (t.slots.find? fun e => e.1 = v).map fun e => .spilled e.2

def size (t : Tables) : Nat := t.regs.length + t.slots.length

def assignments (t : Tables) : List (Var × Location) :=
  (Var.sort (t.regs.map (·.1) ++ t.slots.map (·.1))).filterMap fun v => (t.find? v).map (v, ·)

end Tables

/-- The tables answer as the allocation does, and their counter is the number of its slots as long as
it does not wrap around. -/
structure Tables.Matches (t : Tables) (a : Allocation) : Prop where
  found : ∀ v, t.find? v = a.find? v
  size : t.size = a.size
  listed : t.assignments = a.assignments
  counted : a.spillSlots < positions → t.next.toInt = a.spillSlots

theorem setEntry_of_not_mem {β : Type} {v : Var} {es : List (Var × β)} (h : v ∉ es.map (·.1))
    (x : β) : setEntry v x es = es ++ [(v, x)] := by
  rw [setEntry, List.filter_eq_self.mpr]
  rintro e he
  exact decide_eq_true fun hv => h (hv ▸ List.mem_map_of_mem he)

namespace Allocation

def tables (a : Allocation) : Tables where
  regs := a.regs
  slots := a.slots.mapIdx fun n v => (v, Int64.ofNat n)
  next := Int64.ofNat a.spillSlots

theorem map_fst_slots_tables (a : Allocation) : a.tables.slots.map (·.1) = a.slots := by
  refine List.ext_getElem? fun n => ?_
  rw [List.getElem?_map, tables, List.getElem?_mapIdx, Option.map_map]
  exact Option.map_id'

/-- A variable is found in the numbered list where it stands in the list. -/
theorem find?_mapIdx {β : Type} (number : Nat → β) (vs : List Var) (v : Var) :
    ((vs.mapIdx fun n u => (u, number n)).find? fun e => e.1 = v).map (·.2) =
      (vs.findIdx? (· = v)).map number := by
  induction vs generalizing number with
  | nil => rfl
  | cons u vs ih =>
    rw [List.mapIdx_cons, List.findIdx?_cons]
    by_cases hu : u = v
    · rw [List.find?_cons_of_pos (by simpa using hu), if_pos (by simpa using hu)]
      rfl
    · rw [List.find?_cons_of_neg (by simpa using hu), if_neg (by simpa using hu), ih, Option.map_map]
      rfl

theorem find?_tables (a : Allocation) (v : Var) : a.tables.find? v = a.find? v := by
  have hslot := congrArg (Option.map Location.spilled) (find?_mapIdx Int64.ofNat a.slots v)
  rw [Option.map_map, Option.map_map] at hslot
  rw [Tables.find?, find?, reg?]
  cases hr : a.regs.find? fun e => e.1 = v with
  | some e => rw [show a.tables.regs = a.regs from rfl, hr]; rfl
  | none => rw [show a.tables.regs = a.regs from rfl, hr]; exact hslot

theorem size_tables (a : Allocation) : a.tables.size = a.size := by
  simp [Tables.size, tables, size]

theorem assignments_tables (a : Allocation) : a.tables.assignments = a.assignments := by
  simp only [Tables.assignments, assignments, map_fst_slots_tables, find?_tables]
  rfl

theorem matches_tables (a : Allocation) : a.tables.Matches a :=
  ⟨a.find?_tables, a.size_tables, a.assignments_tables, toInt_ofNat_position⟩

theorem tables_giveRegister {a : Allocation} {v : Var} (h : v ∉ a.regs.map (·.1)) (r : Reg) :
    a.tables.giveRegister v r = tables { a with regs := a.regs ++ [(v, r)] } := by
  rw [Tables.giveRegister, show a.tables.regs = a.regs from rfl, setEntry_of_not_mem h]
  rfl

theorem tables_takeRegister (a : Allocation) (v : Var) :
    a.tables.takeRegister v = tables { a with regs := a.regs.filter fun e => e.1 ≠ v } := rfl

/-- The next slot has the position behind the list for its number. -/
theorem tables_giveSlot {a : Allocation} {v : Var} (h : v ∉ a.slots) :
    a.tables.giveSlot v = tables { a with slots := a.slots ++ [v] } := by
  rw [← map_fst_slots_tables] at h
  rw [Tables.giveSlot, setEntry_of_not_mem h]
  simp [tables, spillSlots, List.mapIdx_concat, Int64.ofNat_add]

end Allocation

end StraightLine.Alloc
