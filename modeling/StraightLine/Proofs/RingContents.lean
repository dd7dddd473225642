import Mathlib.Data.List.DropRight
import Mathlib.Data.List.Induction
import Mathlib.Data.List.Rotate
import StraightLine.Trace.Ring

/-! What a ring holds. The event with the position `i` among those let through is put in the place
`i % capacity`, where it stays until as many events have come behind it as there are places. So a ring
shows the last events under their numbers, however often its places have been taken anew. -/

namespace StraightLine.Trace

/-- Events with their ranks among each other. -/
def numbered (es : List Event) : List Event :=
  es.mapIdx fun i e => { e with seq := UInt64.ofNat (i + 1) }

theorem length_numbered (es : List Event) : (numbered es).length = es.length := List.length_mapIdx

theorem numbered_concat (es : List Event) (e : Event) :
    numbered (es ++ [e]) = numbered es ++ [{ e with seq := UInt64.ofNat (es.length + 1) }] :=
  List.mapIdx_concat

/-- Fewer events than there are words have their ranks as numbers. -/
theorem map_seq_numbered {es : List Event} (h : es.length < UInt64.size) :
    (numbered es).map (·.seq.toNat) = List.range' 1 es.length := by
  refine List.ext_getElem (by simp [length_numbered]) fun i hi _ => ?_
  rw [List.length_map, length_numbered] at hi
  simp only [numbered, List.getElem_map, List.getElem_mapIdx, List.getElem_range', Nat.one_mul]
  rw [UInt64.toNat_ofNat_of_lt' (by omega), Nat.add_comm]

section

variable {α : Type}

theorem length_rtake (n : Nat) (xs : List α) : (xs.rtake n).length = min n xs.length := by
  rw [List.rtake, List.length_drop]
  omega

theorem rtake_min_length (n : Nat) (xs : List α) : xs.rtake (min n xs.length) = xs.rtake n := by
  rw [List.rtake, List.rtake]
  congr 1
  omega

theorem rtake_of_length_le {n : Nat} {xs : List α} (h : xs.length ≤ n) : xs.rtake n = xs := by
  rw [List.rtake, Nat.sub_eq_zero_of_le h, List.drop_zero]

end

/-- Positions less than a whole round apart are in different places. -/
theorem mod_ne_mod {i n capacity : Nat} (hi : i < n) (hn : n < i + capacity) :
    n % capacity ≠ i % capacity := by
  intro heq
  have hdvd : capacity ∣ n - i := Nat.dvd_of_mod_eq_zero (Nat.sub_mod_eq_zero_of_mod_eq heq)
  have hzero := Nat.eq_zero_of_dvd_of_lt hdvd (by omega)
  omega

namespace Ring

/-- The ring has let through these events, and each of the most recent ones is in the place of its
position. -/
structure Holds (r : Ring) (es : List Event) : Prop where
  count : r.count = es.length
  head : r.head.val = es.length % r.capacity
  full : r.full = true ↔ r.capacity ≤ es.length
  recent : ∀ i < es.length, es.length < i + r.capacity + 1 →
    r.slots.toList[i % r.capacity]? = es[i]?

def withSpans (r : Ring) (n : Nat) : Ring := { r with spans := n }

theorem capacity_pos (r : Ring) : 0 < r.capacity := r.head.pos

theorem holds_new (capacity : Int) (level : Level) : (new capacity level).Holds [] where
  count := rfl
  head := (Nat.zero_mod _).symm
  full := by simp [new, (capacityOf_pos capacity).ne']
  recent _ h := absurd h (Nat.not_lt_zero _)

section

variable {r : Ring} {es : List Event}

/-- The first place comes next as soon as the last one has been taken. -/
theorem Holds.next_eq (h : r.Holds es) : (next r.head).val = (es.length + 1) % r.capacity := by
  rw [val_next, h.head, Nat.mod_add_mod]

theorem Holds.full_next (h : r.Holds es) :
    (r.full || (next r.head).val = 0) = true ↔ r.capacity ≤ es.length + 1 := by
  rw [Bool.or_eq_true, h.full, decide_eq_true_iff, h.next_eq]
  constructor
  · rintro (hle | hzero)
    · omega
    · exact Nat.le_of_dvd (Nat.succ_pos _) (Nat.dvd_of_mod_eq_zero hzero)
  · intro hle
    rcases Nat.lt_or_ge es.length r.capacity with hlt | hge
    · have heq : es.length + 1 = r.capacity := by omega
      exact .inr (heq ▸ Nat.mod_self _)
    · exact .inl hge

/-- Numbers of spans have no part in it. -/
theorem Holds.withSpans (h : r.Holds es) (n : Nat) : (r.withSpans n).Holds es :=
  ⟨h.count, h.head, h.full, h.recent⟩

/-- An event that is let through takes the place of the one a whole round before it. -/
theorem Holds.emit (h : r.Holds es) {e : Event} (he : r.level.emits e.scope = true) :
    (r.emit e).Holds (es ++ [{ e with seq := UInt64.ofNat (es.length + 1) }]) := by
  rw [Ring.emit, if_pos he]
  have hplaces : es.length % r.capacity < r.slots.toList.length := by
    rw [Vector.length_toList]
    exact Nat.mod_lt _ r.capacity_pos
  constructor
  case count => simp only [h.count, List.length_append, List.length_singleton]
  case head => simp only [h.next_eq, List.length_append, List.length_singleton]
  case full => simp only [h.full_next, List.length_append, List.length_singleton]
  case recent =>
    intro i hi hrecent
    simp only [List.length_append, List.length_singleton] at hi hrecent
    simp only [Vector.toList_set, h.count, h.head]
    rcases Nat.lt_or_ge i es.length with hlt | hge
    · rw [List.getElem?_set_ne (mod_ne_mod hlt (by omega)), List.getElem?_append_left hlt]
      exact h.recent i hlt (by omega)
    · obtain rfl : i = es.length := by omega
      rw [List.getElem?_set_self hplaces, List.getElem?_concat_length]

theorem emit_of_hidden {e : Event} (he : r.level.emits e.scope = false) : r.emit e = r := by
  rw [Ring.emit, he, if_neg Bool.false_ne_true]

theorem level_emit (r : Ring) (e : Event) : (r.emit e).level = r.level := by
  rw [Ring.emit]
  split <;> rfl

theorem capacity_emit (r : Ring) (e : Event) : (r.emit e).capacity = r.capacity := by
  rw [Ring.emit]
  split <;> rfl

theorem spans_emit (r : Ring) (e : Event) : (r.emit e).spans = r.spans := by
  rw [Ring.emit]
  split <;> rfl

/-- The events shown are the last ones, from the place that comes next once around the ring. -/
theorem Holds.snapshot_eq (h : r.Holds es) : r.snapshot = es.rtake r.capacity := by
  have hlen : r.slots.toList.length = r.capacity := Vector.length_toList
  have hhead := r.head.isLt
  rw [snapshot, List.rtake]
  split
  · rename_i hfull
    have hround := h.full.mp hfull
    rw [← List.rotate_eq_drop_append_take (by omega)]
    refine List.ext_getElem? fun j => ?_
    rcases Nat.lt_or_ge j r.capacity with hj | hj
    · rw [List.getElem?_rotate (by omega), hlen, h.head, List.getElem?_drop, Nat.add_mod_mod,
        ← h.recent _ (by omega) (by omega)]
      -- Position `length - capacity + j` is in the place `length + j`, a whole round further.
      rw [← Nat.add_mod_right (es.length - r.capacity + j)]
      congr 2
      omega
    · rw [List.getElem?_eq_none (by rw [List.length_rotate]; omega),
        List.getElem?_eq_none (by rw [List.length_drop]; omega)]
  · rename_i hopen
    have hshort : es.length < r.capacity := Nat.lt_of_not_le fun hle => hopen (h.full.mpr hle)
    have hplace : r.head.val = es.length := h.head.trans (Nat.mod_eq_of_lt hshort)
    rw [Nat.sub_eq_zero_of_le hshort.le, List.drop_zero, hplace]
    refine List.ext_getElem? fun j => ?_
    rcases Nat.lt_or_ge j es.length with hj | hj
    · rw [List.getElem?_take_of_lt hj, ← h.recent j hj (by omega),
        Nat.mod_eq_of_lt (hj.trans hshort)]
    · rw [List.getElem?_eq_none (by rw [List.length_take]; omega), List.getElem?_eq_none hj]

end

/-- A ring that holds nothing yet has, after any events, those that its level lets through. -/
theorem holds_foldl_emit {r : Ring} (h : r.Holds []) (es : List Event) :
    (es.foldl emit r).level = r.level ∧ (es.foldl emit r).capacity = r.capacity ∧
      (es.foldl emit r).Holds (numbered (es.filter fun e => r.level.emits e.scope)) := by
  induction es using List.reverseRecOn with
  | nil => exact ⟨rfl, rfl, h⟩
  | append_singleton es e ih =>
    obtain ⟨hlevel, hcapacity, hholds⟩ := ih
    rw [List.foldl_append, List.foldl_cons, List.foldl_nil, level_emit, capacity_emit,
      List.filter_append]
    refine ⟨hlevel, hcapacity, ?_⟩
    cases he : r.level.emits e.scope with
    | false =>
      rw [List.filter_cons_of_neg (by simp [he]), List.filter_nil, List.append_nil,
        emit_of_hidden (hlevel ▸ he)]
      exact hholds
    | true =>
      rw [List.filter_cons_of_pos (by simp [he]), List.filter_nil, numbered_concat]
      have hstep := hholds.emit (e := e) (hlevel ▸ he)
      rwa [length_numbered] at hstep

/-- A new ring keeps the most recent events. Of the events that its level lets through it shows the last
ones, as many as it has places or all if there are fewer, the oldest first and each under its rank; so
the numbers that it shows have no gaps, and they end at the number of events let through. -/
theorem ring_keeps_latest (capacity : Int) (level : Level) (es : List Event)
    (hfew : es.length < UInt64.size) :
    let shown := (es.foldl emit (new capacity level)).snapshot
    let passing := es.filter fun e => level.emits e.scope
    let kept := min (capacityOf capacity) passing.length
    shown = (numbered passing).rtake kept ∧ shown.length = kept ∧
      shown.map (·.seq.toNat) = List.range' (passing.length - kept + 1) kept := by
  intro shown passing kept
  obtain ⟨-, hcapacity, hholds⟩ := holds_foldl_emit (holds_new capacity level) es
  have hlast : shown = (numbered passing).rtake kept := by
    have hall : shown = (numbered passing).rtake (capacityOf capacity) :=
      hholds.snapshot_eq.trans (congrArg _ hcapacity)
    rw [hall, ← rtake_min_length, length_numbered]
  have hpassing : passing.length ≤ es.length := List.length_filter_le _ _
  have hkept : kept ≤ passing.length := Nat.min_le_right _ _
  refine ⟨hlast, ?_, ?_⟩
  · rw [hlast, length_rtake, length_numbered, Nat.min_eq_left hkept]
  · rw [hlast, List.rtake, List.map_drop, map_seq_numbered (hpassing.trans_lt hfew), length_numbered,
      List.drop_range', Nat.mul_one, Nat.add_comm 1, Nat.sub_sub_self hkept]

/-- Of five events the level holds one back. Three places are not enough for the other four, and the
first of them is taken anew. -/
theorem ring_keeps_latest_overtaken :
    let point (scope : Scope) (name : String) : Event := { time := {}, kind := .point, scope, name }
    let es := [point 1 "run", point 2 "ssa", point 3 "instr", point 2 "liveness", point 2 "emit"]
    es.length < UInt64.size ∧
      ((es.foldl emit (new 3 .detail)).snapshot.map fun e => (e.seq.toNat, e.name)) =
        [(2, "ssa"), (3, "liveness"), (4, "emit")] := by
  intro point es
  obtain ⟨hshown, -, -⟩ := ring_keeps_latest 3 .detail es (by decide)
  exact ⟨by decide, by rw [hshown]; decide⟩

end Ring

end StraightLine.Trace
