import Mathlib.Data.List.Nodup
import StraightLine.Proofs.LiveRanges

/-! The intervals of a piece of code come in the order of first touch. Ranges are noted down in this
order, their starts do not fall along it, and a stable sort by start leaves such a list as it is. -/

namespace StraightLine.Range

open StraightLine.Code StraightLine.Order

/-- The variables of a piece of code, each where it is touched first: by instruction, and inside an
instruction the destination, the left operand, the right operand. -/
def firstTouches (code : List Instr) : List Var := (code.flatMap Instr.vars).eraseDups

namespace Ranges

theorem map_var_foldl_touch (pos : Int64) {es : List Interval} {ws : List Var}
    (h : es.map (·.var) = ws.eraseDups) (vs : List Var) :
    (vs.foldl (touch pos) es).map (·.var) = (ws ++ vs).eraseDups := by
  induction vs generalizing es ws with
  | nil => simpa using h
  | cons v vs ih =>
    rw [List.foldl_cons, List.append_cons]
    refine ih ?_
    rw [map_var_touch, eraseDups_concat, h]
    simp only [List.mem_eraseDups]

/-- Ranges are noted down in the order of first touch. -/
theorem map_var_analyze (code : List Instr) :
    (analyze code).entries.map (·.var) = firstTouches code := by
  induction code using List.reverseRecOn with
  | nil => rfl
  | append_singleton code i ih =>
    rw [analyze_concat, firstTouches, List.flatMap_append, List.flatMap_singleton]
    exact map_var_foldl_touch _ ih i.vars

/-- The starts do not fall along the list, and none is behind `pos`. -/
structure Rising (pos : Int) (es : List Interval) : Prop where
  ordered : es.Pairwise fun e f => e.range.start.toInt ≤ f.range.start.toInt
  bounded : ∀ e ∈ es, e.range.start.toInt ≤ pos

theorem Rising.mono {pos pos' : Int} {es : List Interval} (h : Rising pos es) (hle : pos ≤ pos') :
    Rising pos' es :=
  ⟨h.ordered, fun e he => Int.le_trans (h.bounded e he) hle⟩

theorem Rising.touch {pos : Int64} {es : List Interval} (h : Rising pos.toInt es) (v : Var) :
    Rising pos.toInt (touch pos es v) := by
  unfold Ranges.touch
  split
  · -- a known variable keeps its start
    have hstart : ∀ e : Interval,
        (if e.var = v && e.range.stop < pos then
          { e with range := { e.range with stop := pos } } else e).range.start = e.range.start := by
      intro e
      split <;> rfl
    refine ⟨List.pairwise_map.mpr (h.ordered.imp fun hef => ?_), fun f hf => ?_⟩
    · rwa [hstart, hstart]
    · obtain ⟨e, he, rfl⟩ := List.mem_map.mp hf
      rw [hstart]
      exact h.bounded e he
  · refine ⟨List.pairwise_append.mpr ⟨h.ordered, List.pairwise_singleton _ _, ?_⟩, fun e he => ?_⟩
    · intro e he f hf
      rw [List.mem_singleton.mp hf]
      exact h.bounded e he
    · rcases List.mem_append.mp he with he | he
      · exact h.bounded e he
      · exact List.mem_singleton.mp he ▸ Int.le_refl _

theorem Rising.foldl_touch {pos : Int64} {es : List Interval} (h : Rising pos.toInt es)
    (vs : List Var) : Rising pos.toInt (vs.foldl (Ranges.touch pos) es) := by
  induction vs generalizing es with
  | nil => exact h
  | cons v vs ih => exact ih (h.touch v)

theorem rising_analyze {code : List Instr} (h : code.length < positions) :
    Rising code.length (analyze code).entries := by
  induction code using List.reverseRecOn with
  | nil => exact ⟨.nil, by simp [analyze]⟩
  | append_singleton code i ih =>
    rw [List.length_append, List.length_singleton] at h ⊢
    have hpos := toInt_ofNat_position (show code.length < positions by omega)
    have hrising : Rising (Int64.ofNat code.length).toInt (analyze code).entries :=
      hpos.symm ▸ ih (by omega)
    rw [analyze_concat]
    exact (hrising.foldl_touch i.vars).mono (by omega)

/-- Ranges whose starts do not fall are listed as they are. -/
theorem intervals_eq_entries {r : Ranges} (hd : r.Distinct) (hn : r.StartsNonneg)
    (hs : r.entries.Pairwise fun e f => e.range.start.toInt ≤ f.range.start.toInt) :
    r.intervals = r.entries :=
  blockSort_eq_self (fun a ha b hb => startsBefore_iff (hn a ha) (hn b hb)) (.of_map _ hd) hs

theorem intervals_analyze {code : List Instr} (h : code.length < positions) :
    (analyze code).intervals = (analyze code).entries :=
  intervals_eq_entries (distinct_analyze code) (startsNonneg_analyze h) (rising_analyze h).ordered

/-- The ranges are those of the code. Exactly the touched variables have one; it starts at the first
touch and ends at the last one, or right behind the first; and the intervals list every variable once,
in the order of first touch, which is also by start. -/
structure Exact (code : List Instr) (r : Ranges) : Prop where
  touched : ∀ v, (r.find? v).isSome = true ↔ ∃ i ∈ code, v ∈ i.vars
  spans : ∀ v x, r.find? v = some x → ∃ fst lst : Nat, TouchedWithin code v fst lst ∧
    x.start.toInt = fst ∧ x.stop.toInt = max ((fst : Int) + 1) lst
  listed : ∀ e, e ∈ r.intervals ↔ r.find? e.var = some e.range
  once : (r.intervals.map (·.var)).Nodup
  in_order : r.intervals.map (·.var) = firstTouches code
  by_start : r.intervals.Pairwise fun e f => e.range.start ≤ f.range.start

/-- The ranges that are found for a piece of code are exact. Positions are 64-bit signed numbers, so
the code must not be longer than they count. -/
theorem live_ranges_are_exact {code : List Instr} (h : code.length < positions) :
    Exact code (analyze code) where
  touched v := by
    rw [find?_isSome, map_var_analyze, firstTouches, List.mem_eraseDups, List.mem_flatMap]
  spans v x hx := by
    obtain ⟨fst, lst, ht, rfl⟩ := touchedWithin_of_find? h hx
    have hle := ht.le
    have hlt := ht.lt_length
    refine ⟨fst, lst, ht, toInt_spanning_start (by omega), ?_⟩
    rw [toInt_spanning_stop (by omega) (by omega)]
    omega
  listed e := by rw [intervals_analyze h, find?_eq_some_iff (distinct_analyze code)]
  once := by
    rw [intervals_analyze h]
    exact distinct_analyze code
  in_order := by rw [intervals_analyze h, map_var_analyze]
  by_start := by
    rw [intervals_analyze h]
    exact (rising_analyze h).ordered.imp Int64.le_iff_toInt_le.mpr

/-- Two names are read before they are assigned, and a variable is touched twice by one instruction.
Three ranges start together and stay in the order of the first instruction. -/
theorem live_ranges_are_exact_reread :
    let code : List Instr :=
      [⟨.named 9 1, .var (.named 4 0), some (.add, .var (.named 2 0))⟩,
        ⟨.temp 1, .var (.named 9 1), some (.mul, .var (.named 9 1))⟩,
        ⟨.named 2 1, .var (.temp 1), some (.sub, .var (.named 9 1))⟩]
    Exact code (analyze code) ∧ (analyze code).intervals =
      [⟨.named 9 1, ⟨0, 2⟩⟩, ⟨.named 4 0, ⟨0, 1⟩⟩, ⟨.named 2 0, ⟨0, 1⟩⟩, ⟨.temp 1, ⟨1, 2⟩⟩,
        ⟨.named 2 1, ⟨2, 3⟩⟩] := by
  intro code
  exact ⟨live_ranges_are_exact (by decide), by decide +kernel⟩

end Ranges

end StraightLine.Range
