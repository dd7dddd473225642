import Mathlib.Data.List.Basic
import StraightLine.Proofs.LiveRanges
import StraightLine.Proofs.VarOrder
import StraightLine.Range.Conflict

/-! The sweep counts the pairs of ranges that share a position, each once. This number does not hang on
the order in which ties between equal starts are broken, nor on the order in which ranges come. -/

namespace StraightLine.Range

open StraightLine.Code

/-- The number of pairs of ranges that share a position. -/
def clashCount : List LiveRange → Nat
  | [] => 0
  | r :: rs => rs.countP r.overlaps + clashCount rs

theorem clashCount_perm {rs ss : List LiveRange} (h : rs.Perm ss) : clashCount rs = clashCount ss := by
  induction h with
  | nil => rfl
  | cons r h ih => rw [clashCount, clashCount, h.countP_eq, ih]
  | swap r s rs =>
    simp only [clashCount, List.countP_cons, LiveRange.overlaps_comm r s]
    omega
  | trans _ _ ih₁ ih₂ => exact ih₁.trans ih₂

namespace ConflictGraph

/-- By start, then by variable, without regard to what differences come to. -/
def startOrder (a b : Interval) : Bool :=
  if a.range.start = b.range.start then a.var.le b.var
  else a.range.start.toInt < b.range.start.toInt

theorem startOrder_iff {a b : Interval} :
    startOrder a b = true ↔ a.range.start.toInt < b.range.start.toInt ∨
      (a.range.start.toInt = b.range.start.toInt ∧ a.var.le b.var = true) := by
  rw [startOrder]
  by_cases heq : a.range.start = b.range.start
  · simp [heq]
  · have hne : a.range.start.toInt ≠ b.range.start.toInt := mt Int64.toInt_inj.mp heq
    simp [heq, hne]

theorem startOrder_trans (a b c : Interval) (hab : startOrder a b = true)
    (hbc : startOrder b c = true) : startOrder a c = true := by
  rw [startOrder_iff] at *
  obtain hab | ⟨hab, hu⟩ := hab
  · obtain hbc | ⟨hbc, -⟩ := hbc <;> exact .inl (by omega)
  · obtain hbc | ⟨hbc, hv⟩ := hbc
    · exact .inl (by omega)
    · exact .inr ⟨by omega, Var.le_trans hu hv⟩

theorem startOrder_total (a b : Interval) : (startOrder a b || startOrder b a) = true := by
  rw [Bool.or_eq_true, startOrder_iff, startOrder_iff]
  obtain hlt | heq | hgt := Int.lt_trichotomy a.range.start.toInt b.range.start.toInt
  · exact .inl (.inl hlt)
  · obtain hu | hv := Bool.or_eq_true _ _ ▸ Var.le_total a.var b.var
    · exact .inl (.inr ⟨heq, hu⟩)
    · exact .inr (.inr ⟨heq.symm, hv⟩)
  · exact .inr (.inl hgt)

/-- Two ranges stand in both orders only if they start together and have one variable. -/
theorem var_eq_of_startOrder {a b : Interval} (hab : startOrder a b = true)
    (hba : startOrder b a = true) : a.var = b.var := by
  rw [startOrder_iff] at hab hba
  obtain hlt | ⟨heq, hab⟩ := hab
  · obtain hgt | ⟨heq, -⟩ := hba <;> omega
  · obtain hgt | ⟨-, hba⟩ := hba
    · omega
    · exact Var.le_antisymm hab hba

/-- Where differences of starts do not wrap around, both orders are one. -/
theorem sweepLe_eq {a b : Interval} (ha : 0 ≤ a.range.start.toInt)
    (hb : 0 ≤ b.range.start.toInt) : sweepLe a b = startOrder a b := by
  have hlt := Ranges.startsBefore_iff ha hb
  rw [Ranges.startsBefore, decide_eq_true_iff] at hlt
  rw [sweepLe, startOrder]
  simp only [hlt]

theorem mergeSort_sweepLe {entries : List Interval} (h : ∀ e ∈ entries, 0 ≤ e.range.start.toInt) :
    entries.mergeSort sweepLe = entries.mergeSort startOrder := by
  have hmap := List.map_mergeSort (f := id) (s := startOrder) fun a ha b hb =>
    sweepLe_eq (h a ha) (h b hb)
  rwa [List.map_id, List.map_id] at hmap

/-- The ranges are swept by start. -/
theorem sorted_mergeSort {entries : List Interval} (h : ∀ e ∈ entries, 0 ≤ e.range.start.toInt) :
    (entries.mergeSort sweepLe).Pairwise fun a b => a.range.start.toInt ≤ b.range.start.toInt := by
  rw [mergeSort_sweepLe h]
  refine (List.pairwise_mergeSort startOrder_trans startOrder_total entries).imp fun hab => ?_
  rcases startOrder_iff.mp hab with hlt | ⟨heq, -⟩ <;> omega

/-- Ranges behind the first one that starts too late overlap nothing. -/
theorem sweepOne_eq (cur : Interval) {later : List Interval}
    (h : later.Pairwise fun a b => a.range.start.toInt ≤ b.range.start.toInt) :
    sweepOne cur later =
      (later.filter fun e => cur.range.overlaps e.range).map fun e => (cur.var, e.var) := by
  induction later with
  | nil => rfl
  | cons e later ih =>
    obtain ⟨he, hlater⟩ := List.pairwise_cons.mp h
    have ih := ih hlater
    rw [sweepOne, List.takeWhile_cons]
    cases hstart : decide (e.range.start < cur.range.stop) with
    | true =>
      rw [sweepOne] at ih
      rw [if_pos rfl, List.filterMap_cons, ih, List.filter_cons]
      cases cur.range.overlaps e.range <;> rfl
    | false =>
      have hstop : cur.range.stop.toInt ≤ e.range.start.toInt := by
        rw [decide_eq_false_iff_not, Int64.lt_iff_toInt_lt] at hstart
        omega
      have hnone : (e :: later).filter (fun e => cur.range.overlaps e.range) = [] := by
        refine List.filter_eq_nil_iff.mpr fun f hf => ?_
        have hle : e.range.start.toInt ≤ f.range.start.toInt := by
          obtain rfl | hf := List.mem_cons.mp hf
          · exact Int.le_refl _
          · exact he f hf
        simp only [LiveRange.overlaps, Bool.and_eq_true, decide_eq_true_eq, Int64.lt_iff_toInt_lt]
        omega
      rw [if_neg Bool.false_ne_true, hnone]
      rfl

theorem length_sweep {es : List Interval}
    (h : es.Pairwise fun a b => a.range.start.toInt ≤ b.range.start.toInt) :
    (sweep es).length = clashCount (es.map (·.range)) := by
  induction es with
  | nil => rfl
  | cons cur later ih =>
    obtain ⟨-, hlater⟩ := List.pairwise_cons.mp h
    rw [sweep, List.length_append, ih hlater, sweepOne_eq cur hlater, List.length_map,
      ← List.countP_eq_length_filter, List.map_cons, clashCount, List.countP_map]
    rfl

/-- Each pair of ranges that share a position is an edge. -/
theorem edgeCount_build {entries : List Interval} (h : ∀ e ∈ entries, 0 ≤ e.range.start.toInt) :
    (build entries).edgeCount = clashCount (entries.map (·.range)) := by
  rw [edgeCount, build, length_sweep (sorted_mergeSort h)]
  exact clashCount_perm ((List.mergeSort_perm entries sweepLe).map _)

end ConflictGraph

end StraightLine.Range
