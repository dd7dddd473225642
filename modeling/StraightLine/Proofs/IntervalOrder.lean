import StraightLine.Proofs.LiveRanges
import StraightLine.Proofs.VarOrder

/-! Ranges from elsewhere are listed each once, and the list does not depend on the order in which they
come. It is by start, and by variable among equal starts, as long as the starts are close together. The
comparison is the sign of a difference of 64-bit words: a difference that wraps around has the wrong
sign, and two ranges so far apart are listed the wrong way round. -/

namespace StraightLine.Range.Ranges

open StraightLine.Code StraightLine.Order

theorem lastOf_eq_self {es : List Interval} (hd : (es.map (·.var)).Nodup) : lastOf es = es := by
  fun_induction lastOf es with
  | case1 => rfl
  | case2 e es he ih =>
    obtain ⟨f, hf, hv⟩ := List.any_eq_true.mp he
    exact absurd (List.mem_map.mpr ⟨f, hf, of_decide_eq_true hv⟩) (List.nodup_cons.mp hd).1
  | case3 e es he ih => rw [ih (List.nodup_cons.mp hd).2]

theorem ofList_entries_perm {es : List Interval} (hd : (es.map (·.var)).Nodup) :
    (ofList es).entries.Perm es := by
  have h := ofList_perm es
  rwa [lastOf_eq_self hd] at h

/-- The variables of the entries increase strictly. -/
theorem ofList_increasing (es : List Interval) :
    (ofList es).entries.Pairwise fun a b => a.var.compare b.var = .lt := by
  have hle : (ofList es).entries.Pairwise fun a b => a.var.le b.var = true :=
    @List.pairwise_mergeSort Interval (fun a b => a.var.le b.var) (fun _ _ _ => Var.le_trans)
      (fun _ _ => Var.le_total _ _) (lastOf es)
  have hne : (ofList es).entries.Pairwise fun a b => a.var ≠ b.var :=
    List.pairwise_map.mp (distinct_ofList es)
  exact (hle.and hne).imp fun ⟨h, hn⟩ => Var.compare_eq_lt h hn

/-- The ranges do not depend on the order in which they come. -/
theorem ofList_congr {es fs : List Interval} (hd : (es.map (·.var)).Nodup) (h : fs.Perm es) :
    ofList fs = ofList es := by
  have hdf : (fs.map (·.var)).Nodup := (h.map _).nodup_iff.mpr hd
  refine congrArg mk (List.Perm.eq_of_pairwise (fun a b _ _ hab hba => ?_) (ofList_increasing fs)
    (ofList_increasing es) ((ofList_entries_perm hdf).trans (h.trans (ofList_entries_perm hd).symm)))
  rw [Var.compare_swap, hab] at hba
  cases hba

def InOrder (es : List Interval) : Prop :=
  es.Pairwise fun a b => a.range.start < b.range.start ∨
    (a.range.start = b.range.start ∧ a.var.compare b.var = .lt)

theorem inOrder_intervals {es : List Interval} (hc : StartsClose (ofList es).entries) :
    InOrder (ofList es).intervals := by
  refine (intervals_arranged hc (ofList_increasing es)).imp fun {a b} h => ?_
  rw [Int64.lt_iff_toInt_lt, ← Int64.toInt_inj]
  exact h

theorem entries_pair {a b : Interval} (h : a.var.compare b.var = .lt) :
    (ofList [a, b]).entries = [a, b] := by
  have hne : a.var ≠ b.var := by
    intro he
    rw [he, Var.compare_self] at h
    cases h
  refine List.Perm.eq_of_pairwise (fun x y _ _ hxy hyx => ?_) (ofList_increasing _) (by simpa using h)
    (ofList_entries_perm (by simpa using hne))
  rw [Var.compare_swap, hxy] at hyx
  cases hyx

/-- Two ranges change places if the difference of their starts is negative as a word. -/
theorem intervals_pair {a b : Interval} (h : a.var.compare b.var = .lt) :
    (ofList [a, b]).intervals = if startsBefore b a then [b, a] else [a, b] := by
  rw [intervals, entries_pair h]
  cases hb : startsBefore b a <;>
    simp [blockSort, blocks, blocksWithin, blockSize, insertionSort, insertBack, mergeBlocks,
      mergeBlocksWithin, hb]

theorem inOrder_pair_iff {a b : Interval} : InOrder [a, b] ↔
    a.range.start.toInt < b.range.start.toInt ∨
      (a.range.start.toInt = b.range.start.toInt ∧ a.var.compare b.var = .lt) := by
  simp [InOrder, Int64.lt_iff_toInt_lt, Int64.toInt_inj]

/-- Two ranges are in order if and only if the difference of their starts, taken in the order of their
variables, does not wrap around. -/
theorem inOrder_intervals_pair_iff {a b : Interval} (h : a.var.compare b.var = .lt) :
    InOrder (ofList [a, b]).intervals ↔
      -positions ≤ b.range.start.toInt - a.range.start.toInt ∧
        b.range.start.toInt - a.range.start.toInt < positions := by
  have hswap : ¬ b.var.compare a.var = .lt := by
    rw [Var.compare_swap, h]
    decide
  have hbefore := startsBefore_iff_bmod b a
  have hal := a.range.start.le_toInt
  have hbl := b.range.start.le_toInt
  have har := a.range.start.toInt_lt
  have hbr := b.range.start.toInt_lt
  rw [intervals_pair h, positions]
  cases hb : startsBefore b a with
  | true =>
    have hneg := hbefore.mp hb
    rw [Int.bmod_def, positions] at hneg
    rw [if_pos rfl, inOrder_pair_iff]
    simp only [hswap, and_false, or_false]
    split at hneg <;> omega
  | false =>
    have hnonneg := Int.not_lt.mp fun hlt => Bool.false_ne_true (hb.symm.trans (hbefore.mpr hlt))
    rw [Int.bmod_def, positions] at hnonneg
    rw [if_neg Bool.false_ne_true, inOrder_pair_iff]
    simp only [h, and_true]
    split at hnonneg <;> omega

/-- Ranges from elsewhere, one for each variable, are all listed once, and it does not matter in which
order they come. They are listed by start, and by variable among equal starts, if any two starts are
less than half of all words apart. If they are not, the order can be wrong: two ranges are in order if
and only if the difference of their starts does not wrap around. -/
theorem ranges_are_listed_by_start {es : List Interval} (hd : (es.map (·.var)).Nodup) :
    (ofList es).intervals.Perm es ∧
      (∀ fs : List Interval, fs.Perm es → (ofList fs).intervals = (ofList es).intervals) ∧
      (StartsClose es → InOrder (ofList es).intervals) ∧
      ∀ a b : Interval, a.var.compare b.var = .lt →
        (InOrder (ofList [a, b]).intervals ↔
          -positions ≤ b.range.start.toInt - a.range.start.toInt ∧
            b.range.start.toInt - a.range.start.toInt < positions) := by
  have hp := ofList_entries_perm hd
  refine ⟨(intervals_perm _).trans hp, fun fs hfs => by rw [ofList_congr hd hfs], fun hc => ?_,
    fun a b => inOrder_intervals_pair_iff⟩
  exact inOrder_intervals fun e he f hf => hc e (hp.mem_iff.mp he) f (hp.mem_iff.mp hf)

/-- Negative starts, and two that are equal. -/
theorem ranges_are_listed_by_start_ties :
    let es : List Interval :=
      [⟨.named 0 1, ⟨5, 1⟩⟩, ⟨.temp 2, ⟨5, 9⟩⟩, ⟨.named 0 2, ⟨-4611686018427387904, 0⟩⟩]
    (es.map (·.var)).Nodup ∧ StartsClose es ∧ InOrder (ofList es).intervals ∧
      (ofList es).intervals = (ofList es.reverse).intervals := by
  intro es
  have hd : (es.map (·.var)).Nodup := by decide
  have hc : StartsClose es := by
    simp only [StartsClose, es, List.forall_mem_cons, List.not_mem_nil, false_implies, implies_true,
      and_true, positions]
    decide
  obtain ⟨-, hcongr, horder, -⟩ := ranges_are_listed_by_start hd
  exact ⟨hd, hc, horder hc, (hcongr _ es.reverse_perm).symm⟩

/-- The difference of the least word and one wraps around to the greatest word, so the range that starts
first is listed last. -/
theorem far_ranges_are_listed_backwards :
    let es : List Interval := [⟨.temp 1, ⟨-9223372036854775808, 0⟩⟩, ⟨.temp 2, ⟨1, 5⟩⟩]
    (es.map (·.var)).Nodup ∧ (ofList es).intervals = es.reverse ∧ ¬ InOrder (ofList es).intervals := by
  intro es
  have hlt : (Var.temp 1).compare (.temp 2) = .lt := by decide
  refine ⟨by decide, ?_, ?_⟩
  · exact (intervals_pair hlt).trans (if_pos (by decide))
  · rw [inOrder_intervals_pair_iff hlt]
    decide

end StraightLine.Range.Ranges
