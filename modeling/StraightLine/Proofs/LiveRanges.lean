import Mathlib.Data.List.Induction
import Mathlib.Data.List.Nodup
import StraightLine.Proofs.KeyedList
import StraightLine.Proofs.StableSort
import StraightLine.Range.Basic

/-! The live ranges of a piece of code are exact: a variable has a range if and only if an
instruction touches it, the range starts at the first touch, and it ends at the last one or right
behind the first. The intervals list each range once, by start. -/

namespace StraightLine.Range

open StraightLine.Code StraightLine.Order

/-- The number of positions: they are the 64-bit signed numbers from zero on. -/
def positions : Nat := 9223372036854775808

theorem toInt_ofNat_position {n : Nat} (h : n < positions) : (Int64.ofNat n).toInt = n :=
  Int64.toInt_ofNat_of_lt h

theorem ofNat_position_lt {m n : Nat} (hm : m < positions) (hn : n < positions) :
    Int64.ofNat m < Int64.ofNat n ↔ m < n := by
  rw [Int64.lt_iff_toInt_lt, toInt_ofNat_position hm, toInt_ofNat_position hn]
  omega

theorem ofNat_word_inj {m n : Nat} (hm : m < UInt64.size) (hn : n < UInt64.size)
    (h : Int64.ofNat m = Int64.ofNat n) : m = n := by
  have hb : BitVec.ofNat 64 m = BitVec.ofNat 64 n := congrArg Int64.toBitVec h
  have ht := congrArg BitVec.toNat hb
  rwa [BitVec.toNat_ofNat, BitVec.toNat_ofNat, Nat.mod_eq_of_lt hm, Nat.mod_eq_of_lt hn] at ht

theorem ofNat_position_inj {m n : Nat} (hm : m < positions) (hn : n < positions)
    (h : Int64.ofNat m = Int64.ofNat n) : m = n := by
  have hsize : positions < UInt64.size := by decide
  exact ofNat_word_inj (Nat.lt_trans hm hsize) (Nat.lt_trans hn hsize) h

namespace LiveRange

theorem overlaps_comm (r s : LiveRange) : r.overlaps s = s.overlaps r := by
  rw [overlaps, overlaps, Bool.and_comm]

/-- Ranges overlap unless one of them ends where the other starts or before, so an empty range overlaps
another one that reaches over it. -/
theorem overlaps_eq_false_iff {r s : LiveRange} : r.overlaps s = false ↔
    r.stop.toInt ≤ s.start.toInt ∨ s.stop.toInt ≤ r.start.toInt := by
  rw [overlaps, Bool.and_eq_false_iff]
  simp only [decide_eq_false_iff_not, Int64.lt_iff_toInt_lt]
  omega

end LiveRange

namespace Ranges

/-! ## One touch -/

/-- The range of a variable behind a touch at `pos`, from the range in front of it. -/
def extend (pos : Int64) : Option LiveRange → LiveRange
  | none => ⟨pos, pos + 1⟩
  | some r => if r.stop < pos then ⟨r.start, pos⟩ else r

/-- The variables with a range, each in the place of its first touch. -/
theorem map_var_touch (pos : Int64) (es : List Interval) (v : Var) :
    (touch pos es v).map (·.var) =
      if v ∈ es.map (·.var) then es.map (·.var) else es.map (·.var) ++ [v] := by
  have hany : es.any (fun e => e.var = v) = true ↔ v ∈ es.map (·.var) := by simp
  unfold touch
  split
  · rename_i h
    rw [if_pos (hany.mp h), List.map_map]
    refine List.map_congr_left fun e _ => ?_
    simp only [Function.comp_apply]
    split <;> rfl
  · rename_i h
    rw [if_neg (fun hm => h (hany.mpr hm))]
    simp

theorem find?_isSome (r : Ranges) (v : Var) :
    (r.find? v).isSome = true ↔ v ∈ r.entries.map (·.var) := by
  simp [find?]

/-- A touch gives its variable the extended range and leaves all others alone. -/
theorem find?_touch (pos : Int64) (es : List Interval) (v w : Var) :
    (mk (touch pos es v)).find? w =
      if w = v then some (extend pos ((mk es).find? v)) else (mk es).find? w := by
  unfold touch
  split
  · rename_i h
    simp only [find?, List.find?_map, Option.map_map]
    have hp : (fun e : Interval => decide (e.var = w)) ∘ (fun e : Interval =>
        if decide (e.var = v) && decide (e.range.stop < pos) then
          { e with range := { e.range with stop := pos } } else e) =
        fun e => decide (e.var = w) := by
      funext e
      simp only [Function.comp_apply]
      split <;> rfl
    rw [hp]
    cases hf : es.find? fun e => decide (e.var = w) with
    | none =>
      split
      · rename_i hwv
        obtain ⟨e, he, hev⟩ := List.any_eq_true.mp h
        exact absurd hev (by simpa [hwv] using List.find?_eq_none.mp hf e he)
      · rfl
    | some e =>
      have hew : e.var = w := by simpa using List.find?_some hf
      split
      · rename_i hwv
        subst hwv
        simp only [hf, Option.map_some, extend, Function.comp_apply, hew, decide_true, Bool.true_and,
          decide_eq_true_eq]
        split <;> rfl
      · rename_i hwv
        simp [hew, hwv]
  · rename_i h
    have hn : es.find? (fun e => decide (e.var = v)) = none := by
      refine List.find?_eq_none.mpr fun e he => ?_
      have := fun hev => h (List.any_eq_true.mpr ⟨e, he, hev⟩)
      simpa using this
    simp only [find?, List.find?_append]
    split
    · rename_i hwv
      subst hwv
      simp [hn, extend]
    · rename_i hwv
      cases hf : es.find? fun e => decide (e.var = w) with
      | none => simp [Ne.symm hwv]
      | some e => rfl

theorem extend_some {pos : Int64} (r : LiveRange) :
    extend pos (some r) = if r.stop < pos then ⟨r.start, pos⟩ else r := rfl

/-- A second touch at one position changes nothing. -/
theorem extend_extend {n : Nat} (h : n + 1 < positions) (r : Option LiveRange) :
    extend (Int64.ofNat n) (some (extend (Int64.ofNat n) r)) = extend (Int64.ofNat n) r := by
  have hself : ¬ Int64.ofNat n < Int64.ofNat n := by
    rw [ofNat_position_lt (by omega) (by omega)]
    omega
  have hnext : ¬ Int64.ofNat n + 1 < Int64.ofNat n := by
    change ¬ Int64.ofNat n + Int64.ofNat 1 < Int64.ofNat n
    rw [← Int64.ofNat_add, ofNat_position_lt h (by omega)]
    omega
  cases r with
  | none => exact if_neg hnext
  | some r =>
    by_cases hr : r.stop < Int64.ofNat n
    · rw [extend_some r, if_pos hr]
      exact if_neg hself
    · rw [extend_some r, if_neg hr]
      exact if_neg hr

theorem find?_foldl_touch {n : Nat} (h : n + 1 < positions) (vs : List Var) (es : List Interval)
    (w : Var) :
    (mk (vs.foldl (touch (Int64.ofNat n)) es)).find? w =
      if w ∈ vs then some (extend (Int64.ofNat n) ((mk es).find? w)) else (mk es).find? w := by
  induction vs generalizing es with
  | nil => simp
  | cons v vs ih =>
    rw [List.foldl_cons, ih, find?_touch]
    by_cases hv : w = v
    · subst hv
      simp [extend_extend h]
    · simp [hv]

/-! ## All touches -/

theorem analyze_concat (code : List Instr) (i : Instr) :
    (analyze (code ++ [i])).entries = touchAll (analyze code).entries i code.length := by
  simp [analyze, List.zipIdx_append]

/-- What the ranges know about a variable when one more instruction comes. -/
theorem find?_analyze_concat {code : List Instr} {i : Instr} (h : code.length + 1 < positions)
    (v : Var) :
    (analyze (code ++ [i])).find? v =
      if v ∈ i.vars then some (extend (Int64.ofNat code.length) ((analyze code).find? v))
      else (analyze code).find? v := by
  have he : analyze (code ++ [i]) = mk (touchAll (analyze code).entries i code.length) := by
    rw [← analyze_concat]
  rw [he]
  exact find?_foldl_touch h i.vars _ v

/-- The variable is touched at `fst` and at `lst`, and nowhere outside. -/
structure TouchedWithin (code : List Instr) (v : Var) (fst lst : Nat) : Prop where
  first_touch : ∃ i, code[fst]? = some i ∧ v ∈ i.vars
  last_touch : ∃ i, code[lst]? = some i ∧ v ∈ i.vars
  between : ∀ n i, code[n]? = some i → v ∈ i.vars → fst ≤ n ∧ n ≤ lst

/-- The range that belongs to a first and a last touch. -/
def spanning (fst lst : Nat) : LiveRange := ⟨Int64.ofNat fst, Int64.ofNat (max (fst + 1) lst)⟩

theorem extend_none (n : Nat) : extend (Int64.ofNat n) none = spanning n n := by
  have hm : max (n + 1) n = n + 1 := by omega
  simp only [extend, spanning, hm, Int64.ofNat_add]
  rfl

theorem extend_spanning {fst lst n : Nat} (h : n + 1 < positions) (hf : fst ≤ lst) (hl : lst < n) :
    extend (Int64.ofNat n) (some (spanning fst lst)) = spanning fst n := by
  have hn : spanning fst n = ⟨Int64.ofNat fst, Int64.ofNat n⟩ := by
    rw [spanning, show max (fst + 1) n = n by omega]
  rw [extend_some, hn]
  by_cases hs : max (fst + 1) lst < n
  · exact if_pos ((ofNat_position_lt (by omega) (by omega)).mpr hs)
  · -- the range ends right behind its first touch, and this is where the new touch is
    have hne : ¬ (spanning fst lst).stop < Int64.ofNat n := fun h' =>
      hs ((ofNat_position_lt (by omega) (by omega)).mp h')
    rw [if_neg hne, spanning, show max (fst + 1) lst = n by omega]

theorem TouchedWithin.concat_of_mem {code : List Instr} {i : Instr} {v : Var} {fst lst : Nat}
    (h : TouchedWithin code v fst lst) (hv : v ∈ i.vars) :
    TouchedWithin (code ++ [i]) v fst code.length := by
  obtain ⟨⟨j, hj, hjv⟩, -, hb⟩ := h
  have hlt : fst < code.length := (List.getElem?_eq_some_iff.mp hj).1
  refine ⟨⟨j, by rw [List.getElem?_append_left hlt]; exact hj, hjv⟩, ⟨i, by simp, hv⟩, ?_⟩
  intro n k hk hkv
  by_cases hn : n < code.length
  · rw [List.getElem?_append_left hn] at hk
    exact ⟨(hb n k hk hkv).1, by omega⟩
  · have := (List.getElem?_eq_some_iff.mp hk).1
    rw [List.length_append, List.length_singleton] at this
    omega

theorem TouchedWithin.concat_of_not_mem {code : List Instr} {i : Instr} {v : Var} {fst lst : Nat}
    (h : TouchedWithin code v fst lst) (hv : v ∉ i.vars) :
    TouchedWithin (code ++ [i]) v fst lst := by
  obtain ⟨⟨j, hj, hjv⟩, ⟨k, hk, hkv⟩, hb⟩ := h
  have hf : fst < code.length := (List.getElem?_eq_some_iff.mp hj).1
  have hl : lst < code.length := (List.getElem?_eq_some_iff.mp hk).1
  refine ⟨⟨j, by rw [List.getElem?_append_left hf]; exact hj, hjv⟩,
    ⟨k, by rw [List.getElem?_append_left hl]; exact hk, hkv⟩, ?_⟩
  intro n a ha hav
  by_cases hn : n < code.length
  · rw [List.getElem?_append_left hn] at ha
    exact hb n a ha hav
  · rw [List.getElem?_append_right (by omega)] at ha
    have hai : a = i := by
      have hz : n - code.length = 0 := by
        have := (List.getElem?_eq_some_iff.mp ha).1
        rw [List.length_singleton] at this
        omega
      rw [hz] at ha
      exact (Option.some.inj ha).symm
    exact absurd (hai ▸ hav) hv

theorem TouchedWithin.of_untouched {code : List Instr} {i : Instr} {v : Var}
    (h : ∀ j ∈ code, v ∉ j.vars) (hv : v ∈ i.vars) :
    TouchedWithin (code ++ [i]) v code.length code.length := by
  refine ⟨⟨i, by simp, hv⟩, ⟨i, by simp, hv⟩, ?_⟩
  intro n a ha hav
  by_cases hn : n < code.length
  · rw [List.getElem?_append_left hn] at ha
    exact absurd hav (h a (List.mem_of_getElem? ha))
  · have := (List.getElem?_eq_some_iff.mp ha).1
    rw [List.length_append, List.length_singleton] at this
    omega

theorem TouchedWithin.le {code : List Instr} {v : Var} {fst lst : Nat}
    (h : TouchedWithin code v fst lst) : fst ≤ lst := by
  obtain ⟨i, hi, hv⟩ := h.last_touch
  exact (h.between lst i hi hv).1

theorem TouchedWithin.lt_length {code : List Instr} {v : Var} {fst lst : Nat}
    (h : TouchedWithin code v fst lst) : lst < code.length := by
  obtain ⟨i, hi, _⟩ := h.last_touch
  exact (List.getElem?_eq_some_iff.mp hi).1

/-- A variable without a range is not touched, and a range spans the touches of its variable. -/
theorem analyze_spec {code : List Instr} (h : code.length < positions) (v : Var) :
    match (analyze code).find? v with
    | none => ∀ i ∈ code, v ∉ i.vars
    | some r => ∃ fst lst, TouchedWithin code v fst lst ∧ r = spanning fst lst := by
  induction code using List.reverseRecOn with
  | nil => simp [analyze, find?]
  | append_singleton code i ih =>
    rw [List.length_append, List.length_singleton] at h
    have ih := ih (by omega)
    rw [find?_analyze_concat h]
    by_cases hv : v ∈ i.vars
    · rw [if_pos hv]
      cases hr : (analyze code).find? v with
      | none =>
        rw [hr] at ih
        exact ⟨_, _, .of_untouched ih hv, extend_none code.length⟩
      | some r =>
        rw [hr] at ih
        obtain ⟨fst, lst, ht, rfl⟩ := ih
        exact ⟨_, _, ht.concat_of_mem hv, extend_spanning h ht.le ht.lt_length⟩
    · rw [if_neg hv]
      cases hr : (analyze code).find? v with
      | none =>
        rw [hr] at ih
        intro j hj
        rcases List.mem_append.mp hj with hj | hj
        · exact ih j hj
        · exact List.mem_singleton.mp hj ▸ hv
      | some r =>
        rw [hr] at ih
        obtain ⟨fst, lst, ht, rfl⟩ := ih
        exact ⟨_, _, ht.concat_of_not_mem hv, rfl⟩

/-- A touched variable has a range, and the range spans its touches. -/
theorem exists_touchedWithin {code : List Instr} (h : code.length < positions) {n : Nat} {i : Instr}
    {v : Var} (hi : code[n]? = some i) (hv : v ∈ i.vars) :
    ∃ fst lst, TouchedWithin code v fst lst ∧ (analyze code).find? v = some (spanning fst lst) := by
  have hs := analyze_spec h v
  cases hr : (analyze code).find? v with
  | none =>
    rw [hr] at hs
    exact absurd hv (hs i (List.mem_of_getElem? hi))
  | some r =>
    rw [hr] at hs
    obtain ⟨fst, lst, ht, rfl⟩ := hs
    exact ⟨fst, lst, ht, rfl⟩

/-- Every range spans the touches of its variable. -/
theorem touchedWithin_of_find? {code : List Instr} (h : code.length < positions) {v : Var}
    {r : LiveRange} (hr : (analyze code).find? v = some r) :
    ∃ fst lst, TouchedWithin code v fst lst ∧ r = spanning fst lst := by
  have hs := analyze_spec h v
  rw [hr] at hs
  exact hs

theorem toInt_spanning_start {fst lst : Nat} (h : fst < positions) :
    (spanning fst lst).start.toInt = fst := toInt_ofNat_position h

theorem toInt_spanning_stop {fst lst : Nat} (hf : fst + 1 < positions) (hl : lst < positions) :
    (spanning fst lst).stop.toInt = ((max (fst + 1) lst : Nat) : Int) := by
  rw [spanning, toInt_ofNat_position (by omega)]

def Distinct (r : Ranges) : Prop := (r.entries.map (·.var)).Nodup

theorem nodup_touch (pos : Int64) {es : List Interval} (v : Var) (h : (es.map (·.var)).Nodup) :
    ((touch pos es v).map (·.var)).Nodup := by
  rw [map_var_touch]
  split
  · exact h
  · rename_i hv
    rw [List.nodup_append]
    refine ⟨h, by simp, ?_⟩
    intro a ha b hb hab
    rw [List.mem_singleton.mp hb] at hab
    exact hv (hab ▸ ha)

theorem nodup_foldl_touch (pos : Int64) (vs : List Var) {es : List Interval}
    (h : (es.map (·.var)).Nodup) : ((vs.foldl (touch pos) es).map (·.var)).Nodup := by
  induction vs generalizing es with
  | nil => exact h
  | cons v vs ih => exact ih (nodup_touch pos v h)

theorem distinct_analyze (code : List Instr) : (analyze code).Distinct := by
  induction code using List.reverseRecOn with
  | nil => simp [Distinct, analyze]
  | append_singleton code i ih =>
    rw [Distinct, analyze_concat]
    exact nodup_foldl_touch _ i.vars ih

/-- There are not more ranges than variables that code can touch. -/
theorem size_analyze_le {code : List Instr} (h : code.length < positions) {vs : List Var}
    (hv : ∀ i ∈ code, i.vars ⊆ vs) : (analyze code).size ≤ vs.length := by
  have hsub : (analyze code).entries.map (·.var) ⊆ vs := by
    intro v hmem
    obtain ⟨x, hx⟩ := Option.isSome_iff_exists.mp (((analyze code).find?_isSome v).mpr hmem)
    obtain ⟨fst, lst, ht, -⟩ := touchedWithin_of_find? h hx
    obtain ⟨i, hi, hvi⟩ := ht.first_touch
    exact hv i (List.mem_of_getElem? hi) hvi
  have hlen := (distinct_analyze code).length_le_of_subset hsub
  rwa [List.length_map] at hlen

theorem mem_of_mem_lastOf {e : Interval} {es : List Interval} (h : e ∈ lastOf es) : e ∈ es := by
  fun_induction lastOf es with
  | case1 => exact h
  | case2 f es hf ih => exact List.mem_cons_of_mem _ (ih h)
  | case3 f es hf ih =>
    rcases List.mem_cons.mp h with rfl | h
    · exact List.mem_cons_self
    · exact List.mem_cons_of_mem _ (ih h)

theorem nodup_lastOf (es : List Interval) : ((lastOf es).map (·.var)).Nodup := by
  fun_induction lastOf es with
  | case1 => simp
  | case2 f es hf ih => exact ih
  | case3 f es hf ih =>
    rw [List.map_cons, List.nodup_cons]
    refine ⟨fun hm => hf ?_, ih⟩
    obtain ⟨g, hg, hgf⟩ := List.mem_map.mp hm
    exact List.any_eq_true.mpr ⟨g, mem_of_mem_lastOf hg, by simpa using hgf⟩

theorem ofList_perm (es : List Interval) : (ofList es).entries.Perm (lastOf es) :=
  List.mergeSort_perm _ _

theorem distinct_ofList (es : List Interval) : (ofList es).Distinct :=
  ((ofList_perm es).map _).nodup_iff.mpr (nodup_lastOf es)

/-- Looking a variable up finds its entry. -/
theorem find?_eq_some_iff {r : Ranges} (hd : r.Distinct) {v : Var} {x : LiveRange} :
    r.find? v = some x ↔ ⟨v, x⟩ ∈ r.entries := by
  rw [find?, Option.map_eq_some_iff]
  constructor
  · rintro ⟨e, he, rfl⟩
    obtain ⟨hm, rfl⟩ := (find?_key_iff hd).mp he
    exact hm
  · intro hm
    exact ⟨_, (find?_key_iff hd).mpr ⟨hm, rfl⟩, rfl⟩

theorem mem_of_find?_ofList {es : List Interval} {v : Var} {x : LiveRange}
    (h : (ofList es).find? v = some x) : ⟨v, x⟩ ∈ es :=
  mem_of_mem_lastOf ((ofList_perm es).mem_iff.mp ((find?_eq_some_iff (distinct_ofList es)).mp h))

/-! ## The intervals -/

theorem intervals_perm (r : Ranges) : r.intervals.Perm r.entries := blockSort_perm _ _

def StartsNonneg (r : Ranges) : Prop := ∀ e ∈ r.entries, 0 ≤ e.range.start.toInt

/-- Any two starts are so close together that their difference does not wrap around. -/
def StartsClose (es : List Interval) : Prop :=
  ∀ e ∈ es, ∀ f ∈ es, e.range.start.toInt - f.range.start.toInt < positions

theorem startsBefore_iff_bmod (a b : Interval) : startsBefore a b = true ↔
    (a.range.start.toInt - b.range.start.toInt).bmod (2 * positions) < 0 := by
  rw [startsBefore, decide_eq_true_iff, Int64.lt_iff_toInt_lt, Int64.toInt_sub, Int64.toInt_zero]
  exact .rfl

/-- A difference that does not wrap around compares the starts. -/
theorem startsBefore_iff_of_close {a b : Interval}
    (hl : -positions ≤ a.range.start.toInt - b.range.start.toInt)
    (hr : a.range.start.toInt - b.range.start.toInt < positions) :
    startsBefore a b = true ↔ a.range.start.toInt < b.range.start.toInt := by
  rw [startsBefore_iff_bmod, Int.bmod_eq_of_le (by omega) (by omega)]
  omega

/-- The difference of two positions does not wrap around. -/
theorem startsBefore_iff {a b : Interval} (ha : 0 ≤ a.range.start.toInt)
    (hb : 0 ≤ b.range.start.toInt) :
    startsBefore a b = true ↔ a.range.start.toInt < b.range.start.toInt := by
  have hal := a.range.start.toInt_lt
  have hbl := b.range.start.toInt_lt
  exact startsBefore_iff_of_close (by rw [positions]; omega) (by rw [positions]; omega)

theorem StartsNonneg.close {r : Ranges} (h : r.StartsNonneg) : StartsClose r.entries := by
  intro e he f hf
  have hlt := e.range.start.toInt_lt
  have hnonneg := h f hf
  rw [positions]
  omega

/-- Intervals come by start, and of equal starts the one that is first among the entries comes
first. -/
theorem intervals_arranged {r : Ranges} (hc : StartsClose r.entries)
    {prior : Interval → Interval → Prop} (hp : r.entries.Pairwise prior) :
    r.intervals.Pairwise (Arranged (fun e => e.range.start.toInt) prior) := by
  refine blockSort_arranged (fun a ha b hb => startsBefore_iff_of_close ?_ (hc a ha b hb)) hp
  have := hc b hb a ha
  omega

theorem intervals_sorted {r : Ranges} (hn : r.StartsNonneg) :
    r.intervals.Pairwise fun a b => a.range.start.toInt ≤ b.range.start.toInt := by
  have hp : r.entries.Pairwise fun _ _ => True := List.pairwise_of_forall fun _ _ => trivial
  exact (intervals_arranged hn.close hp).imp fun h => h.key_le

/-- A range of code starts at a position, ends behind it, and does not reach behind the code. -/
theorem bounds_of_mem_analyze {code : List Instr} (h : code.length < positions) {e : Interval}
    (he : e ∈ (analyze code).entries) : 0 ≤ e.range.start.toInt ∧
      e.range.start.toInt < e.range.stop.toInt ∧ e.range.stop.toInt ≤ code.length := by
  have hf := (find?_eq_some_iff (distinct_analyze code)).mpr he
  obtain ⟨fst, lst, ht, hr⟩ := touchedWithin_of_find? h hf
  have hl := ht.le
  have hlt := ht.lt_length
  rw [hr, toInt_spanning_start (by omega), toInt_spanning_stop (by omega) (by omega)]
  omega

theorem startsNonneg_analyze {code : List Instr} (h : code.length < positions) :
    (analyze code).StartsNonneg := fun _ he => (bounds_of_mem_analyze h he).1

end Ranges

end StraightLine.Range
