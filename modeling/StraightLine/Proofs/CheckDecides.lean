import Mathlib.Data.List.Nodup
import StraightLine.Proofs.AllocationPartition

/-! The check of an allocation for some ranges that a scan of other ranges has found. It compares the
numbers of entries and looks the variables of the first ranges up; together this tells whether both
have the same variables. -/

namespace StraightLine.Alloc

open StraightLine.Code StraightLine.Range

def SameVars (r s : Ranges) : Prop :=
  ∀ v, (r.find? v).isSome = true ↔ (s.find? v).isSome = true

theorem sameVars_iff_perm {r s : Ranges} (hr : r.Distinct) (hs : s.Distinct) :
    SameVars r s ↔ (r.entries.map (·.var)).Perm (s.entries.map (·.var)) := by
  simp only [SameVars, Ranges.find?_isSome]
  exact (List.perm_ext_iff_of_nodup hr hs).symm

theorem SameVars.size_eq {r s : Ranges} (hr : r.Distinct) (hs : s.Distinct) (h : SameVars r s) :
    r.size = s.size := by
  have hlen := ((sameVars_iff_perm hr hs).mp h).length_eq
  simpa [Ranges.size] using hlen

/-- If there are as many ranges, it is enough to look one way. -/
theorem sameVars_of_size_eq {r s : Ranges} (hr : r.Distinct) (hs : s.Distinct)
    (hsize : s.size = r.size) (h : ∀ v x, r.find? v = some x → (s.find? v).isSome = true) :
    SameVars r s := by
  refine (sameVars_iff_perm hr hs).mpr ?_
  have hsub : r.entries.map (·.var) ⊆ s.entries.map (·.var) := by
    intro v hv
    obtain ⟨x, hx⟩ := Option.isSome_iff_exists.mp ((r.find?_isSome v).mpr hv)
    exact (s.find?_isSome v).mp (h v x hx)
  refine (List.Nodup.subperm hr hsub).perm_of_length_le ?_
  simpa [Ranges.size] using hsize.le

/-- Variables whose ranges overlap have different registers. -/
def RegistersDiffer (r : Ranges) (a : Allocation) : Prop :=
  ∀ u v x y q, u ≠ v → r.find? u = some x → r.find? v = some y → x.overlaps y = true →
    a.find? u = some (.register q) → a.find? v ≠ some (.register q)

theorem conforms_allocate_iff {r s : Ranges} (hr : r.Distinct) (hs : s.Distinct)
    (registers : List Reg) (hsize : s.size ≤ UInt64.size) :
    Conforms r (allocate s registers) ↔
      SameVars r s ∧ RegistersDiffer r (allocate s registers) := by
  have hfound := isSome_allocate_find? hs registers
  constructor
  · intro h
    refine ⟨sameVars_of_size_eq hr hs ((size_allocate hs registers).symm.trans h.size) ?_, ?_⟩
    · intro v x hx
      obtain ⟨l, hl⟩ := h.located v x hx
      exact (hfound v).mp (Option.isSome_of_eq_some hl)
    · intro u v x y q hne hx hy ho hu hv
      rw [h.registers u v x y q hne hx hy hu hv] at ho
      cases ho
  · rintro ⟨hsame, hdiffer⟩
    refine ⟨(size_allocate hs registers).trans (hsame.size_eq hr hs).symm, ?_, ?_, ?_⟩
    · intro v x hx
      exact Option.isSome_iff_exists.mp
        ((hfound v).mpr ((hsame v).mp (Option.isSome_of_eq_some hx)))
    · intro u v x y n hne _ _ hu hv
      have hslots := (slots_allocate_le hs registers).trans hsize
      exact hne (Allocation.eq_of_find?_spilled hslots hu hv)
    · intro u v x y q hne hx hy hu hv
      rw [Bool.eq_false_iff]
      exact fun ho => hdiffer u v x y q hne hx hy ho hu hv

/-- For an allocation that a scan of the ranges `B` has found, the check with the ranges `A` finds no
defect if and only if `A` and `B` have the same variables and no two variables whose ranges in `A`
overlap share a register. Positions may be any numbers and registers may come twice. The slots of such
an allocation are not shared anyway, as long as they can be numbered by 64-bit words. -/
theorem check_decides (A B : List Interval) (registers : List Reg)
    (hsize : (Ranges.ofList B).size ≤ UInt64.size) :
    (checkBoth (some (.ofList A)) (some (allocate (.ofList B) registers)) = none ↔
      SameVars (.ofList A) (.ofList B) ∧
        RegistersDiffer (.ofList A) (allocate (.ofList B) registers)) ∧
    ∀ u v n, (allocate (.ofList B) registers).find? u = some (.spilled n) →
      (allocate (.ofList B) registers).find? v = some (.spilled n) → u = v := by
  have hA := Ranges.distinct_ofList A
  have hB := Ranges.distinct_ofList B
  refine ⟨?_, fun u v n => ?_⟩
  · rw [checkBoth, check_eq_none_iff hA]
    exact conforms_allocate_iff hA hB registers hsize
  · exact Allocation.eq_of_find?_spilled ((slots_allocate_le hB registers).trans hsize)

/-- One register is given twice, and two variables have it. The check finds no defect for the ranges
that were scanned, and it finds one if the first range is a position longer, or if another variable
has a range in place of the second. -/
theorem check_decides_twice :
    let B : List Interval := [⟨.temp 1, ⟨-3, 4⟩⟩, ⟨.temp 2, ⟨4, 9⟩⟩]
    let a := allocate (.ofList B) [7, 7]
    checkBoth (some (.ofList B)) (some a) = none ∧
      checkBoth (some (.ofList [⟨.temp 1, ⟨-3, 5⟩⟩, ⟨.temp 2, ⟨4, 9⟩⟩])) (some a) ≠ none ∧
      checkBoth (some (.ofList [⟨.temp 1, ⟨-3, 4⟩⟩, ⟨.temp 3, ⟨4, 9⟩⟩])) (some a) ≠ none := by
  intro B a
  have hsize : (Ranges.ofList B).size = 2 := by cbv
  have hdecides := fun A => (check_decides A B [7, 7] (hsize.trans_le (by decide))).1
  refine ⟨(hdecides B).mpr ⟨fun v => .rfl, ?_⟩, fun h => ?_, fun h => ?_⟩
  · intro u v x y q hne hx hy ho
    have hu := Ranges.mem_of_find?_ofList hx
    have hv := Ranges.mem_of_find?_ofList hy
    simp only [B, List.mem_cons, Interval.mk.injEq, List.not_mem_nil, or_false] at hu hv
    rcases hu with ⟨rfl, rfl⟩ | ⟨rfl, rfl⟩ <;> rcases hv with ⟨rfl, rfl⟩ | ⟨rfl, rfl⟩
    · exact absurd rfl hne
    · exact absurd ho (by decide)
    · exact absurd ho (by decide)
    · exact absurd rfl hne
  · have hdiffer := ((hdecides _).mp h).2 (.temp 1) (.temp 2) ⟨-3, 5⟩ ⟨4, 9⟩ 7
    exact hdiffer (by decide) (by cbv) (by cbv) (by decide) (by cbv) (by cbv)
  · have hsame := ((hdecides _).mp h).1 (.temp 2)
    have hB : ((Ranges.ofList B).find? (.temp 2)).isSome = true := by cbv
    obtain ⟨x, hx⟩ := Option.isSome_iff_exists.mp (hsame.mpr hB)
    simpa [Var.temp] using Ranges.mem_of_find?_ofList hx

end StraightLine.Alloc
