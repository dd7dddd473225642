import StraightLine.Code.Var

/-! Variables are ordered linearly, and sorting different variables gives the one list of them that
increases strictly. -/

namespace StraightLine.Code.Var

theorem compare_eq_compareLex :
    Var.compare = compareLex (compareOn kind) (compareLex (compareOn handle) (compareOn version)) :=
  rfl

theorem le_trans {u v w : Var} (huv : u.le v = true) (hvw : v.le w = true) : u.le w = true := by
  rw [le, compare_eq_compareLex] at *
  exact Std.TransCmp.isLE_trans huv hvw

theorem compare_swap (u v : Var) : v.compare u = (u.compare v).swap := by
  rw [compare_eq_compareLex]
  exact Std.OrientedCmp.eq_swap

theorem le_total (u v : Var) : (u.le v || v.le u) = true := by
  rw [le, le, compare_swap u v]
  cases u.compare v <;> rfl

theorem eq_of_compare_eq {u v : Var} (h : u.compare v = .eq) : u = v := by
  rw [compare, Ordering.then_eq_eq, Ordering.then_eq_eq] at h
  obtain ⟨hkind, hhandle, hversion⟩ := h
  cases u
  cases v
  rw [mk.injEq]
  exact ⟨Std.LawfulEqOrd.eq_of_compare hkind, Std.LawfulEqOrd.eq_of_compare hhandle,
    Std.LawfulEqOrd.eq_of_compare hversion⟩

theorem compare_self (v : Var) : v.compare v = .eq := by
  rw [compare_eq_compareLex]
  exact Std.ReflCmp.compare_self

theorem compare_eq_lt {u v : Var} (hle : u.le v = true) (hne : u ≠ v) : u.compare v = .lt := by
  rw [le] at hle
  cases hc : u.compare v with
  | lt => rfl
  | eq => exact absurd (eq_of_compare_eq hc) hne
  | gt =>
    rw [hc] at hle
    cases hle

theorem le_antisymm {u v : Var} (huv : u.le v = true) (hvu : v.le u = true) : u = v := by
  cases hc : u.compare v with
  | lt =>
    rw [le, compare_swap, hc] at hvu
    cases hvu
  | eq => exact eq_of_compare_eq hc
  | gt =>
    rw [le, hc] at huv
    cases huv

theorem sort_perm (vs : List Var) : (sort vs).Perm vs := List.mergeSort_perm vs le

theorem mem_sort {vs : List Var} {v : Var} : v ∈ sort vs ↔ v ∈ vs := (sort_perm vs).mem_iff

theorem length_sort (vs : List Var) : (sort vs).length = vs.length := (sort_perm vs).length_eq

theorem sort_ordered (vs : List Var) : (sort vs).Pairwise fun u v => u.le v = true :=
  @List.pairwise_mergeSort Var le (fun _ _ _ => le_trans) le_total vs

/-- Different variables are strictly increasing when they are sorted. -/
theorem sort_increasing {vs : List Var} (hn : vs.Nodup) :
    (sort vs).Pairwise fun u v => u.compare v = .lt :=
  ((sort_ordered vs).and ((sort_perm vs).nodup_iff.mpr hn)).imp fun ⟨hle, hne⟩ =>
    compare_eq_lt hle hne

theorem sort_congr {us vs : List Var} (h : us.Perm vs) : sort us = sort vs :=
  List.Perm.eq_of_pairwise (fun _ _ _ _ => le_antisymm) (sort_ordered us) (sort_ordered vs)
    ((sort_perm us).trans (h.trans (sort_perm vs).symm))

end StraightLine.Code.Var
