import Mathlib
import StraightLine.Proofs.AllocationCheck

/-! The locations that a scan finds are safe. Every variable with a range has one location, no two
variables share a slot, and two variables share a register only if one of their ranges ends before
the other starts; so the check of the allocation finds no defect. -/

namespace StraightLine.Alloc

open StraightLine.Code StraightLine.Range

namespace Allocation

def Distinct (a : Allocation) : Prop := (a.regs.map (·.1) ++ a.slots).Nodup

theorem reg?_eq_some_iff {a : Allocation} (hd : a.Distinct) {v : Var} {r : Reg} :
    a.reg? v = some r ↔ (v, r) ∈ a.regs := by
  have hk := (List.nodup_append.mp hd).1
  rw [reg?, Option.map_eq_some_iff]
  constructor
  · rintro ⟨p, hp, rfl⟩
    obtain ⟨hm, rfl⟩ := (find?_key_iff hk).mp hp
    exact hm
  · intro hm
    exact ⟨_, (find?_key_iff hk).mpr ⟨hm, rfl⟩, rfl⟩

theorem slot?_eq_some {a : Allocation} {v : Var} {n : Nat} (h : a.slot? v = some n) :
    a.slots[n]? = some v := by
  obtain ⟨hn, hv, -⟩ := List.findIdx?_eq_some_iff_getElem.mp h
  rw [List.getElem?_eq_getElem hn, ← of_decide_eq_true hv]

theorem find?_register_iff {a : Allocation} (hd : a.Distinct) {v : Var} {r : Reg} :
    a.find? v = some (.register r) ↔ (v, r) ∈ a.regs := by
  rw [← reg?_eq_some_iff hd, find?]
  cases a.reg? v with
  | none => simp
  | some q => simp

theorem find?_spilled {a : Allocation} {v : Var} {slot : Int64}
    (h : a.find? v = some (.spilled slot)) :
    ∃ n, a.slots[n]? = some v ∧ slot = Int64.ofNat n := by
  rw [find?] at h
  cases hr : a.reg? v with
  | some r => simp [hr] at h
  | none =>
    simp only [hr, Option.map_eq_some_iff] at h
    obtain ⟨n, hn, he⟩ := h
    cases he
    exact ⟨n, slot?_eq_some hn, rfl⟩

/-- A location from the tables is a register or a slot. -/
theorem find?_cases {a : Allocation} {v : Var} {l : Location} (h : a.find? v = some l) :
    (∃ r, l = .register r) ∨ ∃ slot, l = .spilled slot := by
  rw [find?] at h
  cases hr : a.reg? v with
  | some r =>
    rw [hr] at h
    exact .inl ⟨r, (Option.some.inj h).symm⟩
  | none =>
    simp only [hr, Option.map_eq_some_iff] at h
    obtain ⟨n, -, he⟩ := h
    exact .inr ⟨_, he.symm⟩

theorem exists_find? {a : Allocation} {v : Var} (h : v ∈ a.regs.map (·.1) ++ a.slots) :
    ∃ l, a.find? v = some l := by
  rw [find?]
  cases hr : a.reg? v with
  | some r => exact ⟨_, rfl⟩
  | none =>
    rcases List.mem_append.mp h with h | h
    · obtain ⟨p, hp, rfl⟩ := List.mem_map.mp h
      rw [reg?, Option.map_eq_none_iff] at hr
      simpa using List.find?_eq_none.mp hr p hp
    · cases hs : a.slot? v with
      | some n => exact ⟨_, rfl⟩
      | none => simpa using List.findIdx?_eq_none_iff.mp hs v h

/-- Slots are not shared as long as their numbers are different words. -/
theorem eq_of_find?_spilled {a : Allocation} (hs : a.slots.length ≤ UInt64.size) {u v : Var}
    {slot : Int64} (hu : a.find? u = some (.spilled slot)) (hv : a.find? v = some (.spilled slot)) :
    u = v := by
  obtain ⟨m, hm, he⟩ := find?_spilled hu
  obtain ⟨n, hn, he'⟩ := find?_spilled hv
  have hml := (List.getElem?_eq_some_iff.mp hm).1
  have hnl := (List.getElem?_eq_some_iff.mp hn).1
  have hmn := ofNat_word_inj (by omega) (by omega) (he.symm.trans he')
  rw [hmn, hn] at hm
  exact (Option.some.inj hm).symm

end Allocation

section

variable {r : Ranges} (hd : r.Distinct) (registers : List Reg)
include hd

theorem allocate_perm : ((allocate r registers).regs.map (·.1) ++ (allocate r registers).slots).Perm
    (r.entries.map (·.var)) :=
  (Scan.inv_allocate hd registers).placed.trans (r.intervals_perm.map _)

theorem distinct_allocate : (allocate r registers).Distinct :=
  (allocate_perm hd registers).nodup_iff.mpr hd

theorem size_allocate : (allocate r registers).size = r.size := by
  have h := (allocate_perm hd registers).length_eq
  simpa [Allocation.size, Ranges.size] using h

theorem slots_allocate_le : (allocate r registers).slots.length ≤ r.size := by
  have h := size_allocate hd registers
  simp only [Allocation.size] at h
  omega

/-- Every variable with a range has a location. -/
theorem exists_allocate_find? {v : Var} {x : LiveRange} (h : r.find? v = some x) :
    ∃ l, (allocate r registers).find? v = some l := by
  refine Allocation.exists_find? ((allocate_perm hd registers).mem_iff.mpr ?_)
  exact List.mem_map.mpr ⟨_, (Ranges.find?_eq_some_iff hd).mp h, rfl⟩

/-- Two variables share a register only if one of their ranges ends before the other starts. -/
theorem allocate_disjoint (hs : r.StartsNonneg) (hr : registers.Nodup) {u v : Var} {x y : LiveRange}
    (hx : r.find? u = some x) (hy : r.find? v = some y) (hne : u ≠ v) {q : Reg}
    (hu : (allocate r registers).find? u = some (.register q))
    (hv : (allocate r registers).find? v = some (.register q)) :
    x.stop.toInt < y.start.toInt ∨ y.stop.toInt < x.start.toInt := by
  have hda := distinct_allocate hd registers
  rw [Allocation.find?_register_iff hda] at hu hv
  rw [Ranges.find?_eq_some_iff hd] at hx hy
  exact Scan.apart_allocate hd hs hr _ (r.intervals_perm.mem_iff.mpr hx) _
    (r.intervals_perm.mem_iff.mpr hy) hne q hu hv

end

/-- The check accepts every allocation of ranges that start at positions. -/
theorem check_allocate {r : Ranges} (hd : r.Distinct) (hs : r.StartsNonneg) {registers : List Reg}
    (hr : registers.Nodup) (hsize : r.size ≤ UInt64.size) :
    check r (allocate r registers) = none := by
  have hslots := (slots_allocate_le hd registers).trans hsize
  refine (check_eq_none_iff hd).mpr ⟨size_allocate hd registers,
    fun v x hx => exists_allocate_find? hd registers hx, ?_, ?_⟩
  · intro u v x y n hne _ _ hu hv
    exact hne (Allocation.eq_of_find?_spilled hslots hu hv)
  · intro u v x y q hne hx hy hu hv
    have hapart := allocate_disjoint hd registers hs hr hx hy hne hu hv
    exact LiveRange.overlaps_eq_false_iff.mpr (hapart.imp Int.le_of_lt Int.le_of_lt)

/-- The allocation is safe for the ranges: of two variables in one register one ends before the
other starts, and the check finds no defect. Slots are numbered by 64-bit words, so the check can
only tell them apart if there are not more variables than words. -/
structure Safe (r : Ranges) (a : Allocation) : Prop where
  apart : ∀ u v q, u ≠ v → a.find? u = some (.register q) → a.find? v = some (.register q) →
    ∃ x y, r.find? u = some x ∧ r.find? v = some y ∧ (x.stop < y.start ∨ y.stop < x.start)
  accepted : r.size ≤ UInt64.size → checkBoth (some r) (some a) = none

/-- A variable with a register has a range. -/
theorem exists_range {r : Ranges} (hd : r.Distinct) {registers : List Reg} {v : Var} {q : Reg}
    (h : (allocate r registers).find? v = some (.register q)) : ∃ x, r.find? v = some x := by
  rw [Allocation.find?_register_iff (distinct_allocate hd registers)] at h
  have hm : v ∈ r.entries.map (·.var) := (allocate_perm hd registers).mem_iff.mp
    (List.mem_append_left _ (List.mem_map.mpr ⟨_, h, rfl⟩))
  exact Option.isSome_iff_exists.mp ((r.find?_isSome v).mpr hm)

theorem safe_allocate {r : Ranges} (hd : r.Distinct) (hs : r.StartsNonneg) {registers : List Reg}
    (hr : registers.Nodup) : Safe r (allocate r registers) where
  apart := by
    intro u v q hne hu hv
    obtain ⟨x, hx⟩ := exists_range hd hu
    obtain ⟨y, hy⟩ := exists_range hd hv
    refine ⟨x, y, hx, hy, ?_⟩
    rw [Int64.lt_iff_toInt_lt, Int64.lt_iff_toInt_lt]
    exact allocate_disjoint hd registers hs hr hx hy hne hu hv
  accepted := check_allocate hd hs hr

/-- A scan with distinct registers is safe for all ranges that start at positions, also for empty
and inverted ones, and so it is for the ranges of all code. -/
theorem scan_is_safe {registers : List Reg} (hr : registers.Nodup) :
    (∀ entries : List Interval,
      (∀ v x, (Ranges.ofList entries).find? v = some x → 0 ≤ x.start) →
        Safe (.ofList entries) (allocate (.ofList entries) registers)) ∧
    ∀ code : List Instr, code.length < positions →
      Safe (.analyze code) (allocate (.analyze code) registers) := by
  refine ⟨fun entries hstart => ?_, fun code hlen => ?_⟩
  · have hd := Ranges.distinct_ofList entries
    refine safe_allocate hd (fun e he => ?_) hr
    exact Int64.le_iff_toInt_le.mp (hstart _ _ ((Ranges.find?_eq_some_iff hd).mpr he))
  · exact safe_allocate (Ranges.distinct_analyze code) (Ranges.startsNonneg_analyze hlen) hr

/-- One register and an inverted range: the first variable loses the register to the second, and the
third, whose range is inverted, has it next. -/
theorem scan_is_safe_inverted :
    let r := Ranges.ofList [⟨.temp 1, ⟨0, 9⟩⟩, ⟨.temp 2, ⟨1, 3⟩⟩, ⟨.temp 3, ⟨4, 2⟩⟩]
    (allocate r [7]).find? (.temp 1) = some (.spilled 0) ∧
      (allocate r [7]).find? (.temp 2) = some (.register 7) ∧
      (allocate r [7]).find? (.temp 3) = some (.register 7) ∧ Safe r (allocate r [7]) := by
  refine ⟨by cbv, by cbv, by cbv, (scan_is_safe (by decide)).1 _ fun v x h => ?_⟩
  have hm := Ranges.mem_of_find?_ofList h
  simp only [List.mem_cons, Interval.mk.injEq, List.not_mem_nil, or_false] at hm
  rcases hm with ⟨-, rfl⟩ | ⟨-, rfl⟩ | ⟨-, rfl⟩ <;> decide

end StraightLine.Alloc
