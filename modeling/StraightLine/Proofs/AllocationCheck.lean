import Mathlib.Data.List.Pairwise
import StraightLine.Alloc.Check
import StraightLine.Proofs.ScanInvariant

/-! What the check of an allocation looks at. It passes over the ranges twice, once for locations and
slots and once for registers, and finds no defect if and only if the allocation conforms to the ranges:
it has as many entries as there are ranges, all variables have locations, no two of them share a slot,
and no two of them whose ranges overlap share a register. -/

namespace StraightLine.Alloc

open StraightLine.Code StraightLine.Range

section

variable {a : Allocation} {seen : List (Int64 × Var)} {e : Interval} {es : List Interval}
  {placed : List (Interval × Location)}

/-- The slot of the location is none of those seen so far. -/
def FreshSlot (seen : List (Int64 × Var)) (l : Location) : Prop :=
  ∀ n, l = .spilled n → ∀ p ∈ seen, p.1 ≠ n

/-- The slots seen so far, and the one of the location. -/
def withSlot (seen : List (Int64 × Var)) (v : Var) : Location → List (Int64 × Var)
  | .spilled n => (n, v) :: seen
  | _ => seen

def SlotsApart (p q : Interval × Location) : Prop := ∀ n, p.2 = .spilled n → q.2 ≠ .spilled n

theorem freshSlot_withSlot {v : Var} {l k : Location} :
    FreshSlot (withSlot seen v l) k ↔ FreshSlot seen k ∧ ∀ n, l = .spilled n → k ≠ .spilled n := by
  cases l <;> cases k <;> simp [FreshSlot, withSlot, and_comm, eq_comm]

/-- A location whose slot was not seen is put in front of those of the other variables. -/
theorem placeAll_cons_of_fresh {l : Location} (hl : a.find? e.var = some l) (hf : FreshSlot seen l) :
    placeAll a seen (e :: es) =
      (placeAll a (withSlot seen e.var l) es).map fun rest => (e, l) :: rest := by
  have hbind : ∀ x : Except Defect (List (Interval × Location)),
      (do let rest ← x; return (e, l) :: rest) = x.map fun rest => (e, l) :: rest := by
    intro x
    cases x <;> rfl
  cases l with
  | spilled n =>
    have hnew : seen.find? (fun p => decide (p.1 = n)) = none :=
      List.find?_eq_none.mpr fun p hp => by simpa using hf n rfl p hp
    simp only [placeAll, hl, hnew]
    exact hbind _
  | register r =>
    simp only [placeAll, hl]
    exact hbind _
  | untagged r n =>
    simp only [placeAll, hl]
    exact hbind _

theorem placeAll_cons_of_seen {l : Location} (hl : a.find? e.var = some l) (hf : ¬ FreshSlot seen l)
    (es : List Interval) : ∃ d, placeAll a seen (e :: es) = .error d := by
  simp only [FreshSlot, not_forall, not_not] at hf
  obtain ⟨n, rfl, p, hp, hpn⟩ := hf
  cases hs : seen.find? fun p => decide (p.1 = n) with
  | none => simpa [hpn] using List.find?_eq_none.mp hs p hp
  | some q =>
    simp only [placeAll, hl, hs]
    exact ⟨_, rfl⟩

/-- What looking the first variable up can do. -/
theorem placeAll_cons_eq_ok_iff : placeAll a seen (e :: es) = .ok placed ↔
    ∃ l rest, placed = (e, l) :: rest ∧ a.find? e.var = some l ∧ FreshSlot seen l ∧
      placeAll a (withSlot seen e.var l) es = .ok rest := by
  cases hl : a.find? e.var with
  | none => simp [placeAll, hl]
  | some l =>
    by_cases hf : FreshSlot seen l
    · rw [placeAll_cons_of_fresh hl hf]
      cases hrest : placeAll a (withSlot seen e.var l) es with
      | ok rest => simp [Except.map, hf, hrest, eq_comm]
      | error d => simp [Except.map, hrest]
    · obtain ⟨d, hd⟩ := placeAll_cons_of_seen hl hf es
      simp [hd, hf]

/-- Looking all variables up gives each its location, and it succeeds if and only if each has one and
no slot comes twice. -/
theorem placeAll_eq_ok_iff : placeAll a seen es = .ok placed ↔
    placed.map (·.1) = es ∧ (∀ p ∈ placed, a.find? p.1.var = some p.2 ∧ FreshSlot seen p.2) ∧
      placed.Pairwise SlotsApart := by
  induction es generalizing seen placed with
  | nil =>
    cases placed with
    | nil => simp [placeAll]
    | cons p placed => simp [placeAll]
  | cons e es ih =>
    rw [placeAll_cons_eq_ok_iff]
    constructor
    · rintro ⟨l, rest, rfl, hl, hf, hrest⟩
      obtain ⟨hm, hall, happart⟩ := ih.mp hrest
      refine ⟨by rw [List.map_cons, hm], ?_, List.pairwise_cons.mpr ⟨fun q hq => ?_, happart⟩⟩
      · intro p hp
        rcases List.mem_cons.mp hp with rfl | hp
        · exact ⟨hl, hf⟩
        · exact ⟨(hall p hp).1, (freshSlot_withSlot.mp (hall p hp).2).1⟩
      · exact (freshSlot_withSlot.mp (hall q hq).2).2
    · rintro ⟨hm, hall, happart⟩
      cases placed with
      | nil => cases hm
      | cons p rest =>
        rw [List.map_cons, List.cons.injEq] at hm
        obtain ⟨rfl, hm⟩ := hm
        obtain ⟨hp, happart⟩ := List.pairwise_cons.mp happart
        obtain ⟨hl, hf⟩ := hall p List.mem_cons_self
        refine ⟨p.2, rest, rfl, hl, hf, ih.mpr ⟨hm, fun q hq => ?_, happart⟩⟩
        obtain ⟨hql, hqf⟩ := hall q (List.mem_cons_of_mem _ hq)
        exact ⟨hql, freshSlot_withSlot.mpr ⟨hqf, hp q hq⟩⟩

def RegistersApart (p q : Interval × Location) : Prop :=
  ∀ r, p.2 = .register r → q.2 = .register r → p.1.range.overlaps q.1.range = false

theorem clash?_eq_none_iff {r : Reg} :
    clash? e r placed = none ↔ ∀ q ∈ placed, RegistersApart (e, .register r) q := by
  rw [clash?, Option.map_eq_none_iff, List.find?_eq_none]
  refine forall₂_congr fun q _ => ?_
  simp only [RegistersApart, Location.register.injEq, Bool.and_eq_true, decide_eq_true_eq, not_and,
    Bool.not_eq_true, forall_eq']

/-- There is no clash if and only if ranges in one register never overlap. -/
theorem firstClash?_eq_none_iff :
    firstClash? placed = none ↔ placed.Pairwise RegistersApart := by
  induction placed with
  | nil => simp [firstClash?]
  | cons p placed ih =>
    obtain ⟨e, l⟩ := p
    rw [List.pairwise_cons, ← ih]
    cases l with
    | register r =>
      rw [← clash?_eq_none_iff, firstClash?]
      cases clash? e r placed <;> simp
    | spilled n => simp [firstClash?, RegistersApart]
    | untagged r n => simp [firstClash?, RegistersApart]

end

/-- The allocation conforms to the ranges: it has as many entries as there are ranges, all variables
with a range have locations, and two of them have different slots, and different registers if their
ranges overlap. -/
structure Conforms (r : Ranges) (a : Allocation) : Prop where
  size : a.size = r.size
  located : ∀ v x, r.find? v = some x → ∃ l, a.find? v = some l
  slots : ∀ u v x y n, u ≠ v → r.find? u = some x → r.find? v = some y →
    a.find? u = some (.spilled n) → a.find? v ≠ some (.spilled n)
  registers : ∀ u v x y q, u ≠ v → r.find? u = some x → r.find? v = some y →
    a.find? u = some (.register q) → a.find? v = some (.register q) → x.overlaps y = false

instance : Std.Symm SlotsApart := ⟨fun _ _ h n hq hp => h n hp hq⟩

instance : Std.Symm RegistersApart :=
  ⟨fun p q h r hq hp => (q.1.range.overlaps_comm p.1.range).trans (h r hp hq)⟩

/-- The two passes of the check. -/
theorem check_eq_none_iff_exists {r : Ranges} {a : Allocation} : check r a = none ↔
    a.size = r.size ∧ ∃ placed, placeAll a [] r.intervals = .ok placed ∧
      firstClash? placed = none := by
  have hlen : r.intervals.length = r.size := r.intervals_perm.length_eq
  rw [check, hlen]
  by_cases hsize : a.size = r.size
  · cases placeAll a [] r.intervals <;> simp [hsize]
  · simp [hsize]

section

variable {r : Ranges} {a : Allocation} {placed : List (Interval × Location)}

theorem mem_intervals_iff (hd : r.Distinct) {v : Var} {x : LiveRange} :
    ⟨v, x⟩ ∈ r.intervals ↔ r.find? v = some x := by
  rw [Ranges.find?_eq_some_iff hd, r.intervals_perm.mem_iff]

/-- Locations that were found, and found apart, conform to the ranges. -/
theorem Conforms.of_placed (hd : r.Distinct) (hsize : a.size = r.size)
    (hm : placed.map (·.1) = r.intervals) (hfind : ∀ p ∈ placed, a.find? p.1.var = some p.2)
    (hslots : placed.Pairwise SlotsApart) (hregisters : placed.Pairwise RegistersApart) :
    Conforms r a := by
  have hplaced : ∀ {v x}, r.find? v = some x → ∃ l, a.find? v = some l ∧ (⟨v, x⟩, l) ∈ placed := by
    intro v x hx
    rw [← mem_intervals_iff hd, ← hm] at hx
    obtain ⟨⟨e, l⟩, hel, rfl⟩ := List.mem_map.mp hx
    exact ⟨l, hfind _ hel, hel⟩
  have hat : ∀ {v x l}, r.find? v = some x → a.find? v = some l → (⟨v, x⟩, l) ∈ placed := by
    intro v x l hx hl
    obtain ⟨k, hk, hkp⟩ := hplaced hx
    rwa [Option.some.inj (hl.symm.trans hk)]
  have hpair : ∀ {u v x y l}, u ≠ v → ((⟨u, x⟩, l) : Interval × Location) ≠ (⟨v, y⟩, l) :=
    fun hne he => hne (congrArg (·.1.var) he)
  refine ⟨hsize, fun v x hx => ?_, fun u v x y n hne hx hy hu hv => ?_,
    fun u v x y q hne hx hy hu hv => ?_⟩
  · obtain ⟨l, hl, -⟩ := hplaced hx
    exact ⟨l, hl⟩
  · have hapart := hslots.forall (hat hx hu) (hat hy hv) (hpair hne)
    exact hapart n rfl rfl
  · have hapart := hregisters.forall (hat hx hu) (hat hy hv) (hpair hne)
    exact hapart q rfl rfl

/-- If an allocation conforms to the ranges, all locations can be found, and they are apart. -/
theorem Conforms.exists_placed (h : Conforms r a) (hd : r.Distinct) :
    ∃ placed : List (Interval × Location), placed.map (·.1) = r.intervals ∧
      (∀ p ∈ placed, a.find? p.1.var = some p.2) ∧ placed.Pairwise SlotsApart ∧
      placed.Pairwise RegistersApart := by
  have hlocated : ∀ e ∈ r.intervals, (a.find? e.var).isSome = true := fun e he =>
    Option.isSome_iff_exists.mpr (h.located e.var e.range ((mem_intervals_iff hd).mp he))
  let placed := r.intervals.pmap (fun e he => (e, (a.find? e.var).get he)) hlocated
  have hm : placed.map (·.1) = r.intervals := by simp [placed, List.map_pmap]
  have hfind : ∀ p ∈ placed, a.find? p.1.var = some p.2 := by
    intro p hp
    obtain ⟨e, -, rfl⟩ := List.mem_pmap.mp hp
    simp
  have hrange : ∀ p ∈ placed, r.find? p.1.var = some p.1.range := fun p hp =>
    (mem_intervals_iff hd).mp (hm ▸ List.mem_map.mpr ⟨p, hp, rfl⟩)
  have hvars : placed.Pairwise fun p q => p.1.var ≠ q.1.var := by
    have hn := Scan.nodup_intervals hd
    rwa [List.Nodup, List.pairwise_map, ← hm, List.pairwise_map] at hn
  refine ⟨placed, hm, hfind, ?_, ?_⟩
  · refine hvars.imp_of_mem fun {p q} hp hq hne n hpn hqn => ?_
    exact h.slots _ _ _ _ n hne (hrange p hp) (hrange q hq) (hpn ▸ hfind p hp) (hqn ▸ hfind q hq)
  · refine hvars.imp_of_mem fun {p q} hp hq hne k hpk hqk => ?_
    exact h.registers _ _ _ _ k hne (hrange p hp) (hrange q hq) (hpk ▸ hfind p hp)
      (hqk ▸ hfind q hq)

/-- The check finds no defect if and only if the allocation conforms to the ranges. -/
theorem check_eq_none_iff (hd : r.Distinct) : check r a = none ↔ Conforms r a := by
  simp only [check_eq_none_iff_exists, placeAll_eq_ok_iff, firstClash?_eq_none_iff]
  constructor
  · rintro ⟨hsize, placed, ⟨hm, hfind, hslots⟩, hregisters⟩
    exact .of_placed hd hsize hm (fun p hp => (hfind p hp).1) hslots hregisters
  · intro h
    obtain ⟨placed, hm, hfind, hslots, hregisters⟩ := h.exists_placed hd
    exact ⟨h.size, placed, ⟨hm, fun p hp => ⟨hfind p hp, by simp [FreshSlot]⟩, hslots⟩, hregisters⟩

end

end StraightLine.Alloc
