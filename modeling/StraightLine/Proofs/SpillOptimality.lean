import StraightLine.Proofs.AllocationSafety

/-! The scan spills as few variables as possible. Variables can be kept in registers together if at
every position not more of them are alive than there are registers. The variables that the scan keeps
have this property, and no set with it is larger: whenever the scan spills a variable, a set that has
the variable can do without it, because one of the others that are alive at this position is not in
the set and ends no later. -/

namespace StraightLine.Range.Ranges

open StraightLine.Code

def vars (r : Ranges) : Finset Var := (r.entries.map (·.var)).toFinset

/-- The variable is alive at a position; both ends of its range count. -/
def aliveAt (r : Ranges) (p : Int64) (v : Var) : Bool :=
  match r.find? v with
  | some x => x.start ≤ p && p ≤ x.stop
  | none => false

/-- At every position at most `k` of the variables are alive. -/
def Fits (r : Ranges) (k : Nat) (vs : Finset Var) : Prop :=
  ∀ p, (vs.filter fun v => r.aliveAt p v).card ≤ k

/-- All ranges start at a position and have one at least. -/
def Upright (r : Ranges) : Prop :=
  ∀ e ∈ r.entries, 0 ≤ e.range.start.toInt ∧ e.range.start.toInt ≤ e.range.stop.toInt

theorem Upright.startsNonneg {r : Ranges} (h : r.Upright) : r.StartsNonneg := fun e he => (h e he).1

theorem mem_vars {r : Ranges} {v : Var} : v ∈ r.vars ↔ ∃ e ∈ r.intervals, e.var = v := by
  simp only [vars, List.mem_toFinset, List.mem_map, r.intervals_perm.mem_iff]

theorem card_vars {r : Ranges} (hd : r.Distinct) : r.vars.card = r.size := by
  rw [vars, List.toFinset_card_of_nodup hd, List.length_map]
  rfl

theorem aliveAt_iff {r : Ranges} (hd : r.Distinct) {e : Interval} (he : e ∈ r.intervals) {p : Int64} :
    r.aliveAt p e.var = true ↔
      e.range.start.toInt ≤ p.toInt ∧ p.toInt ≤ e.range.stop.toInt := by
  have hf := (find?_eq_some_iff hd).mpr (r.intervals_perm.mem_iff.mp he)
  simp only [aliveAt, hf, Bool.and_eq_true, decide_eq_true_eq, Int64.le_iff_toInt_le]

theorem upright_analyze {code : List Instr} (h : code.length < positions) :
    (analyze code).Upright := fun _ he =>
  have hb := bounds_of_mem_analyze h he
  ⟨hb.1, Int.le_of_lt hb.2.1⟩

section

variable {r : Ranges} {k : Nat} {vs : Finset Var}

/-- A set in which more than `k` variables would be alive at a position misses one of them. -/
theorem Fits.exists_not_mem (h : r.Fits k vs) {p : Int64} {ws : Finset Var} (hk : k < ws.card)
    (hp : ∀ v ∈ ws, r.aliveAt p v = true) : ∃ v ∈ ws, v ∉ vs := by
  by_contra hno
  have hsub : ws ⊆ vs.filter fun v => r.aliveAt p v := by
    intro v hv
    refine Finset.mem_filter.mpr ⟨?_, hp v hv⟩
    by_contra hm
    exact hno ⟨v, hv, hm⟩
  have hle := Finset.card_le_card hsub
  have := h p
  omega

/-- Where a variable is alive only if another one is, it can take the place of the other one. -/
theorem card_exchange_le {p : Int64} {u v : Var} (hu : u ∈ vs)
    (halive : r.aliveAt p v = true → r.aliveAt p u = true) :
    ((insert v (vs.erase u)).filter fun w => r.aliveAt p w).card ≤
      (vs.filter fun w => r.aliveAt p w).card := by
  rw [Finset.filter_insert]
  split
  · rename_i hv
    have hmem : u ∈ vs.filter fun w => r.aliveAt p w := Finset.mem_filter.mpr ⟨hu, halive hv⟩
    rw [Finset.filter_erase]
    refine (Finset.card_insert_le _ _).trans ?_
    rw [Finset.card_erase_add_one hmem]
  · exact Finset.card_le_card (Finset.filter_subset_filter _ (Finset.erase_subset u vs))

end

end StraightLine.Range.Ranges

namespace StraightLine.Alloc

open StraightLine.Code StraightLine.Range

def Allocation.kept (a : Allocation) : Finset Var := (a.regs.map (·.1)).toFinset

namespace Scan

/-- Every set of variables that fits can be exchanged for one that is not smaller, fits too, and has
no spilled variable. -/
def Spares (r : Ranges) (k : Nat) (s : Scan) : Prop :=
  ∀ vs ⊆ r.vars, r.Fits k vs →
    ∃ ws ⊆ r.vars, r.Fits k ws ∧ vs.card ≤ ws.card ∧ ∀ v ∈ ws, v ∉ s.alloc.slots

/-- The next range is due: of all ranges those that start before it were taken, none of the taken ones
starts behind it, and the active ones reach it. -/
structure Due (r : Ranges) (registers : List Reg) (seen : List Interval) (e : Interval) (s : Scan) :
    Prop where
  inv : Inv registers seen s
  finished : Finished seen e.range.start.toInt s
  fresh : (seen.map (·.var) ++ [e.var]).Nodup
  listed : ∀ f ∈ seen ++ [e], f ∈ r.intervals
  begun : ∀ f ∈ seen ++ [e], f.range.start.toInt ≤ e.range.start.toInt
  earlier : ∀ f ∈ r.intervals, f.range.start.toInt < e.range.start.toInt → f ∈ seen
  reached : ∀ a ∈ s.active, e.range.start.toInt ≤ a.stop.toInt
  upright : e.range.start.toInt ≤ e.range.stop.toInt

section

variable {r : Ranges} {registers : List Reg} {seen : List Interval} {s : Scan} {e : Interval}

theorem mem_kept {a : Allocation} {v : Var} : v ∈ a.kept ↔ ∃ q, (v, q) ∈ a.regs := by
  simp [Allocation.kept]

/-- Placing a range gives a register to no variable but its own. -/
theorem kept_place_subset (e : Interval) (s : Scan) :
    (s.place e).alloc.kept ⊆ insert e.var s.alloc.kept := by
  intro v hv
  obtain ⟨q, hq⟩ := mem_kept.mp hv
  rw [Finset.mem_insert, mem_kept]
  rcases place_cases e s with ⟨r, free, -, hp⟩ | ⟨-, init, last, -, -, hp⟩ | ⟨-, -, hp⟩ <;>
    rw [hp] at hq
  · rcases mem_regs_assign.mp hq with hq | ⟨hv, -⟩
    · exact .inr ⟨q, hq⟩
    · exact .inl hv
  · rcases mem_regs_assign.mp hq with hq | ⟨hv, -⟩
    · exact .inr ⟨q, List.mem_of_mem_filter hq⟩
    · exact .inl hv
  · exact .inr ⟨q, List.mem_of_mem_filter hq⟩

/-- The active variables are not more than the registers. -/
theorem Inv.length_active_le (h : Inv registers seen s) : s.active.length ≤ registers.length := by
  have hlen := h.pool.length_eq
  rw [List.length_append, List.length_map] at hlen
  omega

/-- From the start of the new range on, what is kept and alive is active, and before it nothing is
new. -/
theorem Due.fits_kept (h : Due r registers seen e s) (hd : r.Distinct)
    (hk : r.Fits registers.length s.alloc.kept) :
    r.Fits registers.length (s.place e).alloc.kept := by
  have hinv := h.inv.place h.fresh
  have hfin := h.finished.place h.inv h.fresh
  intro p
  by_cases hp : e.range.start.toInt ≤ p.toInt
  · have hsub : ((s.place e).alloc.kept.filter fun v => r.aliveAt p v) ⊆
        ((s.place e).active.map (·.var)).toFinset := by
      intro v hv
      obtain ⟨hv, halive⟩ := Finset.mem_filter.mp hv
      obtain ⟨q, hq⟩ := mem_kept.mp hv
      obtain ⟨f, hf, rfl⟩ := List.mem_map.mp (hinv.mem_seen hq)
      have hstop := ((Ranges.aliveAt_iff hd (h.listed f hf)).mp halive).2
      rcases hfin f hf q hq with ha | hlt
      · exact List.mem_toFinset.mpr (List.mem_map.mpr ⟨_, ha, rfl⟩)
      · omega
    calc ((s.place e).alloc.kept.filter fun v => r.aliveAt p v).card
        ≤ ((s.place e).active.map (·.var)).toFinset.card := Finset.card_le_card hsub
      _ ≤ ((s.place e).active.map (·.var)).length := List.toFinset_card_le _
      _ = (s.place e).active.length := List.length_map _
      _ ≤ registers.length := hinv.length_active_le
  · refine (Finset.card_le_card ?_).trans (hk p)
    intro v hv
    obtain ⟨hv, halive⟩ := Finset.mem_filter.mp hv
    refine Finset.mem_filter.mpr ⟨?_, halive⟩
    rcases Finset.mem_insert.mp (kept_place_subset e s hv) with rfl | hv
    · exact absurd ((Ranges.aliveAt_iff hd (h.listed e (by simp))).mp halive).1 hp
    · exact hv

/-! ## Exchange -/

/-- The variables that compete for the registers when a range is due: its own and the active ones. -/
def rivals (e : Interval) (s : Scan) : Finset Var := insert e.var (s.active.map (·.var)).toFinset

/-- When no register is free, there are more rivals than registers. -/
theorem Due.lt_card_rivals (h : Due r registers seen e s) (hfree : s.free = []) :
    registers.length < (rivals e s).card := by
  have hnew : e.var ∉ (s.active.map (·.var)).toFinset := by
    intro hm
    obtain ⟨a, ha, hv⟩ := List.mem_map.mp (List.mem_toFinset.mp hm)
    exact not_mem_of_nodup h.fresh (hv ▸ h.inv.mem_seen (h.inv.held a ha).1)
  have hlen := h.inv.pool.length_eq
  rw [hfree, List.nil_append, List.length_map] at hlen
  rw [rivals, Finset.card_insert_of_notMem hnew, List.toFinset_card_of_nodup h.inv.distinct,
    List.length_map, hlen]
  exact Nat.lt_succ_self _

/-- A rival was not spilled, it has a range that reaches the new one, and if neither the new range nor
an active one ends behind `stop`, its range does not. -/
theorem Due.rival (h : Due r registers seen e s) {v : Var} (hv : v ∈ rivals e s) :
    v ∉ s.alloc.slots ∧ ∃ f ∈ seen ++ [e], f.var = v ∧
      e.range.start.toInt ≤ f.range.stop.toInt ∧
      ∀ stop : Int, e.range.stop.toInt ≤ stop → (∀ a ∈ s.active, a.stop.toInt ≤ stop) →
        f.range.stop.toInt ≤ stop := by
  rcases Finset.mem_insert.mp hv with rfl | hv
  · refine ⟨fun hm => not_mem_of_nodup h.fresh ?_, e, by simp, rfl, h.upright, fun _ he _ => he⟩
    exact h.inv.placed.mem_iff.mp (List.mem_append_right _ hm)
  · obtain ⟨a, ha, rfl⟩ := List.mem_map.mp (List.mem_toFinset.mp hv)
    obtain ⟨hreg, f, hf, hfv, hstop⟩ := h.inv.held a ha
    have hnodup := h.inv.placed.nodup_iff.mpr (nodup_seen h.fresh)
    refine ⟨fun hm => ?_, f, List.mem_append_left _ hf, hfv, ?_, fun stop _ hle => ?_⟩
    · exact (List.nodup_append.mp hnodup).2.2 _ (List.mem_map.mpr ⟨_, hreg, rfl⟩) _ hm rfl
    · rw [hstop]
      exact h.reached a ha
    · rw [hstop]
      exact hle a ha

/-- When the rival that ends last is spilled, a set that has it can take another rival instead. -/
theorem Due.spares_of_spill (h : Due r registers seen e s) (hd : r.Distinct)
    (hfits : r.Fits registers.length (s.place e).alloc.kept) (hspares : Spares r registers.length s)
    (hfree : s.free = []) {x : Interval} (hx : x ∈ seen ++ [e])
    (hslots : (s.place e).alloc.slots = s.alloc.slots ++ [x.var])
    (hnew : e.range.stop.toInt ≤ x.range.stop.toInt)
    (hlast : ∀ a ∈ s.active, a.stop.toInt ≤ x.range.stop.toInt) :
    Spares r registers.length (s.place e) := by
  intro vs hvs hfit
  obtain ⟨ws, hws, hfit, hcard, hclear⟩ := hspares vs hvs hfit
  by_cases hxw : x.var ∈ ws
  · -- one of the rivals is not in the set, since all of them are alive where the new range starts
    obtain ⟨v, hv, hvw⟩ := hfit.exists_not_mem (p := e.range.start) (h.lt_card_rivals hfree)
      fun v hv => by
        obtain ⟨-, f, hf, rfl, hreach, -⟩ := h.rival hv
        exact (Ranges.aliveAt_iff hd (h.listed f hf)).mpr ⟨h.begun f hf, hreach⟩
    obtain ⟨hvs', f, hf, rfl, -, hstop⟩ := h.rival hv
    have hends := hstop _ hnew hlast
    have hclear' : ∀ w ∈ insert f.var (ws.erase x.var), w ∉ (s.place e).alloc.slots := by
      intro w hw hm
      rw [hslots, List.mem_append, List.mem_singleton] at hm
      rcases Finset.mem_insert.mp hw with rfl | hw
      · rcases hm with hm | hm
        · exact hvs' hm
        · exact hvw (hm ▸ hxw)
      · obtain ⟨hne, hw⟩ := Finset.mem_erase.mp hw
        rcases hm with hm | hm
        · exact hclear w hw hm
        · exact hne hm
    have hsub : insert f.var (ws.erase x.var) ⊆ r.vars := by
      intro w hw
      rcases Finset.mem_insert.mp hw with rfl | hw
      · exact Ranges.mem_vars.mpr ⟨f, h.listed f hf, rfl⟩
      · exact hws (Finset.mem_of_mem_erase hw)
    refine ⟨_, hsub, fun p => ?_, ?_, hclear'⟩
    · by_cases hp : e.range.start.toInt ≤ p.toInt
      · -- here the spilled variable is alive wherever the other one is
        refine (Ranges.card_exchange_le hxw fun halive => ?_).trans (hfit p)
        have hle := ((Ranges.aliveAt_iff hd (h.listed f hf)).mp halive).2
        have hbegun := h.begun x hx
        exact (Ranges.aliveAt_iff hd (h.listed x hx)).mpr ⟨by omega, by omega⟩
      · -- before it only taken ranges are alive, and the set has none but kept ones
        refine (Finset.card_le_card ?_).trans (hfits p)
        intro w hw
        obtain ⟨hw, halive⟩ := Finset.mem_filter.mp hw
        refine Finset.mem_filter.mpr ⟨?_, halive⟩
        obtain ⟨g, hg, rfl⟩ := Ranges.mem_vars.mp (hsub hw)
        have hstart := ((Ranges.aliveAt_iff hd hg).mp halive).1
        have hseen := h.earlier g hg (by omega)
        have hplaced := (h.inv.place h.fresh).placed.mem_iff.mpr
          (List.mem_map.mpr ⟨g, List.mem_append_left _ hseen, rfl⟩)
        exact List.mem_toFinset.mpr
          ((List.mem_append.mp hplaced).resolve_right (hclear' _ hw))
    · rw [Finset.card_insert_of_notMem fun hm => hvw (Finset.mem_of_mem_erase hm),
        Finset.card_erase_add_one hxw]
      exact hcard
  · refine ⟨ws, hws, hfit, hcard, fun w hw hm => ?_⟩
    rw [hslots, List.mem_append, List.mem_singleton] at hm
    rcases hm with hm | rfl
    · exact hclear w hw hm
    · exact hxw hw

/-- No active variable ends behind the last one. -/
theorem Inv.stop_le_last (h : Inv registers seen s) {last : Active}
    (hl : s.active.getLast? = some last) : ∀ a ∈ s.active, a.stop.toInt ≤ last.stop.toInt := by
  obtain ⟨init, hact⟩ := List.getLast?_eq_some_iff.mp hl
  have hord := h.ordered
  rw [hact, List.pairwise_append] at hord
  intro a ha
  rw [hact] at ha
  rcases List.mem_append.mp ha with ha | ha
  · exact hord.2.2 a ha last (by simp)
  · rw [List.mem_singleton.mp ha]

theorem Due.spares (h : Due r registers seen e s) (hd : r.Distinct)
    (hfits : r.Fits registers.length s.alloc.kept) (hspares : Spares r registers.length s) :
    Spares r registers.length (s.place e) := by
  have hkept := h.fits_kept hd hfits
  rcases place_cases e s with
    ⟨q, free, -, hp⟩ | ⟨hfree, init, last, hact, hlt, hp⟩ | ⟨hfree, hle, hp⟩
  · rw [hp]
    exact hspares
  · have hl : s.active.getLast? = some last := by simp [hact]
    obtain ⟨-, x, hx, hv, hstop⟩ := h.inv.held last (by simp [hact])
    rw [Int64.lt_iff_toInt_lt] at hlt
    refine h.spares_of_spill hd hkept hspares hfree (List.mem_append_left _ hx) ?_ ?_ ?_
    · rw [hp, hv]
      rfl
    · rw [hstop]
      omega
    · rw [hstop]
      exact h.inv.stop_le_last hl
  · refine h.spares_of_spill hd hkept hspares hfree (x := e) (by simp) ?_ (Int.le_refl _) ?_
    · rw [hp]
      rfl
    · intro a ha
      cases hl : s.active.getLast? with
      | none =>
        rw [List.getLast?_eq_none_iff.mp hl] at ha
        cases ha
      | some last =>
        have hlast := h.inv.stop_le_last hl a ha
        have hnot := hle last hl
        rw [Int64.lt_iff_toInt_lt] at hnot
        omega

/-! ## A whole run -/

/-- What the scan keeps fits, and sets that fit can do without what it spills. -/
structure Thrifty (r : Ranges) (k : Nat) (s : Scan) : Prop where
  fits : r.Fits k s.alloc.kept
  spares : Spares r k s

theorem thrifty_start (r : Ranges) (registers : List Reg) :
    Thrifty r registers.length (start registers) where
  fits := fun _ => Nat.zero_le _
  spares := fun vs hvs hfit => ⟨vs, hvs, hfit, Nat.le_refl _, fun _ _ => List.not_mem_nil⟩

theorem Thrifty.run (h : Thrifty r registers.length s) (hd : r.Distinct) (hu : r.Upright)
    {pos : Int} (hi : Inv registers seen s) (hf : Finished seen pos s) {es : List Interval}
    (hr : r.intervals = seen ++ es) (hpos : ∀ e ∈ es, pos ≤ e.range.start.toInt) :
    Thrifty r registers.length (s.run es) := by
  induction es generalizing seen s pos with
  | nil => exact h
  | cons e es ih =>
    have hsorted := Ranges.intervals_sorted hu.startsNonneg
    have hnodup := nodup_intervals hd
    rw [hr, List.append_cons] at hsorted hnodup
    rw [List.append_cons] at hr
    obtain ⟨hfirst, -, hbefore⟩ := List.pairwise_append.mp hsorted
    have hfresh : (seen.map (·.var) ++ [e.var]).Nodup := by
      rw [List.map_append, List.nodup_append] at hnodup
      simpa using hnodup.1
    have hdue : Due r registers seen e (s.expire e.range.start) := by
      refine ⟨hi.expire _, hf.expire (hpos e (by simp)), hfresh, ?_, ?_, ?_, hi.expire_le _, ?_⟩
      · intro f hm
        rw [hr]
        exact List.mem_append_left _ hm
      · intro f hm
        rcases List.mem_append.mp hm with hm | hm
        · exact (List.pairwise_append.mp hfirst).2.2 f hm e (by simp)
        · rw [List.mem_singleton.mp hm]
      · intro f hm hlt
        rw [hr] at hm
        rcases List.mem_append.mp hm with hm | hm
        · rcases List.mem_append.mp hm with hm | hm
          · exact hm
          · rw [List.mem_singleton.mp hm] at hlt
            omega
        · have := hbefore e (by simp) f hm
          omega
      · exact (hu e (r.intervals_perm.mem_iff.mp (hr ▸ by simp))).2
    -- giving registers back changes no place
    have hexp : Thrifty r registers.length (s.expire e.range.start) := ⟨h.fits, h.spares⟩
    exact ih ⟨hdue.fits_kept hd hexp.fits, hdue.spares hd hexp.fits hexp.spares⟩
      (hdue.inv.place hfresh) (hdue.finished.place hdue.inv hfresh) hr
      fun f hm => hbefore e (by simp) f hm

end

theorem thrifty_allocate {r : Ranges} (hd : r.Distinct) (hu : r.Upright) (registers : List Reg) :
    Thrifty r registers.length ((start registers).run r.intervals) := by
  have hf : Finished [] 0 (start registers) := fun _ h => absurd h List.not_mem_nil
  exact (thrifty_start r registers).run hd hu (inv_start registers) hf rfl fun e he =>
    (hu e (r.intervals_perm.mem_iff.mp he)).1

end Scan

/-- The allocation keeps as many variables in `k` registers as possible. What it keeps fits, and no set
of variables that fits is larger; so nothing is spilled if and only if all variables fit. -/
structure Optimal (r : Ranges) (k : Nat) (a : Allocation) : Prop where
  kept_subset : a.kept ⊆ r.vars
  kept_fits : r.Fits k a.kept
  card_kept : a.kept.card = a.size - a.spillSlots
  largest : ∀ vs ⊆ r.vars, r.Fits k vs → vs.card ≤ a.size - a.spillSlots
  spillSlots_eq_zero_iff : a.spillSlots = 0 ↔ r.Fits k r.vars

theorem card_kept_allocate {r : Ranges} (hd : r.Distinct) (registers : List Reg) :
    (allocate r registers).kept.card =
      (allocate r registers).size - (allocate r registers).spillSlots := by
  have hk := (List.nodup_append.mp (distinct_allocate hd registers)).1
  rw [Allocation.kept, List.toFinset_card_of_nodup hk, List.length_map, Allocation.size,
    Allocation.spillSlots, Nat.add_sub_cancel]

theorem kept_allocate_subset {r : Ranges} (hd : r.Distinct) (registers : List Reg) :
    (allocate r registers).kept ⊆ r.vars := by
  intro v hv
  exact List.mem_toFinset.mpr ((allocate_perm hd registers).mem_iff.mp
    (List.mem_append_left _ (List.mem_toFinset.mp hv)))

theorem card_le_kept {r : Ranges} (hd : r.Distinct) (hu : r.Upright) (registers : List Reg)
    {vs : Finset Var} (hvs : vs ⊆ r.vars) (hfit : r.Fits registers.length vs) :
    vs.card ≤ (allocate r registers).kept.card := by
  obtain ⟨ws, hws, -, hcard, hclear⟩ := (Scan.thrifty_allocate hd hu registers).spares vs hvs hfit
  refine hcard.trans (Finset.card_le_card fun v hv => ?_)
  -- every variable has a place, and this one is not spilled
  have hplaced := (allocate_perm hd registers).mem_iff.mpr (List.mem_toFinset.mp (hws hv))
  exact List.mem_toFinset.mpr ((List.mem_append.mp hplaced).resolve_right (hclear v hv))

theorem optimal_allocate {r : Ranges} (hd : r.Distinct) (hu : r.Upright) (registers : List Reg) :
    Optimal r registers.length (allocate r registers) := by
  have hfits := (Scan.thrifty_allocate hd hu registers).fits
  have hsub := kept_allocate_subset hd registers
  have hcard := card_kept_allocate hd registers
  have hsize := size_allocate hd registers
  have hle := slots_allocate_le hd registers
  have hlargest : ∀ vs ⊆ r.vars, r.Fits registers.length vs →
      vs.card ≤ (allocate r registers).size - (allocate r registers).spillSlots :=
    fun vs hvs hfit => hcard ▸ card_le_kept hd hu registers hvs hfit
  refine ⟨hsub, hfits, hcard, hlargest, fun hzero => ?_, fun hfit => ?_⟩
  · -- what is kept is everything
    have hall : (allocate r registers).kept = r.vars := by
      refine Finset.eq_of_subset_of_card_le hsub ?_
      rw [hcard, hzero, hsize, Ranges.card_vars hd]
      exact Nat.le_refl _
    exact hall ▸ hfits
  · have hmax := hlargest _ (Finset.Subset.refl _) hfit
    rw [Ranges.card_vars hd, hsize] at hmax
    have hslots : (allocate r registers).spillSlots = (allocate r registers).slots.length := rfl
    omega

/-- The scan spills as few variables as possible, for all registers and all ranges that start at a
position and are not inverted, and so it does for the ranges of all code. -/
theorem scan_spills_least (registers : List Reg) :
    (∀ entries : List Interval,
      (∀ v x, (Ranges.ofList entries).find? v = some x → 0 ≤ x.start ∧ x.start ≤ x.stop) →
        Optimal (.ofList entries) registers.length (allocate (.ofList entries) registers)) ∧
    ∀ code : List Instr, code.length < positions →
      Optimal (.analyze code) registers.length (allocate (.analyze code) registers) := by
  refine ⟨fun entries hrange => ?_, fun code hlen => ?_⟩
  · have hd := Ranges.distinct_ofList entries
    refine optimal_allocate hd (fun e he => ?_) registers
    obtain ⟨hstart, hstop⟩ := hrange _ _ ((Ranges.find?_eq_some_iff hd).mpr he)
    exact ⟨Int64.le_iff_toInt_le.mp hstart, Int64.le_iff_toInt_le.mp hstop⟩
  · exact optimal_allocate (Ranges.distinct_analyze code) (Ranges.upright_analyze hlen) registers

/-- Two registers that are one and the same, and three ranges that meet at a position: one variable is
spilled, and no allocation keeps all of them. -/
theorem scan_spills_least_crossing :
    let r := Ranges.ofList [⟨.temp 1, ⟨0, 9⟩⟩, ⟨.temp 2, ⟨1, 3⟩⟩, ⟨.temp 3, ⟨3, 5⟩⟩]
    (allocate r [7, 7]).spillSlots = 1 ∧ Optimal r 2 (allocate r [7, 7]) := by
  refine ⟨by cbv, (scan_spills_least [7, 7]).1 _ fun v x h => ?_⟩
  have hm := Ranges.mem_of_find?_ofList h
  simp only [List.mem_cons, Interval.mk.injEq, List.not_mem_nil, or_false] at hm
  rcases hm with ⟨-, rfl⟩ | ⟨-, rfl⟩ | ⟨-, rfl⟩ <;> decide

end StraightLine.Alloc
