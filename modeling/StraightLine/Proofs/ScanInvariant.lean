import Mathlib.Data.List.Nodup
import Mathlib.Data.List.Perm.Basic
import Mathlib.Data.List.TakeWhile
import StraightLine.Alloc.LinearScan
import StraightLine.Proofs.LiveRanges

/-! What holds of a linear scan between two ranges. The free registers and those of the active
variables are the given ones, each range that was taken has one place, and an active variable has
its register in the table. Two more facts need the ranges to come by start: a variable in the table
is active or has ended, and variables with one register have ranges that do not meet. -/

namespace StraightLine.Alloc

open StraightLine.Code StraightLine.Range

namespace Scan

/-- What holds after the ranges `seen`, in whatever order they came. -/
structure Inv (registers : List Reg) (seen : List Interval) (s : Scan) : Prop where
  pool : (s.free ++ s.active.map (·.reg)).Perm registers
  ordered : s.active.Pairwise fun a b => a.stop.toInt ≤ b.stop.toInt
  distinct : (s.active.map (·.var)).Nodup
  placed : (s.alloc.regs.map (·.1) ++ s.alloc.slots).Perm (seen.map (·.var))
  held : ∀ a ∈ s.active, (a.var, a.reg) ∈ s.alloc.regs ∧
    ∃ e ∈ seen, e.var = a.var ∧ e.range.stop = a.stop

/-- A variable that has a register is active, or its range ended before `pos`. -/
def Finished (seen : List Interval) (pos : Int) (s : Scan) : Prop :=
  ∀ e ∈ seen, ∀ r, (e.var, r) ∈ s.alloc.regs →
    ⟨e.var, r, e.range.stop⟩ ∈ s.active ∨ e.range.stop.toInt < pos

def Disjoint (e f : Interval) : Prop :=
  e.range.stop.toInt < f.range.start.toInt ∨ f.range.stop.toInt < e.range.start.toInt

/-- Different variables with one register have disjoint ranges. -/
def Apart (seen : List Interval) (s : Scan) : Prop :=
  ∀ e ∈ seen, ∀ f ∈ seen, e.var ≠ f.var → ∀ r, (e.var, r) ∈ s.alloc.regs →
    (f.var, r) ∈ s.alloc.regs → Disjoint e f

theorem Disjoint.symm {e f : Interval} (h : Disjoint e f) : Disjoint f e := Or.symm h

theorem insertActive_perm (a : Active) (as : List Active) :
    (insertActive a as).Perm (a :: as) := by
  induction as with
  | nil => exact .refl _
  | cons b as ih =>
    simp only [insertActive]
    split
    · exact (ih.cons b).trans (.swap a b as)
    · exact .refl _

theorem insertActive_ordered (a : Active) {as : List Active}
    (h : as.Pairwise fun a b => a.stop.toInt ≤ b.stop.toInt) :
    (insertActive a as).Pairwise fun a b => a.stop.toInt ≤ b.stop.toInt := by
  induction as with
  | nil => simp [insertActive]
  | cons b as ih =>
    obtain ⟨hb, has⟩ := List.pairwise_cons.mp h
    simp only [insertActive]
    split
    · rename_i hlt
      rw [Int64.lt_iff_toInt_lt] at hlt
      refine List.pairwise_cons.mpr ⟨?_, ih has⟩
      intro c hc
      rcases List.mem_cons.mp ((insertActive_perm a as).mem_iff.mp hc) with rfl | hc
      · omega
      · exact hb c hc
    · rename_i hlt
      rw [Int64.lt_iff_toInt_lt] at hlt
      refine List.pairwise_cons.mpr ⟨?_, h⟩
      intro c hc
      rcases List.mem_cons.mp hc with rfl | hc
      · omega
      · have := hb c hc
        omega

/-- Behind the variables that ended before `pos` all others reach it. -/
theorem le_of_mem_dropWhile {pos : Int64} {as : List Active}
    (h : as.Pairwise fun a b => a.stop.toInt ≤ b.stop.toInt) :
    ∀ a ∈ as.dropWhile (·.stop < pos), pos.toInt ≤ a.stop.toInt := by
  induction as with
  | nil => simp
  | cons b as ih =>
    obtain ⟨hb, has⟩ := List.pairwise_cons.mp h
    by_cases hlt : b.stop < pos
    · rw [List.dropWhile_cons_of_pos (by simpa using hlt)]
      exact ih has
    · rw [List.dropWhile_cons_of_neg (by simpa using hlt)]
      rw [Int64.lt_iff_toInt_lt] at hlt
      intro a ha
      rcases List.mem_cons.mp ha with rfl | ha
      · omega
      · have := hb a ha
        omega

/-! ## One operation -/

section

variable {registers : List Reg} {seen : List Interval} {s : Scan} {pos : Int}

theorem inv_start (registers : List Reg) : Inv registers [] (start registers) where
  pool := by simp [start]
  ordered := .nil
  distinct := .nil
  placed := .refl _
  held := by simp [start]

theorem Inv.perm {rs : List Reg} (h : Inv registers seen s) (hp : registers.Perm rs) :
    Inv rs seen s := { h with pool := h.pool.trans hp }

theorem Inv.length_pool (h : Inv registers seen s) :
    s.free.length + s.active.length = registers.length := by
  simpa using h.pool.length_eq

theorem Inv.expire (h : Inv registers seen s) (p : Int64) : Inv registers seen (s.expire p) where
  pool := by
    have hsplit : (s.active.takeWhile (·.stop < p)).map (·.reg) ++
        (s.active.dropWhile (·.stop < p)).map (·.reg) = s.active.map (·.reg) := by
      rw [← List.map_append, List.takeWhile_append_dropWhile]
    refine List.Perm.trans ?_ h.pool
    rw [← hsplit]
    simp only [Scan.expire, List.append_assoc]
    -- the registers that were given back change places with the free ones
    refine ((List.reverse_perm _).append_right _).trans ?_
    rw [← List.append_assoc, ← List.append_assoc]
    exact List.perm_append_comm.append_right _
  ordered := h.ordered.sublist (List.dropWhile_sublist _)
  distinct := h.distinct.sublist ((List.dropWhile_sublist _).map _)
  placed := h.placed
  held := fun a ha => h.held a ((List.dropWhile_sublist _).subset ha)

theorem Inv.expire_le (h : Inv registers seen s) (p : Int64) :
    ∀ a ∈ (s.expire p).active, p.toInt ≤ a.stop.toInt := le_of_mem_dropWhile h.ordered

theorem Finished.expire (h : Finished seen pos s) {p : Int64} (hp : pos ≤ p.toInt) :
    Finished seen p.toInt (s.expire p) := by
  intro e he r hr
  rcases h e he r hr with ha | hlt
  · rw [← @List.takeWhile_append_dropWhile _ (fun a => decide (a.stop < p)) s.active] at ha
    rcases List.mem_append.mp ha with ha | ha
    · right
      have := List.mem_takeWhile_imp ha
      rwa [decide_eq_true_iff, Int64.lt_iff_toInt_lt] at this
    · exact .inl ha
  · exact .inr (by omega)

theorem mem_regs_assign {e : Interval} {r q : Reg} {v : Var} :
    (v, q) ∈ (s.assign e r).alloc.regs ↔ (v, q) ∈ s.alloc.regs ∨ (v = e.var ∧ q = r) := by
  simp [Scan.assign]

/-- The table has only variables of ranges that were taken. -/
theorem Inv.mem_seen (h : Inv registers seen s) {v : Var} {r : Reg} (hr : (v, r) ∈ s.alloc.regs) :
    v ∈ seen.map (·.var) :=
  h.placed.mem_iff.mp (List.mem_append_left _ (List.mem_map.mpr ⟨_, hr, rfl⟩))

/-- The variable of a range that comes next is new. -/
theorem not_mem_of_nodup {e : Interval} (hn : (seen.map (·.var) ++ [e.var]).Nodup) :
    e.var ∉ seen.map (·.var) := fun hm => (List.nodup_append.mp hn).2.2 _ hm _ (by simp) rfl

theorem mem_active_assign {e : Interval} {r : Reg} {a : Active} :
    a ∈ (s.assign e r).active ↔ a = ⟨e.var, r, e.range.stop⟩ ∨ a ∈ s.active := by
  rw [← List.mem_cons]
  exact (insertActive_perm _ s.active).mem_iff

theorem Inv.assign (h : Inv registers seen s) {e : Interval} (r : Reg)
    (hn : (seen.map (·.var) ++ [e.var]).Nodup) :
    Inv (r :: registers) (seen ++ [e]) (s.assign e r) where
  pool := by
    have hp : ((insertActive ⟨e.var, r, e.range.stop⟩ s.active).map (·.reg)).Perm
        (r :: s.active.map (·.reg)) := (insertActive_perm _ s.active).map _
    exact ((hp.append_left s.free).trans List.perm_middle).trans (h.pool.cons r)
  ordered := insertActive_ordered _ h.ordered
  distinct := by
    have hp : ((insertActive ⟨e.var, r, e.range.stop⟩ s.active).map (·.var)).Perm
        (e.var :: s.active.map (·.var)) := (insertActive_perm _ s.active).map _
    refine hp.nodup_iff.mpr (List.nodup_cons.mpr ⟨fun hm => ?_, h.distinct⟩)
    obtain ⟨a, ha, hv⟩ := List.mem_map.mp hm
    exact not_mem_of_nodup hn (hv ▸ h.mem_seen (h.held a ha).1)
  placed := by
    simp only [Scan.assign, List.map_append, List.map_cons, List.map_nil, List.append_assoc]
    refine List.Perm.trans ?_ (h.placed.append_right _)
    rw [List.append_assoc]
    exact List.perm_append_comm.append_left _
  held := by
    intro a ha
    rcases mem_active_assign.mp ha with rfl | ha
    · exact ⟨by simp [Scan.assign], e, by simp, rfl, rfl⟩
    · obtain ⟨hr, f, hf, hv, hs⟩ := h.held a ha
      exact ⟨by simp [Scan.assign, hr], f, by simp [hf], hv, hs⟩

theorem Finished.assign (h : Finished seen pos s) (hi : Inv registers seen s) {e : Interval} (r : Reg)
    (hn : (seen.map (·.var) ++ [e.var]).Nodup) : Finished (seen ++ [e]) pos (s.assign e r) := by
  have hnew := not_mem_of_nodup hn
  intro f hf q hq
  rw [mem_active_assign]
  rw [mem_regs_assign] at hq
  rcases List.mem_append.mp hf with hf | hf
  · rcases hq with hq | ⟨hv, -⟩
    · rcases h f hf q hq with ha | hlt
      · exact .inl (.inr ha)
      · exact .inr hlt
    · exact absurd (List.mem_map.mpr ⟨f, hf, hv⟩) hnew
  · rw [List.mem_singleton.mp hf] at hq ⊢
    rcases hq with hq | ⟨-, rfl⟩
    · exact absurd (hi.mem_seen hq) hnew
    · exact .inl (.inl rfl)

/-- A register goes to a range that starts behind all ranges which had it. -/
theorem Apart.assign (h : Apart seen s) (hi : Inv registers seen s) {e : Interval} {r : Reg}
    (hn : (seen.map (·.var) ++ [e.var]).Nodup)
    (hr : ∀ f ∈ seen, (f.var, r) ∈ s.alloc.regs → f.range.stop.toInt < e.range.start.toInt) :
    Apart (seen ++ [e]) (s.assign e r) := by
  have hnew := not_mem_of_nodup hn
  have hold : ∀ f ∈ seen, ∀ q, (f.var, q) ∈ (s.assign e r).alloc.regs →
      (f.var, q) ∈ s.alloc.regs := by
    intro f hf q hq
    rcases mem_regs_assign.mp hq with hq | ⟨hv, -⟩
    · exact hq
    · exact absurd (List.mem_map.mpr ⟨f, hf, hv⟩) hnew
  have hown : ∀ q, (e.var, q) ∈ (s.assign e r).alloc.regs → q = r := by
    intro q hq
    rcases mem_regs_assign.mp hq with hq | ⟨-, hq⟩
    · exact absurd (hi.mem_seen hq) hnew
    · exact hq
  intro f hf g hg hne q hfq hgq
  rcases List.mem_append.mp hf with hf | hf <;> rcases List.mem_append.mp hg with hg | hg
  · exact h f hf g hg hne q (hold f hf q hfq) (hold g hg q hgq)
  · rw [List.mem_singleton.mp hg] at hgq ⊢
    have hq := hown q hgq
    subst hq
    exact .inl (hr f hf (hold f hf q hfq))
  · rw [List.mem_singleton.mp hf] at hfq ⊢
    have hq := hown q hfq
    subst hq
    exact .inr (hr g hg (hold g hg q hgq))
  · rw [List.mem_singleton.mp hf, List.mem_singleton.mp hg] at hne
    exact absurd rfl hne

/-- A variable that is new has no register to lose. -/
theorem Inv.regs_spill_new (h : Inv registers seen s) {e : Interval}
    (hn : (seen.map (·.var) ++ [e.var]).Nodup) : (s.spill e.var).alloc.regs = s.alloc.regs := by
  refine List.filter_eq_self.mpr fun p hp => decide_eq_true fun hv => not_mem_of_nodup hn ?_
  exact hv ▸ h.mem_seen (r := p.2) hp

/-- A range that finds no register. -/
theorem Inv.spill_new (h : Inv registers seen s) {e : Interval}
    (hn : (seen.map (·.var) ++ [e.var]).Nodup) : Inv registers (seen ++ [e]) (s.spill e.var) := by
  have hkeep := h.regs_spill_new hn
  refine ⟨h.pool, h.ordered, h.distinct, ?_, ?_⟩
  · rw [hkeep, List.map_append]
    simp only [spill, ← List.append_assoc]
    exact h.placed.append_right _
  · intro a ha
    obtain ⟨hr, f, hf, hv, hs⟩ := h.held a ha
    exact ⟨hkeep ▸ hr, f, by simp [hf], hv, hs⟩

/-- A variable with a register is one of the keys of the table, and without it the others are left.
-/
theorem keys_perm {regs : List (Var × Reg)} {v : Var} (hn : (regs.map (·.1)).Nodup)
    (hv : v ∈ regs.map (·.1)) :
    (regs.map (·.1)).Perm (v :: (regs.filter fun e => e.1 ≠ v).map (·.1)) := by
  have hf : (regs.filter fun e => e.1 ≠ v).map (·.1) = (regs.map (·.1)).erase v := by
    rw [hn.erase_eq_filter, List.filter_map]
    refine congrArg _ (List.filter_congr fun e _ => ?_)
    by_cases he : e.1 = v <;> simp [he]
  rw [hf]
  exact List.perm_cons_erase hv

/-- The active variable that ends last gives its register up. -/
theorem Inv.spill_last (h : Inv registers seen s) (hn : (seen.map (·.var)).Nodup)
    {init : List Active} {last : Active} (ha : s.active = init ++ [last]) :
    Inv (s.free ++ init.map (·.reg)) seen (spill last.var { s with active := init }) := by
  have hlast := (h.held last (by simp [ha])).1
  have hkeys : (s.alloc.regs.map (·.1)).Nodup :=
    (List.nodup_append.mp (h.placed.nodup_iff.mpr hn)).1
  have hsub : init.Sublist s.active := ha ▸ List.sublist_append_left init [last]
  refine ⟨.refl _, h.ordered.sublist hsub, h.distinct.sublist (hsub.map _), ?_, ?_⟩
  · have hp := keys_perm hkeys (List.mem_map.mpr ⟨_, hlast, rfl⟩)
    refine List.Perm.trans ?_ ((hp.append_right s.alloc.slots).symm.trans h.placed)
    simp only [spill, ← List.append_assoc]
    exact List.perm_append_singleton _ _
  · intro a hm
    obtain ⟨hr, f, hf, hv, hs⟩ := h.held a (hsub.subset hm)
    refine ⟨List.mem_filter.mpr ⟨hr, decide_eq_true fun hav => ?_⟩, f, hf, hv, hs⟩
    have hd := h.distinct
    rw [ha, List.map_append, List.nodup_append] at hd
    exact hd.2.2 _ (List.mem_map.mpr ⟨a, hm, rfl⟩) _ (by simp) hav

/-- A spill takes registers away only. -/
theorem Apart.spill (h : Apart seen s) (v : Var) : Apart seen (s.spill v) :=
  fun e he f hf hne r hr hq =>
    h e he f hf hne r (List.mem_of_mem_filter hr) (List.mem_of_mem_filter hq)

theorem Apart.spill_new (h : Apart seen s) (e : Interval) : Apart (seen ++ [e]) (s.spill e.var) := by
  have hold : ∀ f ∈ seen ++ [e], ∀ q, (f.var, q) ∈ (s.spill e.var).alloc.regs → f ∈ seen := by
    intro f hf q hq
    rcases List.mem_append.mp hf with hf | hf
    · exact hf
    · have hne := (List.mem_filter.mp hq).2
      rw [List.mem_singleton.mp hf] at hne
      simp at hne
  intro f hf g hg hne q hfq hgq
  exact h.spill e.var f (hold f hf q hfq) g (hold g hg q hgq) hne q hfq hgq

theorem Finished.spill_new (h : Finished seen pos s) (e : Interval) :
    Finished (seen ++ [e]) pos (s.spill e.var) := by
  intro f hf r hr
  obtain ⟨hr, hne⟩ := List.mem_filter.mp hr
  rcases List.mem_append.mp hf with hf | hf
  · exact h f hf r hr
  · rw [List.mem_singleton.mp hf] at hne
    simp at hne

theorem Finished.spill_last (h : Finished seen pos s) {init : List Active} {last : Active}
    (ha : s.active = init ++ [last]) :
    Finished seen pos (spill last.var { s with active := init }) := by
  intro f hf r hr
  obtain ⟨hr, hne⟩ := List.mem_filter.mp hr
  rcases h f hf r hr with hm | hlt
  · rw [ha] at hm
    rcases List.mem_append.mp hm with hm | hm
    · exact .inl hm
    · rw [← List.mem_singleton.mp hm] at hne
      simp at hne
  · exact .inr hlt

/-! ## One step, and a whole run -/

/-- What placing a range can do: it takes a free register; or there is none, and the active range
that ends last gives its register up because it outlives the new one; or the new range is spilled.
-/
theorem place_cases (e : Interval) (s : Scan) :
    (∃ r free, s.free = r :: free ∧ place e s = assign e r { s with free := free }) ∨
    (s.free = [] ∧ ∃ init last, s.active = init ++ [last] ∧ e.range.stop < last.stop ∧
      place e s = assign e last.reg (spill last.var { s with active := init })) ∨
    (s.free = [] ∧ (∀ a, s.active.getLast? = some a → ¬ e.range.stop < a.stop) ∧
      place e s = spill e.var s) := by
  obtain hfree | ⟨r, free, hfree⟩ : s.free = [] ∨ ∃ r free, s.free = r :: free := by
    cases s.free <;> simp
  · right
    rcases List.eq_nil_or_concat s.active with hact | ⟨init, last, hact⟩
    · refine .inr ⟨hfree, by simp [hact], ?_⟩
      simp only [place, spillAt, hfree, hact, List.getLast?_nil]
    · rw [List.concat_eq_append] at hact
      have hl : s.active.getLast? = some last := by simp [hact]
      have hd : s.active.dropLast = init := by simp [hact]
      by_cases hlt : e.range.stop < last.stop
      · refine .inl ⟨hfree, init, last, hact, hlt, ?_⟩
        simp only [place, spillAt, hfree, hl, hd, if_pos hlt]
      · refine .inr ⟨hfree, ?_, ?_⟩
        · intro a ha
          rw [hl] at ha
          exact Option.some.inj ha ▸ hlt
        · simp only [place, spillAt, hfree, hl, if_neg hlt]
  · exact .inl ⟨r, free, hfree, by simp only [place, hfree]⟩

theorem nodup_seen {e : Interval} (hn : (seen.map (·.var) ++ [e.var]).Nodup) :
    (seen.map (·.var)).Nodup := (List.nodup_append.mp hn).1

theorem Inv.place (h : Inv registers seen s) {e : Interval}
    (hn : (seen.map (·.var) ++ [e.var]).Nodup) : Inv registers (seen ++ [e]) (s.place e) := by
  rcases place_cases e s with ⟨r, free, hfree, hp⟩ | ⟨hfree, init, last, hact, -, hp⟩ | ⟨-, -, hp⟩
  · have hi : Inv (free ++ s.active.map (·.reg)) seen { s with free := free } :=
      { h with pool := .refl _ }
    rw [hp]
    exact (hi.assign r hn).perm (by simpa [hfree] using h.pool)
  · rw [hp]
    refine ((h.spill_last (nodup_seen hn) hact).assign last.reg hn).perm ?_
    have hpool := h.pool
    rw [hact, List.map_append, ← List.append_assoc] at hpool
    exact (List.perm_append_singleton _ _).symm.trans hpool
  · rw [hp]
    exact h.spill_new hn

theorem Finished.place (h : Finished seen pos s) (hi : Inv registers seen s) {e : Interval}
    (hn : (seen.map (·.var) ++ [e.var]).Nodup) : Finished (seen ++ [e]) pos (s.place e) := by
  rcases place_cases e s with ⟨r, free, hfree, hp⟩ | ⟨hfree, init, last, hact, -, hp⟩ | ⟨-, -, hp⟩
  · have hi' : Inv (free ++ s.active.map (·.reg)) seen { s with free := free } :=
      { hi with pool := .refl _ }
    have hf : Finished seen pos { s with free := free } := h
    rw [hp]
    exact hf.assign hi' r hn
  · rw [hp]
    exact (h.spill_last hact).assign (hi.spill_last (nodup_seen hn) hact) last.reg hn
  · rw [hp]
    exact h.spill_new e

/-- A register that no active variable holds was held by ranges that ended before `pos` only. -/
theorem Finished.lt_of_not_held (h : Finished seen pos s) {r : Reg}
    (hr : r ∉ s.active.map (·.reg)) :
    ∀ f ∈ seen, (f.var, r) ∈ s.alloc.regs → f.range.stop.toInt < pos := by
  intro f hf hm
  rcases h f hf r hm with ha | hlt
  · exact absurd (List.mem_map.mpr ⟨_, ha, rfl⟩) hr
  · exact hlt

theorem Apart.place (h : Apart seen s) (hi : Inv registers seen s) {e : Interval}
    (hf : Finished seen e.range.start.toInt s) (hr : registers.Nodup)
    (hn : (seen.map (·.var) ++ [e.var]).Nodup) : Apart (seen ++ [e]) (s.place e) := by
  have hpool := hi.pool.nodup_iff.mpr hr
  rcases place_cases e s with ⟨r, free, hfree, hp⟩ | ⟨hfree, init, last, hact, -, hp⟩ | ⟨-, -, hp⟩
  · have hi' : Inv (free ++ s.active.map (·.reg)) seen { s with free := free } :=
      { hi with pool := .refl _ }
    have ha : Apart seen { s with free := free } := h
    -- the register was free, so no active variable holds it
    rw [hfree, List.cons_append, List.nodup_cons] at hpool
    rw [hp]
    exact ha.assign hi' hn
      (hf.lt_of_not_held fun hm => hpool.1 (List.mem_append_right _ hm))
  · -- the register was held by the variable that is spilled, and by no other
    rw [hact, List.map_append, ← List.append_assoc, List.nodup_append] at hpool
    have hlast : last.reg ∉ init.map (·.reg) := fun hm =>
      hpool.2.2 _ (List.mem_append_right _ hm) _ (by simp) rfl
    have ha : Apart seen (Scan.spill last.var { s with active := init }) := h.spill last.var
    rw [hp]
    exact ha.assign (hi.spill_last (nodup_seen hn) hact) hn
      ((hf.spill_last hact).lt_of_not_held hlast)
  · rw [hp]
    exact h.spill_new e

/-- The variable of the next range is none of those before it. -/
theorem nodup_next {e : Interval} {es : List Interval}
    (hn : ((seen ++ [e] ++ es).map (·.var)).Nodup) : (seen.map (·.var) ++ [e.var]).Nodup := by
  rw [List.map_append, List.nodup_append] at hn
  simpa using hn.1

theorem Inv.run (h : Inv registers seen s) {es : List Interval}
    (hn : ((seen ++ es).map (·.var)).Nodup) : Inv registers (seen ++ es) (s.run es) := by
  induction es generalizing seen s with
  | nil => simpa [Scan.run] using h
  | cons e es ih =>
    rw [List.append_cons] at hn ⊢
    have hne := nodup_next hn
    exact ih ((h.expire e.range.start).place hne) hn

/-- After ranges that come by start, and up to `last`, a variable that has a register is active, or its
range ended before. -/
theorem Finished.run (h : Finished seen pos s) (hi : Inv registers seen s) {es : List Interval}
    {last : Int} (hpos : ∀ e ∈ es, pos ≤ e.range.start.toInt) (hle : pos ≤ last)
    (hlast : ∀ e ∈ es, e.range.start.toInt ≤ last)
    (hs : es.Pairwise fun a b => a.range.start.toInt ≤ b.range.start.toInt)
    (hn : ((seen ++ es).map (·.var)).Nodup) : Finished (seen ++ es) last (s.run es) := by
  induction es generalizing seen s pos with
  | nil =>
    rw [List.append_nil]
    exact fun e he r hr => (h e he r hr).imp_right fun hlt => Int.lt_of_lt_of_le hlt hle
  | cons e es ih =>
    obtain ⟨hse, hs⟩ := List.pairwise_cons.mp hs
    obtain ⟨hle, hlast⟩ := List.forall_mem_cons.mp hlast
    rw [List.append_cons] at hn ⊢
    have hne := nodup_next hn
    have hie := hi.expire e.range.start
    have hfe := h.expire (hpos e List.mem_cons_self)
    exact ih (hfe.place hie hne) (hie.place hne) hse hle hlast hs hn

/-- Ranges that come by start leave variables with one register apart. -/
theorem Apart.run (h : Apart seen s) (hi : Inv registers seen s) (hf : Finished seen pos s)
    (hr : registers.Nodup) {es : List Interval} (hpos : ∀ e ∈ es, pos ≤ e.range.start.toInt)
    (hs : es.Pairwise fun a b => a.range.start.toInt ≤ b.range.start.toInt)
    (hn : ((seen ++ es).map (·.var)).Nodup) : Apart (seen ++ es) (s.run es) := by
  induction es generalizing seen s pos with
  | nil => simpa [Scan.run] using h
  | cons e es ih =>
    obtain ⟨hse, hs⟩ := List.pairwise_cons.mp hs
    rw [List.append_cons] at hn ⊢
    have hne := nodup_next hn
    have hie := hi.expire e.range.start
    have hfe := hf.expire (hpos e (by simp))
    have hae : Apart seen (s.expire e.range.start) := h
    exact ih (hae.place hie hfe hr hne) (hie.place hne) (hfe.place hie hne) hse hs hn

end

theorem nodup_intervals {r : Ranges} (hd : r.Distinct) : (r.intervals.map (·.var)).Nodup :=
  ((r.intervals_perm).map _).nodup_iff.mpr hd

/-- What holds when all ranges have been taken. -/
theorem inv_allocate {r : Ranges} (hd : r.Distinct) (registers : List Reg) :
    Inv registers r.intervals ((start registers).run r.intervals) := by
  have h : Inv registers ([] ++ r.intervals) ((start registers).run r.intervals) :=
    (inv_start registers).run (nodup_intervals hd)
  exact h

theorem apart_allocate {r : Ranges} (hd : r.Distinct) (hs : r.StartsNonneg) {registers : List Reg}
    (hr : registers.Nodup) : Apart r.intervals ((start registers).run r.intervals) := by
  have ha : Apart [] (start registers) := fun _ h => absurd h List.not_mem_nil
  have hf : Finished [] 0 (start registers) := fun _ h => absurd h List.not_mem_nil
  have hpos : ∀ e ∈ r.intervals, 0 ≤ e.range.start.toInt := fun e he =>
    hs e (r.intervals_perm.mem_iff.mp he)
  have h := ha.run (inv_start registers) hf hr hpos (Ranges.intervals_sorted hs)
  rw [List.nil_append] at h
  exact h (nodup_intervals hd)

end Scan

end StraightLine.Alloc
