import StraightLine.Proofs.CompileOutcome
import StraightLine.Proofs.OrderedScan

/-! The allocation divides the variables among registers and slots, whatever their ranges are and
however often a register is given. The scan never looks for a register on an empty stack, nothing is
lost or found a place twice, the counter of slots is their number, and the operands of machine code are among the given registers and the
slots in use. -/

namespace StraightLine.Alloc

open StraightLine.Code StraightLine.Range

namespace Scan

/-- Pops the register that is handed out next. It fails on an empty stack. -/
def pop? (s : Scan) : Option (Reg × Scan) :=
  match s.free with
  | [] => none
  | r :: free => some (r, { s with free := free })

/-- A step that goes by the number of active variables. If it is below that of the registers, a register
is popped; otherwise somebody is spilled. -/
def countedStep (registers : Nat) (s : Scan) (e : Interval) : Option Scan :=
  let s := expire e.range.start s
  if s.active.length < registers then s.pop?.map fun p => assign e p.1 p.2 else some (spillAt e s)

/-- A run that goes by the number of active variables. It fails when a step does. -/
def countedRun (registers : Nat) (s : Scan) (es : List Interval) : Option Scan :=
  es.foldlM (countedStep registers) s

section

variable {registers : List Reg} {seen : List Interval} {s : Scan}

/-- The stack is empty exactly when all registers are in use, so counting and looking at the stack come
to the same. -/
theorem Inv.countedStep_eq (h : Inv registers seen s) (e : Interval) :
    countedStep registers.length s e = some (s.step e) := by
  have hpool := (h.expire e.range.start).length_pool
  rw [countedStep, Scan.step, Scan.place]
  cases hfree : (Scan.expire e.range.start s).free with
  | nil =>
    rw [hfree, List.length_nil, Nat.zero_add] at hpool
    rw [if_neg (by omega)]
  | cons r free =>
    rw [hfree, List.length_cons] at hpool
    rw [if_pos (by omega), pop?, hfree]
    rfl

theorem Inv.countedRun_eq (h : Inv registers seen s) {es : List Interval}
    (hn : ((seen ++ es).map (·.var)).Nodup) :
    countedRun registers.length s es = some (s.run es) := by
  induction es generalizing seen s with
  | nil => rfl
  | cons e es ih =>
    rw [List.append_cons] at hn
    have hne := nodup_next hn
    rw [countedRun, List.foldlM_cons, h.countedStep_eq e]
    exact ih ((h.expire e.range.start).place hne) hn

def Given (registers : List Reg) (s : Scan) : Prop := ∀ p ∈ s.alloc.regs, p.2 ∈ registers

theorem Given.assign (h : Given registers s) {r : Reg} (hr : r ∈ registers) (e : Interval) :
    Given registers (s.assign e r) := by
  intro p hp
  rcases List.mem_append.mp hp with hp | hp
  · exact h p hp
  · rw [List.mem_singleton.mp hp]
    exact hr

theorem Given.spill (h : Given registers s) (v : Var) : Given registers (s.spill v) :=
  fun p hp => h p (List.mem_of_mem_filter hp)

theorem Given.place (h : Given registers s) (hi : Inv registers seen s) (e : Interval) :
    Given registers (s.place e) := by
  rcases place_cases e s with ⟨r, free, hfree, hp⟩ | ⟨-, init, last, hact, -, hp⟩ | ⟨-, -, hp⟩
  · have hs : Given registers { s with free := free } := h
    rw [hp]
    refine hs.assign (hi.pool.mem_iff.mp (List.mem_append_left _ ?_)) e
    rw [hfree]
    exact List.mem_cons_self
  · have hs : Given registers { s with active := init } := h
    rw [hp]
    refine (hs.spill last.var).assign (hi.pool.mem_iff.mp (List.mem_append_right _ ?_)) e
    exact List.mem_map.mpr ⟨last, by simp [hact], rfl⟩
  · rw [hp]
    exact h.spill e.var

theorem Given.run (h : Given registers s) (hi : Inv registers seen s) {es : List Interval}
    (hn : ((seen ++ es).map (·.var)).Nodup) : Given registers (s.run es) := by
  induction es generalizing seen s with
  | nil => exact h
  | cons e es ih =>
    rw [List.append_cons] at hn
    have hne := nodup_next hn
    have hie := hi.expire e.range.start
    have he : Given registers (s.expire e.range.start) := h
    exact ih (he.place hie e) (hie.place hne) hn

end

end Scan

/-! ## Tables -/

namespace Allocation

theorem slot?_eq_some_iff {a : Allocation} (hd : a.Distinct) {v : Var} {n : Nat} :
    a.slot? v = some n ↔ a.slots[n]? = some v := by
  refine ⟨slot?_eq_some, fun hv => ?_⟩
  have hn := (List.nodup_append.mp hd).2.1
  cases hs : a.slot? v with
  | none =>
    have hnone := List.findIdx?_eq_none_iff.mp hs v (List.mem_of_getElem? hv)
    simp at hnone
  | some m =>
    -- the variable is in no other slot
    have hm := slot?_eq_some hs
    obtain ⟨hlt, -⟩ := List.getElem?_eq_some_iff.mp hm
    exact congrArg some ((List.getElem?_inj hlt hn).mp (hm.trans hv.symm))

theorem reg?_isSome {a : Allocation} {v : Var} :
    (a.reg? v).isSome = true ↔ v ∈ a.regs.map (·.1) := by
  simp [reg?]

theorem slot?_isSome {a : Allocation} {v : Var} : (a.slot? v).isSome = true ↔ v ∈ a.slots := by
  simp [slot?, List.findIdx?_isSome]

/-- A slot that code can number has a number below that of the slots in use. -/
theorem slotNumber_lt {a : Allocation} {v : Var} {slot : Int64} {n : UInt32}
    (h : a.find? v = some (.spilled slot)) (hn : Program.slotNumber? slot = some n) :
    n.toNat < a.spillSlots := by
  obtain ⟨k, hk, rfl⟩ := find?_spilled h
  have hlt : k < a.slots.length := (List.getElem?_eq_some_iff.mp hk).1
  rw [Program.slotNumber?] at hn
  split at hn
  · rename_i hrange
    cases hn
    -- a slot number that wraps around would be smaller still
    have hle : (Int64.ofNat k).toInt ≤ k := by
      rw [Int64.toInt_ofNat', Int.bmod, show Int64.size = 18446744073709551616 from rfl]
      split <;> omega
    rw [UInt32.toNat_ofNat_of_lt' (by omega), spillSlots]
    omega
  · cases hn

end Allocation

/-- The allocation divides the variables with a range among the given registers and slots that are
numbered from zero on without a gap. Slot numbers are 64-bit words, and looking a variable up gives the
number of its slot as long as words do not wrap around. -/
structure Partition (registers : List Reg) (r : Ranges) (a : Allocation) : Prop where
  located : ∀ v, (a.find? v).isSome = true ↔ (r.find? v).isSome = true
  one_table : ∀ v, (r.find? v).isSome = true →
    ((a.reg? v).isSome = true ∧ a.slot? v = none) ∨ (a.reg? v = none ∧ (a.slot? v).isSome = true)
  size : a.size = r.size
  given : ∀ v q, a.reg? v = some q → q ∈ registers
  slot_below : ∀ v n, a.slot? v = some n → n < a.spillSlots
  slot_owned : ∀ n, n < a.spillSlots → ∃! v, a.slot? v = some n
  register_found : ∀ v q, a.find? v = some (.register q) ↔ a.reg? v = some q
  slot_found : r.size ≤ positions → ∀ v slot,
    a.find? v = some (.spilled slot) ↔ ∃ n, a.slot? v = some n ∧ slot.toInt = n

section

variable {r : Ranges} (hd : r.Distinct) (registers : List Reg)
include hd

/-- A variable is in a table if and only if it has a range. -/
theorem mem_allocate_iff (v : Var) : v ∈ (allocate r registers).regs.map (·.1) ++
    (allocate r registers).slots ↔ (r.find? v).isSome = true := by
  rw [(allocate_perm hd registers).mem_iff, r.find?_isSome]

/-- A variable that is in the table of registers is in no slot. -/
theorem slot?_eq_none {v : Var} (hv : v ∈ (allocate r registers).regs.map (·.1)) :
    (allocate r registers).slot? v = none := by
  have hdisjoint := (List.nodup_append.mp (distinct_allocate hd registers)).2.2
  rw [← Option.not_isSome_iff_eq_none, Allocation.slot?_isSome]
  exact fun hs => hdisjoint v hv v hs rfl

theorem given_allocate {v : Var} {q : Reg} (h : (v, q) ∈ (allocate r registers).regs) :
    q ∈ registers := by
  have hstart : Scan.Given registers (.start registers) := fun _ hp => nomatch hp
  exact hstart.run (Scan.inv_start registers) (Scan.nodup_intervals hd) _ h

/-- A variable has a location if and only if it has a range. -/
theorem isSome_allocate_find? (v : Var) :
    ((allocate r registers).find? v).isSome = true ↔ (r.find? v).isSome = true := by
  rw [← mem_allocate_iff hd registers]
  refine ⟨fun h => ?_, fun h => Option.isSome_iff_exists.mpr (Allocation.exists_find? h)⟩
  obtain ⟨l, hl⟩ := Option.isSome_iff_exists.mp h
  rcases Allocation.find?_cases hl with ⟨q, rfl⟩ | ⟨slot, rfl⟩
  · rw [Allocation.find?_register_iff (distinct_allocate hd registers)] at hl
    exact List.mem_append_left _ (List.mem_map.mpr ⟨_, hl, rfl⟩)
  · obtain ⟨n, hn, -⟩ := Allocation.find?_spilled hl
    exact List.mem_append_right _ (List.mem_of_getElem? hn)

/-- Looking a spilled variable up gives the number of its slot. -/
theorem allocate_find?_spilled_iff (hsize : r.size ≤ positions) (v : Var) (slot : Int64) :
    (allocate r registers).find? v = some (.spilled slot) ↔
      ∃ n, (allocate r registers).slot? v = some n ∧ slot.toInt = n := by
  have hda := distinct_allocate hd registers
  have hposition : ∀ {n : Nat}, (allocate r registers).slots[n]? = some v → n < positions := by
    intro n hn
    have hlt := (List.getElem?_eq_some_iff.mp hn).1
    have hle := slots_allocate_le hd registers
    omega
  constructor
  · intro h
    obtain ⟨n, hn, rfl⟩ := Allocation.find?_spilled h
    exact ⟨n, (Allocation.slot?_eq_some_iff hda).mpr hn, toInt_ofNat_position (hposition hn)⟩
  · rintro ⟨n, hn, hslot⟩
    have hword : slot = Int64.ofNat n := Int64.toInt_inj.mp
      (hslot.trans (toInt_ofNat_position (hposition (Allocation.slot?_eq_some hn))).symm)
    have hreg : (allocate r registers).reg? v = none := by
      rw [← Option.not_isSome_iff_eq_none, Allocation.reg?_isSome]
      intro hv
      rw [slot?_eq_none hd registers hv] at hn
      cases hn
    rw [Allocation.find?, hreg, hn, hword]
    rfl

theorem partition_allocate : Partition registers r (allocate r registers) where
  located := isSome_allocate_find? hd registers
  one_table v hv := by
    rw [← mem_allocate_iff hd registers, List.mem_append] at hv
    by_cases hreg : v ∈ (allocate r registers).regs.map (·.1)
    · exact .inl ⟨Allocation.reg?_isSome.mpr hreg, slot?_eq_none hd registers hreg⟩
    · refine .inr ⟨?_, Allocation.slot?_isSome.mpr (hv.resolve_left hreg)⟩
      rwa [← Option.not_isSome_iff_eq_none, Allocation.reg?_isSome]
  size := size_allocate hd registers
  given v q hq := given_allocate hd registers
    ((Allocation.reg?_eq_some_iff (distinct_allocate hd registers)).mp hq)
  slot_below v n hs := (List.getElem?_eq_some_iff.mp (Allocation.slot?_eq_some hs)).1
  slot_owned n hn := by
    have hget : (allocate r registers).slots[n]? = some _ := List.getElem?_eq_getElem hn
    refine ⟨_, (Allocation.slot?_eq_some_iff (distinct_allocate hd registers)).mpr hget, fun u hu => ?_⟩
    exact Option.some.inj ((Allocation.slot?_eq_some hu).symm.trans hget)
  register_found v q := by
    have hda := distinct_allocate hd registers
    rw [Allocation.find?_register_iff hda, Allocation.reg?_eq_some_iff hda]
  slot_found := allocate_find?_spilled_iff hd registers

end

end StraightLine.Alloc

namespace StraightLine.Program

open StraightLine.Alloc StraightLine.Source

/-! ## Operands of machine code -/

/-- The target is one of the registers, or a slot with a number below `slots`. -/
def Target.Within (registers : List Reg) (slots : Nat) (t : Target) : Prop :=
  (t.kind = 1 ∧ t.reg ∈ registers) ∨ (t.kind = 2 ∧ t.slot.toNat < slots)

/-- The source is a number, one of the registers, or a slot with a number below `slots`. -/
def Source.Within (registers : List Reg) (slots : Nat) (s : Source) : Prop :=
  s.kind = 1 ∨ (s.kind = 2 ∧ s.reg ∈ registers) ∨ (s.kind = 3 ∧ s.slot.toNat < slots)

theorem Target.Within.asSource {registers : List Reg} {slots : Nat} {t : Target}
    (h : t.Within registers slots) : t.asSource.Within registers slots := by
  rw [Target.asSource]
  rcases h with ⟨hkind, hreg⟩ | ⟨hkind, hslot⟩
  · rw [if_neg (by rw [hkind]; decide)]
    exact .inr (.inl ⟨rfl, hreg⟩)
  · rw [if_pos hkind]
    exact .inr (.inr ⟨rfl, hslot⟩)

section

variable {registers : List Reg} {a : Allocation}
  (hg : ∀ v q, a.find? v = some (.register q) → q ∈ registers)
include hg

theorem within_of_targetOf {v : Code.Var} {t : Target} (h : targetOf a.find? v = .ok t) :
    t.Within registers a.spillSlots := by
  rw [targetOf] at h
  cases hl : a.find? v with
  | none =>
    rw [hl] at h
    cases h
  | some l =>
    rcases Allocation.find?_cases hl with ⟨q, rfl⟩ | ⟨slot, rfl⟩
    · rw [hl] at h
      cases h
      exact .inl ⟨rfl, hg v q hl⟩
    · simp only [hl] at h
      split at h
      · rename_i n hn
        cases h
        exact .inr ⟨rfl, Allocation.slotNumber_lt hl hn⟩
      · cases h

theorem within_of_sourceOf {resolve : Resolver} {o : Code.Operand} {s : Source}
    (h : sourceOf a.find? resolve o = .ok s) : s.Within registers a.spillSlots := by
  have hvar : ∀ v, (targetOf a.find? v).map Target.asSource = .ok s →
      s.Within registers a.spillSlots := by
    intro v hs
    cases ht : targetOf a.find? v with
    | error f =>
      rw [ht] at hs
      cases hs
    | ok t =>
      rw [ht] at hs
      cases hs
      exact (within_of_targetOf hg ht).asSource
  cases o with
  | var v => exact hvar v h
  | untagged v _ => exact hvar v h
  | literal g =>
    rw [sourceOf] at h
    split at h
    · cases h
      exact .inl rfl
    · cases h

/-- Machine code works on the registers and slots of the allocation. -/
theorem within_of_emit {resolve : Resolver} {code : List Code.Instr} {program : Program}
    (h : emit a.find? resolve code = .ok program) :
    ∀ j ∈ program.instrs, j.dst.Within registers a.spillSlots ∧
      j.src.Within registers a.spillSlots := by
  intro j hj
  have hall := emitOne_of_emit h
  rw [emit_eq hall] at h
  cases h
  obtain ⟨i, hi, hj⟩ := List.mem_flatMap.mp hj
  obtain ⟨mc, hmc⟩ := hall i hi
  rw [codeOf_eq hmc] at hj
  obtain ⟨ht, ⟨o, ho⟩, -⟩ := parts_of_mem_emitOne hmc j hj
  exact ⟨within_of_targetOf hg ht, within_of_sourceOf hg ho⟩

end

end StraightLine.Program

namespace StraightLine.Compile

open StraightLine.Source StraightLine.Code StraightLine.Range StraightLine.Alloc StraightLine.Program

/-- The allocation of the ranges of code, or of any ranges from elsewhere, is a partition for any list
of registers, also if registers come twice; and a scan that goes by the number of active variables
never finds the stack empty. A scan that keeps tables and numbers its slots by a counter has the same
allocation in them. The operands of a compiled program are among the given registers and the
slots that are in use. -/
theorem allocation_is_partition (registers : List Reg) :
    (∀ r : Ranges, (∃ code, r = .analyze code) ∨ (∃ entries, r = .ofList entries) →
      Scan.countedRun registers.length (.start registers) r.intervals =
        some ((Scan.start registers).run r.intervals) ∧
      Partition registers r (allocate r registers) ∧
      (r.size < UInt64.size → ∀ sets : OrderedSet Entry byEnd,
        ∃ t, OrderedScan.run registers.length (.start sets registers) r.intervals = some t ∧
          t.alloc.Matches (allocate r registers))) ∧
    ∀ norm resolve nodes c, compile norm registers resolve nodes = .ok c →
      ∀ i ∈ c.program.instrs, i.dst.Within registers c.allocation.spillSlots ∧
        i.src.Within registers c.allocation.spillSlots := by
  refine ⟨fun r hr => ?_, fun norm resolve nodes c hc => ?_⟩
  · have hd : r.Distinct := by
      rcases hr with ⟨code, rfl⟩ | ⟨entries, rfl⟩
      · exact Ranges.distinct_analyze code
      · exact Ranges.distinct_ofList entries
    have hnodup := Scan.nodup_intervals hd
    refine ⟨(Scan.inv_start registers).countedRun_eq hnodup, partition_allocate hd registers,
      fun hsize sets => ?_⟩
    have hlen : r.intervals.length < UInt64.size := r.intervals_perm.length_eq ▸ hsize
    obtain ⟨t, as, ht, hfollows⟩ :=
      (OrderedScan.follows_start sets registers).run (Scan.inv_start registers) hnodup hlen
    have htables : t.alloc = (allocate r registers).tables := hfollows.alloc
    exact ⟨t, ht, htables ▸ Allocation.matches_tables _⟩
  · obtain ⟨p, hp⟩ := exists_spell_of_compile hc
    obtain ⟨-, -, hallocation, hemit⟩ := of_compile_eq_ok hp hc
    have hpartition := partition_allocate (Ranges.distinct_analyze c.code) registers
    rw [← hallocation] at hpartition
    exact within_of_emit (fun v q hq => hpartition.given v q
      ((hpartition.register_found v q).mp hq)) hemit

/-- One register is given twice. Of three variables that are alive together two get it and one is
spilled, and an inverted range finds it free again. -/
theorem allocation_is_partition_twice :
    let r := Ranges.ofList
      [⟨.temp 1, ⟨-2, 9⟩⟩, ⟨.temp 2, ⟨0, 4⟩⟩, ⟨.temp 3, ⟨1, 5⟩⟩, ⟨.temp 4, ⟨6, 2⟩⟩]
    let resolve : Resolver := fun h => if h = 1 then "12" else "a"
    let nodes : List Node := [.assignment, .identifier 0, .number 1, .assignment, .identifier 2,
      { kind := .add }, .identifier 0, .number 1]
    allocate r [7, 7] = ⟨[(.temp 2, 7), (.temp 3, 7), (.temp 4, 7)], [.temp 1]⟩ ∧
      (Scan.countedRun 2 (.start [7, 7]) r.intervals).isSome = true ∧
      Partition [7, 7] r (allocate r [7, 7]) ∧
      (∃ t, OrderedScan.run 2 (.start .ofLists [7, 7]) r.intervals = some t ∧
        t.alloc.Matches (allocate r [7, 7])) ∧
      ∃ c, compile Text.normalize [7, 7] resolve nodes = .ok c ∧
        ∀ i ∈ c.program.instrs, i.dst.Within [7, 7] c.allocation.spillSlots ∧
          i.src.Within [7, 7] c.allocation.spillSlots := by
  intro r resolve nodes
  have hp : strip nodes =
      spell [.assign 0 0 (.number 1), .assign 0 2 (.binary .add 0 (.name 0) (.number 1))] := by decide
  have hread : LiteralsRead resolve
      [.assign 0 0 (.number 1), .assign 0 2 (.binary .add 0 (.name 0) (.number 1))] := by
    have h12 : Text.Decimal.read "12" = .ok 12 := by cbv
    simp [LiteralsRead, Statement.literals, Expr.numbers, IsNumber, resolve, h12]
  obtain ⟨c, hc⟩ := exists_compile (by decide) hp hread
  obtain ⟨hrun, hpartition, htables⟩ := (allocation_is_partition [7, 7]).1 r (.inr ⟨_, rfl⟩)
  have hsize : r.size < UInt64.size := by
    have hfour : r.size = 4 := by cbv
    rw [hfour]
    decide
  refine ⟨by cbv, Option.isSome_of_eq_some hrun, hpartition, htables hsize .ofLists, c, hc, ?_⟩
  exact (allocation_is_partition [7, 7]).2 Text.normalize resolve nodes c hc

end StraightLine.Compile
