import StraightLine.Proofs.AllocationSafety
import StraightLine.Proofs.Simulation

/-! Allocation and emission together: machine code does what its three-address code does, from any
state of the machine. A variable in a register is held from its first touch to the end of its range,
and a spilled one from its first touch on; closed ranges in one register do not meet and slots are
not shared, so nothing that is still held is overwritten. -/

namespace StraightLine.Lockstep

open StraightLine.Source StraightLine.Code StraightLine.Program StraightLine.Alloc
open StraightLine.Range

/-- Code that the back end translates. Each variable is defined by the first instruction that
touches it, and a right operand is not overwritten by the move that brings the left one. -/
structure Translatable (resolve : Resolver) (code : List Code.Instr) : Prop where
  short : code.length < positions
  few : (Ranges.analyze code).size < UInt32.size
  readable : ∀ i ∈ code, i.Readable resolve
  defined : ∀ pre i post, code = pre ++ i :: post → ∀ v ∈ i.vars, (∀ j ∈ pre, v ∉ j.vars) →
    i.dst = v ∧ v ∉ i.reads
  clear : ∀ i ∈ code, ∀ op, i.right = some (op, .var i.dst) → i.left = .var i.dst

/-- Only registers are shared. Slots are numbered by words, so there must not be more of them than
words. -/
theorem registers_of_livesIn {a : Allocation} (hs : a.slots.length ≤ UInt64.size) {u v : Var}
    {c : Cell} (hne : u ≠ v) (hu : LivesIn a.find? u c) (hv : LivesIn a.find? v c) :
    ∃ q, a.find? u = some (.register q) ∧ a.find? v = some (.register q) := by
  obtain ⟨l, hl, hc⟩ := hu
  obtain ⟨k, hk, hc'⟩ := hv
  cases cellOf_inj hc hc'
  rcases Allocation.find?_cases hl with ⟨q, rfl⟩ | ⟨slot, rfl⟩
  · exact ⟨q, hl, hk⟩
  · exact absurd (Allocation.eq_of_find?_spilled hs hl hk) hne

/-- A variable with a location lives in a cell, if machine code can number all slots. -/
theorem livesIn_of_find? {a : Allocation} (hs : a.slots.length ≤ UInt32.size) {v : Var} {l : Location}
    (h : a.find? v = some l) : ∃ c, LivesIn a.find? v c := by
  rcases Allocation.find?_cases h with ⟨q, rfl⟩ | ⟨slot, rfl⟩
  · exact ⟨_, _, h, rfl⟩
  · obtain ⟨n, hn, rfl⟩ := Allocation.find?_spilled h
    have hlt := (List.getElem?_eq_some_iff.mp hn).1
    have hint : (Int64.ofNat n).toInt = n := toInt_ofNat_position (by
      have : UInt32.size < positions := by decide
      omega)
    refine ⟨.mem (UInt32.ofNat n), _, h, ?_⟩
    rw [cellOf, slotNumber?, hint, if_pos (by omega)]
    rfl

theorem livesIn_of_targetOf {a : Allocation} {v : Var} {t : Target}
    (h : targetOf a.find? v = .ok t) : ∃ c, LivesIn a.find? v c := by
  rw [targetOf] at h
  cases hl : a.find? v with
  | none =>
    rw [hl] at h
    cases h
  | some l =>
    rcases Allocation.find?_cases hl with ⟨q, rfl⟩ | ⟨slot, rfl⟩
    · exact ⟨_, _, hl, rfl⟩
    · simp only [hl] at h
      split at h
      · rename_i n hn
        exact ⟨.mem n, _, hl, by rw [cellOf, hn]; rfl⟩
      · cases h

/-- If there is code for an instruction, its variables live in cells. -/
theorem livesIn_of_emitOne {a : Allocation} {resolve : Resolver} {i : Code.Instr}
    {mc : List Program.Instr} (h : emitOne a.find? resolve i = .ok mc) :
    ∀ v ∈ i.vars, ∃ c, LivesIn a.find? v c := by
  have hsource : ∀ {v : Var} {src : Program.Source}, sourceOf a.find? resolve (.var v) = .ok src →
      ∃ c, LivesIn a.find? v c := by
    intro v src hs
    rw [sourceOf] at hs
    cases ht : targetOf a.find? v with
    | ok t => exact livesIn_of_targetOf ht
    | error f =>
      rw [ht] at hs
      cases hs
  obtain ⟨t, ht, h⟩ := exists_of_bind_eq_ok h
  obtain ⟨left, hleft, h⟩ := exists_of_bind_eq_ok h
  intro v hv
  rcases List.mem_cons.mp (Instr.vars_eq i ▸ hv) with rfl | hv
  · exact livesIn_of_targetOf ht
  · rcases Instr.mem_reads.mp hv with hl | ⟨op, hr⟩
    · rw [hl] at hleft
      exact hsource hleft
    · simp only [hr] at h
      obtain ⟨k, -, h⟩ := exists_of_bind_eq_ok h
      obtain ⟨right, hright, -⟩ := exists_of_bind_eq_ok h
      exact hsource hright

/-- Every variable with a range lives in a cell. -/
theorem exists_livesIn {r : Ranges} (hd : r.Distinct) (hf : r.size < UInt32.size)
    {registers : List Reg} {v : Var} {x : LiveRange} (h : r.find? v = some x) :
    ∃ c, LivesIn (allocate r registers).find? v c := by
  obtain ⟨l, hl⟩ := exists_allocate_find? hd registers h
  exact livesIn_of_find? ((slots_allocate_le hd registers).trans (Nat.le_of_lt hf)) hl

/-! ## What the machine holds -/

/-- Ranges in one register are at least `gap` positions apart. -/
def Spaced (gap : Nat) (r : Ranges) (a : Allocation) : Prop :=
  ∀ u v x y q, u ≠ v → r.find? u = some x → r.find? v = some y → a.find? u = some (.register q) →
    a.find? v = some (.register q) →
      x.stop.toInt + gap ≤ y.start.toInt ∨ y.stop.toInt + gap ≤ x.start.toInt

/-- A variable is held from behind its first touch on. In a register it is held up to the end of its
range, and for the gap to the next range. -/
def HeldBefore (gap : Nat) (code : List Code.Instr) (a : Allocation) (n : Nat) (v : Var) : Prop :=
  ∃ x, (Ranges.analyze code).find? v = some x ∧ x.start.toInt < n ∧
    (n ≤ x.stop.toInt + gap ∨ ∃ slot, a.find? v = some (.spilled slot))

section

variable {resolve : Resolver} {code : List Code.Instr} {registers : List Reg}

/-- The range of a variable that an instruction touches reaches over the instruction. -/
theorem range_of_mem_vars (hs : code.length < positions) {n : Nat} {i : Code.Instr}
    (hi : code[n]? = some i) {v : Var} (hv : v ∈ i.vars) :
    ∃ x, (Ranges.analyze code).find? v = some x ∧ x.start.toInt ≤ n ∧ (n : Int) ≤ x.stop.toInt := by
  obtain ⟨fst, lst, ht, hx⟩ := Ranges.exists_touchedWithin hs hi hv
  obtain ⟨hf, hl⟩ := ht.between n i hi hv
  have hlt := ht.lt_length
  refine ⟨_, hx, ?_, ?_⟩
  · rw [Ranges.toInt_spanning_start (by omega)]
    omega
  · rw [Ranges.toInt_spanning_stop (by omega) (by omega)]
    omega

/-- Closed ranges in one register do not meet. -/
theorem spaced_allocate (hs : code.length < positions) (hr : registers.Nodup) :
    Spaced 1 (.analyze code) (allocate (.analyze code) registers) := by
  intro u v x y q hne hx hy hu hv
  exact allocate_disjoint (Ranges.distinct_analyze code) registers (Ranges.startsNonneg_analyze hs)
    hr hx hy hne hu hv

/-- Variables that one instruction touches have different locations. -/
theorem find?_ne_of_mem_vars (hs : code.length < positions) (hr : registers.Nodup)
    (hslots : (allocate (.analyze code) registers).slots.length ≤ UInt64.size) {n : Nat}
    {i : Code.Instr} (hi : code[n]? = some i) {u v : Var} (hu : u ∈ i.vars) (hv : v ∈ i.vars)
    (hne : u ≠ v) :
    ∃ l k, (allocate (.analyze code) registers).find? u = some l ∧
      (allocate (.analyze code) registers).find? v = some k ∧ l ≠ k := by
  have hd := Ranges.distinct_analyze code
  obtain ⟨x, hx, hx₁, hx₂⟩ := range_of_mem_vars hs hi hu
  obtain ⟨y, hy, hy₁, hy₂⟩ := range_of_mem_vars hs hi hv
  obtain ⟨l, hl⟩ := exists_allocate_find? hd registers hx
  obtain ⟨k, hk⟩ := exists_allocate_find? hd registers hy
  refine ⟨l, k, hl, hk, ?_⟩
  rintro rfl
  rcases Allocation.find?_cases hl with ⟨q, rfl⟩ | ⟨slot, rfl⟩
  · -- both ranges reach over the instruction, so neither ends before the other starts
    have := spaced_allocate hs hr u v x y q hne hx hy hl hk
    omega
  · exact hne (Allocation.eq_of_find?_spilled hslots hl hk)

/-- Variables that one instruction touches live in different cells. -/
theorem cell_ne_of_mem_vars (hs : code.length < positions)
    (hf : (Ranges.analyze code).size ≤ UInt64.size) (hr : registers.Nodup) {n : Nat}
    {i : Code.Instr} (hi : code[n]? = some i) {u v : Var} (hu : u ∈ i.vars) (hv : v ∈ i.vars)
    (hne : u ≠ v) {c : Cell}
    (hcu : LivesIn (allocate (.analyze code) registers).find? u c) :
    ¬ LivesIn (allocate (.analyze code) registers).find? v c := by
  intro hcv
  have hslots := (slots_allocate_le (Ranges.distinct_analyze code) registers).trans hf
  obtain ⟨l, k, hl, hk, hlk⟩ := find?_ne_of_mem_vars hs hr hslots hi hu hv hne
  exact hlk (Option.some.inj (hl.symm.trans ((hcu.find?_eq hcv).trans hk)))

/-- Each variable is defined by the first instruction that touches it. -/
def DefinedFirst (code : List Code.Instr) : Prop :=
  ∀ pre i post, code = pre ++ i :: post → ∀ v ∈ i.vars, (∀ j ∈ pre, v ∉ j.vars) →
    i.dst = v ∧ v ∉ i.reads

/-- A variable whose range starts at a position is the destination there, and it is not read. -/
theorem DefinedFirst.first (h : DefinedFirst code) {n : Nat} {i : Code.Instr}
    (hi : code[n]? = some i) {v : Var} {fst lst : Nat} (ht : Ranges.TouchedWithin code v fst lst)
    (hn : fst = n) : i.dst = v ∧ v ∉ i.reads := by
  obtain ⟨j, hj, hv⟩ := ht.first_touch
  rw [hn, hi] at hj
  cases hj
  obtain ⟨hlt, hget⟩ := List.getElem?_eq_some_iff.mp hi
  have hsplit : code = code.take n ++ i :: code.drop (n + 1) := by
    rw [← hget, List.getElem_cons_drop, List.take_append_drop]
  refine h _ i _ hsplit v hv fun j hj hvj => ?_
  obtain ⟨k, hk, rfl⟩ := List.mem_take_iff_getElem.mp hj
  have := (ht.between k _ (List.getElem?_eq_getElem (by omega)) hvj).1
  omega

/-- An allocation whose ranges are spaced keeps what the machine has to hold, along a beginning of the
code in which every move leaves the right operand alone. -/
theorem DefinedFirst.keeps (h : DefinedFirst code) (hs : code.length < positions) {a : Allocation}
    (hslots : a.slots.length ≤ UInt64.size) {gap : Nat} (hspaced : Spaced gap (.analyze code) a)
    {is : List Code.Instr} (hc : is <+: code) (hread : ∀ i ∈ is, i.Readable resolve)
    (hplaced : ∀ i ∈ is, ∀ v ∈ i.vars, ∃ c, LivesIn a.find? v c)
    (hclear : ∀ i ∈ is, ∀ op v c, i.right = some (op, .var v) → LivesIn a.find? v c →
      LivesIn a.find? i.dst c → ∃ u, i.left = .var u ∧ LivesIn a.find? u c) :
    Keeps a.find? resolve is (HeldBefore gap code a) := by
  have hat : ∀ {n : Nat} {i : Code.Instr}, is[n]? = some i → code[n]? = some i := by
    intro n i hi
    obtain ⟨post, rfl⟩ := hc
    rw [List.getElem?_append_left (List.getElem?_eq_some_iff.mp hi).1, hi]
  refine ⟨hread, hplaced, ?_, ?_, hclear⟩
  · intro n i hi v hv
    have hvars : v ∈ i.vars := List.mem_cons_of_mem _ hv
    obtain ⟨fst, lst, ht, hx⟩ := Ranges.exists_touchedWithin hs (hat hi) hvars
    obtain ⟨hf, hl⟩ := ht.between n i (hat hi) hvars
    have hlt := ht.lt_length
    have hne : fst ≠ n := fun he => (h.first (hat hi) ht he).2 hv
    refine ⟨_, hx, ?_, .inl ?_⟩
    · rw [Ranges.toInt_spanning_start (by omega)]
      omega
    · rw [Ranges.toInt_spanning_stop (by omega) (by omega)]
      omega
  · rintro n i hi v ⟨x, hx, hstart, hheld⟩ hne
    have hbehind : x.start.toInt < n := by
      obtain ⟨fst, lst, ht, rfl⟩ := Ranges.touchedWithin_of_find? hs hx
      have hlt := ht.lt_length
      have hle := ht.le
      have hfst : fst ≠ n := fun he => hne (h.first (hat hi) ht he).1.symm
      rw [Ranges.toInt_spanning_start (by omega)] at hstart ⊢
      omega
    refine ⟨⟨x, hx, hbehind, hheld.imp_left fun hstop => by omega⟩, fun c hcv hcd => ?_⟩
    -- a register that is still held is not the register of the destination
    obtain ⟨q, hqv, hqd⟩ := registers_of_livesIn hslots hne hcv hcd
    obtain ⟨y, hy, hy₁, hy₂⟩ := range_of_mem_vars hs (hat hi) (List.mem_cons_self : i.dst ∈ i.vars)
    have happart := hspaced v i.dst x y q hne hx hy hqv hqd
    rcases hheld with hstop | ⟨slot, hslot⟩
    · omega
    · rw [hqv] at hslot
      cases hslot

/-- The scan keeps what the machine has to hold. -/
theorem Translatable.keeps (h : Translatable resolve code) (hr : registers.Nodup) :
    Keeps (allocate (.analyze code) registers).find? resolve code
      (HeldBefore 1 code (allocate (.analyze code) registers)) := by
  have hd := Ranges.distinct_analyze code
  have hf : (Ranges.analyze code).size ≤ UInt64.size := (Nat.le_of_lt h.few).trans (by decide)
  have hdefined : DefinedFirst code := h.defined
  refine hdefined.keeps h.short ((slots_allocate_le hd registers).trans hf)
    (spaced_allocate h.short hr) List.prefix_rfl h.readable ?_ ?_
  · intro i hi v hv
    obtain ⟨n, hn⟩ := List.mem_iff_getElem?.mp hi
    obtain ⟨x, hx, -, -⟩ := range_of_mem_vars h.short hn hv
    exact exists_livesIn hd h.few hx
  · intro i hi op v c hright hc hcd
    obtain ⟨n, hn⟩ := List.mem_iff_getElem?.mp hi
    have hv : v ∈ i.vars := List.mem_cons_of_mem _ (Instr.mem_reads.mpr (.inr ⟨op, hright⟩))
    by_cases he : v = i.dst
    · subst he
      exact ⟨_, h.clear i hi op hright, hc⟩
    · exact absurd hcd (cell_ne_of_mem_vars h.short hf hr hn hv (by simp [Instr.vars_eq]) he hc)

/-- Nothing is held before the first instruction. -/
theorem agree_start (hs : code.length < positions) (gap : Nat) (a : Allocation) (locate : Locator)
    (env : Env) (m : Machine) : Agree locate (HeldBefore gap code a) 0 env m := by
  rintro v c ⟨x, hx, hstart, -⟩ -
  have := Ranges.startsNonneg_analyze hs _
    ((Ranges.find?_eq_some_iff (Ranges.distinct_analyze code)).mp hx)
  simp only at this
  omega

/-- The location of a variable holds the value that the interpreter has for it. -/
def Holds (locate : Locator) (s : State) (v : Var) : Prop :=
  ∃ l, locate v = some l ∧ s.machine.load l = .ok (s.env v)

/-- Behind the instructions that were run, everything that is held can be loaded. -/
theorem Translatable.holds (h : Translatable resolve code) (hr : registers.Nodup) {m : Machine}
    {is : List Code.Instr} {s : State}
    (hs : Runs (allocate (.analyze code) registers).find? resolve ⟨.empty, m⟩ is s)
    (hc : is <+: code) {v : Var}
    (hv : HeldBefore 1 code (allocate (.analyze code) registers) is.length v) :
    Holds (allocate (.analyze code) registers).find? s v := by
  have ha := hs.agree (h.keeps hr) (agree_start h.short _ _ _ _ m) hc
  obtain ⟨x, hx, -⟩ := id hv
  obtain ⟨c, hlive⟩ := exists_livesIn (Ranges.distinct_analyze code) h.few hx
  have hget := ha v c hv hlive
  obtain ⟨l, hl, hcell⟩ := hlive
  exact ⟨l, hl, by rw [Machine.load_of_cell hcell, hget]⟩

theorem Translatable.emit_eq (h : Translatable resolve code) (hr : registers.Nodup) :
    emit (allocate (.analyze code) registers).find? resolve code =
      .ok { instrs := code.flatMap (codeOf (allocate (.analyze code) registers).find? resolve) } :=
  Program.emit_eq (h.keeps hr).emits

theorem Translatable.step (h : Translatable resolve code) (hr : registers.Nodup) {m : Machine}
    {pre post : List Code.Instr} {i : Code.Instr} {s : State} (hc : code = pre ++ i :: post)
    (hs : Runs (allocate (.analyze code) registers).find? resolve ⟨.empty, m⟩ pre s) :
    (∃ x t, step (allocate (.analyze code) registers).find? resolve s i = (⟨.ok x, .ok x⟩, t)) ∨
    ∃ p j t, step (allocate (.analyze code) registers).find? resolve s i =
      (⟨.error (.divisionByZero i), .error (.divisionByZero p j)⟩, t) :=
  (h.keeps hr).next (agree_start h.short _ _ _ (State.mk .empty m).env m) hc hs

/-- The code runs to its end, or up to a division by zero that both sides meet. -/
theorem Translatable.runs (h : Translatable resolve code) (hr : registers.Nodup) (m : Machine)
    {is : List Code.Instr} (hc : is <+: code) :
    let locate := (allocate (.analyze code) registers).find?
    (∃ s, Runs locate resolve ⟨.empty, m⟩ is s) ∨
    ∃ pre i post s t p j, is = pre ++ i :: post ∧ Runs locate resolve ⟨.empty, m⟩ pre s ∧
      Lockstep.step locate resolve s i =
        (⟨.error (.divisionByZero i), .error (.divisionByZero p j)⟩, t) :=
  (h.keeps hr).runs (agree_start h.short _ _ _ (State.mk .empty m).env m) is hc

/-- Code that the interpreter runs is run by both sides. -/
theorem Translatable.runs_of_stepAll (h : Translatable resolve code) (hr : registers.Nodup)
    (m : Machine) {is : List Code.Instr} (hc : is <+: code) {env : Env}
    (he : stepAll resolve .empty is = .ok env) :
    ∃ m', Runs (allocate (.analyze code) registers).find? resolve ⟨.empty, m⟩ is ⟨env, m'⟩ := by
  rcases h.runs hr m hc with ⟨s, hs⟩ | ⟨pre, i, post, s, t, p, j, rfl, hs, hstep⟩
  · cases hs.env.symm.trans he
    exact ⟨s.machine, hs⟩
  · cases (hs.env_fault hstep rfl post).symm.trans he

/-- Code that the interpreter runs is taken instruction by instruction with the same values. -/
theorem Translatable.inStep (h : Translatable resolve code) (hr : registers.Nodup) (m : Machine)
    {env : Env} (he : stepAll resolve .empty code = .ok env) :
    ∃ xs t, InStep (allocate (.analyze code) registers).find? resolve ⟨.empty, m⟩ code xs t := by
  have hk := h.keeps hr
  suffices hrest : ∀ (is pre : List Code.Instr) (s : State), code = pre ++ is →
      Runs (allocate (.analyze code) registers).find? resolve ⟨.empty, m⟩ pre s →
        ∃ xs t, InStep (allocate (.analyze code) registers).find? resolve s is xs t from
    hrest code [] _ rfl .nil
  intro is
  induction is with
  | nil => exact fun pre s _ _ => ⟨[], s, .nil s⟩
  | cons i is ih =>
    intro pre s hc hs
    have hi : i ∈ code := by simp [hc]
    rcases h.step hr hc hs with ⟨x, t, hstep⟩ | ⟨p, j, t, hstep⟩
    · obtain ⟨xs, u, hxs⟩ := ih (pre ++ [i]) t (by rw [hc, List.append_cons]) (hs.snoc hstep)
      exact ⟨_, u, .of_step (hk.placed i hi i.dst List.mem_cons_self) (hk.emits i hi) hstep hxs⟩
    · have hfault := hs.env_fault hstep rfl is
      rw [← hc, he] at hfault
      cases hfault

/-- Code that the interpreter does not run to its end makes the machine divide by zero. -/
theorem Translatable.fault_of_stepAll (h : Translatable resolve code) (hr : registers.Nodup)
    (m : Machine) (he : ∀ env, stepAll resolve .empty code ≠ .ok env) :
    ∃ m' p j, m.run (code.flatMap (codeOf (allocate (.analyze code) registers).find? resolve)) =
      (m', some (.divisionByZero p j)) := by
  rcases h.runs hr m List.prefix_rfl with ⟨s, hs⟩ | ⟨pre, i, post, s, t, p, j, hcode, hs, hstep⟩
  · exact absurd hs.env (he s.env)
  · have hrun := hs.machine_fault hstep rfl post
    rw [← hcode] at hrun
    exact ⟨_, _, _, hrun⟩

/-- The machine code of a beginning of the code leaves the value of the last instruction in the
location of its destination. -/
theorem Translatable.load_last (h : Translatable resolve code) (hr : registers.Nodup) (m : Machine)
    {is : List Code.Instr} {i : Code.Instr} (hc : is ++ [i] <+: code) {env : Env} {x : Int64}
    (he : stepAll resolve .empty is = .ok env) (hx : i.step resolve env = .ok (x, env.set i.dst x)) :
    let locate := (allocate (.analyze code) registers).find?
    ∃ q m' l, emit locate resolve (is ++ [i]) = .ok q ∧
      q.instrs <+: code.flatMap (codeOf locate resolve) ∧ m.run q.instrs = (m', none) ∧
      locate i.dst = some l ∧ m'.load l = .ok x := by
  have hrun : stepAll resolve .empty (is ++ [i]) = .ok (env.set i.dst x) := by
    rw [stepAll_append, he]
    simp only [stepAll, hx]
    rfl
  obtain ⟨m', hs⟩ := h.runs_of_stepAll hr m hc hrun
  have hi : code[is.length]? = some i := by
    obtain ⟨post, rfl⟩ := hc
    simp
  -- the range of the destination reaches over the instruction
  obtain ⟨l, hl, hload⟩ : Holds _ _ i.dst := by
    obtain ⟨y, hy, hstart, hstop⟩ :=
      range_of_mem_vars h.short hi (List.mem_cons_self : i.dst ∈ i.vars)
    refine h.holds hr hs hc ⟨y, hy, ?_, .inl ?_⟩ <;>
      rw [List.length_append, List.length_singleton] <;> omega
  refine ⟨_, m', l, Program.emit_eq fun j hj => (h.keeps hr).emits j (hc.subset hj), hc.flatMap _,
    hs.machine, hl, ?_⟩
  rw [hload]
  exact congrArg Except.ok (Env.set_self env i.dst x)

/-- Allocation and emission preserve meaning. From an empty interpreter and from any machine, each
instruction gives the same value on both sides or is a division by zero on both sides. Behind an
instruction, a variable can be loaded from its location from its first touch to the end of its
range, and beyond if it is spilled. The program as a whole does what its pieces do one after the
other. -/
theorem back_end_simulates (h : Translatable resolve code) (hr : registers.Nodup) (m : Machine) :
    let locate := (allocate (.analyze code) registers).find?
    (∀ pre i post s, code = pre ++ i :: post → Runs locate resolve ⟨.empty, m⟩ pre s →
      (∃ x t, step locate resolve s i = (⟨.ok x, .ok x⟩, t) ∧
        ∀ v range, (Ranges.analyze code).find? v = some range → range.start.toInt ≤ pre.length →
          (pre.length ≤ range.stop.toInt ∨ ∃ slot, locate v = some (.spilled slot)) →
            Holds locate t v) ∨
      ∃ p j t, step locate resolve s i =
          (⟨.error (.divisionByZero i), .error (.divisionByZero p j)⟩, t) ∧
        (codeOf locate resolve i)[p]? = some j) ∧
    ∃ program, emit locate resolve code = .ok program ∧
      ((∃ s, Runs locate resolve ⟨.empty, m⟩ code s ∧ stepAll resolve .empty code = .ok s.env ∧
        m.run program.instrs = (s.machine, none)) ∨
      ∃ pre i post s p j t, code = pre ++ i :: post ∧ Runs locate resolve ⟨.empty, m⟩ pre s ∧
        step locate resolve s i =
          (⟨.error (.divisionByZero i), .error (.divisionByZero p j)⟩, t) ∧
        stepAll resolve .empty code = .error (.divisionByZero i) ∧
        m.run program.instrs = (t.machine,
          some (.divisionByZero ((pre.flatMap (codeOf locate resolve)).length + p) j))) := by
  refine ⟨fun pre i post s hc hs => ?_, _, h.emit_eq hr, ?_⟩
  · rcases h.step hr hc hs with ⟨x, t, hstep⟩ | ⟨p, j, t, hstep⟩
    · refine .inl ⟨x, t, hstep, fun v range hrange hstart hstop => ?_⟩
      refine h.holds hr (hs.snoc hstep) ⟨post, by simp [hc]⟩ ⟨range, hrange, ?_, ?_⟩
      · rw [List.length_append, List.length_singleton]
        omega
      · rw [List.length_append, List.length_singleton]
        exact hstop.imp_left fun hle => by omega
    · exact .inr ⟨p, j, t, hstep, Machine.getElem?_of_run_fault (run_of_step hstep)⟩
  · rcases h.runs hr m List.prefix_rfl with
      ⟨s, hs⟩ | ⟨pre, i, post, s, t, p, j, hc, hs, hstep⟩
    · exact .inl ⟨s, hs, hs.env, hs.machine⟩
    · refine .inr ⟨pre, i, post, s, p, j, t, hc, hs, hstep, ?_, ?_⟩
      · have henv := hs.env_fault hstep rfl post
        rw [← hc] at henv
        exact henv
      · have hrun := hs.machine_fault hstep rfl post
        rw [← hc] at hrun
        exact hrun

end

/-- Three variables and one register, which holds a word already. -/
theorem back_end_simulates_pressed :
    let code : List Code.Instr :=
      [⟨.temp 1, .literal 0, none⟩, ⟨.temp 2, .literal 0, none⟩,
        ⟨.temp 3, .var (.temp 2), some (.div, .var (.temp 1))⟩]
    let locate := (allocate (.analyze code) [7]).find?
    locate (.temp 1) = some (.register 7) ∧ locate (.temp 2) = some (.spilled 0) ∧
      ∃ program m, emit locate (fun _ => "12") code = .ok program ∧
        Machine.run ⟨[(.reg 7, 5)]⟩ program.instrs = (m, none) := by
  intro code locate
  have hread : Text.Decimal.read "12" = .ok 12 := by cbv
  have htrans : Translatable (fun _ => "12") code := by
    refine ⟨by decide, by decide, ?_, ?_, ?_⟩
    · simp [code, Instr.Readable, Operand.Readable, Operator.Known, hread]
    · rintro (_ | ⟨_, _ | ⟨_, _ | ⟨_, _⟩⟩⟩) i post h <;> simp [code] at h
      · obtain ⟨rfl, -⟩ := h
        decide
      · obtain ⟨rfl, rfl, -⟩ := h
        decide
      · obtain ⟨rfl, rfl, rfl, -⟩ := h
        decide
    · simp [code, Var.temp]
  refine ⟨by cbv, by cbv, ?_⟩
  obtain ⟨program, hemit, ⟨s, -, -, hrun⟩ | ⟨pre, i, post, s, p, j, t, -, -, -, hfault, -⟩⟩ :=
    (back_end_simulates htrans (List.nodup_singleton 7) ⟨[(.reg 7, 5)]⟩).2
  · exact ⟨program, s.machine, hemit, hrun⟩
  · have hok : (stepAll (fun _ => "12") .empty code).isOk = true := by cbv
    rw [hfault] at hok
    cases hok

end StraightLine.Lockstep
