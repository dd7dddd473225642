import StraightLine.Proofs.Simulation

/-! The machine code of one instruction, for variables that live anywhere. Whatever the machine holds in
front of it, and whichever operands share a place with the destination or with each other, the code
leaves the value of the instruction at the destination and touches nothing else, unless it divides by
zero. The one thing that has to be kept apart is the right operand from the destination. -/

namespace StraightLine.Code

/-- The result of an operator on integers, which has no bound. Division goes toward zero. -/
def Operator.onIntegers (op : Operator) (a b : Int) : Int :=
  match op with
  | add => a + b
  | sub => a - b
  | mul => a * b
  | div => a.tdiv b
  | other _ => a

/-- On words, an operator gives the word that its exact result wraps around to. -/
theorem Operator.apply?_eq {op : Operator} (h : op.Known) (a b : Int64) :
    op.apply? a b =
      if op = div ∧ b = 0 then none else some (Int64.ofInt (op.onIntegers a.toInt b.toInt)) := by
  cases op with
  | add => simp [onIntegers, Operator.apply?, Int64.ofInt_add]
  | sub => simp [onIntegers, Operator.apply?, Int64.ofInt_sub]
  | mul => simp [onIntegers, Operator.apply?, Int64.ofInt_mul]
  | div =>
    have hdiv : Int64.ofInt (a.toInt.tdiv b.toInt) = a / b := by
      rw [Int64.ofInt_eq_iff_bmod_eq_toInt, Int64.toInt_div]
    simp [onIntegers, Operator.apply?, hdiv]
  | other n => exact h.elim

end StraightLine.Code

namespace StraightLine.Program

open StraightLine.Alloc StraightLine.Source StraightLine.Lockstep
open StraightLine.Code (Operand Operator)

/-- The value of an operand in a state of the machine. A variable has the word at its location. -/
def Machine.operand? (locate : Locator) (resolve : Resolver) (m : Machine) : Operand → Option Int64
  | .var v => (locate v).bind fun l => (m.load l).toOption
  | .literal h => (Text.Decimal.read (resolve h)).toOption
  | .untagged .. => none

/-- What code for an instruction with the destination `d` has to do in the state `m`: it gets to `m'`,
with a fault or without one. All operands are taken from `m`. -/
structure Performs (locate : Locator) (resolve : Resolver) (i : Code.Instr) (d : Cell) (m : Machine)
    (m' : Machine) (fault : Option RunFault) : Prop where
  succeeds : fault = none ↔
    ∀ o, i.right = some (.div, o) → m.operand? locate resolve o ≠ some 0
  stops : ∀ f, fault = some f → ∃ p j, f = .divisionByZero p j
  moved : i.right = none → m.operand? locate resolve i.left = some (m'.get d)
  combined : ∀ op o, i.right = some (op, o) → fault = none → ∃ a b,
    m.operand? locate resolve i.left = some a ∧ m.operand? locate resolve o = some b ∧
      m'.get d = Int64.ofInt (op.onIntegers a.toInt b.toInt)
  elsewhere : ∀ c, c ≠ d → m'.get c = m.get c

section

variable {locate : Locator} {resolve : Resolver} {i : Code.Instr} {d : Cell} {left right : Source}

/-- The source of an operand reads its value. -/
theorem operand?_of_supplies {o : Operand} {src : Source} (h : Supplies locate resolve o src)
    (m : Machine) : m.operand? locate resolve o = some (m.read src) := by
  cases h with
  | var hc =>
    obtain ⟨l, hl, hc⟩ := hc
    simp only [Machine.operand?, hl, Option.bind_some, Machine.load_of_cell hc m,
      Machine.read_ofCell]
    rfl
  | literal hn =>
    simp only [Machine.operand?, hn]
    rfl

theorem performs_move (hl : Supplies locate resolve i.left left) (hr : i.right = none) (m : Machine) :
    Performs locate resolve i d m (m.set d (m.read left)) none where
  succeeds := by simp [hr]
  stops _ hf := nomatch hf
  moved _ := by rw [operand?_of_supplies hl, m.get_set_self]
  combined op o h := by simp [hr] at h
  elsewhere _ hc := m.get_set_of_ne _ hc

theorem performs_operation {op : Operator} {o : Operand} (hr : i.right = some (op, o))
    (hop : op.Known) {code : UInt8} (hcode : opcodeOf op = .ok code)
    (hl : Supplies locate resolve i.left left) (ho : Supplies locate resolve o right)
    (hclear : right = .ofCell d → left = .ofCell d) (m : Machine) :
    Performs locate resolve i d m (m.run (operation d code left right)).1
      (m.run (operation d code left right)).2 := by
  have hrun := run_operation hcode hl ho hclear m
  rw [Operator.apply?_eq hop] at hrun
  by_cases hzero : op = .div ∧ m.read right = 0
  · rw [if_pos hzero] at hrun
    obtain ⟨m', p, j, hm, helse⟩ := hrun
    obtain ⟨rfl, hz⟩ := hzero
    rw [hm]
    refine ⟨?_, fun f hf => ⟨p, j, (Option.some.inj hf).symm⟩, by simp [hr], by simp, helse⟩
    simpa [hr, operand?_of_supplies ho] using hz
  · rw [if_neg hzero] at hrun
    obtain ⟨m', hm, hget, helse⟩ := hrun
    rw [hm]
    refine ⟨iff_of_true rfl fun o' ho' => ?_, nofun, by simp [hr], ?_, helse⟩
    · rw [hr] at ho'
      obtain ⟨rfl, rfl⟩ := Prod.mk.inj (Option.some.inj ho')
      rw [operand?_of_supplies ho]
      exact fun hz => hzero ⟨rfl, Option.some.inj hz⟩
    · intro op' o' ho' _
      rw [hr] at ho'
      obtain ⟨rfl, rfl⟩ := Prod.mk.inj (Option.some.inj ho')
      exact ⟨_, _, operand?_of_supplies hl m, operand?_of_supplies ho m, hget⟩

/-- The right operand is at the destination only if the left one is. -/
def RightKept (locate : Locator) (i : Code.Instr) : Prop :=
  ∀ op v, i.right = some (op, .var v) → locate v = locate i.dst →
    ∃ u, i.left = .var u ∧ locate u = locate i.dst

theorem RightKept.sources (h : RightKept locate i) (hd : LivesIn locate i.dst d)
    (hl : Supplies locate resolve i.left left) {op : Operator} {o : Operand}
    (hr : i.right = some (op, o)) (ho : Supplies locate resolve o right)
    (hright : right = .ofCell d) : left = .ofCell d := by
  subst hright
  obtain ⟨v, rfl, hv⟩ := ho.of_cell
  obtain ⟨u, hu, hloc⟩ := h op v hr (hv.find?_eq hd)
  obtain ⟨l, hdl, hc⟩ := hd
  rw [hu] at hl
  exact hl.eq_ofCell ⟨l, hloc.trans hdl, hc⟩

/-- For every table of locations, every instruction whose variables have addressable locations and
whose numbers and operator have a meaning, and every state of the machine: there is code for the
instruction, and it performs it. -/
theorem instruction_code_performs (hplaced : ∀ v ∈ i.vars, ∃ c, LivesIn locate v c)
    (hread : i.Readable resolve) (hkept : RightKept locate i) :
    ∃ program d, emit locate resolve [i] = .ok program ∧ LivesIn locate i.dst d ∧
      ∀ m : Machine, Performs locate resolve i d m (m.run program.instrs).1
        (m.run program.instrs).2 := by
  obtain ⟨⟨d, hd⟩, ⟨left, hl⟩, hright⟩ := supplies_of_readable hread hplaced
  obtain ⟨mc, hmc⟩ := exists_emitOne hread hplaced
  have hemit : emit locate resolve [i] = .ok { instrs := mc } := by
    rw [emit_eq (by simpa using ⟨mc, hmc⟩), List.flatMap_singleton, codeOf_eq hmc]
  refine ⟨_, d, hemit, hd, fun m => ?_⟩
  cases hr : i.right with
  | none =>
    cases hmc.symm.trans (emitOne_move hd hl hr)
    rw [run_move]
    exact performs_move hl hr m
  | some r =>
    obtain ⟨op, o⟩ := r
    obtain ⟨⟨code, hcode⟩, right, ho⟩ := hright op o hr
    cases hmc.symm.trans (emitOne_operation hd hl hr hcode ho)
    exact performs_operation hr (hread.2 op o hr).1 hcode hl ho (hkept.sources hd hl hr ho) m

end

/-- The destination and the left operand are in register 3, and the right one is in slot 3. The least
word divided by minus one wraps around to itself, and a division by zero leaves the slot alone. -/
theorem instruction_code_performs_quotient :
    let locate : Locator := fun v => if v = .temp 3 then some (.spilled 3) else some (.register 3)
    let i : Code.Instr :=
      { dst := .temp 1, left := .var (.temp 2), right := some (.div, .var (.temp 3)) }
    let least : Machine := ⟨[(.reg 3, Int64.minValue), (.mem 3, -1)]⟩
    let zero : Machine := ⟨[(.reg 3, 7), (.mem 3, 0)]⟩
    ∃ program, emit locate (fun _ => "") [i] = .ok program ∧
      (least.run program.instrs).2 = none ∧
      (least.run program.instrs).1.get (.reg 3) = Int64.minValue ∧
      (zero.run program.instrs).2 ≠ none ∧ (zero.run program.instrs).1.get (.mem 3) = 0 := by
  intro locate i least zero
  have hplaced : ∀ v ∈ i.vars, ∃ c, LivesIn locate v c := by
    intro v _
    by_cases hv : v = .temp 3
    · exact ⟨.mem 3, .spilled 3, by simp [locate, hv], by decide⟩
    · exact ⟨.reg 3, .register 3, by simp [locate, hv], rfl⟩
  have hread : i.Readable fun _ => "" := by
    refine ⟨trivial, fun op o h => ?_⟩
    cases h
    exact ⟨trivial, trivial⟩
  have hkept : RightKept locate i := fun _ _ _ _ => ⟨.temp 2, rfl, by decide⟩
  obtain ⟨program, d, hemit, ⟨l, hl, hd⟩, hperforms⟩ := instruction_code_performs hplaced hread hkept
  cases hl.symm.trans (show locate i.dst = some (.register 3) by decide)
  cases hd
  have hright : ∀ o, i.right = some (.div, o) → o = .var (.temp 3) := by
    intro o h
    cases h
    rfl
  have hleast : (least.run program.instrs).2 = none := (hperforms least).succeeds.mpr fun o ho => by
    rw [hright o ho]
    decide
  obtain ⟨a, b, ha, hb, hget⟩ := (hperforms least).combined _ _ rfl hleast
  cases ha.symm.trans (show _ = some Int64.minValue by decide)
  cases hb.symm.trans (show _ = some (-1) by decide)
  refine ⟨program, hemit, hleast, hget.trans (by decide), fun hzero => ?_, ?_⟩
  · exact (hperforms zero).succeeds.mp hzero _ rfl (by decide)
  · exact (hperforms zero).elsewhere (.mem 3) (by decide)

end StraightLine.Program
