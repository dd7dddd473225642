import StraightLine.Lockstep
import StraightLine.Proofs.Fallible

/-! Two-address code computes what its instruction says. The operands are read in the state in front
of the code, the result ends up in the cell of the destination, and no other cell changes. -/

namespace StraightLine.Program

open StraightLine.Alloc StraightLine.Source
open StraightLine.Code (Operand Operator)

/-! ## Cells and operands -/

def Target.ofCell : Cell → Target
  | .reg r => .register r
  | .mem slot => .memory slot

def Source.ofCell (c : Cell) : Source := (Target.ofCell c).asSource

@[simp] theorem Target.cell_ofCell (c : Cell) : (Target.ofCell c).cell = c := by
  cases c <;> rfl

@[simp] theorem Machine.read_ofCell (m : Machine) (c : Cell) :
    m.read (Source.ofCell c) = m.get c := by
  cases c <;> rfl

theorem Target.same_ofCell (c d : Cell) :
    (Target.ofCell c).same (Source.ofCell d) = true ↔ c = d := by
  cases c <;> cases d <;>
    simp [Target.ofCell, Source.ofCell, Target.same, Target.asSource, Target.register,
      Target.memory, Source.register, Source.memory]

theorem Source.ofCell_inj {c d : Cell} (h : Source.ofCell c = Source.ofCell d) : c = d := by
  have hs := (Target.same_ofCell c c).mpr rfl
  rw [h] at hs
  exact (Target.same_ofCell c d).mp hs

theorem Source.immediate_ne_ofCell (n : Int64) (c : Cell) : Source.immediate n ≠ .ofCell c := by
  cases c <;> simp [Source.immediate, Source.ofCell, Target.ofCell, Target.asSource,
    Target.register, Target.memory, Source.register, Source.memory]

theorem Target.same_immediate (c : Cell) (n : Int64) :
    (Target.ofCell c).same (.immediate n) = false := by
  cases c <;> rfl

/-- The cell that a location stands for, if it is one that code can address. -/
def cellOf : Location → Option Cell
  | .register r => some (.reg r)
  | .spilled slot => (slotNumber? slot).map .mem
  | .untagged .. => none

theorem Machine.load_of_cell {l : Location} {c : Cell} (h : cellOf l = some c) (m : Machine) :
    m.load l = .ok (m.get c) := by
  cases l with
  | register r =>
    cases h
    rfl
  | untagged r slot => cases h
  | spilled slot =>
    rw [cellOf, slotNumber?] at h
    rw [Machine.load]
    split at h
    · rename_i hr
      cases h
      rw [if_pos hr]
    · cases h

theorem slotNumber?_inj {s t : Int64} {n : UInt32} (hs : slotNumber? s = some n)
    (ht : slotNumber? t = some n) : s = t := by
  have hslot : ∀ {s : Int64}, slotNumber? s = some n → s.toInt = n.toNat := by
    intro s hs
    rw [slotNumber?] at hs
    split at hs
    · cases hs
      rw [UInt32.toNat_ofNat_of_lt' (by omega)]
      omega
    · cases hs
  exact Int64.toInt_inj.mp ((hslot hs).trans (hslot ht).symm)

/-- Different locations are different cells. -/
theorem cellOf_inj {l k : Location} {c : Cell} (hl : cellOf l = some c) (hk : cellOf k = some c) :
    l = k := by
  cases l with
  | untagged r slot => cases hl
  | register r =>
    cases hl
    cases k with
    | untagged r slot => cases hk
    | register q =>
      cases hk
      rfl
    | spilled slot =>
      obtain ⟨n, -, hn⟩ := Option.map_eq_some_iff.mp hk
      cases hn
  | spilled slot =>
    obtain ⟨n, hn, rfl⟩ := Option.map_eq_some_iff.mp hl
    cases k with
    | untagged r slot => cases hk
    | register q => cases hk
    | spilled slot' =>
      obtain ⟨n', hn', he⟩ := Option.map_eq_some_iff.mp hk
      cases he
      rw [slotNumber?_inj hn hn']

def LivesIn (locate : Locator) (v : Code.Var) (c : Cell) : Prop :=
  ∃ l, locate v = some l ∧ cellOf l = some c

theorem LivesIn.unique {locate : Locator} {v : Code.Var} {c d : Cell} (hc : LivesIn locate v c)
    (hd : LivesIn locate v d) : c = d := by
  obtain ⟨l, hl, hc⟩ := hc
  obtain ⟨k, hk, hd⟩ := hd
  rw [hl] at hk
  cases hk
  rw [hc] at hd
  exact Option.some.inj hd

/-- Variables in one cell have one location. -/
theorem LivesIn.find?_eq {locate : Locator} {u v : Code.Var} {c : Cell} (hu : LivesIn locate u c)
    (hv : LivesIn locate v c) : locate u = locate v := by
  obtain ⟨l, hl, hc⟩ := hu
  obtain ⟨k, hk, hd⟩ := hv
  rw [hl, hk, cellOf_inj hc hd]

theorem LivesIn.targetOf {locate : Locator} {v : Code.Var} {c : Cell} (h : LivesIn locate v c) :
    targetOf locate v = .ok (.ofCell c) := by
  obtain ⟨l, hl, hc⟩ := h
  rw [Program.targetOf, hl]
  cases l with
  | register r =>
    cases hc
    rfl
  | untagged r slot => cases hc
  | spilled slot =>
    rw [cellOf, Option.map_eq_some_iff] at hc
    obtain ⟨n, hn, rfl⟩ := hc
    simp only [hn]
    rfl

/-- The source that supplies an operand: a variable is read from its cell, and a literal is its
number. -/
inductive Supplies (locate : Locator) (resolve : Resolver) : Operand → Source → Prop
  | var {v : Code.Var} {c : Cell} (hc : LivesIn locate v c) :
    Supplies locate resolve (.var v) (.ofCell c)
  | literal {h : Handle} {n : Int64} (hn : Text.Decimal.read (resolve h) = .ok n) :
    Supplies locate resolve (.literal h) (.immediate n)

theorem Supplies.sourceOf {locate : Locator} {resolve : Resolver} {o : Operand} {src : Source}
    (h : Supplies locate resolve o src) : sourceOf locate resolve o = .ok src := by
  cases h with
  | var hc =>
    rw [Program.sourceOf, hc.targetOf]
    rfl
  | literal hn => simp only [Program.sourceOf, hn]

theorem Supplies.eq_ofCell {locate : Locator} {resolve : Resolver} {v : Code.Var} {src : Source}
    {c : Cell} (h : Supplies locate resolve (.var v) src) (hc : LivesIn locate v c) :
    src = .ofCell c := by
  cases h with
  | var hd => rw [hd.unique hc]

/-- An operand that is read from a cell is a variable that lives there. -/
theorem Supplies.of_cell {locate : Locator} {resolve : Resolver} {o : Operand} {c : Cell}
    (h : Supplies locate resolve o (.ofCell c)) : ∃ v, o = .var v ∧ LivesIn locate v c := by
  generalize hs : Source.ofCell c = src at h
  cases h with
  | var hd => exact ⟨_, rfl, Source.ofCell_inj hs ▸ hd⟩
  | literal hn => exact absurd hs.symm (Source.immediate_ne_ofCell _ c)

/-! ## Running code -/

namespace RunFault

/-- The fault, `n` positions further on. -/
def shift (n : Nat) : RunFault → RunFault
  | divisionByZero p i => divisionByZero (n + p) i
  | unknownOpcode p code => unknownOpcode (n + p) code

end RunFault

namespace Machine

/-- Code that starts elsewhere does the same, and a fault is that much further on. -/
theorem runFrom_add (m : Machine) (n p : Nat) (code : List Instr) :
    m.runFrom (n + p) code =
      ((m.runFrom p code).1, (m.runFrom p code).2.map (RunFault.shift n)) := by
  induction code generalizing m p with
  | nil => rfl
  | cons i is ih =>
    simp only [runFrom, step]
    cases effect i.op (m.get i.dst.cell) (m.read i.src) with
    | put x =>
      rw [Nat.add_assoc]
      exact ih _ (p + 1)
    | zeroDivisor => rfl
    | undefinedOp => rfl

theorem runFrom_eq_run (m : Machine) (n : Nat) (code : List Instr) :
    m.runFrom n code = ((m.run code).1, (m.run code).2.map (RunFault.shift n)) :=
  runFrom_add m n 0 code

/-- A fault in the first piece of code is the fault of the whole. -/
theorem run_append_of_fault {m m' : Machine} {f : RunFault} {xs : List Instr} (ys : List Instr)
    (h : m.run xs = (m', some f)) : m.run (xs ++ ys) = (m', some f) := by
  rw [run] at h ⊢
  generalize 0 = p at h ⊢
  induction xs generalizing m p with
  | nil => cases h
  | cons i is ih =>
    rw [List.cons_append]
    rw [runFrom] at h ⊢
    cases hs : m.step p i with
    | ok t =>
      rw [hs] at h
      exact ih (p + 1) h
    | error g =>
      rw [hs] at h
      exact h

/-- Behind a first piece of code that does not fail the second one runs. -/
theorem run_append_of_ok {m m' : Machine} {xs : List Instr} (ys : List Instr)
    (h : m.run xs = (m', none)) :
    m.run (xs ++ ys) = ((m'.run ys).1, (m'.run ys).2.map (RunFault.shift xs.length)) := by
  rw [← runFrom_eq_run]
  rw [run] at h ⊢
  suffices hs : ∀ p, m.runFrom p xs = (m', none) →
      m.runFrom p (xs ++ ys) = m'.runFrom (p + xs.length) ys by
    simpa using hs 0 h
  clear h
  induction xs generalizing m with
  | nil =>
    intro p h
    cases h
    rfl
  | cons i is ih =>
    intro p h
    rw [List.cons_append, List.length_cons]
    rw [runFrom] at h ⊢
    cases hs : m.step p i with
    | ok t =>
      rw [hs] at h
      rw [Nat.add_comm is.length 1, ← Nat.add_assoc]
      exact ih (p + 1) h
    | error g =>
      rw [hs] at h
      cases h

/-- The position of a division by zero is the position of its instruction. -/
theorem getElem?_of_run_fault {m m' : Machine} {code : List Instr} {p : Nat} {j : Instr}
    (h : m.run code = (m', some (.divisionByZero p j))) : code[p]? = some j := by
  suffices hs : ∀ (n : Nat) (m : Machine), m.runFrom n code = (m', some (.divisionByZero p j)) →
      ∃ k, p = n + k ∧ code[k]? = some j by
    obtain ⟨k, rfl, hk⟩ := hs 0 m h
    rwa [Nat.zero_add]
  clear h
  induction code with
  | nil =>
    intro n m h
    cases h
  | cons i is ih =>
    intro n m h
    simp only [runFrom, step] at h
    cases he : effect i.op (m.get i.dst.cell) (m.read i.src) with
    | put x =>
      rw [he] at h
      obtain ⟨k, rfl, hk⟩ := ih (n + 1) _ h
      exact ⟨k + 1, by omega, hk⟩
    | zeroDivisor =>
      rw [he] at h
      cases h
      exact ⟨0, rfl, rfl⟩
    | undefinedOp =>
      rw [he] at h
      cases h

end Machine

/-! ## The code of instructions -/

section

variable {locate : Locator} {resolve : Resolver} {i : Code.Instr} {d : Cell} {left right : Source}

theorem emitOne_move (hd : LivesIn locate i.dst d)
    (hl : Supplies locate resolve i.left left) (hr : i.right = none) :
    emitOne locate resolve i = .ok [{ op := 1, dst := .ofCell d, src := left }] := by
  simp only [emitOne, hd.targetOf, hl.sourceOf, hr]
  rfl

/-- The code of an operation: the move is left out if the left operand is at the destination. -/
def operation (d : Cell) (op : UInt8) (left right : Source) : List Instr :=
  (if (Target.ofCell d).same left then [] else [{ op := 1, dst := .ofCell d, src := left }]) ++
    [{ op := op, dst := .ofCell d, src := right }]

theorem emitOne_operation (hd : LivesIn locate i.dst d)
    (hl : Supplies locate resolve i.left left) {op : Operator} {o : Operand}
    (hr : i.right = some (op, o)) {code : UInt8} (hop : opcodeOf op = .ok code)
    (ho : Supplies locate resolve o right) :
    emitOne locate resolve i = .ok (operation d code left right) := by
  simp only [emitOne, hd.targetOf, hl.sourceOf, hr, hop, ho.sourceOf]
  rfl

/-- A machine that differs from another one in one cell only. -/
structure Puts (m : Machine) (d : Cell) (x : Int64) (m' : Machine) : Prop where
  at_cell : m'.get d = x
  elsewhere : ∀ c, c ≠ d → m'.get c = m.get c

theorem Machine.puts_set (m : Machine) (d : Cell) (x : Int64) : Puts m d x (m.set d x) :=
  ⟨m.get_set_self d x, fun _ h => m.get_set_of_ne x h⟩

theorem run_move (m : Machine) (d : Cell) (left : Source) :
    m.run [{ op := 1, dst := .ofCell d, src := left }] = (m.set d (m.read left), none) := by
  simp [Machine.run, Machine.runFrom, Machine.step, effect]

/-- The effect of an operation with a meaning is the value of its operator. -/
theorem effect_of_opcode {op : Operator} {code : UInt8} (h : opcodeOf op = .ok code) (a b : Int64) :
    effect code a b = match op.apply? a b with
      | some x => .put x
      | none => .zeroDivisor := by
  cases op with
  | add => cases h; rfl
  | sub => cases h; rfl
  | mul => cases h; rfl
  | div =>
    cases h
    simp only [effect, Operator.apply?]
    split <;> rfl
  | other n => cases h

/-- What an operation on the destination does when the left operand is there. -/
theorem run_operate {op : Operator} {code : UInt8} (h : opcodeOf op = .ok code) (m : Machine)
    (d : Cell) (right : Source) :
    m.run [{ op := code, dst := .ofCell d, src := right }] =
      match op.apply? (m.get d) (m.read right) with
      | some x => (m.set d x, none)
      | none => (m, some (.divisionByZero 0 { op := code, dst := .ofCell d, src := right })) := by
  simp only [Machine.run, Machine.runFrom, Machine.step, Target.cell_ofCell, effect_of_opcode h]
  cases op.apply? (m.get d) (m.read right) <;> rfl

/-- The code of an operation fails if and only if the operator has no value on the operands, and
then by a division by zero. Otherwise it puts the value into the destination. The right operand may
be at the destination only if the left one is there too. -/
theorem run_operation {op : Operator} {code : UInt8} (hop : opcodeOf op = .ok code) {lo ro : Operand}
    (hl : Supplies locate resolve lo left) (hr : Supplies locate resolve ro right)
    (hclear : right = .ofCell d → left = .ofCell d) (m : Machine) :
    match op.apply? (m.read left) (m.read right) with
    | some x => ∃ m', m.run (operation d code left right) = (m', none) ∧ Puts m d x m'
    | none => ∃ m' p j, m.run (operation d code left right) = (m', some (.divisionByZero p j)) ∧
        ∀ c, c ≠ d → m'.get c = m.get c := by
  by_cases hsame : left = .ofCell d
  · -- the left operand is at the destination already
    subst hsame
    rw [operation, if_pos ((Target.same_ofCell d d).mpr rfl), List.nil_append, run_operate hop,
      Machine.read_ofCell]
    cases op.apply? (m.get d) (m.read right) with
    | some x => exact ⟨_, rfl, m.puts_set d x⟩
    | none => exact ⟨_, _, _, rfl, fun _ _ => rfl⟩
  · have hne : (Target.ofCell d).same left = false := by
      cases hl with
      | var _ =>
        rw [Bool.eq_false_iff, Ne, Target.same_ofCell]
        exact fun h => hsame (h ▸ rfl)
      | literal _ => exact Target.same_immediate d _
    -- the move does not touch the right operand
    have hread : (m.set d (m.read left)).read right = m.read right := by
      cases hr with
      | @var v c _ =>
        rw [Machine.read_ofCell, Machine.read_ofCell]
        exact m.get_set_of_ne _ fun h => hsame (hclear (h ▸ rfl))
      | literal _ => rfl
    rw [operation, hne, if_neg Bool.false_ne_true,
      Machine.run_append_of_ok _ (run_move m d left), run_operate hop, Machine.get_set_self, hread]
    cases op.apply? (m.read left) (m.read right) with
    | some x =>
      refine ⟨_, rfl, Machine.get_set_self _ d x, fun c hc => ?_⟩
      rw [Machine.get_set_of_ne _ _ hc, Machine.get_set_of_ne _ _ hc]
    | none => exact ⟨_, _, _, rfl, fun c hc => Machine.get_set_of_ne _ _ hc⟩

end

/-- All code of an instruction works on the target of its destination and reads one of its operands, and
it moves or does the operation. -/
theorem parts_of_mem_emitOne {locate : Locator} {resolve : Resolver} {i : Code.Instr}
    {mc : List Instr} (h : emitOne locate resolve i = .ok mc) :
    ∀ j ∈ mc, targetOf locate i.dst = .ok j.dst ∧ (∃ o, sourceOf locate resolve o = .ok j.src) ∧
      (j.op = 1 ∨ ∃ o, opcodeOf o = .ok j.op) := by
  obtain ⟨t, ht, h⟩ := exists_of_bind_eq_ok h
  obtain ⟨left, hleft, h⟩ := exists_of_bind_eq_ok h
  rw [ht]
  intro j hj
  cases hr : i.right with
  | none =>
    simp only [hr] at h
    cases h
    rw [List.mem_singleton.mp hj]
    exact ⟨rfl, ⟨_, hleft⟩, .inl rfl⟩
  | some r =>
    simp only [hr] at h
    obtain ⟨op, hop, h⟩ := exists_of_bind_eq_ok h
    obtain ⟨right, hright, h⟩ := exists_of_bind_eq_ok h
    cases h
    rcases List.mem_append.mp hj with hj | hj
    · split at hj
      · cases hj
      · rw [List.mem_singleton.mp hj]
        exact ⟨rfl, ⟨_, hleft⟩, .inl rfl⟩
    · rw [List.mem_singleton.mp hj]
      exact ⟨rfl, ⟨_, hright⟩, .inr ⟨_, hop⟩⟩

theorem codeOf_eq {locate : Locator} {resolve : Resolver} {i : Code.Instr} {code : List Instr}
    (h : emitOne locate resolve i = .ok code) : Lockstep.codeOf locate resolve i = code := by
  rw [Lockstep.codeOf, h]
  rfl

/-- If there is code for a list, there is code for each of its instructions. -/
theorem emitOne_of_emit {locate : Locator} {resolve : Resolver} {code : List Code.Instr}
    {program : Program} (h : emit locate resolve code = .ok program) :
    ∀ i ∈ code, ∃ c, emitOne locate resolve i = .ok c := by
  obtain ⟨parts, hparts, -⟩ := exists_of_bind_eq_ok h
  exact exists_of_mapM_eq_ok hparts

/-- The code of a list is the code of its instructions, one after the other. -/
theorem emit_eq {locate : Locator} {resolve : Resolver} {code : List Code.Instr}
    (h : ∀ i ∈ code, ∃ c, emitOne locate resolve i = .ok c) :
    emit locate resolve code = .ok { instrs := code.flatMap (Lockstep.codeOf locate resolve) } := by
  have hparts : code.mapM (emitOne locate resolve) = .ok (code.map (Lockstep.codeOf locate resolve)) :=
    mapM_eq_ok_map fun i hi => by
      obtain ⟨c, hc⟩ := h i hi
      rw [codeOf_eq hc, hc]
  rw [emit, hparts]
  rfl

end StraightLine.Program
