import Mathlib.Data.List.Induction
import StraightLine.Proofs.TwoAddress

/-! Three-address code and its machine code run side by side. The machine holds the value of a
variable only as long as nothing else is put into its cell, so what is held at a position is a
parameter: a discipline says which variables are held in front of each instruction. Reads have to be
held, and an instruction may take the cell of a variable only when the variable is not held behind
it. -/

namespace StraightLine.Code

open StraightLine.Source

def Instr.reads (i : Instr) : List Var :=
  i.left.var?.toList ++ (i.right.bind fun r => r.2.var?).toList

theorem Instr.vars_eq (i : Instr) : i.vars = i.dst :: i.reads := rfl

theorem Instr.mem_reads {i : Instr} {v : Var} :
    v ∈ i.reads ↔ i.left = .var v ∨ ∃ op, i.right = some (op, .var v) := by
  have hvar : ∀ o : Operand, o.var? = some v ↔ o = .var v := by
    intro o
    cases o <;> simp [Operand.var?]
  rw [reads, List.mem_append, Option.mem_toList, Option.mem_toList, Option.bind_eq_some_iff, hvar]
  refine or_congr_right ⟨?_, ?_⟩
  · rintro ⟨⟨op, o⟩, hr, ho⟩
    exact ⟨op, by rw [hr, (hvar o).mp ho]⟩
  · rintro ⟨op, hr⟩
    exact ⟨_, hr, rfl⟩

/-- An operand with a value: a variable, or a literal that is a number. -/
def Operand.Readable (resolve : Resolver) : Operand → Prop
  | var _ => True
  | literal h => ∃ n, Text.Decimal.read (resolve h) = .ok n
  | untagged .. => False

/-- An operator with a meaning. -/
def Operator.Known : Operator → Prop
  | other _ => False
  | _ => True

/-- An instruction whose operands have values and whose operator has a meaning. -/
def Instr.Readable (resolve : Resolver) (i : Instr) : Prop :=
  i.left.Readable resolve ∧ ∀ op o, i.right = some (op, o) → op.Known ∧ o.Readable resolve

section

variable {resolve : Resolver} {env : Env} {i : Instr} {op : Operator} {o : Operand} {a b : Int64}

theorem Instr.value_of_apply (hr : i.right = some (op, o)) (ha : i.left.value resolve env = .ok a)
    (hb : o.value resolve env = .ok b) {c : Int64} (hop : op.apply? a b = some c) :
    i.value resolve env = .ok c := by
  simp only [value, ha, hr, hb, bind, Except.bind, hop]

theorem Instr.value_of_no_apply (hr : i.right = some (op, o))
    (ha : i.left.value resolve env = .ok a) (hb : o.value resolve env = .ok b)
    (hop : op.apply? a b = none) : i.value resolve env = .error (.divisionByZero i) := by
  simp only [value, ha, hr, hb, bind, Except.bind, hop]

end

theorem stepAll_append {resolve : Resolver} {env : Env} (xs ys : List Instr) :
    stepAll resolve env (xs ++ ys) =
      match stepAll resolve env xs with
      | .ok env' => stepAll resolve env' ys
      | .error f => .error f := by
  induction xs generalizing env with
  | nil => rfl
  | cons i is ih =>
    simp only [List.cons_append, stepAll, bind, Except.bind]
    cases i.step resolve env with
    | ok r => exact ih
    | error f => rfl

end StraightLine.Code

namespace StraightLine.Lockstep

open StraightLine.Source StraightLine.Code StraightLine.Program StraightLine.Alloc

/-- A discipline: `held n v` says that the machine holds the value of `v` in front of the
instruction at position `n`. -/
structure Keeps (locate : Locator) (resolve : Resolver) (code : List Code.Instr)
    (held : Nat → Var → Prop) : Prop where
  readable : ∀ i ∈ code, i.Readable resolve
  placed : ∀ i ∈ code, ∀ v ∈ i.vars, ∃ c, LivesIn locate v c
  reads : ∀ n i, code[n]? = some i → ∀ v ∈ i.reads, held n v
  keeps : ∀ n i, code[n]? = some i → ∀ v, held (n + 1) v → v ≠ i.dst →
    held n v ∧ ∀ c, LivesIn locate v c → ¬ LivesIn locate i.dst c
  /-- The move in front of an operation does not overwrite the right operand. -/
  clear : ∀ i ∈ code, ∀ op v c, i.right = some (op, .var v) → LivesIn locate v c →
    LivesIn locate i.dst c → ∃ u, i.left = .var u ∧ LivesIn locate u c

/-- The cells of the held variables have their values. -/
def Agree (locate : Locator) (held : Nat → Var → Prop) (n : Nat) (env : Env) (m : Machine) : Prop :=
  ∀ v c, held n v → LivesIn locate v c → m.get c = env v

section

variable {locate : Locator} {resolve : Resolver} {code : List Code.Instr} {held : Nat → Var → Prop}
  {n : Nat} {i : Code.Instr} {env : Env} {m : Machine}

theorem exists_supplies {o : Operand} (hr : o.Readable resolve)
    (hv : ∀ v, o = .var v → ∃ c, LivesIn locate v c) : ∃ src, Supplies locate resolve o src := by
  cases o with
  | var v =>
    obtain ⟨c, hc⟩ := hv v rfl
    exact ⟨_, .var hc⟩
  | literal h =>
    obtain ⟨x, hx⟩ := hr
    exact ⟨_, .literal hx⟩
  | untagged v h => exact hr.elim

/-- A source has the value of its operand if the cell of a variable has. -/
theorem value_of_supplies {o : Operand} {src : Source} (hs : Supplies locate resolve o src)
    (hv : ∀ v c, o = .var v → LivesIn locate v c → m.get c = env v) :
    o.value resolve env = .ok (m.read src) := by
  cases hs with
  | var hc =>
    rw [Machine.read_ofCell, hv _ _ rfl hc]
    rfl
  | literal hn =>
    simp only [Operand.value, hn]
    rfl

theorem exists_opcode {op : Operator} (h : op.Known) : ∃ k, opcodeOf op = .ok k := by
  cases op with
  | other k => exact h.elim
  | _ => exact ⟨_, rfl⟩

/-- Both sides put the value of an instruction where it belongs. -/
theorem Agree.put (h : Keeps locate resolve code held) (hi : code[n]? = some i)
    (ha : Agree locate held n env m) {d : Cell} (hd : LivesIn locate i.dst d) {x : Int64}
    {m' : Machine} (hp : Puts m d x m') : Agree locate held (n + 1) (env.set i.dst x) m' := by
  intro v c hv hc
  by_cases hdst : v = i.dst
  · subst hdst
    rw [Env.set_self, hc.unique hd]
    exact hp.at_cell
  · obtain ⟨hv, hne⟩ := h.keeps n i hi v hv hdst
    rw [Env.set_of_ne _ _ hdst, hp.elsewhere c fun hcd => hne c hc (hcd ▸ hd)]
    exact ha v c hv hc

/-- Where the parts of an instruction are found. -/
theorem supplies_of_readable (hread : i.Readable resolve)
    (hplaced : ∀ v ∈ i.vars, ∃ c, LivesIn locate v c) :
    (∃ d, LivesIn locate i.dst d) ∧ (∃ left, Supplies locate resolve i.left left) ∧
      ∀ op o, i.right = some (op, o) →
        (∃ k, opcodeOf op = .ok k) ∧ ∃ right, Supplies locate resolve o right := by
  obtain ⟨hleft, hright⟩ := hread
  have hcell : ∀ v ∈ i.reads, ∃ c, LivesIn locate v c := fun v hv =>
    hplaced v (by simp [Instr.vars_eq, hv])
  refine ⟨hplaced i.dst (by simp [Instr.vars_eq]), ?_, ?_⟩
  · exact exists_supplies hleft fun v hv => hcell v (Instr.mem_reads.mpr (.inl hv))
  · intro op o hr
    obtain ⟨hop, ho⟩ := hright op o hr
    exact ⟨exists_opcode hop, exists_supplies ho fun v hv =>
      hcell v (Instr.mem_reads.mpr (.inr ⟨op, hv ▸ hr⟩))⟩

/-- There is machine code for an instruction that can be read and whose variables have places. -/
theorem exists_emitOne (hread : i.Readable resolve)
    (hplaced : ∀ v ∈ i.vars, ∃ c, LivesIn locate v c) :
    ∃ mc, emitOne locate resolve i = .ok mc := by
  obtain ⟨⟨d, hd⟩, ⟨left, hl⟩, hright⟩ := supplies_of_readable hread hplaced
  cases hr : i.right with
  | none => exact ⟨_, emitOne_move hd hl hr⟩
  | some r =>
    obtain ⟨⟨k, hk⟩, right, ho⟩ := hright r.1 r.2 hr
    exact ⟨_, emitOne_operation hd hl hr hk ho⟩

theorem Keeps.emits (h : Keeps locate resolve code held) :
    ∀ i ∈ code, ∃ mc, emitOne locate resolve i = .ok mc :=
  fun i hi => exists_emitOne (h.readable i hi) (h.placed i hi)

/-- One instruction: both sides succeed with one value, or both stop at a division by zero. -/
theorem Keeps.simulates (h : Keeps locate resolve code held) (hi : code[n]? = some i)
    (ha : Agree locate held n env m) :
    (∃ x m', i.value resolve env = .ok x ∧ m.run (codeOf locate resolve i) = (m', none) ∧
      (∃ d, LivesIn locate i.dst d ∧ m'.get d = x) ∧
      Agree locate held (n + 1) (env.set i.dst x) m') ∨
    (i.value resolve env = .error (.divisionByZero i) ∧
      ∃ m' p j, m.run (codeOf locate resolve i) = (m', some (.divisionByZero p j))) := by
  have hmem : i ∈ code := List.mem_of_getElem? hi
  obtain ⟨⟨d, hd⟩, ⟨left, hl⟩, hright⟩ :=
    supplies_of_readable (h.readable i hmem) (h.placed i hmem)
  have hread : ∀ v c, v ∈ i.reads → LivesIn locate v c → m.get c = env v := fun v c hv hc =>
    ha v c (h.reads n i hi v hv) hc
  have hlv := value_of_supplies hl fun v c hv => hread v c (Instr.mem_reads.mpr (.inl hv))
  cases hr : i.right with
  | none =>
    rw [codeOf_eq (emitOne_move hd hl hr), run_move]
    refine .inl ⟨m.read left, _, ?_, rfl, ⟨d, hd, Machine.get_set_self _ _ _⟩, ?_⟩
    · simp only [Instr.value, hr, hlv]
      rfl
    · exact ha.put h hi hd (m.puts_set d _)
  | some r =>
    obtain ⟨op, o⟩ := r
    obtain ⟨⟨k, hk⟩, right, ho⟩ := hright op o hr
    have hrv := value_of_supplies ho fun v c hv =>
      hread v c (Instr.mem_reads.mpr (.inr ⟨op, hv ▸ hr⟩))
    have hclear : right = .ofCell d → left = .ofCell d := by
      rintro rfl
      obtain ⟨v, rfl, hv⟩ := ho.of_cell
      obtain ⟨u, hu, hud⟩ := h.clear i hmem op v d hr hv hd
      rw [hu] at hl
      exact hl.eq_ofCell hud
    have hrun := run_operation hk hl ho hclear m
    rw [codeOf_eq (emitOne_operation hd hl hr hk ho)]
    cases hop : op.apply? (m.read left) (m.read right) with
    | some x =>
      rw [hop] at hrun
      obtain ⟨m', hm, hp⟩ := hrun
      exact .inl ⟨x, m', Instr.value_of_apply hr hlv hrv hop, hm, ⟨d, hd, hp.at_cell⟩,
        ha.put h hi hd hp⟩
    | none =>
      rw [hop] at hrun
      obtain ⟨m', p, j, hm, -⟩ := hrun
      exact .inr ⟨Instr.value_of_no_apply hr hlv hrv hop, m', p, j, hm⟩

end

/-! ## Side by side -/

theorem held_eq {locate : Locator} {v : Var} {c : Cell} (h : LivesIn locate v c) (m : Machine) :
    held locate m v = m.get c := by
  obtain ⟨l, hl, hc⟩ := h
  rw [Lockstep.held, hl, Option.getD_some, Machine.load_of_cell hc]
  rfl

theorem step_of_ok {locate : Locator} {resolve : Resolver} {s : State} {i : Code.Instr} {x : Int64}
    {m : Machine} (hv : i.value resolve s.env = .ok x)
    (hm : s.machine.run (codeOf locate resolve i) = (m, none)) :
    step locate resolve s i =
      (⟨.ok x, .ok (held locate m i.dst)⟩, ⟨s.env.set i.dst x, m⟩) := by
  simp only [step, Instr.step, hv, hm, bind, Except.bind]
  rfl

theorem step_of_error {locate : Locator} {resolve : Resolver} {s : State} {i : Code.Instr}
    {f : StepFault} {g : RunFault} {m : Machine} (hv : i.value resolve s.env = .error f)
    (hm : s.machine.run (codeOf locate resolve i) = (m, some g)) :
    step locate resolve s i = (⟨.error f, .error g⟩, ⟨s.env, m⟩) := by
  simp only [step, Instr.step, hv, hm, bind, Except.bind]

/-- What the outcome of a step tells about the machine. -/
theorem run_of_step {locate : Locator} {resolve : Resolver} {s t : State} {i : Code.Instr}
    {o : Outcome} (h : step locate resolve s i = (o, t)) :
    s.machine.run (codeOf locate resolve i) =
      (t.machine, match o.ran with
        | .ok _ => none
        | .error f => some f) := by
  cases hm : s.machine.run (codeOf locate resolve i) with
  | mk m fault =>
    simp only [step, hm] at h
    obtain ⟨rfl, rfl⟩ := Prod.mk.inj h
    cases fault <;> rfl

theorem held_of_step {locate : Locator} {resolve : Resolver} {s t : State} {i : Code.Instr}
    {o : Outcome} (h : step locate resolve s i = (o, t)) {x : Int64} (hx : o.ran = .ok x) :
    held locate t.machine i.dst = x := by
  cases hm : s.machine.run (codeOf locate resolve i) with
  | mk m fault =>
    simp only [step, hm] at h
    obtain ⟨rfl, rfl⟩ := Prod.mk.inj h
    cases fault with
    | none => exact Except.ok.inj hx
    | some f => cases hx

/-- What the outcome of a step tells about the interpreter. -/
theorem stepped_of_step {locate : Locator} {resolve : Resolver} {s t : State} {i : Code.Instr}
    {o : Outcome} (h : step locate resolve s i = (o, t)) :
    i.step resolve s.env = o.stepped.map fun x => (x, t.env) := by
  cases hs : i.step resolve s.env with
  | error f =>
    simp only [step, hs] at h
    obtain ⟨rfl, -⟩ := Prod.mk.inj h
    rfl
  | ok r =>
    simp only [step, hs] at h
    obtain ⟨rfl, rfl⟩ := Prod.mk.inj h
    rfl

/-- Both sides take the instructions one after the other, and neither of them fails. -/
inductive Runs (locate : Locator) (resolve : Resolver) (s : State) :
    List Code.Instr → State → Prop
  | nil : Runs locate resolve s [] s
  | snoc {is : List Code.Instr} {i : Code.Instr} {t u : State} {x y : Int64}
      (h : Runs locate resolve s is t) (hstep : step locate resolve t i = (⟨.ok x, .ok y⟩, u)) :
      Runs locate resolve s (is ++ [i]) u

/-- Both sides take the instructions one after the other. For each of them the interpreter finds a
value, and the machine runs the code that is emitted for this instruction alone and then has the value
in the location of the destination. -/
inductive InStep (locate : Locator) (resolve : Resolver) :
    State → List Code.Instr → List Int64 → State → Prop
  | nil (s : State) : InStep locate resolve s [] [] s
  | cons {s t u : State} {i : Code.Instr} {is : List Code.Instr} {x : Int64} {xs : List Int64}
      {q : Program} {l : Location} (hstep : i.step resolve s.env = .ok (x, t.env))
      (hemit : emit locate resolve [i] = .ok q) (hrun : s.machine.run q.instrs = (t.machine, none))
      (hl : locate i.dst = some l) (hload : t.machine.load l = .ok x)
      (h : InStep locate resolve t is xs u) : InStep locate resolve s (i :: is) (x :: xs) u

section

variable {locate : Locator} {resolve : Resolver} {s t u : State} {i : Code.Instr}
  {is : List Code.Instr} {x : Int64} {xs : List Int64}

theorem InStep.length_eq (h : InStep locate resolve s is xs t) : xs.length = is.length := by
  induction h with
  | nil s => rfl
  | cons _ _ _ _ _ _ ih => rw [List.length_cons, List.length_cons, ih]

/-- Both sides have one outcome for each instruction, and it is the same one. -/
theorem InStep.run_eq (h : InStep locate resolve s is xs t) :
    run locate resolve s is = xs.map fun x => ⟨.ok x, .ok x⟩ := by
  induction h with
  | nil s => rfl
  | @cons s t u i is x xs q l hstep hemit hrun hl hload h ih =>
    have hcode : q.instrs = codeOf locate resolve i := by
      rw [emit_eq (emitOne_of_emit hemit)] at hemit
      cases hemit
      exact List.flatMap_singleton ..
    have hheld : held locate t.machine i.dst = x := by
      rw [held, hl, Option.getD_some, hload]
      rfl
    have hboth : step locate resolve s i = (⟨.ok x, .ok x⟩, t) := by
      simp only [step, hstep, ← hcode, hrun, hheld]
    rw [run, hboth, List.map_cons, ← ih]

theorem InStep.of_step (hd : ∃ c, LivesIn locate i.dst c)
    (hmc : ∃ mc, emitOne locate resolve i = .ok mc)
    (hstep : step locate resolve s i = (⟨.ok x, .ok x⟩, t)) (h : InStep locate resolve t is xs u) :
    InStep locate resolve s (i :: is) (x :: xs) u := by
  obtain ⟨c, hc⟩ := hd
  obtain ⟨l, hl, hcell⟩ := id hc
  have hheld := held_of_step hstep rfl
  rw [held_eq hc] at hheld
  refine .cons (stepped_of_step hstep) (emit_eq (by simpa using hmc)) ?_ hl ?_ h
  · rw [List.flatMap_singleton]
    exact run_of_step hstep
  · rw [Machine.load_of_cell hcell, hheld]

end

section

variable {locate : Locator} {resolve : Resolver} {s t : State} {is : List Code.Instr}

/-- The machine, by itself, gets to the same state with the code of all instructions. -/
theorem Runs.machine (h : Runs locate resolve s is t) :
    s.machine.run (is.flatMap (codeOf locate resolve)) = (t.machine, none) := by
  induction h with
  | nil => rfl
  | snoc h hstep ih =>
    rw [List.flatMap_append, List.flatMap_singleton, Machine.run_append_of_ok _ ih,
      run_of_step hstep]
    rfl

theorem Runs.env (h : Runs locate resolve s is t) : stepAll resolve s.env is = .ok t.env := by
  induction h with
  | nil => rfl
  | snoc h hstep ih =>
    rw [stepAll_append, ih]
    simp only [stepAll, stepped_of_step hstep]
    rfl

/-- A step that fails stops the machine in the code of all instructions, too. -/
theorem Runs.machine_fault (h : Runs locate resolve s is t) {i : Code.Instr} {u : State} {o : Outcome}
    {f : RunFault} (hstep : step locate resolve t i = (o, u)) (ho : o.ran = .error f)
    (post : List Code.Instr) :
    s.machine.run ((is ++ i :: post).flatMap (codeOf locate resolve)) =
      (u.machine, some (f.shift (is.flatMap (codeOf locate resolve)).length)) := by
  have hi := run_of_step hstep
  rw [ho] at hi
  rw [List.flatMap_append, List.flatMap_cons, Machine.run_append_of_ok _ h.machine,
    Machine.run_append_of_fault _ hi]
  rfl

theorem Runs.env_fault (h : Runs locate resolve s is t) {i : Code.Instr} {u : State} {o : Outcome}
    {f : StepFault} (hstep : step locate resolve t i = (o, u)) (ho : o.stepped = .error f)
    (post : List Code.Instr) : stepAll resolve s.env (is ++ i :: post) = .error f := by
  rw [stepAll_append, h.env]
  simp only [stepAll, stepped_of_step hstep, ho]
  rfl

variable {code : List Code.Instr} {held : Nat → Var → Prop}

/-- Along a run the cells of the held variables have their values. -/
theorem Runs.agree (h : Runs locate resolve s is t) (hk : Keeps locate resolve code held)
    (ha : Agree locate held 0 s.env s.machine) (hc : is <+: code) :
    Agree locate held is.length t.env t.machine := by
  induction h with
  | nil => exact ha
  | @snoc is i t u x y h hstep ih =>
    obtain ⟨post, rfl⟩ := hc
    have hi : (is ++ [i] ++ post)[is.length]? = some i := by simp
    have hat := ih ⟨[i] ++ post, by simp⟩
    rw [List.length_append, List.length_singleton]
    have hval := stepped_of_step hstep
    rcases hk.simulates hi hat with ⟨z, m, hv, hm, -, hau⟩ | ⟨hv, -⟩
    · rw [step_of_ok hv hm] at hstep
      obtain ⟨-, rfl⟩ := Prod.mk.inj hstep
      exact hau
    · simp [Instr.step, hv, bind, Except.bind, Except.map] at hval

/-- Behind a run the next instruction gives one value on both sides, or it is a division by zero on
both sides. -/
theorem Keeps.next (hk : Keeps locate resolve code held)
    (ha : Agree locate held 0 s.env s.machine) {pre post : List Code.Instr} {i : Code.Instr}
    (hc : code = pre ++ i :: post) (hs : Runs locate resolve s pre t) :
    (∃ x u, step locate resolve t i = (⟨.ok x, .ok x⟩, u)) ∨
    ∃ p j u, step locate resolve t i =
      (⟨.error (.divisionByZero i), .error (.divisionByZero p j)⟩, u) := by
  have hi : code[pre.length]? = some i := by simp [hc]
  rcases hk.simulates hi (hs.agree hk ha ⟨i :: post, hc.symm⟩) with
    ⟨x, m', hv, hm, ⟨d, hd, hget⟩, -⟩ | ⟨hv, m', p, j, hm⟩
  · have hstep := step_of_ok hv hm
    rw [held_eq hd, hget] at hstep
    exact .inl ⟨x, _, hstep⟩
  · exact .inr ⟨p, j, _, step_of_error hv hm⟩

/-- Every beginning of the code is run to its end, or up to a division by zero that both sides
meet. -/
theorem Keeps.runs (hk : Keeps locate resolve code held)
    (ha : Agree locate held 0 s.env s.machine) (is : List Code.Instr) (hc : is <+: code) :
    (∃ t, Runs locate resolve s is t) ∨
    ∃ pre i post t u p j, is = pre ++ i :: post ∧ Runs locate resolve s pre t ∧
      step locate resolve t i = (⟨.error (.divisionByZero i), .error (.divisionByZero p j)⟩, u) := by
  induction is using List.reverseRecOn with
  | nil => exact .inl ⟨s, .nil⟩
  | append_singleton is i ih =>
    have hsub : is <+: code := (List.prefix_append is [i]).trans hc
    rcases ih hsub with ⟨t, ht⟩ | ⟨pre, k, post, t, u, p, j, rfl, ht, hstep⟩
    · obtain ⟨post, rfl⟩ := hc
      have hi : (is ++ [i] ++ post)[is.length]? = some i := by simp
      rcases hk.simulates hi (ht.agree hk ha hsub) with ⟨x, m, hv, hm, -, -⟩ | ⟨hv, m, p, j, hm⟩
      · exact .inl ⟨_, ht.snoc (step_of_ok hv hm)⟩
      · exact .inr ⟨is, i, [], t, _, p, j, rfl, ht, step_of_error hv hm⟩
    · exact .inr ⟨pre, k, post ++ [i], t, u, p, j, by simp, ht, hstep⟩

end

end StraightLine.Lockstep
