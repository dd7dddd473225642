import StraightLine.Proofs.DefinedBeforeUse
import StraightLine.Proofs.StatementCalls

/-! A compilation is correct from the node stream to the machine. The stages are put together here:
the stream is lowered to code that means the same, the code defines its variables before it uses
them, and the machine follows such code from any state. Nothing depends on the lookers-on. -/

namespace StraightLine.Compile

open StraightLine.Source StraightLine.Code StraightLine.Range StraightLine.Alloc StraightLine.Program

/-! ## The stages of a compilation -/

/-- The step ends well with a result of a kind, whatever the lookers-on have seen. -/
def Gives {α : Type} (x : Step α) (P : α → Prop) : Prop := ∀ s, ∃ a t, x s = .ok a t ∧ P a

def outcome {α : Type} : EStateM.Result Fault Observers α → Except Fault α
  | .ok a _ => .ok a
  | .error f _ => .error f

/-- The step comes to this outcome, whatever the lookers-on have seen. -/
def Ends {α : Type} (x : Step α) (r : Except Fault α) : Prop := ∀ s, outcome (x s) = r

section

variable {α β : Type} {x : Step α} {g : α → Step β} {P : α → Prop} {r : Except Fault β}

theorem gives_pure {a : α} (h : P a) : Gives (pure a : Step α) P := fun s => ⟨a, s, rfl, h⟩

theorem Gives.bind {Q : β → Prop} (hx : Gives x P) (hg : ∀ a, P a → Gives (g a) Q) :
    Gives (x >>= g) Q := by
  intro s
  obtain ⟨a, t, ha, hp⟩ := hx s
  obtain ⟨b, u, hb, hq⟩ := hg a hp t
  exact ⟨b, u, by simp only [Bind.bind, EStateM.bind, ha, hb], hq⟩

theorem ends_pure (a : α) : Ends (pure a) (.ok a) := fun _ => rfl

theorem ends_throw (f : Fault) : Ends (throw f : Step α) (.error f) := fun _ => rfl

theorem Gives.ends (hx : Gives x P) (hg : ∀ a, P a → Ends (g a) r) : Ends (x >>= g) r := by
  intro s
  obtain ⟨a, t, ha, hp⟩ := hx s
  simp only [Bind.bind, EStateM.bind, ha]
  exact hg a hp t

theorem Ends.bind {a : α} (hx : Ends x (.ok a)) (hg : Ends (g a) r) : Ends (x >>= g) r := by
  intro s
  have hs := hx s
  simp only [Bind.bind, EStateM.bind]
  cases ha : x s with
  | ok b t =>
    rw [ha] at hs
    cases hs
    exact hg t
  | error f t =>
    rw [ha] at hs
    cases hs

theorem Ends.bind_error {f : Fault} (hx : Ends x (.error f)) (g : α → Step β) :
    Ends (x >>= g) (.error f) := by
  intro s
  have hs := hx s
  simp only [Bind.bind, EStateM.bind]
  cases ha : x s with
  | ok b t =>
    rw [ha] at hs
    cases hs
  | error f' t =>
    rw [ha] at hs
    cases hs
    rfl

end

section

variable (o : Options)

theorem gives_beginRun : Gives (beginRun o) fun _ => True := fun _ => ⟨_, _, rfl, trivial⟩

theorem gives_endRun (root : Trace.Span) : Gives (endRun o root) fun _ => True :=
  fun _ => ⟨_, _, rfl, trivial⟩

theorem gives_beginStage (root : UInt64) (name : String) :
    Gives (beginStage o root name) fun _ => True := by
  intro s
  rw [beginStage]
  cases s.timing with
  | none => exact ⟨_, _, rfl, trivial⟩
  | some t => exact ⟨_, _, rfl, trivial⟩

theorem gives_endStage (stage : OpenStage) (note : String) :
    Gives (endStage o stage note) fun _ => True :=
  fun _ => ⟨_, _, rfl, trivial⟩

variable (resolve : Resolver)

theorem gives_forM_pointInstr (parent : UInt64) (is : List Code.Instr) :
    Gives (is.forM (pointInstr o resolve parent)) fun _ => True := by
  induction is with
  | nil => exact gives_pure trivial
  | cons i is ih =>
    exact Gives.bind (P := fun _ => True) (fun _ => ⟨_, _, rfl, trivial⟩) fun _ _ => ih

def lowered : EStateM.Result LoweringFault Session (List Code.Instr) → Except Fault (List Code.Instr)
  | .ok code _ => .ok code
  | .error f _ => .error (.lowering f)

/-- Recording instructions changes neither the code nor a fault. -/
theorem ends_lowerTraced (parent : UInt64) (fuel : Nat) (session : Session) :
    Ends (lowerTraced o resolve parent fuel session)
      (lowered (lowerAllWithin (keyBy o.norm resolve) fuel session)) := by
  induction fuel generalizing session with
  | zero => exact ends_pure []
  | succ fuel ih =>
    rw [lowerTraced]
    cases hdone : session.done with
    | true =>
      rw [lowerAllWithin_of_done hdone]
      exact ends_pure []
    | false =>
      rw [lowerAllWithin_succ hdone, if_neg Bool.false_ne_true]
      cases lowerNext (keyBy o.norm resolve) session with
      | error f t => exact ends_throw _
      | ok is t =>
        refine (gives_forM_pointInstr o resolve parent is).ends fun _ _ => ?_
        have hrest := ih t
        simp only
        cases hall : lowerAllWithin (keyBy o.norm resolve) fuel t with
        | ok rest u =>
          rw [hall] at hrest
          exact hrest.bind (ends_pure _)
        | error f u =>
          rw [hall] at hrest
          exact hrest.bind_error _

end

/-- What a compilation finds stage by stage, with nobody looking on. -/
def stages (norm : String → String) (registers : List Reg) (resolve : Resolver)
    (nodes : List Node) : Except Fault Compilation :=
  match lowered (lowerAll (keyBy norm resolve) (.start (strip nodes))) with
  | .error f => .error f
  | .ok code =>
    match emit (allocate (.analyze code) registers).find? resolve code with
    | .error f => .error (.emitting f)
    | .ok program => .ok ⟨code, .analyze code, .build (Ranges.analyze code).entries,
        allocate (.analyze code) registers, program⟩

/-- Nothing depends on the lookers-on. -/
theorem ends_run (o : Options) (resolve : Resolver) (nodes : List Node) :
    Ends (run o resolve nodes) (stages o.norm o.registers resolve nodes) := by
  refine (gives_beginRun o).ends fun root _ => ?_
  refine (gives_beginStage o root.id _).ends fun stage _ => ?_
  have hlower := ends_lowerTraced o resolve stage.span.id (strip nodes).length (.start (strip nodes))
  rw [stages]
  cases hcode : lowered (lowerAll (keyBy o.norm resolve) (.start (strip nodes))) with
  | error f => exact Ends.bind_error (hcode ▸ hlower) _
  | ok code =>
    refine Ends.bind (hcode ▸ hlower) ?_
    refine (gives_endStage o _ _).ends fun _ _ => ?_
    refine (gives_beginStage o root.id _).ends fun _ _ => ?_
    refine (gives_endStage o _ _).ends fun _ _ => ?_
    refine (gives_beginStage o root.id _).ends fun _ _ => ?_
    refine (gives_endStage o _ _).ends fun _ _ => ?_
    refine (gives_beginStage o root.id _).ends fun _ _ => ?_
    refine (gives_endStage o _ _).ends fun _ _ => ?_
    refine (gives_beginStage o root.id _).ends fun _ _ => ?_
    simp only
    cases emit (allocate (.analyze code) o.registers).find? resolve code with
    | error f => exact ends_throw _
    | ok program =>
      refine (gives_endStage o _ _).ends fun _ _ => ?_
      refine (gives_endRun o root).ends fun _ _ => ?_
      exact ends_pure _

theorem compile_eq_stages (norm : String → String) (registers : List Reg) (resolve : Resolver)
    (nodes : List Node) :
    compile norm registers resolve nodes = stages norm registers resolve nodes := by
  rw [← ends_run { registers, norm } resolve nodes {}, compile]
  cases run { registers, norm } resolve nodes {} <;> rfl

theorem compile_eq {norm : String → String} {registers : List Reg} {resolve : Resolver}
    {nodes : List Node} {code : List Code.Instr} {session : Session} {program : Program}
    (hlower : lowerAll (keyBy norm resolve) (.start (strip nodes)) = .ok code session)
    (hemit : emit (allocate (.analyze code) registers).find? resolve code = .ok program) :
    compile norm registers resolve nodes =
      .ok ⟨code, .analyze code, .build (Ranges.analyze code).entries,
        allocate (.analyze code) registers, program⟩ := by
  rw [compile_eq_stages, stages, hlower]
  simp only [lowered, hemit]

/-! ## Source and machine -/

theorem length_stripFrom_le (due : Nat) (nodes : List Node) :
    (stripFrom due nodes).length ≤ nodes.length := by
  induction nodes generalizing due with
  | nil => exact Nat.le_refl 0
  | cons n nodes ih =>
    unfold stripFrom
    split
    · exact Nat.le_succ_of_le (ih _)
    · split
      · exact Nat.le_succ_of_le (ih _)
      · exact Nat.succ_le_succ (ih 0)

section

variable {key : Handle → String} {resolve : Resolver} {st : Store}

/-- If all numbers can be read, only divisions fail. -/
theorem eval_error {e : Expr} (hnum : NumbersRead resolve e.nodes) {f : EvalFault}
    (h : e.eval key resolve st = .error f) : f = .divisionByZero := by
  induction e generalizing f with
  | number g =>
    obtain ⟨n, hn⟩ := hnum g (by simp [Expr.nodes])
    rw [Expr.eval, hn] at h
    cases h
  | name g => cases h
  | binary op mark left right ihl ihr =>
    simp only [Expr.eval, bind, Except.bind] at h
    cases hl : left.eval key resolve st with
    | error g =>
      rw [hl] at h
      cases h
      exact ihl hnum.binary.1 hl
    | ok a =>
      rw [hl] at h
      cases hr : right.eval key resolve st with
      | error g =>
        rw [hr] at h
        cases h
        exact ihr hnum.binary.2 hr
      | ok b =>
        rw [hr] at h
        cases hop : op.apply? a b with
        | some c => simp [hop] at h
        | none =>
          simp only [hop] at h
          cases h
          rfl

theorem statement_error {c : Statement} (hnum : NumbersRead resolve c.nodes) {f : EvalFault}
    (h : c.exec key resolve st = .error f) : f = .divisionByZero := by
  cases c with
  | scopeOpen mark => cases h
  | scopeEnd mark => cases h
  | assign mark target value =>
    cases hx : value.eval key resolve st with
    | ok x => simp [Statement.exec, hx, bind, Except.bind, pure, Except.pure] at h
    | error g =>
      simp only [Statement.exec, hx, bind, Except.bind] at h
      cases h
      exact eval_error hnum.assign hx
  | bare e =>
    rw [Statement.exec] at h
    split at h
    · cases h
    · cases hx : e.eval key resolve st with
      | ok x => simp [hx, bind, Except.bind, pure, Except.pure] at h
      | error g =>
        simp only [hx, bind, Except.bind] at h
        cases h
        exact eval_error hnum hx

theorem exec_error {p : List Statement} (hnum : NumbersRead resolve (spell p)) {f : EvalFault}
    (h : exec key resolve st p = .error f) : f = .divisionByZero := by
  induction p generalizing st with
  | nil => cases h
  | cons c p ih =>
    rw [spell_cons] at hnum
    rw [exec, List.foldlM_cons] at h
    cases hx : c.exec key resolve st with
    | error g =>
      rw [hx] at h
      cases h
      exact statement_error hnum.append.1 hx
    | ok st' =>
      rw [hx] at h
      exact ih hnum.append.2 h

end

/-- What a machine does with a compilation of a program. If the program runs to its end, the machine
does too, and right behind the code of each assignment the location of its last destination holds
the value that is assigned. If the program divides by zero, the machine does. -/
def Realizes (norm : String → String) (resolve : Resolver) (p : List Statement) (c : Compilation)
    (m : Machine) : Prop :=
  match exec (keyBy norm resolve) resolve .empty p with
  | .ok _ => (∃ m', m.run c.program.instrs = (m', none)) ∧
      ∀ pre mark target value post, p = pre ++ .assign mark target value :: post →
        ∃ before body last x,
          AssignsAt (keyBy norm resolve) resolve c.code pre mark target value before body last x ∧
          ∃ q m' l, emit c.allocation.find? resolve (before ++ body ++ [last]) = .ok q ∧
            q.instrs <+: c.program.instrs ∧ m.run q.instrs = (m', none) ∧
            c.allocation.find? last.dst = some l ∧ m'.load l = .ok x
  | .error f => f = .divisionByZero ∧
      ∃ m' position i, m.run c.program.instrs = (m', some (.divisionByZero position i))

/-- Compilation is correct. A stream that is spelled by statements behind its declarations, that
assigns its names before it reads them and whose numbers can be read is compiled for any distinct
registers, and every machine, whatever it holds, does with the program what the statements mean. -/
theorem compile_correct {norm : String → String} {registers : List Reg} {resolve : Resolver}
    {nodes : List Node} {p : List Statement} (hn : nodes.length < UInt32.size)
    (hp : strip nodes = spell p) (hassigned : AssignedFirst (keyBy norm resolve) p)
    (hnum : NumbersRead resolve (strip nodes)) (hr : registers.Nodup) :
    ∃ c, compile norm registers resolve nodes = .ok c ∧ ∀ m, Realizes norm resolve p c m := by
  have hlen : (spell p).length < UInt32.size := by
    rw [← hp]
    exact Nat.lt_of_le_of_lt (length_stripFrom_le 0 nodes) hn
  have hpos : (spell p).length < positions := Nat.lt_trans hlen (by decide)
  rw [hp] at hnum
  have htrans := translatable_lowerStatements hlen hnum hassigned
  have hlower := lowerAll_spell (keyBy norm resolve) p
  rw [← hp] at hlower
  refine ⟨_, compile_eq hlower (htrans.emit_eq hr), fun m => ?_⟩
  have hfollows := (tracks_start (keyBy norm resolve) []).lowerStatements (within_start []) resolve p
    (by omega)
  rw [Realizes]
  cases hexec : exec (keyBy norm resolve) resolve .empty p with
  | error f =>
    rw [hexec] at hfollows
    exact ⟨exec_error hnum hexec, htrans.fault_of_stepAll hr m hfollows⟩
  | ok st =>
    rw [hexec] at hfollows
    obtain ⟨env, hstep, -⟩ := hfollows
    refine ⟨?_, ?_⟩
    · obtain ⟨m', hruns⟩ := htrans.runs_of_stepAll hr m List.prefix_rfl hstep
      exact ⟨m', hruns.machine⟩
    · rintro pre mark target value post rfl
      obtain ⟨st₀, x, hpre, hx⟩ := exists_of_exec_assign hexec
      obtain ⟨before, body, last, hat⟩ := exists_assignsAt hpos hpre hx
      obtain ⟨env₁, henv₁, hlast⟩ := hat.stepped
      exact ⟨before, body, last, x, hat, htrans.load_last hr m hat.inside henv₁ hlast⟩

/-- A declaration, two assignments and no register. -/
theorem compile_correct_quotient :
    let resolve : Resolver := fun h => if h = 0 then "x" else if h = 1 then "y" else "7"
    let nodes : List Node :=
      [{ kind := .varDecl }, .identifier 0, .identifier 1, .assignment, .identifier 0, .number 2,
        .assignment, .identifier 1, { kind := .div }, .identifier 0, .identifier 0]
    let p : List Statement :=
      [.assign 0 0 (.number 2), .assign 0 1 (.binary .div 0 (.name 0) (.name 0))]
    strip nodes = spell p ∧
      exec (nameKey resolve) resolve .empty p = .ok ((Store.empty.set "x" 7).set "y" 1) ∧
      ∃ c, compile Text.normalize [] resolve nodes = .ok c ∧
        ∀ m, Realizes Text.normalize resolve p c m := by
  intro resolve nodes p
  have hp : strip nodes = spell p := by decide
  have hread : Text.Decimal.read (resolve 2) = .ok 7 := by cbv
  have hx : nameKey resolve 0 = "x" := by cbv
  have hy : nameKey resolve 1 = "y" := by cbv
  have hassigned : AssignedFirst (nameKey resolve) p := by
    rintro (_ | ⟨a, _ | ⟨b, _⟩⟩) c post h g hg <;> simp [p] at h
    · obtain ⟨rfl, -⟩ := h
      cases hg
    · obtain ⟨rfl, rfl, -⟩ := h
      have hg : g = 0 := by simpa [Statement.reads, Expr.names] using hg
      exact ⟨_, List.mem_singleton_self _, _, _, _, rfl, by rw [hg]⟩
  have hnum : NumbersRead resolve (strip nodes) := by
    rw [hp]
    intro h hh
    simp [p, spell, Statement.nodes, Expr.nodes, Node.number, Node.identifier, Arith.kind] at hh
    exact ⟨7, by rw [hh, hread]⟩
  refine ⟨hp, ?_, compile_correct (by decide) hp hassigned hnum List.nodup_nil⟩
  simp [p, exec, Statement.exec, Expr.eval, hx, hy, hread, Arith.apply?]
  rfl

end StraightLine.Compile
