import Mathlib
import StraightLine.Compile
import StraightLine.Proofs.LiveRanges
import StraightLine.Proofs.Simulation
import StraightLine.Proofs.TreeLowering
import StraightLine.Source.Meaning

/-! Lowering preserves meaning. The present variable of each name has the word that the store has
for the name; expressions write temporaries only, so they change no name, and a version that is
written again was never read. -/

namespace StraightLine.Code

open StraightLine.Source StraightLine.Range

/-! ## Temporaries -/

/-- The temporary with a number above `lo` and up to `hi`. -/
def TempWithin (lo hi : Nat) (v : Var) : Prop :=
  ∃ n, lo < n ∧ n ≤ hi ∧ v = .temp (Int64.ofNat n)

theorem TempWithin.mono {lo hi lo' hi' : Nat} {v : Var} (h : TempWithin lo hi v) (hl : lo' ≤ lo)
    (hh : hi ≤ hi') : TempWithin lo' hi' v := by
  obtain ⟨n, h₁, h₂, rfl⟩ := h
  exact ⟨n, by omega, by omega, rfl⟩

theorem temp_ne_named (n : Int64) (h : Handle) (k : Int64) : Var.temp n ≠ Var.named h k := by
  intro he
  have := congrArg Var.kind he
  simp [Var.temp, Var.named] at this

theorem TempWithin.ne_named {lo hi : Nat} {v : Var} (h : TempWithin lo hi v) (g : Handle)
    (k : Int64) : v ≠ Var.named g k := by
  obtain ⟨n, -, -, rfl⟩ := h
  exact temp_ne_named _ g k

/-- Temporaries from different parts of the numbering are different. -/
theorem TempWithin.ne {a b c d : Nat} {v w : Var} (hv : TempWithin a b v) (hw : TempWithin c d w)
    (hbc : b ≤ c) (hd : d < positions) : v ≠ w := by
  obtain ⟨m, -, hm, rfl⟩ := hv
  obtain ⟨n, hn, hn', rfl⟩ := hw
  intro he
  have := ofNat_position_inj (by omega) (by omega) (congrArg Var.version he)
  omega

section

variable (key : Handle → String)

theorem temps_lowerTree (e : Expr) (s : Session) :
    (lowerTree key e s).2.temps = s.temps + e.operators := by
  induction e generalizing s with
  | number h => rfl
  | name h => exact Session.temps_put _ _ _
  | binary op mark left right ihl ihr =>
    simp only [lowerTree, ihl, ihr, Expr.operators]
    omega

/-- The code of an expression writes new temporaries. -/
theorem dst_lowerTree (e : Expr) (s : Session) :
    ∀ i ∈ (lowerTree key e s).1.instrs, TempWithin s.temps (s.temps + e.operators) i.dst := by
  induction e generalizing s with
  | number h => simp [lowerTree, Lowered.instrs]
  | name h => simp [lowerTree, Lowered.instrs]
  | binary op mark left right ihl ihr =>
    have hs := temps_lowerTree key left s
    intro i hi
    simp only [lowerTree, Lowered.instrs, List.mem_append, List.mem_singleton] at hi
    rcases hi with (hi | hi) | rfl
    · exact (ihl s i hi).mono (Nat.le_refl _) (by simp only [Expr.operators]; omega)
    · exact (ihr _ i hi).mono (by omega) (by simp only [Expr.operators]; omega)
    · refine ⟨_, ?_, ?_, rfl⟩ <;> simp only [temps_lowerTree, Expr.operators] <;> omega

/-- The value of an expression is in a literal, in a name, or in one of the new temporaries. -/
theorem operand_lowerTree (e : Expr) (s : Session) {v : Var}
    (hv : (lowerTree key e s).1.operand = .var v) :
    (∃ h n, v = .named h n) ∨ TempWithin s.temps (s.temps + e.operators) v := by
  cases e with
  | number h => cases hv
  | name h =>
    cases hv
    exact .inl ⟨_, _, rfl⟩
  | binary op mark left right =>
    cases hv
    exact .inr (dst_lowerTree key (.binary op mark left right) s _
      (by simp [lowerTree, Lowered.instrs]))

end

/-- Code changes its destinations only. -/
theorem stepAll_of_forall_ne {resolve : Resolver} {env env' : Env} {is : List Instr}
    (h : stepAll resolve env is = .ok env') {v : Var} (hv : ∀ i ∈ is, i.dst ≠ v) :
    env' v = env v := by
  induction is generalizing env with
  | nil =>
    cases h
    rfl
  | cons i is ih =>
    rw [stepAll, Instr.step] at h
    cases hx : i.value resolve env with
    | error f => simp [hx, bind, Except.bind] at h
    | ok x =>
      simp only [hx, bind, Except.bind] at h
      rw [ih h fun j hj => hv j (List.mem_cons_of_mem _ hj)]
      exact env.set_of_ne x (Ne.symm (hv i List.mem_cons_self))

/-! ## Names -/

/-- The session, the environment and the store agree on the names. A name that the session has not
seen has never been assigned, and version zero stands for a name that was only read so far. -/
structure Tracks (key : Handle → String) (s : Session) (env : Env) (st : Store) : Prop where
  keyed : s.Keyed key
  value : ∀ k ns, s.find? k = some ns → env ns.var = st k
  unseen : ∀ k, s.find? k = none → st k = 0
  read : ∀ k ns, s.find? k = some ns → ns.version = 0 → ns.read = true
  zero : ∀ h, env (.named h 0) = 0

section

variable {key : Handle → String} {resolve : Resolver} {s : Session} {env : Env} {st : Store}

theorem tracks_start (key : Handle → String) (nodes : List Node) :
    Tracks key (.start nodes) .empty .empty where
  keyed := nofun
  value := nofun
  unseen := fun _ _ => rfl
  read := nofun
  zero := fun _ => rfl

theorem Tracks.withTemps (h : Tracks key s env st) (n : Nat) :
    Tracks key { s with temps := n } env st :=
  ⟨h.keyed, h.value, h.unseen, h.read, h.zero⟩

/-- What temporaries hold does not matter. -/
theorem Tracks.congr (h : Tracks key s env st) {env' : Env}
    (he : ∀ g n, env' (.named g n) = env (.named g n)) : Tracks key s env' st where
  keyed := h.keyed
  value := fun k ns hk => (he _ _).trans (h.value k ns hk)
  unseen := h.unseen
  read := h.read
  zero := fun g => (he g 0).trans (h.zero g)

/-- The reader of a name finds its word. -/
theorem Tracks.value_nameAt (h : Tracks key s env st) (g : Handle) :
    env (s.nameAt key g).var = st (key g) := by
  rw [Session.nameAt]
  cases hf : s.find? (key g) with
  | none =>
    rw [h.unseen _ hf]
    exact h.zero g
  | some ns => exact h.value _ ns hf

theorem Tracks.afterRead (h : Tracks key s env st) (g : Handle) :
    Tracks key (s.afterRead key g) env st := by
  refine ⟨h.keyed.afterRead g, ?_, ?_, ?_, h.zero⟩
  · intro k ns hk
    rcases Session.find?_put_cases hk with ⟨rfl, rfl⟩ | ⟨-, hk⟩
    · exact h.value_nameAt g
    · exact h.value k ns hk
  · intro k hk
    rw [Session.afterRead, Session.find?_put] at hk
    split at hk
    · cases hk
    · exact h.unseen k hk
  · intro k ns hk hz
    rcases Session.find?_put_cases hk with ⟨rfl, rfl⟩ | ⟨-, hk⟩
    · rfl
    · exact h.read k ns hk hz

theorem Tracks.lowerTree (h : Tracks key s env st) (e : Expr) :
    Tracks key (lowerTree key e s).2 env st := by
  induction e generalizing s with
  | number g => exact h
  | name g => exact h.afterRead g
  | binary op mark left right ihl ihr =>
    exact (ihr (ihl h)).withTemps _

/-- A name that is written gets a version above zero. -/
theorem Tracks.rewritten_pos (h : Tracks key s env st) (g : Handle) :
    0 < (s.rewritten key g).version := by
  rw [Session.rewritten]
  split
  · exact Nat.one_pos
  · rename_i ns hf
    have hr := h.read _ ns hf
    by_cases hz : ns.version = 0
    · simp [hr hz]
    · simp only
      split <;> omega

/-- Assigning to a name changes its word and no other one. -/
theorem Tracks.afterWrite (h : Tracks key s env st) (g : Handle)
    (hv : (s.rewritten key g).version < positions) (x : Int64) :
    Tracks key (s.afterWrite key g) (env.set (s.rewritten key g).var x) (st.set (key g) x) := by
  refine ⟨h.keyed.afterWrite g, ?_, ?_, ?_, ?_⟩
  · intro k ns hk
    rcases Session.find?_put_cases hk with ⟨rfl, rfl⟩ | ⟨hne, hk⟩
    · rw [Env.set_self, Store.set_self]
    · -- names with different keys have different handles
      rw [Store.set_of_ne _ _ hne, Env.set_of_ne, h.value k ns hk]
      intro he
      have hh : ns.handle = (s.rewritten key g).handle := congrArg Var.handle he
      exact hne (by rw [← h.keyed k ns hk, hh, h.keyed.rewritten])
  · intro k hk
    rw [Session.afterWrite, Session.find?_put] at hk
    split at hk
    · cases hk
    · rw [Store.set_of_ne _ _ ‹_›, h.unseen k hk]
  · intro k ns hk hz
    rcases Session.find?_put_cases hk with ⟨rfl, rfl⟩ | ⟨-, hk⟩
    · have := h.rewritten_pos g
      omega
    · exact h.read k ns hk hz
  · intro g'
    rw [Env.set_of_ne, h.zero]
    intro he
    have hz : Int64.ofNat 0 = Int64.ofNat (s.rewritten key g).version := congrArg Var.version he
    have hpos := h.rewritten_pos g
    have := ofNat_position_inj (by omega) hv hz
    omega

/-! ## Expressions -/

/-- Code and a look at the environment behind it give what an evaluation gives. If the evaluation
fails, the code fails or the look does. -/
def Computes (resolve : Resolver) (env : Env) (is : List Instr)
    (look : Env → Except StepFault Int64) : Except EvalFault Int64 → Prop
  | .ok x => ∃ env', stepAll resolve env is = .ok env' ∧ look env' = .ok x
  | .error _ => ∀ env', stepAll resolve env is = .ok env' → ∃ f, look env' = .error f

theorem ofArith_apply (op : Arith) (a b : Int64) :
    Operator.apply? (.ofArith op) a b = op.apply? a b := by
  cases op <;> rfl

theorem stepAll_concat {is : List Instr} {i : Instr} {env' : Env}
    (h : stepAll resolve env is = .ok env') :
    stepAll resolve env (is ++ [i]) = (i.value resolve env').map (env'.set i.dst) := by
  rw [stepAll_append, h]
  simp only [stepAll, Instr.step, bind, Except.bind]
  cases i.value resolve env' <;> rfl

theorem exists_of_stepAll_append {xs ys : List Instr} {env' : Env}
    (h : stepAll resolve env (xs ++ ys) = .ok env') :
    ∃ env₁, stepAll resolve env xs = .ok env₁ ∧ stepAll resolve env₁ ys = .ok env' := by
  rw [stepAll_append] at h
  split at h
  · exact ⟨_, ‹_›, h⟩
  · cases h

/-- If the last instruction has the value of an expression, the operand has it behind the code. -/
theorem Computes.operand {l : Lowered} {r : Except EvalFault Int64}
    (h : ∀ dst, Computes resolve env l.body (fun env' => (l.last dst).value resolve env') r) :
    Computes resolve env l.instrs (fun env' => l.operand.value resolve env') r := by
  cases l with
  | leaf v =>
    have hv : ∀ env', (Lowered.last default (.leaf v)).value resolve env' = v.value resolve env' := by
      intro env'
      simp only [Lowered.last, Instr.value, bind, Except.bind]
      cases v.value resolve env' <;> rfl
    have hd := h default
    simp only [hv] at hd
    exact hd
  | code body last =>
    have hd : Computes resolve env body (fun env' => last.value resolve env') r := h last.dst
    cases r with
    | ok x =>
      obtain ⟨env', hbody, (hlast : last.value resolve env' = .ok x)⟩ := hd
      refine ⟨env'.set last.dst x, ?_, ?_⟩
      · rw [Lowered.instrs, stepAll_concat hbody, hlast]
        rfl
      · simp only [Lowered.operand, Operand.value, Env.set_self]
    | error f =>
      intro env' henv
      obtain ⟨env₁, hbody, hlast⟩ := exists_of_stepAll_append henv
      obtain ⟨f, (hf : last.value resolve env₁ = .error f)⟩ := hd env₁ hbody
      rw [stepAll, Instr.step, hf] at hlast
      cases hlast

/-- Looking at operands that an expression leaves is not disturbed by later temporaries. -/
theorem value_of_later {e : Expr} {env₁ env₂ : Env} {is : List Instr} {lo hi : Nat}
    (h : stepAll resolve env₁ is = .ok env₂) (hi' : hi < positions)
    (hlo : s.temps + e.operators ≤ lo) (hdst : ∀ i ∈ is, TempWithin lo hi i.dst) :
    (lowerTree key e s).1.operand.value resolve env₂ =
      (lowerTree key e s).1.operand.value resolve env₁ := by
  cases ho : (lowerTree key e s).1.operand with
  | literal g => rfl
  | untagged v g => rfl
  | var v =>
    have hne : ∀ i ∈ is, i.dst ≠ v := by
      intro i hi
      rcases operand_lowerTree key e s ho with ⟨g, n, rfl⟩ | ht
      · exact (hdst i hi).ne_named g n
      · exact (ht.ne (hdst i hi) hlo hi').symm
    simp only [Operand.value, stepAll_of_forall_ne h hne]

/-- Code that leaves two operands, and an operation on them. -/
theorem Computes.operation {xs ys : List Instr} {lo ro : Operand} {a b : Except EvalFault Int64}
    (hl : Computes resolve env xs (fun env' => lo.value resolve env') a)
    (hr : ∀ env₁, stepAll resolve env xs = .ok env₁ →
      Computes resolve env₁ ys (fun env' => ro.value resolve env') b)
    (hkeep : ∀ env₁ env₂, stepAll resolve env xs = .ok env₁ → stepAll resolve env₁ ys = .ok env₂ →
      lo.value resolve env₂ = lo.value resolve env₁)
    (op : Arith) (dst : Var) :
    Computes resolve env (xs ++ ys)
      (fun env' => Instr.value resolve env' ⟨dst, lo, some (.ofArith op, ro)⟩) (do
        let x ← a
        let y ← b
        match op.apply? x y with
        | some z => .ok z
        | none => .error .divisionByZero) := by
  cases a with
  | error f =>
    intro env₂ h
    obtain ⟨env₁, h₁, h₂⟩ := exists_of_stepAll_append h
    obtain ⟨g, hg⟩ := hl env₁ h₁
    exact ⟨g, by simp only [Instr.value, hkeep env₁ env₂ h₁ h₂, hg]; rfl⟩
  | ok x =>
    obtain ⟨env₁, h₁, hx⟩ := hl
    cases b with
    | error f =>
      intro env₂ h
      obtain ⟨env₁', h₁', h₂⟩ := exists_of_stepAll_append h
      cases h₁.symm.trans h₁'
      obtain ⟨g, hg⟩ := hr env₁ h₁ env₂ h₂
      exact ⟨g, by simp only [Instr.value, hkeep env₁ env₂ h₁ h₂, hx, hg]; rfl⟩
    | ok y =>
      obtain ⟨env₂, h₂, hy⟩ := hr env₁ h₁
      have hx' := (hkeep env₁ env₂ h₁ h₂).trans hx
      have hrun : stepAll resolve env (xs ++ ys) = .ok env₂ := by
        rw [stepAll_append, h₁]
        exact h₂
      simp only [bind, Except.bind]
      cases hop : op.apply? x y with
      | some z =>
        rw [← ofArith_apply] at hop
        exact ⟨env₂, hrun, Instr.value_of_apply rfl hx' hy hop⟩
      | none =>
        rw [← ofArith_apply] at hop
        intro env' h
        cases hrun.symm.trans h
        exact ⟨_, Instr.value_of_no_apply rfl hx' hy hop⟩

/-- The code of an expression changes no name. -/
theorem Tracks.afterExpr (h : Tracks key s env st) (e : Expr) {is : List Instr} {env' : Env}
    (his : is ⊆ (Code.lowerTree key e s).1.instrs)
    (hrun : stepAll resolve env is = .ok env') : Tracks key (Code.lowerTree key e s).2 env' st := by
  refine (h.lowerTree e).congr fun g n => ?_
  exact stepAll_of_forall_ne hrun fun i hi => (dst_lowerTree key e s i (his hi)).ne_named g n

/-- The last instruction of an expression has its value. -/
theorem Tracks.computes (h : Tracks key s env st) (e : Expr)
    (hb : s.temps + e.operators < positions) (dst : Var) :
    Computes resolve env (Code.lowerTree key e s).1.body
      (fun env' => ((Code.lowerTree key e s).1.last dst).value resolve env')
      (e.eval key resolve st) := by
  induction e generalizing s env dst with
  | number g =>
    rw [Expr.eval]
    cases hn : Text.Decimal.read (resolve g) with
    | ok n =>
      refine ⟨env, rfl, ?_⟩
      simp only [Code.lowerTree, Lowered.last, Instr.value, Operand.value, hn]
      rfl
    | error cause =>
      refine fun env' _ => ⟨.badLiteral (resolve g) cause, ?_⟩
      simp only [Code.lowerTree, Lowered.last, Instr.value, Operand.value, hn]
      rfl
  | name g =>
    refine ⟨env, rfl, ?_⟩
    simp only [Code.lowerTree, Lowered.last, Instr.value, Operand.value, h.value_nameAt]
    rfl
  | binary op mark left right ihl ihr =>
    have hs := temps_lowerTree key left s
    have ht : s.temps + (left.operators + right.operators + 1) < positions := hb
    refine Computes.operation (.operand fun dst => ihl h (by omega) dst) ?_ ?_ op dst
    · intro env₁ h₁
      exact .operand fun dst => ihr (h.afterExpr left (fun _ hi => hi) h₁) (by omega) dst
    · intro env₁ env₂ h₁ h₂
      exact value_of_later h₂ (by omega) (by omega) (dst_lowerTree key right _)

/-! ## Statements -/

/-- Temporaries and versions are numbered up to `n`. -/
structure Session.Within (n : Nat) (s : Session) : Prop where
  temps_le : s.temps ≤ n
  version_le : ∀ k ns, s.find? k = some ns → ns.version ≤ n

theorem Session.Within.mono {m n : Nat} (h : s.Within m) (hmn : m ≤ n) : s.Within n :=
  ⟨Nat.le_trans h.temps_le hmn, fun k ns hk => Nat.le_trans (h.version_le k ns hk) hmn⟩

theorem Session.Within.put {n : Nat} (h : s.Within n) {k : String} {ns : NameState}
    (hv : ns.version ≤ n) : (s.put k ns).Within n := by
  refine ⟨by rw [Session.temps_put]; exact h.temps_le, fun k' ns' hk => ?_⟩
  rcases Session.find?_put_cases hk with ⟨rfl, rfl⟩ | ⟨-, hk⟩
  · exact hv
  · exact h.version_le k' ns' hk

theorem Session.Within.lowerTree {n : Nat} (h : s.Within n) (key : Handle → String) (e : Expr) :
    (Code.lowerTree key e s).2.Within (n + e.operators) := by
  induction e generalizing s n with
  | number g => exact h
  | name g =>
    refine h.put ?_
    simp only [Session.nameAt]
    cases hf : s.find? (key g) with
    | none => exact Nat.zero_le _
    | some ns => exact h.version_le _ ns hf
  | binary op mark left right ihl ihr =>
    have hr := ihr (ihl h)
    refine ⟨?_, fun k ns hk => ?_⟩
    · have := hr.temps_le
      simp only [Code.lowerTree, Expr.operators]
      omega
    · have := hr.version_le k ns hk
      simp only [Expr.operators]
      omega

theorem Session.Within.rewritten {n : Nat} (h : s.Within n) (key : Handle → String) (g : Handle) :
    (s.rewritten key g).version ≤ n + 1 := by
  rw [Session.rewritten]
  split
  · exact Nat.le_add_left 1 n
  · rename_i ns hf
    have := h.version_le _ ns hf
    simp only
    split <;> omega

theorem Session.Within.releaseFor {n : Nat} (h : s.Within n) (l : Lowered) :
    (s.releaseFor l).Within n := by
  cases l with
  | leaf v => exact h
  | code body last => exact ⟨Nat.le_trans (Nat.sub_le _ _) h.temps_le, h.version_le⟩

/-- A statement numbers no more than it has nodes. -/
theorem Session.Within.lowerStatement {n : Nat} (h : s.Within n) (key : Handle → String)
    (c : Statement) : (Code.lowerStatement key c s).2.Within (n + c.nodes.length) := by
  cases c with
  | scopeOpen mark => exact h.mono (Nat.le_add_right _ _)
  | scopeEnd mark => exact h.mono (Nat.le_add_right _ _)
  | assign mark target value =>
    have hl := value.length_nodes
    have hw := h.lowerTree key value
    refine (((hw.mono (Nat.le_succ _)).put (hw.rewritten key target)).releaseFor _).mono ?_
    simp only [Statement.nodes, List.length_cons]
    omega
  | bare e =>
    have hl := e.length_nodes
    refine (h.lowerTree key e).mono ?_
    simp only [Statement.nodes]
    omega

theorem Session.Within.lowerStatements {n : Nat} (h : s.Within n) (key : Handle → String)
    (p : List Statement) : (Code.lowerStatements key p s).2.Within (n + (spell p).length) := by
  induction p generalizing s n with
  | nil => exact h
  | cons c p ih =>
    rw [spell_cons, List.length_append, ← Nat.add_assoc]
    exact ih (h.lowerStatement key c)

theorem Tracks.releaseFor (h : Tracks key s env st) (l : Lowered) :
    Tracks key (s.releaseFor l) env st := by
  cases l with
  | leaf v => exact h
  | code body last => exact h.withTemps _

/-- The last instruction of an assignment gets the value that is assigned, and behind it the session
tracks the store with this value. -/
theorem Tracks.assign (h : Tracks key s env st) {n : Nat} (hw : s.Within n) (mark target : Handle)
    {value : Expr} (hn : n + (Statement.assign mark target value).nodes.length < positions)
    {x : Int64} (hx : value.eval key resolve st = .ok x) :
    ∃ body i env₁, (lowerStatement key (.assign mark target value) s).1 = body ++ [i] ∧
      stepAll resolve env body = .ok env₁ ∧ i.step resolve env₁ = .ok (x, env₁.set i.dst x) ∧
      Tracks key (lowerStatement key (.assign mark target value) s).2 (env₁.set i.dst x)
        (st.set (key target) x) := by
  have hl := value.length_nodes
  simp only [Statement.nodes, List.length_cons] at hn
  have htemps := hw.temps_le
  have hversion := (hw.lowerTree key value).rewritten key target
  obtain ⟨env₁, hbody, hlast⟩ : Computes resolve env (Code.lowerTree key value s).1.body _ (.ok x) :=
    hx ▸ h.computes value (by omega)
      ((Code.lowerTree key value s).2.rewritten key target).var
  refine ⟨_, _, env₁, rfl, hbody, ?_, ?_⟩
  · simp only [Instr.step, hlast, bind, Except.bind]
    rfl
  · rw [Lowered.dst_last]
    have hexpr := h.afterExpr value (Lowered.body_subset _) hbody
    exact (hexpr.afterWrite target (by omega) x).releaseFor _

/-- Code follows an execution: both end, and then the session tracks the store, or both fail. -/
def Follows (key : Handle → String) (resolve : Resolver) (env : Env) (is : List Instr)
    (s : Session) : Except EvalFault Store → Prop
  | .ok st => ∃ env', stepAll resolve env is = .ok env' ∧ Tracks key s env' st
  | .error _ => ∀ env', stepAll resolve env is ≠ .ok env'

theorem Follows.ok_iff {is : List Instr} {r : Except EvalFault Store}
    (h : Follows key resolve env is s r) :
    (∃ env', stepAll resolve env is = .ok env') ↔ ∃ st, r = .ok st := by
  cases r with
  | ok st =>
    obtain ⟨env', hrun, -⟩ := h
    exact ⟨fun _ => ⟨st, rfl⟩, fun _ => ⟨env', hrun⟩⟩
  | error f =>
    exact ⟨fun ⟨env', hrun⟩ => absurd hrun (h env'), fun ⟨_, hr⟩ => nomatch hr⟩

theorem Follows.after {xs ys : List Instr} {env₁ : Env} {r : Except EvalFault Store}
    (h : Follows key resolve env₁ ys s r) (hx : stepAll resolve env xs = .ok env₁) :
    Follows key resolve env (xs ++ ys) s r := by
  have hrun : stepAll resolve env (xs ++ ys) = stepAll resolve env₁ ys := by
    rw [stepAll_append, hx]
  cases r with
  | ok st =>
    rw [Follows, hrun]
    exact h
  | error f =>
    rw [Follows, hrun]
    exact h

/-- The code of an assignment fails if its value cannot be found. -/
theorem Tracks.assign_error (h : Tracks key s env st) {n : Nat} (hw : s.Within n)
    {mark target : Handle} {value : Expr}
    (hn : n + (Statement.assign mark target value).nodes.length < positions) {f : EvalFault}
    (hf : value.eval key resolve st = .error f) (env' : Env) :
    stepAll resolve env (lowerStatement key (.assign mark target value) s).1 ≠ .ok env' := by
  have hl := value.length_nodes
  have htemps := hw.temps_le
  simp only [Statement.nodes, List.length_cons] at hn
  intro hrun
  obtain ⟨env₁, hbody, hlast⟩ := exists_of_stepAll_append hrun
  have hc : Computes resolve env _ _ (.error f) :=
    hf ▸ h.computes value (by omega) ((Code.lowerTree key value s).2.rewritten key target).var
  obtain ⟨g, hg⟩ := hc env₁ hbody
  simp only [stepAll, Instr.step, hg, bind, Except.bind] at hlast
  cases hlast

/-- Statements and their code have the same meaning. -/
theorem Tracks.lowerStatement (h : Tracks key s env st) {n : Nat} (hw : s.Within n)
    (resolve : Resolver) (c : Statement) (hn : n + c.nodes.length < positions) :
    Follows key resolve env (Code.lowerStatement key c s).1 (Code.lowerStatement key c s).2
      (c.exec key resolve st) := by
  cases c with
  | scopeOpen mark => exact ⟨env, rfl, h⟩
  | scopeEnd mark => exact ⟨env, rfl, h⟩
  | assign mark target value =>
    cases hx : value.eval key resolve st with
    | ok x =>
      obtain ⟨body, i, env₁, hcode, hbody, hlast, htracks⟩ := h.assign hw mark target hn hx
      simp only [Statement.exec, hx, bind, Except.bind]
      refine ⟨_, ?_, htracks⟩
      rw [hcode, stepAll_append, hbody]
      simp only [stepAll, hlast]
      rfl
    | error f =>
      simp only [Statement.exec, hx, bind, Except.bind]
      exact h.assign_error hw hn hx
  | bare e =>
    have hl := e.length_nodes
    have htemps := hw.temps_le
    have hc : Computes resolve env _ _ (e.eval key resolve st) :=
      .operand fun dst => h.computes e (by simp only [Statement.nodes] at hn; omega) dst
    have hafter : ∀ env', stepAll resolve env (Code.lowerTree key e s).1.instrs = .ok env' →
        Tracks key (Code.lowerTree key e s).2 env' st :=
      fun env' hrun => h.afterExpr e (fun _ hi => hi) hrun
    cases e with
    | number g => exact ⟨env, rfl, hafter env rfl⟩
    | name g => exact ⟨env, rfl, hafter env rfl⟩
    | binary op mark left right =>
      rw [Statement.exec, if_neg (by simp [Expr.isLeaf])]
      cases hx : (Expr.binary op mark left right).eval key resolve st with
      | ok x =>
        rw [hx] at hc
        obtain ⟨env', hrun, -⟩ := hc
        exact ⟨env', hrun, hafter env' hrun⟩
      | error f =>
        rw [hx] at hc
        intro env' hrun
        obtain ⟨g, hg⟩ := hc env' hrun
        cases hg

/-- Programs and their code have the same meaning. -/
theorem Tracks.lowerStatements (h : Tracks key s env st) {n : Nat} (hw : s.Within n)
    (resolve : Resolver) (p : List Statement) (hn : n + (spell p).length < positions) :
    Follows key resolve env (Code.lowerStatements key p s).1 (Code.lowerStatements key p s).2
      (exec key resolve st p) := by
  induction p generalizing s env st n with
  | nil => exact ⟨env, rfl, h⟩
  | cons c p ih =>
    rw [spell_cons, List.length_append] at hn
    have hc := h.lowerStatement hw resolve c (by omega)
    rw [exec, List.foldlM_cons]
    cases hx : c.exec key resolve st with
    | error f =>
      rw [hx] at hc
      intro env' hrun
      obtain ⟨env₁, h₁, -⟩ := exists_of_stepAll_append hrun
      exact hc env₁ h₁
    | ok st₁ =>
      rw [hx] at hc
      obtain ⟨env₁, h₁, ht₁⟩ := hc
      exact (ih ht₁ (hw.lowerStatement key c) (by omega)).after h₁

/-! ## Whole programs -/

theorem isSome_find?_put (s : Session) (k k' : String) (ns : NameState) :
    ((s.put k ns).find? k').isSome ↔ k' = k ∨ (s.find? k').isSome := by
  rw [Session.find?_put]
  split
  · simp [*]
  · simp [*]

/-- The names of an expression are seen while it is lowered. -/
theorem isSome_find?_lowerTree (e : Expr) (s : Session) (k : String) :
    ((lowerTree key e s).2.find? k).isSome ↔
      (∃ h, Node.identifier h ∈ e.nodes ∧ k = key h) ∨ (s.find? k).isSome := by
  induction e generalizing s with
  | number g => simp [lowerTree, Expr.nodes, Node.identifier, Node.number]
  | name g => simp [lowerTree, Expr.nodes, Node.identifier, Session.afterRead, isSome_find?_put]
  | binary op mark left right ihl ihr =>
    have hop : ∀ h, Node.identifier h ≠ { kind := op.kind, handle := mark } := by
      intro h he
      cases op <;> cases he
    have hbin : (lowerTree key (.binary op mark left right) s).2.find? k =
        (lowerTree key right (lowerTree key left s).2).2.find? k := rfl
    rw [hbin, ihr, ihl, ← or_assoc]
    simp only [Expr.nodes, List.mem_cons, List.mem_append, hop, false_or, or_and_right, exists_or]
    rw [or_comm (a := ∃ h, Node.identifier h ∈ right.nodes ∧ k = key h)]

theorem isSome_find?_lowerStatement (c : Statement) (s : Session) (k : String) :
    ((lowerStatement key c s).2.find? k).isSome ↔
      (∃ h, Node.identifier h ∈ c.nodes ∧ k = key h) ∨ (s.find? k).isSome := by
  cases c with
  | scopeOpen mark => simp [lowerStatement, Statement.nodes, Node.identifier]
  | scopeEnd mark => simp [lowerStatement, Statement.nodes, Node.identifier]
  | bare e => exact isSome_find?_lowerTree e s k
  | assign mark target value =>
    have hmark : ∀ h, Node.identifier h ≠ { kind := .assignment, handle := mark } := by
      intro h he
      cases he
    have hname : ∀ h, Node.identifier h = .identifier target ↔ h = target := by
      simp [Node.identifier]
    simp only [lowerStatement, find?_releaseFor, Session.afterWrite, isSome_find?_put,
      isSome_find?_lowerTree, Statement.nodes, List.mem_cons, hmark, hname, false_or, or_and_right,
      exists_or, exists_eq_left, or_assoc]

/-- The names of a program are those that the session has seen in the end. -/
theorem isSome_find?_lowerStatements (p : List Statement) (s : Session) (k : String) :
    ((lowerStatements key p s).2.find? k).isSome ↔
      (∃ h, Node.identifier h ∈ spell p ∧ k = key h) ∨ (s.find? k).isSome := by
  induction p generalizing s with
  | nil => simp [lowerStatements, spell]
  | cons c p ih =>
    have hcons : (lowerStatements key (c :: p) s).2 =
        (lowerStatements key p (lowerStatement key c s).2).2 := rfl
    rw [hcons, ih, isSome_find?_lowerStatement, spell_cons, ← or_assoc]
    simp only [List.mem_append, or_and_right, exists_or]
    rw [or_comm (a := ∃ h, Node.identifier h ∈ spell p ∧ k = key h)]

theorem exec_append (st : Store) (p q : List Statement) :
    exec key resolve st (p ++ q) = (exec key resolve st p).bind fun st' => exec key resolve st' q :=
  List.foldlM_append

/-- A program that runs to its end finds the value of each of its assignments. -/
theorem exists_of_exec_assign {st' : Store} {pre post : List Statement} {mark target : Handle}
    {value : Expr}
    (h : exec key resolve st (pre ++ .assign mark target value :: post) = .ok st') :
    ∃ st₀ x, exec key resolve st pre = .ok st₀ ∧ value.eval key resolve st₀ = .ok x := by
  rw [exec_append] at h
  cases hpre : exec key resolve st pre with
  | error f =>
    rw [hpre] at h
    cases h
  | ok st₀ =>
    rw [hpre] at h
    cases hx : value.eval key resolve st₀ with
    | error f => simp [exec, Except.bind, Statement.exec, hx, bind] at h
    | ok x => exact ⟨st₀, x, rfl, hx⟩

/-- The part of the code that an assignment inside a program becomes. It ends with an instruction
that gets the value which the program assigns there. -/
structure AssignsAt (key : Handle → String) (resolve : Resolver) (code : List Instr)
    (pre : List Statement) (mark target : Handle) (value : Expr) (before body : List Instr)
    (last : Instr) (x : Int64) : Prop where
  lowered : ∃ s, lowerAll key (.start (spell pre)) = .ok before s
  lowered_assign : ∃ s, lowerAll key (.start (spell (pre ++ [.assign mark target value]))) =
    .ok (before ++ body ++ [last]) s
  inside : before ++ body ++ [last] <+: code
  evaluated : ∃ st, exec key resolve .empty pre = .ok st ∧ value.eval key resolve st = .ok x
  stepped : ∃ env, stepAll resolve .empty (before ++ body) = .ok env ∧
    last.step resolve env = .ok (x, env.set last.dst x)

theorem within_start (nodes : List Node) : (Session.start nodes).Within 0 :=
  ⟨Nat.le_refl 0, nofun⟩

/-- Every assignment that is reached ends with an instruction that gets its value. -/
theorem exists_assignsAt {pre post : List Statement} {mark target : Handle} {value : Expr}
    (hn : (spell (pre ++ .assign mark target value :: post)).length < positions)
    (hst : exec key resolve .empty pre = .ok st) {x : Int64}
    (hx : value.eval key resolve st = .ok x) :
    ∃ before body last,
      AssignsAt key resolve
        (lowerStatements key (pre ++ .assign mark target value :: post) (.start [])).1
        pre mark target value before body last x := by
  rw [spell_append, spell_cons, List.length_append, List.length_append] at hn
  have hw := (within_start []).lowerStatements key pre
  have hpre := (tracks_start key []).lowerStatements (within_start []) resolve pre (by omega)
  rw [hst] at hpre
  obtain ⟨env, hrun, htracks⟩ := hpre
  obtain ⟨body, last, env₁, hcode, hbody, hlast, -⟩ :=
    htracks.assign hw mark target (by omega) hx
  have happ : ∀ post, (lowerStatements key (pre ++ .assign mark target value :: post) (.start [])).1 =
      (lowerStatements key pre (.start [])).1 ++ body ++ [last] ++
        (lowerStatements key post (lowerStatement key (.assign mark target value)
          (lowerStatements key pre (.start [])).2).2).1 := by
    intro post
    rw [lowerStatements_append]
    simp only [lowerStatements, hcode, List.append_assoc]
  refine ⟨(lowerStatements key pre (.start [])).1, body, last, ?_, ?_, ?_, ⟨st, hst, hx⟩, env₁, ?_,
    hlast⟩
  · exact ⟨_, lowerAll_spell key pre⟩
  · have hall := lowerAll_spell key (pre ++ [.assign mark target value])
    rw [happ, lowerStatements, List.append_nil] at hall
    exact ⟨_, hall⟩
  · rw [happ]
    exact List.prefix_append _ _
  · rw [stepAll_append, hrun]
    exact hbody

/-- Lowering preserves meaning. Statements spell every stream that is accepted. The code runs to its
end if and only if the statements do; then the last instruction of each assignment gets the assigned
value, and in the end the present variable of each name has the word of the name. -/
theorem lowering_preserves_meaning {norm : String → String} {resolve : Resolver}
    {nodes : List Node} {code : List Instr} {s : Session} (hn : nodes.length < UInt32.size)
    (h : lowerAll (Compile.keyBy norm resolve) (.start nodes) = .ok code s) :
    (∃ p, nodes = spell p) ∧ ∀ p, nodes = spell p →
      ((∃ env, stepAll resolve .empty code = .ok env) ↔
        ∃ st, exec (Compile.keyBy norm resolve) resolve .empty p = .ok st) ∧
      ∀ st, exec (Compile.keyBy norm resolve) resolve .empty p = .ok st →
        (∀ pre mark target value post, p = pre ++ .assign mark target value :: post →
          ∃ before body last x,
            AssignsAt (Compile.keyBy norm resolve) resolve code pre mark target value before body last
              x) ∧
        ∃ env, stepAll resolve .empty code = .ok env ∧
          ∀ g, Node.identifier g ∈ nodes → ∃ ns, s.find? (Compile.keyBy norm resolve g) = some ns ∧
            s.version? (Compile.keyBy norm resolve g) = some ns.version ∧
            env (.named ns.handle (Int64.ofNat ns.version)) = st (Compile.keyBy norm resolve g) := by
  refine ⟨exists_statements_of_lowerAll h, ?_⟩
  rintro p rfl
  have hpos : (spell p).length < positions := Nat.lt_trans hn (by decide)
  rw [lowerAll_spell] at h
  obtain ⟨rfl, rfl⟩ := EStateM.Result.ok.inj h
  have hfollows := (tracks_start (Compile.keyBy norm resolve) []).lowerStatements (within_start [])
    resolve p (by omega)
  refine ⟨hfollows.ok_iff, fun st hst => ⟨?_, ?_⟩⟩
  · rintro pre mark target value post rfl
    obtain ⟨st₀, x, hpre, hx⟩ := exists_of_exec_assign hst
    obtain ⟨before, body, last, hat⟩ := exists_assignsAt hpos hpre hx
    exact ⟨before, body, last, x, hat⟩
  · rw [hst] at hfollows
    obtain ⟨env, hrun, htracks⟩ := hfollows
    refine ⟨env, hrun, fun g hg => ?_⟩
    obtain ⟨ns, hns⟩ := Option.isSome_iff_exists.mp
      ((isSome_find?_lowerStatements p (.start []) _).mpr (.inl ⟨g, hg, rfl⟩))
    refine ⟨ns, hns, ?_, htracks.value _ ns hns⟩
    rw [Session.version?]
    exact congrArg (Option.map _) hns

end

/-- A name that is read before it is assigned, one that is assigned twice, and a read in between. -/
theorem lowering_preserves_meaning_squared :
    let resolve : Resolver := fun h => if h = 0 then "x" else if h = 1 then "y" else "7"
    let p : List Statement :=
      [.assign 0 0 (.binary .add 0 (.name 1) (.number 2)), .bare (.name 0),
        .assign 0 0 (.binary .mul 0 (.name 0) (.name 0))]
    ∃ code s env ns,
      lowerAll (Compile.keyBy Text.normalize resolve) (.start (spell p)) = .ok code s ∧
      stepAll resolve .empty code = .ok env ∧ s.find? "x" = some ns ∧
      env (.named ns.handle (Int64.ofNat ns.version)) = 49 := by
  intro resolve p
  have hx : Compile.keyBy Text.normalize resolve 0 = "x" := by cbv
  have hy : Compile.keyBy Text.normalize resolve 1 = "y" := by cbv
  have hn : Text.Decimal.read (resolve 2) = .ok 7 := by cbv
  have hexec : exec (Compile.keyBy Text.normalize resolve) resolve .empty p =
      .ok ((Store.empty.set "x" 7).set "x" 49) := by
    simp [p, exec, Statement.exec, Expr.eval, hx, hy, hn, Arith.apply?, Expr.isLeaf]
    rfl
  have h := lowerAll_spell (Compile.keyBy Text.normalize resolve) p
  obtain ⟨-, hall⟩ := lowering_preserves_meaning (by decide) h
  obtain ⟨env, hrun, hfinal⟩ := ((hall p rfl).2 _ hexec).2
  obtain ⟨ns, hns, -, hvalue⟩ := hfinal 0 (by decide)
  rw [hx] at hns hvalue
  exact ⟨_, _, env, ns, h, hrun, hns, hvalue⟩
end StraightLine.Code
