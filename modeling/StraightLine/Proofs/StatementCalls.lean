import Mathlib.Data.List.TakeWhile
import StraightLine.Compile
import StraightLine.Proofs.TreeLowering

/-! A session reads exactly the streams that statements spell, one statement per call. A call takes
the scope markers in front of a statement and the statement itself, or the last scope markers of the
stream; calls one after the other give the code that lowering the whole stream gives, and the length
of this code can be read off the stream. -/

namespace StraightLine.Source

def Statement.isMarker : Statement → Bool
  | scopeOpen _ | scopeEnd _ => true
  | assign .. | bare _ => false

/-- The statement assigns a number or a name as it is. -/
def Statement.copies : Statement → Bool
  | assign _ _ value => value.isLeaf
  | scopeOpen _ | scopeEnd _ | bare _ => false

theorem eq_nil_of_spell_eq_nil {p : List Statement} (h : spell p = []) : p = [] := by
  cases p with
  | nil => rfl
  | cons c p =>
    rw [spell_cons] at h
    exact absurd (List.append_eq_nil_iff.mp h).1 c.nodes_ne_nil

/-- Statements without nodes in front of their rest are none. -/
theorem eq_nil_of_eq_spell_append {p : List Statement} {rest : List Node}
    (h : rest = spell p ++ rest) : p = [] :=
  eq_nil_of_spell_eq_nil (List.self_eq_append_left.mp h)

theorem Expr.countP_isOperator (e : Expr) :
    e.nodes.countP (·.kind.isOperator) = e.operators := by
  induction e with
  | number h => rfl
  | name h => rfl
  | binary op mark left right ihl ihr =>
    have hop : (Node.mk op.kind mark).kind.isOperator = true := op.isOperator_kind
    rw [nodes, List.countP_cons, List.countP_append, ihl, ihr, if_pos hop]
    rfl

end StraightLine.Source

namespace StraightLine.Code

open StraightLine.Source

/-! ## One call -/

/-- What one call takes off its stream: scope markers and a statement behind them, which is missing only
at the end of the stream. The cursor moves on by as many nodes. -/
structure Takes (ms : List Statement) (c : Option Statement) (s t : Session) : Prop where
  markers : ∀ m ∈ ms, m.isMarker = true
  statement : ∀ x, c = some x → x.isMarker = false
  ended : c = none → t.rest = []
  rest : s.rest = spell (ms ++ c.toList) ++ t.rest
  cursor : t.cursor = s.cursor + (spell (ms ++ c.toList)).length

section

variable {key : Handle → String}

/-- Scope markers in front of the stream have no code. -/
theorem lowerNext_markers {ms : List Statement} (hm : ∀ m ∈ ms, m.isMarker = true) (s : Session)
    (rest : List Node) (n : Nat) :
    lowerNext key (s.moved (spell ms ++ rest) n) =
      lowerNext key (s.moved rest (n + (spell ms).length)) := by
  induction ms generalizing n with
  | nil => rfl
  | cons m ms ih =>
    have ih := ih (fun m hm' => hm m (List.mem_cons_of_mem _ hm')) (n + 1)
    have hn : n + 1 + (spell ms).length = n + ((spell ms).length + 1) := by omega
    cases m with
    | scopeOpen mark =>
      rw [hn] at ih
      exact (lowerNext_marker key rfl s _ n).trans ih
    | scopeEnd mark =>
      rw [hn] at ih
      exact (lowerNext_marker key rfl s _ n).trans ih
    | assign mark target value => cases hm _ List.mem_cons_self
    | bare e => cases hm _ List.mem_cons_self

/-- A call lowers the statement that its stream goes on with. -/
theorem lowerNext_statement {c : Statement} (hc : c.isMarker = false) (s : Session)
    (rest : List Node) (n : Nat) :
    lowerNext key (s.moved (c.nodes ++ rest) n) =
      .ok (lowerStatement key c s).1
        ((lowerStatement key c s).2.moved rest (n + c.nodes.length)) := by
  cases c with
  | scopeOpen mark => cases hc
  | scopeEnd mark => cases hc
  | assign mark target value => exact lowerNext_assign key mark target value s rest n
  | bare e => exact lowerNext_bare key e s rest n

/-- At the end of the stream there is nothing to lower. -/
theorem lowerNext_done (s : Session) (n : Nat) :
    lowerNext key (s.moved [] n) = .ok [] (s.moved [] n) := rfl

/-- A call that does not fail takes scope markers and a statement. -/
theorem exists_takes_of_lowerNext {s t : Session} {is : List Instr}
    (h : lowerNext key s = .ok is t) : ∃ ms c, Takes ms c s t := by
  obtain ⟨p, hp, -⟩ := exists_statements_of_lowerNext h
  have hmarkers : ∀ m ∈ p.takeWhile Statement.isMarker, m.isMarker = true :=
    fun m hm => List.mem_takeWhile_imp hm
  have hsplit := (List.takeWhile_append_dropWhile (p := Statement.isMarker) (l := p)).symm
  generalize p.takeWhile Statement.isMarker = ms at hmarkers hsplit
  rw [show s = s.moved s.rest s.cursor from rfl, hp, hsplit, spell_append, List.append_assoc,
    lowerNext_markers hmarkers] at h
  cases hdrop : p.dropWhile Statement.isMarker with
  | nil =>
    rw [hdrop] at h hsplit
    -- nothing but markers was taken, so nothing is left
    obtain ⟨q, hq, hend⟩ := exists_statements_of_lowerNext h
    have hrest : t.rest = [] := hend (eq_nil_of_eq_spell_append hq)
    rw [hrest] at h
    obtain ⟨-, ht⟩ := EStateM.Result.ok.inj (h.symm.trans (lowerNext_done s _))
    refine ⟨ms, none, hmarkers, nofun, fun _ => hrest, ?_, ?_⟩
    · rw [hp, hsplit]
      rfl
    · rw [Option.toList_none, List.append_nil]
      exact congrArg Session.cursor ht
  | cons c q =>
    have hc : c.isMarker = false := by
      have := List.head?_dropWhile_not Statement.isMarker p
      rw [hdrop] at this
      simpa using this
    rw [hdrop, spell_cons, List.append_assoc, lowerNext_statement hc] at h
    rw [hdrop] at hsplit
    obtain ⟨-, ht⟩ := EStateM.Result.ok.inj h.symm
    -- the statements behind the first one are still in the stream, so there are none
    have hq : q = [] := eq_nil_of_eq_spell_append (congrArg Session.rest ht)
    subst hq
    refine ⟨ms, some c, hmarkers, ?_, nofun, ?_, ?_⟩
    · intro x hx
      cases hx
      exact hc
    · rw [hp, hsplit]
      rfl
    · rw [congrArg Session.cursor ht, Option.toList_some, spell_append, spell_cons,
        List.length_append, List.length_append, ← Nat.add_assoc, ← Nat.add_assoc]
      rfl

variable {s t : Session} {ms : List Statement} {c : Option Statement}

/-- A call takes a node at least, unless there is none. -/
theorem Takes.pos (h : Takes ms c s t) (hs : s.done = false) :
    0 < (spell (ms ++ c.toList)).length := by
  refine List.length_pos_iff.mpr fun hnil => ?_
  have hc : c.toList = [] := (List.append_eq_nil_iff.mp (eq_nil_of_spell_eq_nil hnil)).2
  have hrest := h.rest
  rw [hnil, h.ended (Option.toList_eq_nil_iff.mp hc), List.append_nil] at hrest
  rw [Session.done, hrest] at hs
  cases hs

theorem length_rest_lt_of_lowerNext {is : List Instr} (hs : s.done = false)
    (h : lowerNext key s = .ok is t) : t.rest.length < s.rest.length := by
  obtain ⟨ms, c, htakes⟩ := exists_takes_of_lowerNext h
  have hpos := htakes.pos hs
  rw [htakes.rest, List.length_append]
  omega

/-! ## Calls one after the other -/

/-- Calls one after the other, as long as the stream is not at its end: what each of them gives, and the
session behind the last one. -/
inductive Calls (key : Handle → String) : Session → List (List Instr) → Session → Prop
  | nil (s : Session) : Calls key s [] s
  | cons {s t u : Session} {is : List Instr} {iss : List (List Instr)} (hs : s.done = false)
    (hnext : lowerNext key s = .ok is t) (hrest : Calls key t iss u) : Calls key s (is :: iss) u

/-- The session has consumed the nodes of the stream up to its cursor. -/
structure Session.Reading (nodes : List Node) (s : Session) : Prop where
  cursor_le : s.cursor ≤ nodes.length
  rest_eq : s.rest = nodes.drop s.cursor

variable {nodes : List Node}

theorem reading_start (nodes : List Node) : (Session.start nodes).Reading nodes :=
  ⟨Nat.zero_le _, rfl⟩

theorem Takes.reading (h : Takes ms c s t) (hs : s.Reading nodes) : t.Reading nodes := by
  have hlen := congrArg List.length (hs.rest_eq.symm.trans h.rest)
  rw [List.length_drop, List.length_append] at hlen
  have hle := hs.cursor_le
  refine ⟨by rw [h.cursor]; omega, ?_⟩
  rw [h.cursor, ← List.drop_drop, ← hs.rest_eq, h.rest, List.drop_left]

theorem Calls.reading {iss : List (List Instr)} (h : Calls key s iss t) (hs : s.Reading nodes) :
    t.Reading nodes := by
  induction h with
  | nil => exact hs
  | cons _ hnext _ ih =>
    obtain ⟨ms, c, htakes⟩ := exists_takes_of_lowerNext hnext
    exact ih (htakes.reading hs)

/-- The result of a step with code in front of its own. -/
def inFront (is : List Instr) :
    EStateM.Result LoweringFault Session (List Instr) →
      EStateM.Result LoweringFault Session (List Instr)
  | .ok code s => .ok (is ++ code) s
  | .error f s => .error f s

theorem inFront_nil (r : EStateM.Result LoweringFault Session (List Instr)) : inFront [] r = r := by
  cases r <;> rfl

theorem inFront_append (xs ys : List Instr)
    (r : EStateM.Result LoweringFault Session (List Instr)) :
    inFront (xs ++ ys) r = inFront xs (inFront ys r) := by
  cases r with
  | ok code s => rw [inFront, inFront, inFront, List.append_assoc]
  | error f s => rfl

theorem Session.length_rest_pos (hs : s.done = false) : 0 < s.rest.length := by
  refine List.length_pos_iff.mpr fun hnil => ?_
  rw [Session.done, hnil] at hs
  cases hs

theorem lowerAllWithin_of_done (hs : s.done = true) (fuel : Nat) :
    lowerAllWithin key fuel s = .ok [] s := by
  rw [Session.done, List.isEmpty_iff] at hs
  rw [show s = s.moved [] s.cursor by rw [Session.moved, ← hs]]
  exact lowerAllWithin_done key fuel s s.cursor

theorem lowerAllWithin_succ (hs : s.done = false) (fuel : Nat) :
    lowerAllWithin key (fuel + 1) s =
      match lowerNext key s with
      | .ok is t => inFront is (lowerAllWithin key fuel t)
      | .error f t => .error f t := by
  have hunfold : lowerAllWithin key (fuel + 1) s =
      (if s.done then return []
      else do
        let is ← lowerNext key
        let rest ← lowerAllWithin key fuel
        return is ++ rest : Lowering (List Instr)) s := rfl
  rw [hunfold, hs, if_neg Bool.false_ne_true]
  simp only [bind, EStateM.bind]
  cases lowerNext key s with
  | error f t => rfl
  | ok is t =>
    simp only
    cases lowerAllWithin key fuel t <;> rfl

/-- Each call takes a node, so the length of the stream is fuel enough. -/
theorem lowerAllWithin_eq_lowerAll {fuel : Nat} (hf : s.rest.length ≤ fuel) :
    lowerAllWithin key fuel s = lowerAll key s := by
  have hall : lowerAll key s = lowerAllWithin key s.rest.length s := rfl
  induction fuel using Nat.strongRecOn generalizing s with
  | ind fuel ih =>
    cases hs : s.done with
    | true => rw [hall, lowerAllWithin_of_done hs, lowerAllWithin_of_done hs]
    | false =>
      have hpos := Session.length_rest_pos hs
      obtain ⟨f, rfl⟩ : ∃ f, fuel = f + 1 := ⟨fuel - 1, by omega⟩
      obtain ⟨n, hn⟩ : ∃ n, s.rest.length = n + 1 := ⟨s.rest.length - 1, by omega⟩
      rw [hall, hn, lowerAllWithin_succ hs, lowerAllWithin_succ hs]
      cases hnext : lowerNext key s with
      | error g t => rfl
      | ok is t =>
        have hlt := length_rest_lt_of_lowerNext hs hnext
        simp only
        rw [ih f (by omega) (by omega) rfl, ih n (by omega) (by omega) rfl]

theorem lowerAll_of_done (hs : s.done = true) : lowerAll key s = .ok [] s :=
  lowerAllWithin_of_done hs _

/-- Lowering the whole stream is a call and then lowering what is left. -/
theorem lowerAll_of_lowerNext {is : List Instr} (hs : s.done = false)
    (hnext : lowerNext key s = .ok is t) : lowerAll key s = inFront is (lowerAll key t) := by
  have hlt := length_rest_lt_of_lowerNext hs hnext
  rw [← lowerAllWithin_eq_lowerAll (Nat.le_succ s.rest.length), lowerAllWithin_succ hs, hnext]
  simp only
  rw [lowerAllWithin_eq_lowerAll (Nat.le_of_lt hlt)]

/-- Lowering the whole stream gives the code of the calls, and behind it what lowering the rest gives.
-/
theorem Calls.lowerAll_eq {iss : List (List Instr)} (h : Calls key s iss t) :
    lowerAll key s = inFront iss.flatten (lowerAll key t) := by
  induction h with
  | nil => rw [List.flatten_nil, inFront_nil]
  | cons hs hnext _ ih =>
    rw [lowerAll_of_lowerNext hs hnext, ih, List.flatten_cons, inFront_append]

/-- Code of a whole stream comes from calls up to its end. -/
theorem exists_calls_of_lowerAll {code : List Instr} (h : lowerAll key s = .ok code t) :
    ∃ iss, Calls key s iss t ∧ t.done = true ∧ iss.flatten = code := by
  generalize hn : s.rest.length = n
  induction n using Nat.strongRecOn generalizing s code with
  | ind n ih =>
    cases hs : s.done with
    | true =>
      rw [lowerAll_of_done hs] at h
      cases h
      exact ⟨[], .nil _, hs, rfl⟩
    | false =>
      cases hnext : lowerNext key s with
      | error f u =>
        rw [← lowerAllWithin_eq_lowerAll (Nat.le_succ s.rest.length), lowerAllWithin_succ hs,
          hnext] at h
        cases h
      | ok is u =>
        rw [lowerAll_of_lowerNext hs hnext] at h
        cases hrest : lowerAll key u with
        | error f v =>
          rw [hrest] at h
          cases h
        | ok rest v =>
          rw [hrest] at h
          cases h
          have hlt := length_rest_lt_of_lowerNext hs hnext
          obtain ⟨iss, hcalls, hdone, rfl⟩ := ih _ (hn ▸ hlt) hrest rfl
          exact ⟨is :: iss, .cons hs hnext hcalls, hdone, rfl⟩

/-- If the stream has no code, calls lead up to one that fails. -/
theorem exists_calls_of_lowerAll_error {f : LoweringFault} (h : lowerAll key s = .error f t) :
    ∃ iss u, Calls key s iss u ∧ u.done = false ∧ lowerNext key u = .error f t := by
  generalize hn : s.rest.length = n
  induction n using Nat.strongRecOn generalizing s with
  | ind n ih =>
    cases hs : s.done with
    | true =>
      rw [lowerAll_of_done hs] at h
      cases h
    | false =>
      cases hnext : lowerNext key s with
      | error g u =>
        rw [← lowerAllWithin_eq_lowerAll (Nat.le_succ s.rest.length), lowerAllWithin_succ hs,
          hnext] at h
        cases h
        exact ⟨[], s, .nil s, hs, hnext⟩
      | ok is u =>
        rw [lowerAll_of_lowerNext hs hnext] at h
        cases hrest : lowerAll key u with
        | ok rest v =>
          rw [hrest] at h
          cases h
        | error g v =>
          rw [hrest] at h
          cases h
          have hlt := length_rest_lt_of_lowerNext hs hnext
          obtain ⟨iss, w, hcalls, hw, hfail⟩ := ih _ (hn ▸ hlt) hrest rfl
          exact ⟨is :: iss, w, .cons hs hnext hcalls, hw, hfail⟩

/-- Each call takes a node. -/
theorem Calls.length_add_le {iss : List (List Instr)} (h : Calls key s iss t) :
    iss.length + t.rest.length ≤ s.rest.length := by
  induction h with
  | nil => rw [List.length_nil, Nat.zero_add]
  | cons hs hnext _ ih =>
    have hlt := length_rest_lt_of_lowerNext hs hnext
    rw [List.length_cons]
    omega

theorem length_lowerStatement (key : Handle → String) (c : Statement) (s : Session) :
    (lowerStatement key c s).1.length =
      c.nodes.countP (·.kind.isOperator) + if c.copies then 1 else 0 := by
  cases c with
  | scopeOpen mark => rfl
  | scopeEnd mark => rfl
  | bare e =>
    rw [Statement.nodes, e.countP_isOperator]
    exact length_instrs_lowerTree key e s
  | assign mark target value =>
    have hnodes : (Statement.assign mark target value).nodes.countP (·.kind.isOperator) =
        value.operators := value.countP_isOperator
    have hlen := length_instrs_lowerTree key value s
    rw [hnodes]
    cases value with
    | number h => rfl
    | name h => rfl
    | binary op m left right =>
      -- the last instruction gets another destination
      rw [← hlen]
      simp only [lowerStatement, lowerTree, Lowered.into, Lowered.body, Lowered.last,
        Lowered.instrs, List.length_append, List.length_singleton]
      rfl

/-- There is an instruction for each operator, and one for each assignment of a single leaf. -/
theorem length_lowerStatements_eq (key : Handle → String) (p : List Statement) (s : Session) :
    (lowerStatements key p s).1.length =
      (spell p).countP (·.kind.isOperator) + p.countP Statement.copies := by
  induction p generalizing s with
  | nil => rfl
  | cons c p ih =>
    rw [lowerStatements, List.length_append, length_lowerStatement, ih, spell_cons,
      List.countP_append, List.countP_cons]
    omega

/-! ## The grammar -/

theorem lowerAll_ok_iff (key : Handle → String) (nodes : List Node) :
    (∃ code s, lowerAll key (.start nodes) = .ok code s) ↔ ∃ p, nodes = spell p := by
  constructor
  · rintro ⟨code, s, h⟩
    exact exists_statements_of_lowerAll h
  · rintro ⟨p, rfl⟩
    exact ⟨_, _, lowerAll_spell key p⟩

end

/-- A session reads exactly the streams that statements spell. Each call on a stream that is not at its
end moves the cursor behind a run of scope markers and one statement, or behind the markers at the end
of the stream, wherever the session has come to. The code of the calls, put together, is the code of
the whole stream, and it has an instruction for each operator and for each assignment of a single
leaf. -/
theorem session_parses_statements (norm : String → String) (resolve : Resolver)
    (nodes : List Node) :
    let key := Compile.keyBy norm resolve
    ((∃ code s, lowerAll key (.start nodes) = .ok code s) ↔ ∃ p, nodes = spell p) ∧
    (∀ s is t, s.done = false → lowerNext key s = .ok is t →
      ∃ ms c, Takes ms c s t ∧ s.cursor < t.cursor) ∧
    (∀ iss s, Calls key (.start nodes) iss s → s.Reading nodes ∧
      (s.done = true → lowerAll key (.start nodes) = .ok iss.flatten s)) ∧
    ∀ code s, lowerAll key (.start nodes) = .ok code s →
      (∃ iss, Calls key (.start nodes) iss s ∧ s.done = true ∧ iss.flatten = code) ∧
      ∀ p, nodes = spell p →
        code.length = nodes.countP (·.kind.isOperator) + p.countP Statement.copies := by
  intro key
  refine ⟨lowerAll_ok_iff key nodes, ?_, ?_, ?_⟩
  · intro s is t hs hnext
    obtain ⟨ms, c, htakes⟩ := exists_takes_of_lowerNext hnext
    have hpos := htakes.pos hs
    exact ⟨ms, c, htakes, by rw [htakes.cursor]; omega⟩
  · intro iss s hcalls
    refine ⟨hcalls.reading (reading_start nodes), fun hs => ?_⟩
    rw [hcalls.lowerAll_eq, lowerAll_of_done hs, inFront, List.append_nil]
  · intro code s h
    refine ⟨exists_calls_of_lowerAll h, ?_⟩
    rintro p rfl
    rw [lowerAll_spell] at h
    obtain ⟨rfl, -⟩ := EStateM.Result.ok.inj h
    exact length_lowerStatements_eq key p _

/-- An assignment of a leaf between two scope markers: the first call goes on to the statement, and there
is one instruction. -/
theorem session_parses_statements_scoped :
    let key := Compile.nameKey fun h => if h = 0 then "x" else "7"
    let nodes : List Node := [.scopeOpen, .assignment, .identifier 0, .number 1, .scopeEnd]
    (∃ is t ms c, lowerNext key (.start nodes) = .ok is t ∧ Takes ms c (.start nodes) t ∧
      0 < t.cursor ∧ t.Reading nodes) ∧
    ∃ code s, lowerAll key (.start nodes) = .ok code s ∧ code.length = 1 := by
  intro key nodes
  have hp : nodes = spell [.scopeOpen 0, .assign 0 0 (.number 1), .scopeEnd 0] := rfl
  obtain ⟨hiff, hcall, hreading, hcode⟩ :=
    session_parses_statements Text.normalize (fun h => if h = 0 then "x" else "7") nodes
  obtain ⟨code, s, hall⟩ := hiff.mpr ⟨_, hp⟩
  obtain ⟨⟨iss, hcalls, hdone, -⟩, hlen⟩ := hcode code s hall
  refine ⟨?_, code, s, hall, hlen _ hp⟩
  cases hcalls with
  | nil => cases hdone
  | cons hs hnext _ =>
    obtain ⟨ms, c, htakes, hlt⟩ := hcall _ _ _ hs hnext
    exact ⟨_, _, ms, c, hnext, htakes, hlt, (hreading _ _ (.cons hs hnext (.nil _))).1⟩

end StraightLine.Code
