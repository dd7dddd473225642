import StraightLine.Code.Session
import StraightLine.Source.Syntax

/-! Lowering by the tree. A session reads the nodes of its stream; here the same code is found by
recursion over statements and expressions. The streams that a session accepts are those that
sequences of statements spell, and on them both ways of lowering give the same code and the same
names. -/

namespace StraightLine.Source

theorem spell_cons (c : Statement) (p : List Statement) : spell (c :: p) = c.nodes ++ spell p :=
  List.flatMap_cons

theorem spell_append (p q : List Statement) : spell (p ++ q) = spell p ++ spell q :=
  List.flatMap_append

end StraightLine.Source

namespace StraightLine.Code

open StraightLine.Source

def Operator.ofArith : Arith → Operator
  | .add => add
  | .sub => sub
  | .mul => mul
  | .div => div

theorem Operator.exists_arith {k : Kind} {op : Operator} (h : ofKind? k = some op) :
    ∃ a : Arith, k = a.kind := by
  unfold ofKind? at h
  split at h
  · exact ⟨.add, rfl⟩
  · exact ⟨.sub, rfl⟩
  · exact ⟨.mul, rfl⟩
  · exact ⟨.div, rfl⟩
  · cases h

namespace Session

/-! ## Names -/

/-- Looking a key up in a list whose entries for one key were overwritten. -/
theorem find?_overwrite (names : List (String × NameState)) (k k' : String) (ns : NameState) :
    ((names.map fun e => if e.1 == k then (k, ns) else e).find? fun e => e.1 == k').map (·.2) =
      if k' = k then (names.find? fun e => e.1 == k).map fun _ => ns
      else (names.find? fun e => e.1 == k').map (·.2) := by
  induction names with
  | nil => simp
  | cons e names ih =>
    rw [List.map_cons, List.find?_cons, List.find?_cons, List.find?_cons]
    by_cases hk : k' = k
    · subst hk
      rw [if_pos rfl] at ih ⊢
      cases he : e.1 == k' with
      | true => simp
      | false => simpa only [he, Bool.false_eq_true, if_false] using ih
    · rw [if_neg hk] at ih ⊢
      cases he : e.1 == k with
      | true =>
        have hne : (k == k') = false := beq_false_of_ne (Ne.symm hk)
        simpa only [if_true, hne, beq_iff_eq.mp he] using ih
      | false =>
        simp only [Bool.false_eq_true, if_false]
        cases e.1 == k' with
        | true => rfl
        | false => exact ih

theorem find?_put (s : Session) (k k' : String) (ns : NameState) :
    (s.put k ns).find? k' = if k' = k then some ns else s.find? k' := by
  unfold put
  split
  · rename_i h
    have hsome : (s.names.find? fun e => e.1 == k).isSome := by rwa [find?, Option.isSome_map] at h
    obtain ⟨e, he⟩ := Option.isSome_iff_exists.mp hsome
    simp only [find?, find?_overwrite, he, Option.map_some]
  · rename_i h
    have hnone : s.names.find? (fun e => e.1 == k) = none := by
      rwa [find?, Option.isSome_map, Bool.not_eq_true, Option.isSome_eq_false_iff,
        Option.isNone_iff_eq_none] at h
    simp only [find?, List.find?_append, List.find?_singleton]
    by_cases hk : k' = k
    · subst hk
      simp [hnone]
    · have hne : (k == k') = false := beq_false_of_ne (Ne.symm hk)
      simp [hk, hne]

theorem find?_put_self (s : Session) (k : String) (ns : NameState) :
    (s.put k ns).find? k = some ns := by
  rw [find?_put, if_pos rfl]

theorem find?_put_cases {s : Session} {k k' : String} {ns ns' : NameState}
    (h : (s.put k ns).find? k' = some ns') :
    (k' = k ∧ ns' = ns) ∨ (k' ≠ k ∧ s.find? k' = some ns') := by
  rw [find?_put] at h
  split at h
  · exact .inl ⟨‹_›, (Option.some.inj h).symm⟩
  · exact .inr ⟨‹_›, h⟩

@[simp] theorem rest_put (s : Session) (k : String) (ns : NameState) :
    (s.put k ns).rest = s.rest := by
  unfold put
  split <;> rfl

@[simp] theorem temps_put (s : Session) (k : String) (ns : NameState) :
    (s.put k ns).temps = s.temps := by
  unfold put
  split <;> rfl

/-- The state of the name behind a handle, as a reader finds it. -/
def nameAt (key : Handle → String) (h : Handle) (s : Session) : NameState :=
  (s.find? (key h)).getD { handle := h }

def afterRead (key : Handle → String) (h : Handle) (s : Session) : Session :=
  s.put (key h) { s.nameAt key h with read := true }

/-- The state of the name behind a handle after a write. -/
def rewritten (key : Handle → String) (h : Handle) (s : Session) : NameState :=
  match s.find? (key h) with
  | none => { handle := h, version := 1 }
  | some ns => { ns with version := if ns.read then ns.version + 1 else ns.version, read := false }

def afterWrite (key : Handle → String) (h : Handle) (s : Session) : Session :=
  s.put (key h) (s.rewritten key h)

/-- Each name is recorded under the key of its handle. -/
def Keyed (key : Handle → String) (s : Session) : Prop :=
  ∀ k ns, s.find? k = some ns → key ns.handle = k

section

variable {key : Handle → String} {s : Session}

theorem Keyed.put (hs : s.Keyed key) {k : String} {ns : NameState} (h : key ns.handle = k) :
    (s.put k ns).Keyed key := by
  intro k' ns' hf
  rcases find?_put_cases hf with ⟨rfl, rfl⟩ | ⟨-, hf⟩
  · exact h
  · exact hs k' ns' hf

theorem Keyed.nameAt (hs : s.Keyed key) (h : Handle) : key (s.nameAt key h).handle = key h := by
  rw [Session.nameAt]
  cases hf : s.find? (key h) with
  | none => rfl
  | some ns => exact hs _ ns hf

theorem Keyed.rewritten (hs : s.Keyed key) (h : Handle) :
    key (s.rewritten key h).handle = key h := by
  rw [Session.rewritten]
  split
  · rfl
  · rename_i ns hf
    exact hs _ ns hf

theorem Keyed.afterRead (hs : s.Keyed key) (h : Handle) : (s.afterRead key h).Keyed key :=
  hs.put (hs.nameAt h)

theorem Keyed.afterWrite (hs : s.Keyed key) (h : Handle) : (s.afterWrite key h).Keyed key :=
  hs.put (hs.rewritten h)

end

def moved (s : Session) (rest : List Node) (cursor : Nat) : Session :=
  { s with rest := rest, cursor := cursor }

theorem put_moved (s : Session) (k : String) (ns : NameState) (rest : List Node) (c : Nat) :
    (s.moved rest c).put k ns = (s.put k ns).moved rest c := by
  have hfind : (s.moved rest c).find? k = s.find? k := rfl
  rw [put, put, hfind]
  split <;> rfl

theorem readName_moved (key : Handle → String) (h : Handle) (s : Session) (rest : List Node)
    (c : Nat) :
    readName key h (s.moved rest c) =
      .ok (s.nameAt key h).var ((s.afterRead key h).moved rest c) := by
  rw [afterRead, ← put_moved]
  rfl

theorem writeName_moved (key : Handle → String) (h : Handle) (s : Session) (rest : List Node)
    (c : Nat) :
    writeName key h (s.moved rest c) =
      .ok (s.rewritten key h).var ((s.afterWrite key h).moved rest c) := by
  rw [afterWrite, ← put_moved]
  rfl

end Session

/-! ## Lowering a tree -/

namespace Lowered

/-- The code in front of the instruction that has the value of the expression. -/
def body : Lowered → List Instr
  | leaf _ => []
  | code body _ => body

/-- The instruction that has the value of the expression, with another destination. -/
def last (dst : Var) : Lowered → Instr
  | leaf v => { dst := dst, left := v }
  | code _ last => { last with dst := dst }

def into (dst : Var) (l : Lowered) : List Instr := l.body ++ [l.last dst]

theorem dst_last (l : Lowered) (dst : Var) : (l.last dst).dst = dst := by
  cases l <;> rfl

theorem body_subset (l : Lowered) : l.body ⊆ l.instrs := by
  cases l with
  | leaf v => exact fun i hi => hi
  | code body last => exact fun i hi => List.mem_append_left _ hi

end Lowered

def lowerTree (key : Handle → String) : Expr → Session → Lowered × Session
  | .number h, s => (.leaf (.literal h), s)
  | .name h, s => (.leaf (.var (s.nameAt key h).var), s.afterRead key h)
  | .binary op _ left right, s =>
    let (l, s) := lowerTree key left s
    let (r, s) := lowerTree key right s
    (.code (l.instrs ++ r.instrs)
      { dst := .temp (Int64.ofNat (s.temps + 1)), left := l.operand,
        right := some (.ofArith op, r.operand) },
      { s with temps := s.temps + 1 })

/-- Gives the last temporary of an expression back, if there is one. -/
def Session.releaseFor (l : Lowered) (s : Session) : Session :=
  match l with
  | .leaf _ => s
  | .code .. => { s with temps := s.temps - 1 }

def lowerStatement (key : Handle → String) : Statement → Session → List Instr × Session
  | .scopeOpen _, s | .scopeEnd _, s => ([], s)
  | .assign _ target value, s =>
    let (l, s) := lowerTree key value s
    (l.into (s.rewritten key target).var, (s.afterWrite key target).releaseFor l)
  | .bare e, s =>
    let (l, s) := lowerTree key e s
    (l.instrs, s)

def lowerStatements (key : Handle → String) : List Statement → Session → List Instr × Session
  | [], s => ([], s)
  | st :: p, s =>
    let (is, s) := lowerStatement key st s
    let (rest, s) := lowerStatements key p s
    (is ++ rest, s)

theorem lowerStatements_append (key : Handle → String) (p q : List Statement) (s : Session) :
    lowerStatements key (p ++ q) s =
      ((lowerStatements key p s).1 ++ (lowerStatements key q (lowerStatements key p s).2).1,
        (lowerStatements key q (lowerStatements key p s).2).2) := by
  induction p generalizing s with
  | nil => simp [lowerStatements]
  | cons st p ih => simp [lowerStatements, ih]

/-- There is one instruction for each operator. -/
theorem length_instrs_lowerTree (key : Handle → String) (e : Expr) (s : Session) :
    (lowerTree key e s).1.instrs.length = e.operators := by
  induction e generalizing s with
  | number g => rfl
  | name g => rfl
  | binary op mark left right ihl ihr =>
    simp only [lowerTree]
    rw [Lowered.instrs, List.length_append, List.length_append, ihl, ihr]
    rfl

theorem find?_releaseFor (s : Session) (l : Lowered) (k : String) :
    (s.releaseFor l).find? k = s.find? k := by
  cases l <;> rfl

theorem Session.Keyed.lowerTree {key : Handle → String} {s : Session} (hs : s.Keyed key)
    (e : Expr) : (lowerTree key e s).2.Keyed key := by
  induction e generalizing s with
  | number h => exact hs
  | name h => exact hs.afterRead h
  | binary op mark left right ihl ihr => exact ihr (ihl hs)

theorem Session.Keyed.lowerStatement {key : Handle → String} {s : Session} (hs : s.Keyed key)
    (c : Statement) : (lowerStatement key c s).2.Keyed key := by
  cases c with
  | scopeOpen mark => exact hs
  | scopeEnd mark => exact hs
  | bare e => exact hs.lowerTree e
  | assign mark target value =>
    intro k ns hf
    rw [Code.lowerStatement, find?_releaseFor] at hf
    exact (hs.lowerTree value).afterWrite target k ns hf

/-! ## The stream of a tree -/

section

variable (key : Handle → String)

theorem nextNode_moved (s : Session) (n : Node) (rest : List Node) (c : Nat) :
    nextNode (s.moved (n :: rest) c) = .ok (some n) (s.moved rest (c + 1)) := rfl

theorem lowerExprWithin_operator (op : Arith) (mark : Handle) (fuel : Nat) (s : Session)
    (rest : List Node) (c : Nat) :
    lowerExprWithin key (fuel + 1) (s.moved ({ kind := op.kind, handle := mark } :: rest) c) =
      (do
        let l ← lowerExprWithin key fuel
        let r ← lowerExprWithin key fuel
        let t ← nextTemp
        return .code (l.instrs ++ r.instrs)
          { dst := t, left := l.operand, right := some (.ofArith op, r.operand) } : Lowering Lowered)
        (s.moved rest (c + 1)) := by
  cases op <;> rfl

/-- A session lowers the expression that its stream goes on with. -/
theorem lowerExprWithin_nodes (e : Expr) {fuel : Nat} (hf : e.nodes.length ≤ fuel) (s : Session)
    (rest : List Node) (c : Nat) :
    lowerExprWithin key fuel (s.moved (e.nodes ++ rest) c) =
      .ok (lowerTree key e s).1 ((lowerTree key e s).2.moved rest (c + e.nodes.length)) := by
  induction e generalizing fuel s rest c with
  | number h =>
    obtain _ | fuel := fuel
    · simp [Expr.nodes] at hf
    · rfl
  | name h =>
    obtain _ | fuel := fuel
    · simp [Expr.nodes] at hf
    · simp only [lowerExprWithin, Expr.nodes, List.cons_append, List.nil_append, bind,
        EStateM.bind, nextNode_moved, Node.identifier, Session.readName_moved]
      rfl
  | binary op mark left right ihl ihr =>
    obtain _ | fuel := fuel
    · simp [Expr.nodes] at hf
    · simp only [Expr.nodes, List.length_cons, List.length_append] at hf
      rw [Expr.nodes, List.cons_append, List.append_assoc, lowerExprWithin_operator]
      simp only [bind, EStateM.bind]
      rw [ihl (by omega)]
      simp only
      rw [ihr (by omega)]
      have hc : c + 1 + left.nodes.length + right.nodes.length =
          c + (left.nodes.length + right.nodes.length + 1) := by omega
      simp only [nextTemp, List.length_cons, List.length_append, hc]
      rfl

theorem lowerExpr_nodes (e : Expr) (s : Session) (rest : List Node) (c : Nat) :
    lowerExpr key (s.moved (e.nodes ++ rest) c) =
      .ok (lowerTree key e s).1 ((lowerTree key e s).2.moved rest (c + e.nodes.length)) := by
  refine lowerExprWithin_nodes key e ?_ s rest c
  rw [Session.moved, List.length_append]
  omega

theorem skipMarkers_marker {n : Node} (hn : n.kind.isScopeMarker = true) (s : Session)
    (rest : List Node) (c : Nat) :
    skipMarkers (s.moved (n :: rest) c) = skipMarkers (s.moved rest (c + 1)) := by
  have hle : (rest.dropWhile (·.kind.isScopeMarker)).length ≤ rest.length :=
    (List.dropWhile_sublist _).length_le
  have hc : c + (rest.length + 1 - (rest.dropWhile (·.kind.isScopeMarker)).length) =
      c + 1 + (rest.length - (rest.dropWhile (·.kind.isScopeMarker)).length) := by omega
  simp only [skipMarkers, Session.moved, List.dropWhile_cons, hn, if_true, List.length_cons, hc]

theorem skipMarkers_of_not_marker {n : Node} (hn : n.kind.isScopeMarker = false) (s : Session)
    (rest : List Node) (c : Nat) :
    skipMarkers (s.moved (n :: rest) c) = .ok () (s.moved (n :: rest) c) := by
  simp [skipMarkers, Session.moved, hn]

/-- Scope markers have no code. -/
theorem lowerNext_marker {n : Node} (hn : n.kind.isScopeMarker = true) (s : Session)
    (rest : List Node) (c : Nat) :
    lowerNext key (s.moved (n :: rest) c) = lowerNext key (s.moved rest (c + 1)) := by
  simp only [lowerNext, bind, EStateM.bind, skipMarkers_marker hn]

/-- Behind its first node an assignment is its target and its value. -/
theorem lowerAssignment_nodes (mark target : Handle) (value : Expr) (s : Session)
    (rest : List Node) (c : Nat) :
    lowerAssignment key (s.moved (.identifier target :: (value.nodes ++ rest)) c) =
      .ok (lowerStatement key (.assign mark target value) s).1
        ((lowerStatement key (.assign mark target value) s).2.moved rest
          (c + 1 + value.nodes.length)) := by
  simp only [lowerAssignment, bind, EStateM.bind, nextNode_moved, Node.identifier, lowerExpr_nodes,
    lowerStatement]
  cases (lowerTree key value s).1 with
  | leaf v =>
    simp only [EStateM.bind, Session.writeName_moved]
    rfl
  | code body last =>
    simp only [EStateM.bind, Session.writeName_moved]
    rfl

theorem lowerNext_of_not_marker {n : Node} (hn : n.kind.isScopeMarker = false) (s : Session)
    (rest : List Node) (c : Nat) :
    lowerNext key (s.moved (n :: rest) c) =
      if n.kind = .assignment then lowerAssignment key (s.moved rest (c + 1))
      else if n.kind.isOperator || n.kind.isLeaf then
        (do return (← lowerExpr key).instrs : Lowering (List Instr)) (s.moved (n :: rest) c)
      else .error (.unexpectedStart n.kind c) (s.moved (n :: rest) c) := by
  simp only [lowerNext, bind, EStateM.bind, skipMarkers_of_not_marker hn]
  change (if n.kind = .assignment then _ else _ : Lowering (List Instr)) (s.moved (n :: rest) c) = _
  split
  · rfl
  · split <;> rfl

theorem lowerNext_assign (mark target : Handle) (value : Expr) (s : Session) (rest : List Node)
    (c : Nat) :
    lowerNext key (s.moved ((Statement.assign mark target value).nodes ++ rest) c) =
      .ok (lowerStatement key (.assign mark target value) s).1
        ((lowerStatement key (.assign mark target value) s).2.moved rest
          (c + (Statement.assign mark target value).nodes.length)) := by
  have hc : c + 1 + 1 + value.nodes.length = c + (value.nodes.length + 1 + 1) := by omega
  rw [Statement.nodes, List.cons_append, List.cons_append, lowerNext_of_not_marker key rfl,
    if_pos rfl, lowerAssignment_nodes key mark, hc]
  rfl

theorem lowerNext_bare (e : Expr) (s : Session) (rest : List Node) (c : Nat) :
    lowerNext key (s.moved (e.nodes ++ rest) c) =
      .ok (lowerStatement key (.bare e) s).1
        ((lowerStatement key (.bare e) s).2.moved rest (c + e.nodes.length)) := by
  obtain ⟨n, ns, hn, hm, ha, hs⟩ : ∃ n ns, e.nodes = n :: ns ∧ n.kind.isScopeMarker = false ∧
      n.kind ≠ .assignment ∧ (n.kind.isOperator || n.kind.isLeaf) = true := by
    cases e with
    | number h => exact ⟨_, _, rfl, rfl, nofun, rfl⟩
    | name h => exact ⟨_, _, rfl, rfl, nofun, rfl⟩
    | binary op mark left right => exact ⟨_, _, rfl, by cases op <;> exact ⟨rfl, nofun, rfl⟩⟩
  have he := lowerExpr_nodes key e s rest c
  rw [hn, List.cons_append] at he ⊢
  rw [lowerNext_of_not_marker key hm, if_neg ha, if_pos hs]
  simp only [bind, EStateM.bind, he]
  rfl

theorem lowerAllWithin_done (fuel : Nat) (s : Session) (c : Nat) :
    lowerAllWithin key fuel (s.moved [] c) = .ok [] (s.moved [] c) := by
  cases fuel <;> rfl

theorem lowerAllWithin_cons (fuel : Nat) (s : Session) (n : Node) (rest : List Node) (c : Nat) :
    lowerAllWithin key (fuel + 1) (s.moved (n :: rest) c) =
      (do
        let is ← lowerNext key
        let rest ← lowerAllWithin key fuel
        return is ++ rest : Lowering (List Instr)) (s.moved (n :: rest) c) := rfl

/-- A scope marker in front of the stream makes no difference. -/
theorem lowerAllWithin_marker {n : Node} (hn : n.kind.isScopeMarker = true) (fuel : Nat) (s : Session)
    (rest : List Node) (c : Nat) :
    lowerAllWithin key (fuel + 1) (s.moved (n :: rest) c) =
      lowerAllWithin key (fuel + 1) (s.moved rest (c + 1)) := by
  rw [lowerAllWithin_cons]
  cases rest with
  | nil =>
    simp only [bind, EStateM.bind, lowerNext_marker key hn]
    rw [show lowerNext key (s.moved [] (c + 1)) = .ok [] (s.moved [] (c + 1)) from rfl]
    simp only [lowerAllWithin_done]
    rfl
  | cons n' rest =>
    rw [lowerAllWithin_cons]
    simp only [bind, EStateM.bind, lowerNext_marker key hn]

/-- A session lowers the statements that its stream is spelled by. -/
theorem lowerAllWithin_spell (p : List Statement) {fuel : Nat} (hf : (spell p).length ≤ fuel)
    (s : Session) (c : Nat) :
    lowerAllWithin key fuel (s.moved (spell p) c) =
      .ok (lowerStatements key p s).1
        ((lowerStatements key p s).2.moved [] (c + (spell p).length)) := by
  induction p generalizing fuel s c with
  | nil => exact lowerAllWithin_done key fuel s c
  | cons st p ih =>
    have hpos : 0 < st.nodes.length := List.length_pos_iff.mpr st.nodes_ne_nil
    have hc : c + (st.nodes ++ spell p).length = c + st.nodes.length + (spell p).length := by
      rw [List.length_append, Nat.add_assoc]
    rw [spell_cons, List.length_append] at hf
    obtain _ | fuel := fuel
    · omega
    rw [spell_cons, hc]
    -- a statement that is no scope marker is what `lowerNext` lowers
    have hnext : lowerNext key (s.moved (st.nodes ++ spell p) c) =
          .ok (lowerStatement key st s).1
            ((lowerStatement key st s).2.moved (spell p) (c + st.nodes.length)) →
        lowerAllWithin key (fuel + 1) (s.moved (st.nodes ++ spell p) c) =
          .ok (lowerStatements key (st :: p) s).1
            ((lowerStatements key (st :: p) s).2.moved []
              (c + st.nodes.length + (spell p).length)) := by
      intro h
      obtain ⟨n, ns, hn⟩ := List.exists_cons_of_ne_nil st.nodes_ne_nil
      rw [hn, List.cons_append, lowerAllWithin_cons, ← List.cons_append, ← hn]
      simp only [bind, EStateM.bind, h, ih (show (spell p).length ≤ fuel by omega)]
      rfl
    cases st with
    | scopeOpen mark =>
      exact (lowerAllWithin_marker key rfl fuel s _ c).trans (ih (by omega) s (c + 1))
    | scopeEnd mark =>
      exact (lowerAllWithin_marker key rfl fuel s _ c).trans (ih (by omega) s (c + 1))
    | assign mark target value => exact hnext (lowerNext_assign key mark target value s _ c)
    | bare e => exact hnext (lowerNext_bare key e s _ c)

theorem lowerAll_spell (p : List Statement) :
    lowerAll key (Session.start (spell p)) =
      .ok (lowerStatements key p (Session.start [])).1
        ((lowerStatements key p (Session.start [])).2.moved [] (spell p).length) := by
  have h := lowerAllWithin_spell key p (Nat.le_refl _) (Session.start []) 0
  rw [Nat.zero_add] at h
  exact h

/-! ## The streams that are accepted -/

theorem bind_eq_ok {α β : Type} {x : Lowering α} {f : α → Lowering β} {s u : Session} {b : β}
    (h : (x >>= f) s = .ok b u) : ∃ a t, x s = .ok a t ∧ f a t = .ok b u := by
  simp only [bind, EStateM.bind] at h
  split at h
  · exact ⟨_, _, ‹_›, h⟩
  · cases h

variable {key}

theorem exists_expr_of_lowerExprWithin {fuel : Nat} {s t : Session} {l : Lowered}
    (h : lowerExprWithin key fuel s = .ok l t) : ∃ e : Expr, s.rest = e.nodes ++ t.rest := by
  induction fuel generalizing s t l with
  | zero => cases h
  | succ fuel ih =>
    rw [lowerExprWithin] at h
    obtain ⟨found, s₁, hnode, h⟩ := bind_eq_ok h
    unfold nextNode at hnode
    split at hnode
    · cases hnode
      cases h
    · rename_i n rest hs
      cases hnode
      obtain ⟨kind, handle⟩ := n
      simp only at h
      split at h
      · cases h
        exact ⟨.number handle, hs⟩
      · obtain ⟨v, s₂, hread, h⟩ := bind_eq_ok h
        cases h
        cases hread
        exact ⟨.name handle, by rw [Session.rest_put, hs]; rfl⟩
      · cases hop : Operator.ofKind? kind with
        | none =>
          rw [hop] at h
          cases h
        | some op =>
          rw [hop] at h
          obtain ⟨a, rfl⟩ := Operator.exists_arith hop
          obtain ⟨l, s₂, hl, h⟩ := bind_eq_ok h
          obtain ⟨r, s₃, hr, h⟩ := bind_eq_ok h
          obtain ⟨left, hleft⟩ := ih hl
          obtain ⟨right, hright⟩ := ih hr
          cases h
          refine ⟨.binary a handle left right, ?_⟩
          rw [hs, show rest = _ from hleft, hright, Expr.nodes, List.cons_append, List.append_assoc]

theorem exists_expr_of_lowerExpr {s t : Session} {l : Lowered} (h : lowerExpr key s = .ok l t) :
    ∃ e : Expr, s.rest = e.nodes ++ t.rest :=
  exists_expr_of_lowerExprWithin h

theorem exists_assign_of_lowerAssignment {s t : Session} {is : List Instr}
    (h : lowerAssignment key s = .ok is t) :
    ∃ target value, s.rest = .identifier target :: (Expr.nodes value ++ t.rest) := by
  rw [lowerAssignment] at h
  obtain ⟨found, s₁, hnode, h⟩ := bind_eq_ok h
  split at h
  · rename_i target
    obtain ⟨l, s₂, hl, h⟩ := bind_eq_ok h
    obtain ⟨value, hvalue⟩ := exists_expr_of_lowerExpr hl
    have hrest : t.rest = s₂.rest := by
      split at h
      · obtain ⟨dst, s₃, hw, h⟩ := bind_eq_ok h
        cases h
        cases hw
        exact Session.rest_put _ _ _
      · obtain ⟨dst, s₃, hw, h⟩ := bind_eq_ok h
        cases h
        cases hw
        exact Session.rest_put _ _ _
    unfold nextNode at hnode
    split at hnode
    · cases hnode
    · rename_i n rest hs
      cases hnode
      exact ⟨target, value, by rw [hs, show rest = _ from hvalue, hrest]; rfl⟩
  · cases h

/-- What a session lowers in one step is scope markers and a statement behind them. -/
theorem exists_statements_of_lowerNext {s t : Session} {is : List Instr}
    (h : lowerNext key s = .ok is t) :
    ∃ p, s.rest = spell p ++ t.rest ∧ (p = [] → s.rest = []) := by
  generalize hrest : s.rest = nodes
  induction nodes generalizing s with
  | nil =>
    rw [show s = s.moved [] s.cursor by rw [Session.moved, ← hrest]] at h
    cases h
    exact ⟨[], rfl, fun _ => rfl⟩
  | cons n nodes ih =>
    rw [show s = s.moved (n :: nodes) s.cursor by rw [Session.moved, ← hrest]] at h
    cases hn : n.kind.isScopeMarker with
    | true =>
      rw [lowerNext_marker key hn] at h
      obtain ⟨p, hp, -⟩ := ih h rfl
      obtain ⟨kind, handle⟩ := n
      cases kind with
      | scopeOpen => exact ⟨.scopeOpen handle :: p, by rw [hp]; rfl, fun h => by cases h⟩
      | scopeEnd => exact ⟨.scopeEnd handle :: p, by rw [hp]; rfl, fun h => by cases h⟩
      | _ => cases hn
    | false =>
      rw [lowerNext_of_not_marker key hn] at h
      split at h
      · rename_i hk
        obtain ⟨target, value, hs⟩ := exists_assign_of_lowerAssignment h
        obtain ⟨kind, handle⟩ := n
        cases hk
        refine ⟨[.assign handle target value], ?_, fun h => by cases h⟩
        rw [show nodes = _ from hs]
        simp [spell, Statement.nodes]
      · split at h
        · obtain ⟨l, s₁, hl, h⟩ := bind_eq_ok h
          cases h
          obtain ⟨e, he⟩ := exists_expr_of_lowerExpr hl
          refine ⟨[.bare e], ?_, fun h => by cases h⟩
          rw [show n :: nodes = _ from he]
          simp [spell, Statement.nodes]
        · cases h

theorem exists_statements_of_lowerAllWithin {fuel : Nat} {s t : Session} {code : List Instr}
    (hf : s.rest.length ≤ fuel) (h : lowerAllWithin key fuel s = .ok code t) :
    ∃ p, s.rest = spell p := by
  induction fuel generalizing s t code with
  | zero => exact ⟨[], List.eq_nil_of_length_eq_zero (Nat.le_zero.mp hf)⟩
  | succ fuel ih =>
    cases hs : s.rest with
    | nil => exact ⟨[], rfl⟩
    | cons n nodes =>
      rw [show s = s.moved (n :: nodes) s.cursor by rw [Session.moved, ← hs],
        lowerAllWithin_cons] at h
      obtain ⟨is, s₁, hnext, h⟩ := bind_eq_ok h
      obtain ⟨rest, s₂, hall, -⟩ := bind_eq_ok h
      obtain ⟨p, hp, hne⟩ := exists_statements_of_lowerNext hnext
      have hp' : n :: nodes = spell p ++ s₁.rest := hp
      obtain _ | ⟨st, p⟩ := p
      · cases hne rfl
      · have hpos := List.length_pos_iff.mpr st.nodes_ne_nil
        have hlen := congrArg List.length (hs.trans hp')
        rw [spell_cons, List.length_append, List.length_append] at hlen
        obtain ⟨q, hq⟩ := ih (by omega) hall
        exact ⟨st :: p ++ q, by rw [hp', hq, spell_append]⟩

/-- A session accepts only streams that are spelled by statements. -/
theorem exists_statements_of_lowerAll {nodes : List Node} {t : Session} {code : List Instr}
    (h : lowerAll key (Session.start nodes) = .ok code t) : ∃ p, nodes = spell p :=
  exists_statements_of_lowerAllWithin (Nat.le_refl _) h

end

end StraightLine.Code
