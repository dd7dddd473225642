import Mathlib.Data.Fintype.Sum
import StraightLine.Proofs.CodeDiscipline
import StraightLine.Proofs.CompileOutcome
import StraightLine.Proofs.Renaming

/-! Compiled code depends on the shape of a program. Two streams have one shape if their nodes have the
same kinds, their identifiers spell the same names at the same places, and their numbers read alike.
They are lowered in step: the names of one session go over to those of the other, and so the code of
one is the code of the other with its variables renamed. -/

namespace StraightLine.Source

/-! ## Nodes, trees and programs that correspond -/

/-- Two nodes have the same kind; names and numbers are related. -/
structure Node.Twin (names numbers : Handle → Handle → Prop) (n m : Node) : Prop where
  kind : n.kind = m.kind
  name : n.kind = .identifier → names n.handle m.handle
  number : n.kind = .number → numbers n.handle m.handle

theorem Node.Twin.symm {names numbers : Handle → Handle → Prop} {n m : Node}
    (h : Node.Twin names numbers n m) : Node.Twin (flip names) (flip numbers) m n :=
  ⟨h.kind.symm, fun hk => h.name (h.kind.trans hk), fun hk => h.number (h.kind.trans hk)⟩

/-- Two expressions differ in their names, which are related, in their numbers, which are related, and
in the handles of their operators. -/
inductive Expr.Twin (names numbers : Handle → Handle → Prop) : Expr → Expr → Prop
  | number {g h : Handle} (hgh : numbers g h) : Twin names numbers (.number g) (.number h)
  | name {g h : Handle} (hgh : names g h) : Twin names numbers (.name g) (.name h)
  | binary (op : Arith) (mark mark' : Handle) {l l' r r' : Expr} (hl : Twin names numbers l l')
    (hr : Twin names numbers r r') : Twin names numbers (.binary op mark l r) (.binary op mark' l' r')

/-- Two statements differ as expressions do. -/
inductive Statement.Twin (names numbers : Handle → Handle → Prop) : Statement → Statement → Prop
  | scopeOpen (mark mark' : Handle) : Twin names numbers (.scopeOpen mark) (.scopeOpen mark')
  | scopeEnd (mark mark' : Handle) : Twin names numbers (.scopeEnd mark) (.scopeEnd mark')
  | assign (mark mark' : Handle) {g h : Handle} {e e' : Expr} (hgh : names g h)
    (he : Expr.Twin names numbers e e') :
    Twin names numbers (.assign mark g e) (.assign mark' h e')
  | bare {e e' : Expr} (he : Expr.Twin names numbers e e') : Twin names numbers (.bare e) (.bare e')

section

variable {names numbers : Handle → Handle → Prop} {ns ms : List Node}

/-- Declarations go by kinds. -/
theorem stripFrom_twin (h : List.Forall₂ (Node.Twin names numbers) ns ms) (due : Nat) :
    List.Forall₂ (Node.Twin names numbers) (stripFrom due ns) (stripFrom due ms) := by
  induction h generalizing due with
  | nil => exact .nil
  | @cons n m ns ms hnm _ ih =>
    unfold stripFrom
    rw [← hnm.kind]
    split
    · exact ih _
    · split
      · exact ih _
      · exact .cons hnm (ih 0)

theorem exists_append_of_forall₂ {α β : Type} {R : α → β → Prop} {xs ys : List α} {zs : List β}
    (h : List.Forall₂ R (xs ++ ys) zs) :
    ∃ us vs, zs = us ++ vs ∧ List.Forall₂ R xs us ∧ List.Forall₂ R ys vs := by
  refine ⟨zs.take xs.length, zs.drop xs.length, (List.take_append_drop _ zs).symm, ?_, ?_⟩
  · exact (List.forall₂_take_append zs xs ys h.flip).flip
  · exact (List.forall₂_drop_append zs xs ys h.flip).flip

theorem exists_expr_of_twin {e : Expr} (h : List.Forall₂ (Node.Twin names numbers) e.nodes ms) :
    ∃ e', ms = e'.nodes ∧ Expr.Twin names numbers e e' := by
  induction e generalizing ms with
  | number g =>
    obtain ⟨⟨kind, handle⟩, _, hgm, hrest, rfl⟩ := List.forall₂_cons_left_iff.mp h
    obtain rfl := List.forall₂_nil_left_iff.mp hrest
    obtain rfl : Kind.number = kind := hgm.kind
    exact ⟨.number handle, rfl, .number (hgm.number rfl)⟩
  | name g =>
    obtain ⟨⟨kind, handle⟩, _, hgm, hrest, rfl⟩ := List.forall₂_cons_left_iff.mp h
    obtain rfl := List.forall₂_nil_left_iff.mp hrest
    obtain rfl : Kind.identifier = kind := hgm.kind
    exact ⟨.name handle, rfl, .name (hgm.name rfl)⟩
  | binary op mark l r ihl ihr =>
    obtain ⟨⟨kind, handle⟩, _, hm, hnodes, rfl⟩ := List.forall₂_cons_left_iff.mp h
    obtain rfl : op.kind = kind := hm.kind
    obtain ⟨_, _, rfl, hl, hr⟩ := exists_append_of_forall₂ hnodes
    obtain ⟨l', rfl, hleft⟩ := ihl hl
    obtain ⟨r', rfl, hright⟩ := ihr hr
    exact ⟨.binary op handle l' r', rfl, .binary op mark handle hleft hright⟩

theorem exists_statement_of_twin {c : Statement}
    (h : List.Forall₂ (Node.Twin names numbers) c.nodes ms) :
    ∃ c', ms = c'.nodes ∧ Statement.Twin names numbers c c' := by
  cases c with
  | scopeOpen mark =>
    obtain ⟨⟨kind, handle⟩, _, hm, hrest, rfl⟩ := List.forall₂_cons_left_iff.mp h
    obtain rfl := List.forall₂_nil_left_iff.mp hrest
    obtain rfl : Kind.scopeOpen = kind := hm.kind
    exact ⟨.scopeOpen handle, rfl, .scopeOpen mark handle⟩
  | scopeEnd mark =>
    obtain ⟨⟨kind, handle⟩, _, hm, hrest, rfl⟩ := List.forall₂_cons_left_iff.mp h
    obtain rfl := List.forall₂_nil_left_iff.mp hrest
    obtain rfl : Kind.scopeEnd = kind := hm.kind
    exact ⟨.scopeEnd handle, rfl, .scopeEnd mark handle⟩
  | assign mark target value =>
    obtain ⟨⟨kind, handle⟩, _, hm, hnodes, rfl⟩ := List.forall₂_cons_left_iff.mp h
    obtain ⟨⟨kind', target'⟩, _, ht, hnodes', rfl⟩ := List.forall₂_cons_left_iff.mp hnodes
    obtain rfl : Kind.assignment = kind := hm.kind
    obtain rfl : Kind.identifier = kind' := ht.kind
    obtain ⟨value', rfl, hvalue⟩ := exists_expr_of_twin hnodes'
    exact ⟨.assign handle target' value', rfl, .assign mark handle (ht.name rfl) hvalue⟩
  | bare e =>
    obtain ⟨e', rfl, he⟩ := exists_expr_of_twin h
    exact ⟨.bare e', rfl, .bare he⟩

/-- A stream like one that statements spell is spelled by statements like these. -/
theorem exists_spell_of_twin {p : List Statement}
    (h : List.Forall₂ (Node.Twin names numbers) (spell p) ms) :
    ∃ p', ms = spell p' ∧ List.Forall₂ (Statement.Twin names numbers) p p' := by
  induction p generalizing ms with
  | nil =>
    obtain rfl := List.forall₂_nil_left_iff.mp h
    exact ⟨[], rfl, .nil⟩
  | cons c p ih =>
    rw [spell_cons] at h
    obtain ⟨_, _, rfl, hnodes, hrest⟩ := exists_append_of_forall₂ h
    obtain ⟨c', rfl, hc⟩ := exists_statement_of_twin hnodes
    obtain ⟨p', rfl, hp⟩ := ih hrest
    exact ⟨c' :: p', (spell_cons c' p').symm, .cons hc hp⟩

theorem Expr.Twin.numbers_twin {e e' : Expr} (h : Expr.Twin names numbers e e') :
    List.Forall₂ numbers e.numbers e'.numbers := by
  induction h with
  | number hgh => exact .cons hgh .nil
  | name hgh => exact .nil
  | binary op mark mark' _ _ ihl ihr => exact List.rel_append ihl ihr

theorem Statement.Twin.literals_twin {c c' : Statement} (h : Statement.Twin names numbers c c') :
    List.Forall₂ numbers c.literals c'.literals := by
  cases h with
  | scopeOpen mark mark' => exact .nil
  | scopeEnd mark mark' => exact .nil
  | assign mark mark' hgh he => exact he.numbers_twin
  | bare he =>
    cases he with
    | number hgh => exact .nil
    | name hgh => exact .nil
    | binary op mark mark' hl hr => exact List.rel_append hl.numbers_twin hr.numbers_twin

theorem forall_mem_iff_of_forall₂ {α β : Type} {R : α → β → Prop} {P : α → Prop} {Q : β → Prop}
    (hPQ : ∀ a b, R a b → (P a ↔ Q b)) {xs : List α} {ys : List β} (h : List.Forall₂ R xs ys) :
    (∀ a ∈ xs, P a) ↔ ∀ b ∈ ys, Q b := by
  induction h with
  | nil => exact ⟨nofun, nofun⟩
  | cons hab _ ih => rw [List.forall_mem_cons, List.forall_mem_cons, hPQ _ _ hab, ih]

theorem isNumber_iff (resolve : Resolver) (h : Handle) :
    IsNumber resolve h ↔ (Text.Decimal.read (resolve h)).toOption.isSome = true := by
  rw [IsNumber]
  cases Text.Decimal.read (resolve h) with
  | ok n => exact ⟨fun _ => rfl, fun _ => ⟨n, rfl⟩⟩
  | error e => exact ⟨nofun, nofun⟩

/-- Numbers that read alike can all be read or cannot. -/
theorem literalsRead_twin {resolve resolve' : Resolver}
    (hread : Program.ReadAlike resolve resolve' numbers) {p p' : List Statement}
    (h : List.Forall₂ (Statement.Twin names numbers) p p') :
    LiteralsRead resolve p ↔ LiteralsRead resolve' p' := by
  refine forall_mem_iff_of_forall₂ (fun c c' hc => ?_) h
  refine forall_mem_iff_of_forall₂ (fun g g' hg => ?_) hc.literals_twin
  rw [isNumber_iff, isNumber_iff, hread g g' hg]

end

end StraightLine.Source

namespace StraightLine.Code

open StraightLine.Source StraightLine.Range

/-! ## Names that go over -/

/-- A temporary stays; a version of a name is that of another handle. -/
def Var.rename (σ : Handle → Handle) (v : Var) : Var :=
  if v.kind = 2 then { v with handle := σ v.handle } else v

theorem Var.rename_injective {σ : Handle → Handle} (hσ : Function.Injective σ) :
    Function.Injective (Var.rename σ) := by
  intro u v h
  have hkind : ∀ v : Var, (v.rename σ).kind = v.kind := by
    intro v
    rw [rename]
    split <;> rfl
  obtain ⟨kind, g, n⟩ := u
  obtain ⟨kind', g', n'⟩ := v
  obtain rfl : kind = kind' := by simpa only [hkind] using congrArg Var.kind h
  rw [rename, rename] at h
  split at h
  · simp only [Var.mk.injEq, true_and] at h ⊢
    exact ⟨hσ h.1, h.2⟩
  · exact h

def NameState.rename (σ : Handle → Handle) (ns : NameState) : NameState :=
  { ns with handle := σ ns.handle }

theorem NameState.var_rename (σ : Handle → Handle) (ns : NameState) :
    (ns.rename σ).var = ns.var.rename σ := rfl

section

variable {key key' : Handle → String} {names numbers : Handle → Handle → Prop} {σ : Handle → Handle}
  {all all' met met' : List Handle} {s t : Session} {g h : Handle}

/-- Related names are the same name in one program if and only if they are in the other, and `σ` leads
from the first spelling of a name to that of its relative. -/
structure CarriesNames (key key' : Handle → String) (names : Handle → Handle → Prop)
    (σ : Handle → Handle) (all all' : List Handle) : Prop where
  key_iff : ∀ {g h g' h'}, names g h → names g' h' → (key g = key g' ↔ key' h = key' h')
  first : ∀ {g h}, names g h → g ∈ all → h ∈ all' →
    σ (firstSpelling key all g) = firstSpelling key' all' h

/-- Two sessions have come equally far: they know related names by related handles, in the same version
and equally read. -/
structure Session.Aligned (key key' : Handle → String) (names : Handle → Handle → Prop)
    (σ : Handle → Handle) (s t : Session) : Prop where
  temps : t.temps = s.temps
  find : ∀ {g h}, names g h → t.find? (key' h) = (s.find? (key g)).map (NameState.rename σ)

theorem firstSpelling_of_extended (hp : met <+: all) (hg : g ∈ met) :
    firstSpelling key all g = firstSpelling key met g := by
  obtain ⟨rest, rfl⟩ := hp
  exact firstSpelling_append hg

variable (hnames : CarriesNames key key' names σ all all')

include hnames

/-- Two sessions have both met a name, or its relative, or neither has. -/
theorem find?_aligned (hs : s.Met key met) (ht : t.Met key' met')
    (hst : s.Aligned key key' names σ t) (hgh : names g h) (hall : met ++ [g] <+: all)
    (hall' : met' ++ [h] <+: all') :
    (s.find? (key g) = none ∧ t.find? (key' h) = none ∧ σ g = h) ∨
      ∃ ns, s.find? (key g) = some ns ∧ t.find? (key' h) = some (ns.rename σ) := by
  have hfind := hst.find hgh
  cases hns : s.find? (key g) with
  | some ns => exact .inr ⟨ns, rfl, by rw [hfind, hns]; rfl⟩
  | none =>
    rw [hns] at hfind
    -- both names are new, so they are first spellings
    have hg : g ∈ met ++ [g] := List.mem_append_right _ (List.mem_singleton_self g)
    have hh : h ∈ met' ++ [h] := List.mem_append_right _ (List.mem_singleton_self h)
    have hfirst : firstSpelling key all g = g := by
      rw [firstSpelling_of_extended hall hg, ← hs.handle_nameAt, Session.nameAt, hns]
      rfl
    have hfirst' : firstSpelling key' all' h = h := by
      rw [firstSpelling_of_extended hall' hh, ← ht.handle_nameAt, Session.nameAt, hfind]
      rfl
    have hσ := hnames.first hgh (hall.subset hg) (hall'.subset hh)
    rw [hfirst, hfirst'] at hσ
    exact .inl ⟨rfl, hfind, hσ⟩

theorem nameAt_aligned (hs : s.Met key met) (ht : t.Met key' met')
    (hst : s.Aligned key key' names σ t) (hgh : names g h) (hall : met ++ [g] <+: all)
    (hall' : met' ++ [h] <+: all') : t.nameAt key' h = (s.nameAt key g).rename σ := by
  obtain ⟨hg, hh, rfl⟩ | ⟨ns, hg, hh⟩ := find?_aligned hnames hs ht hst hgh hall hall'
  · rw [Session.nameAt, Session.nameAt, hg, hh]
    rfl
  · rw [Session.nameAt, Session.nameAt, hg, hh]
    rfl

theorem rewritten_aligned (hs : s.Met key met) (ht : t.Met key' met')
    (hst : s.Aligned key key' names σ t) (hgh : names g h) (hall : met ++ [g] <+: all)
    (hall' : met' ++ [h] <+: all') : t.rewritten key' h = (s.rewritten key g).rename σ := by
  obtain ⟨hg, hh, rfl⟩ | ⟨ns, hg, hh⟩ := find?_aligned hnames hs ht hst hgh hall hall'
  · rw [Session.rewritten, Session.rewritten, hg, hh]
    rfl
  · rw [Session.rewritten, Session.rewritten, hg, hh]
    rfl

/-- Related states are put under related names. -/
theorem put_aligned (hst : s.Aligned key key' names σ t) (hgh : names g h) (ns : NameState) :
    (s.put (key g) ns).Aligned key key' names σ (t.put (key' h) (ns.rename σ)) := by
  refine ⟨by rw [Session.temps_put, Session.temps_put, hst.temps], fun {g' h'} hgh' => ?_⟩
  have hkey := hnames.key_iff hgh' hgh
  rw [Session.find?_put, Session.find?_put, hst.find hgh']
  by_cases hg : key g' = key g
  · rw [if_pos hg, if_pos (hkey.mp hg)]
    rfl
  · rw [if_neg hg, if_neg (mt hkey.mpr hg)]

end

/-! ## Lowering in step -/

/-- Two lowered expressions are the same, with variables renamed and literals replaced. -/
inductive Lowered.Renamed (ρ : Var → Var) (alike : Handle → Handle → Prop) : Lowered → Lowered → Prop
  | leaf {v w : Operand} (hvw : Operand.Renamed ρ alike v w) : Renamed ρ alike (.leaf v) (.leaf w)
  | code {is js : List Instr} {i j : Instr} (hbody : List.Forall₂ (Instr.Renamed ρ alike) is js)
    (hlast : Instr.Renamed ρ alike i j) : Renamed ρ alike (.code is i) (.code js j)

namespace Lowered.Renamed

variable {ρ : Var → Var} {alike : Handle → Handle → Prop} {l l' : Lowered}

theorem instrs (h : Lowered.Renamed ρ alike l l') :
    List.Forall₂ (Instr.Renamed ρ alike) l.instrs l'.instrs := by
  cases h with
  | leaf hvw => exact .nil
  | code hbody hlast => exact List.rel_append hbody (.cons hlast .nil)

theorem operand (h : Lowered.Renamed ρ alike l l') :
    Operand.Renamed ρ alike l.operand l'.operand := by
  cases h with
  | leaf hvw => exact hvw
  | @code is js i j hbody hlast =>
    rw [Lowered.operand, Lowered.operand, hlast.dst]
    exact .var i.dst

theorem into (h : Lowered.Renamed ρ alike l l') (dst : Var) :
    List.Forall₂ (Instr.Renamed ρ alike) (l.into dst) (l'.into (ρ dst)) := by
  cases h with
  | leaf hvw => exact .cons ⟨rfl, hvw, .none⟩ .nil
  | code hbody hlast =>
    exact List.rel_append hbody (.cons ⟨rfl, hlast.left, hlast.right⟩ .nil)

end Lowered.Renamed

section

variable {key key' : Handle → String} {names numbers : Handle → Handle → Prop} {σ : Handle → Handle}
  {all all' met met' : List Handle} {s t : Session}

theorem releaseFor_aligned {l l' : Lowered} (hst : s.Aligned key key' names σ t)
    (hl : Lowered.Renamed (Var.rename σ) numbers l l') :
    (s.releaseFor l).Aligned key key' names σ (t.releaseFor l') := by
  cases hl with
  | leaf hvw => exact hst
  | code hbody hlast => exact ⟨congrArg (· - 1) hst.temps, hst.find⟩

theorem lowerTree_twin (hnames : CarriesNames key key' names σ all all') {e e' : Expr}
    (he : Expr.Twin names numbers e e') (hs : s.Met key met) (ht : t.Met key' met')
    (hst : s.Aligned key key' names σ t) (hall : met ++ e.names <+: all)
    (hall' : met' ++ e'.names <+: all') :
    Lowered.Renamed (Var.rename σ) numbers (lowerTree key e s).1 (lowerTree key' e' t).1 ∧
      (lowerTree key e s).2.Aligned key key' names σ (lowerTree key' e' t).2 := by
  induction he generalizing s t met met' with
  | number hgh => exact ⟨.leaf (.literal hgh), hst⟩
  | name hgh =>
    have hname := nameAt_aligned hnames hs ht hst hgh hall hall'
    refine ⟨?_, ?_⟩
    · rw [lowerTree, lowerTree, hname, NameState.var_rename]
      exact .leaf (.var _)
    · rw [lowerTree, lowerTree, Session.afterRead, Session.afterRead, hname]
      exact put_aligned hnames hst hgh _
  | @binary op mark mark' l l' r r' hl hr ihl ihr =>
    rw [Expr.names, ← List.append_assoc] at hall hall'
    obtain ⟨hleft, hst⟩ := ihl hs ht hst ((List.prefix_append _ _).trans hall)
      ((List.prefix_append _ _).trans hall')
    obtain ⟨hright, hst⟩ := ihr (hs.lowerTree l) (ht.lowerTree l') hst hall hall'
    refine ⟨?_, ?_, hst.find⟩
    · simp only [lowerTree, hst.temps]
      exact .code (List.rel_append hleft.instrs hright.instrs)
        ⟨rfl, hleft.operand, .some ⟨rfl, hright.operand⟩⟩
    · exact congrArg (· + 1) hst.temps

theorem lowerStatement_twin (hnames : CarriesNames key key' names σ all all') {c c' : Statement}
    (hc : Statement.Twin names numbers c c') (hs : s.Met key met) (ht : t.Met key' met')
    (hst : s.Aligned key key' names σ t) (hall : met ++ c.visited <+: all)
    (hall' : met' ++ c'.visited <+: all') :
    List.Forall₂ (Instr.Renamed (Var.rename σ) numbers) (lowerStatement key c s).1
        (lowerStatement key' c' t).1 ∧
      (lowerStatement key c s).2.Aligned key key' names σ (lowerStatement key' c' t).2 := by
  cases hc with
  | scopeOpen mark mark' => exact ⟨.nil, hst⟩
  | scopeEnd mark mark' => exact ⟨.nil, hst⟩
  | bare he =>
    obtain ⟨hl, hst⟩ := lowerTree_twin hnames he hs ht hst hall hall'
    exact ⟨hl.instrs, hst⟩
  | @assign mark mark' g h e e' hgh he =>
    rw [Statement.visited, ← List.append_assoc] at hall hall'
    obtain ⟨hl, hst⟩ := lowerTree_twin hnames he hs ht hst ((List.prefix_append _ _).trans hall)
      ((List.prefix_append _ _).trans hall')
    have hdst := rewritten_aligned hnames (hs.lowerTree e) (ht.lowerTree e') hst hgh hall hall'
    have hput := put_aligned hnames hst hgh ((lowerTree key e s).2.rewritten key g)
    rw [← hdst] at hput
    refine ⟨?_, ?_⟩
    · simp only [lowerStatement, hdst, NameState.var_rename]
      exact hl.into _
    · exact releaseFor_aligned hput hl

theorem lowerStatements_twin (hnames : CarriesNames key key' names σ all all') {p p' : List Statement}
    (hp : List.Forall₂ (Statement.Twin names numbers) p p') (hs : s.Met key met)
    (ht : t.Met key' met') (hst : s.Aligned key key' names σ t) (hall : met ++ visited p <+: all)
    (hall' : met' ++ visited p' <+: all') :
    List.Forall₂ (Instr.Renamed (Var.rename σ) numbers) (lowerStatements key p s).1
      (lowerStatements key' p' t).1 := by
  induction hp generalizing s t met met' with
  | nil => exact .nil
  | @cons c c' p p' hc _ ih =>
    rw [visited, List.flatMap_cons, ← List.append_assoc] at hall hall'
    obtain ⟨hcode, hst⟩ := lowerStatement_twin hnames hc hs ht hst
      ((List.prefix_append _ _).trans hall) ((List.prefix_append _ _).trans hall')
    have hrest := ih (hs.lowerStatement c) (ht.lowerStatement c') hst hall hall'
    exact List.rel_append hcode hrest

/-- A relation that is one to one can be made a permutation. -/
theorem exists_perm_of_oneToOne {α : Type} [Finite α] {R : α → α → Prop}
    (hone : ∀ a b a' b', R a b → R a' b' → (a = a' ↔ b = b')) :
    ∃ σ : Equiv.Perm α, ∀ a b, R a b → σ a = b := by
  classical
  have : Fintype α := Fintype.ofFinite α
  have hpartner : ∀ a, ∃ x, ∀ b, R a b → x = b := by
    intro a
    by_cases h : ∃ b, R a b
    · obtain ⟨b, hb⟩ := h
      exact ⟨b, fun c hc => (hone a b a c hb hc).mp rfl⟩
    · exact ⟨a, fun b hb => absurd ⟨b, hb⟩ h⟩
  choose f hf using hpartner
  have hinj : Set.InjOn f {a | ∃ b, R a b} := by
    rintro a ⟨b, hb⟩ a' ⟨b', hb'⟩ h
    rw [hf a b hb, hf a' b' hb'] at h
    exact (hone a b a' b' hb hb').mpr h
  obtain ⟨σ, hσ⟩ := Set.MapsTo.exists_equiv_extend_of_card_eq (t := Finset.univ) Finset.card_univ.symm
    (fun a _ => Finset.mem_coe.mpr (Finset.mem_univ (f a))) hinj
  refine ⟨σ.trans (Equiv.subtypeUnivEquiv Finset.mem_univ), fun a b hab => ?_⟩
  exact (hσ a ⟨b, hab⟩).trans (hf a b hab)

/-- If related names are the same in one program whenever they are in the other, the first spellings of
one go over to those of the other, and no two handles to one. -/
theorem exists_carriesNames
    (hkey : ∀ g h g' h', names g h → names g' h' → (key g = key g' ↔ key' h = key' h'))
    (all all' : List Handle) :
    ∃ σ : Equiv.Perm Handle, CarriesNames key key' names σ all all' := by
  obtain ⟨σ, hσ⟩ := exists_perm_of_oneToOne (R := fun a b => ∃ g ∈ all, ∃ h ∈ all', names g h ∧
      firstSpelling key all g = a ∧ firstSpelling key' all' h = b) (by
    rintro _ _ _ _ ⟨g, hg, h, hh, hgh, rfl, rfl⟩ ⟨g', hg', h', hh', hgh', rfl, rfl⟩
    rw [firstSpelling_eq_iff hg, firstSpelling_eq_iff hh, hkey g h g' h' hgh hgh'])
  exact ⟨σ, hkey _ _ _ _, fun {g h} hgh hg hh => hσ _ _ ⟨g, hg, h, hh, hgh, rfl, rfl⟩⟩

/-- The code of related programs is the same, with variables renamed one to one. -/
theorem exists_renamed_lowerStatements
    (hkey : ∀ g h g' h', names g h → names g' h' → (key g = key g' ↔ key' h = key' h'))
    {p p' : List Statement} (hp : List.Forall₂ (Statement.Twin names numbers) p p') :
    ∃ ρ : Var → Var, Function.Injective ρ ∧
      List.Forall₂ (Instr.Renamed ρ numbers) (lowerStatements key p (.start [])).1
        (lowerStatements key' p' (.start [])).1 := by
  obtain ⟨σ, hσ⟩ := exists_carriesNames hkey (visited p) (visited p')
  have haligned : (Session.start []).Aligned key key' names σ (Session.start []) :=
    ⟨rfl, fun _ => rfl⟩
  exact ⟨Var.rename σ, Var.rename_injective σ.injective,
    lowerStatements_twin hσ hp (Session.met_start key []) (Session.met_start key' []) haligned
      List.prefix_rfl List.prefix_rfl⟩

end

end StraightLine.Code

namespace StraightLine.Compile

open StraightLine.Source StraightLine.Code StraightLine.Range StraightLine.Alloc StraightLine.Program

/-- Two streams with their texts have one shape. Corresponding nodes have the same kind; two identifiers
of one stream have texts with the same normal form if and only if the corresponding ones of the other
do; and corresponding numbers are read as the same number, or none of them can be read. -/
structure SameShape (norm : String → String) (resolve : Resolver) (nodes : List Node)
    (resolve' : Resolver) (nodes' : List Node) : Prop where
  kinds : nodes.map (·.kind) = nodes'.map (·.kind)
  names : ∀ n ∈ nodes.zip nodes', ∀ m ∈ nodes.zip nodes',
    n.1.kind = .identifier → m.1.kind = .identifier →
      (norm (resolve n.1.handle) = norm (resolve m.1.handle) ↔
        norm (resolve' n.2.handle) = norm (resolve' m.2.handle))
  numbers : ∀ n ∈ nodes.zip nodes', n.1.kind = .number →
    (Text.Decimal.read (resolve n.1.handle)).toOption =
      (Text.Decimal.read (resolve' n.2.handle)).toOption

/-- What two compilations have in common if they differ in names and registers. The program of the
second is that of the first with its registers replaced. -/
structure SameUpTo (f : Reg → Reg) (c c' : Compilation) : Prop where
  program : c'.program = c.program.mapReg f
  spillSlots : c'.allocation.spillSlots = c.allocation.spillSlots
  edgeCount : c'.graph.edgeCount = c.graph.edgeCount
  ranges : c'.ranges.intervals.map (·.range) = c.ranges.intervals.map (·.range)

section

variable {norm : String → String} {resolve resolve' : Resolver} {nodes nodes' : List Node}

/-- Identifiers at one place. -/
def NamesAt (nodes nodes' : List Node) (g h : Handle) : Prop :=
  ∃ n ∈ nodes.zip nodes', n.1.kind = .identifier ∧ n.1.handle = g ∧ n.2.handle = h

/-- Numbers at one place. -/
def NumbersAt (nodes nodes' : List Node) (g h : Handle) : Prop :=
  ∃ n ∈ nodes.zip nodes', n.1.kind = .number ∧ n.1.handle = g ∧ n.2.handle = h

theorem SameShape.twin (h : SameShape norm resolve nodes resolve' nodes') :
    List.Forall₂ (Node.Twin (NamesAt nodes nodes') (NumbersAt nodes nodes')) nodes nodes' := by
  have hkinds : List.Forall₂ (· = ·) (nodes.map (·.kind)) (nodes'.map (·.kind)) :=
    h.kinds ▸ List.forall₂_refl _
  rw [List.forall₂_map_left_iff, List.forall₂_map_right_iff] at hkinds
  refine List.forall₂_iff_zip.mpr ⟨hkinds.length_eq, fun {n m} hnm => ?_⟩
  exact ⟨List.forall₂_zip hkinds hnm, fun hk => ⟨(n, m), hnm, hk, rfl, rfl⟩,
    fun hk => ⟨(n, m), hnm, hk, rfl, rfl⟩⟩

theorem SameShape.key_iff (h : SameShape norm resolve nodes resolve' nodes') {g g' k k' : Handle}
    (hgk : NamesAt nodes nodes' g k) (hgk' : NamesAt nodes nodes' g' k') :
    keyBy norm resolve g = keyBy norm resolve g' ↔
      keyBy norm resolve' k = keyBy norm resolve' k' := by
  obtain ⟨n, hn, hname, rfl, rfl⟩ := hgk
  obtain ⟨m, hm, hname', rfl, rfl⟩ := hgk'
  exact h.names n hn m hm hname hname'

theorem SameShape.readAlike (h : SameShape norm resolve nodes resolve' nodes') :
    ReadAlike resolve resolve' (NumbersAt nodes nodes') := by
  rintro g k ⟨n, hn, hnumber, rfl, rfl⟩
  exact h.numbers n hn hnumber

variable {registers : List Reg} {f : Reg → Reg} {p p' : List Statement}

/-- If code has machine code, renamed code has the same up to its registers, and slots, conflicts and
ranges are the same as well. -/
theorem backEnd_renamed {ρ : Var → Var} (hρ : Function.Injective ρ) (hf : Function.Injective f)
    {alike : Handle → Handle → Prop} (halike : ReadAlike resolve resolve' alike)
    {code code' : List Code.Instr} (hcode : List.Forall₂ (Code.Instr.Renamed ρ alike) code code')
    (hnonneg : (Ranges.analyze code).StartsNonneg) {program : Program}
    (hemit : emit (allocate (.analyze code) registers).find? resolve code = .ok program) :
    emit (allocate (.analyze code') (registers.map f)).find? resolve' code' =
        .ok (program.mapReg f) ∧
      SameUpTo f
        ⟨code, .analyze code, .build (Ranges.analyze code).entries,
          allocate (.analyze code) registers, program⟩
        ⟨code', .analyze code', .build (Ranges.analyze code').entries,
          allocate (.analyze code') (registers.map f), program.mapReg f⟩ := by
  have hranges : Ranges.analyze code' = (Ranges.analyze code).rename ρ :=
    Ranges.analyze_rename hρ (hcode.imp fun _ _ hij => hij.vars_eq)
  have hdistinct := Ranges.distinct_analyze code
  have halloc : allocate (.analyze code') (registers.map f) =
      (allocate (.analyze code) registers).rename ρ f := by
    rw [hranges, allocate_rename hρ hnonneg hdistinct]
  refine ⟨?_, rfl, ?_, ?_, ?_⟩
  · rw [halloc]
    exact emit_rename hf (find?_rename hρ _) halike hcode hemit
  · simp only [halloc, Allocation.spillSlots, Allocation.rename, List.length_map]
  · rw [hranges]
    exact Ranges.edgeCount_rename hnonneg ρ
  · rw [hranges, Ranges.intervals_rename hρ hnonneg hdistinct, List.map_map]
    rfl

/-- Programs of one shape whose literals can be read are compiled to the same code. -/
theorem compile_twin (hf : Function.Injective f) (hn : nodes.length < UInt32.size)
    (hshape : SameShape norm resolve nodes resolve' nodes') (hp : strip nodes = spell p)
    (hp' : strip nodes' = spell p')
    (htwin : List.Forall₂ (Statement.Twin (NamesAt nodes nodes') (NumbersAt nodes nodes')) p p')
    (hread : LiteralsRead resolve p) :
    ∃ c c', compile norm registers resolve nodes = .ok c ∧
      compile norm (registers.map f) resolve' nodes' = .ok c' ∧ SameUpTo f c c' := by
  have hlen : (spell p).length < UInt32.size := by
    rw [← hp]
    exact Nat.lt_of_le_of_lt (length_stripFrom_le 0 nodes) hn
  have hlower := lowerAll_spell (keyBy norm resolve) p
  have hlower' := lowerAll_spell (keyBy norm resolve') p'
  rw [← hp] at hlower
  rw [← hp'] at hlower'
  obtain ⟨ρ, hρ, hcode⟩ := exists_renamed_lowerStatements
    (fun _ _ _ _ hgh hgh' => hshape.key_iff hgh hgh') htwin
  have hnonneg :
      (Ranges.analyze (lowerStatements (keyBy norm resolve) p (.start [])).1).StartsNonneg := by
    refine Ranges.startsNonneg_analyze (Nat.lt_of_le_of_lt (length_lowerStatements _ p _) ?_)
    exact Nat.lt_trans hlen (by decide)
  obtain ⟨-, program, hemit⟩ | ⟨hnot, -⟩ := emit_lowerStatements hlen registers resolve
  · obtain ⟨hemit', hsame⟩ := backEnd_renamed hρ hf hshape.readAlike hcode hnonneg hemit
    exact ⟨_, _, compile_eq hlower hemit, compile_eq hlower' hemit', hsame⟩
  · exact absurd hread hnot

end

/-- Compiled code depends on the shape of the program and on the number of registers. Take two streams
of one shape, and registers for the second that replace those of the first one to one. Either both
compilations end with an internal error of one kind in one stage, or both succeed, the program of the
second is that of the first with its registers replaced, and slots, conflicts and the ranges in their
order are the same. -/
theorem shape_determines_code {norm : String → String} {resolve resolve' : Resolver}
    {nodes nodes' : List Node} (hn : nodes.length < UInt32.size)
    (hshape : SameShape norm resolve nodes resolve' nodes')
    {f : Reg → Reg} (hf : Function.Injective f) (registers : List Reg) :
    (∃ kind stage, EndsWith norm registers resolve nodes kind stage ∧
      EndsWith norm (registers.map f) resolve' nodes' kind stage) ∨
    ∃ c c', compile norm registers resolve nodes = .ok c ∧
      compile norm (registers.map f) resolve' nodes' = .ok c' ∧ SameUpTo f c c' := by
  have hstrip := stripFrom_twin hshape.twin 0
  have hlen : nodes'.length = nodes.length := hshape.twin.length_eq.symm
  by_cases hp : ∃ p, strip nodes = spell p
  · obtain ⟨p, hp⟩ := hp
    have hspell := hstrip
    rw [show stripFrom 0 nodes = spell p from hp] at hspell
    obtain ⟨p', hp', htwin⟩ := exists_spell_of_twin hspell
    have hiff := literalsRead_twin hshape.readAlike htwin
    obtain ⟨hread, -⟩ | ⟨hnot, h, text, cause, herr⟩ :=
      @compile_spell norm registers _ _ _ hn hp
    · exact .inr (compile_twin hf hn hshape hp hp' htwin hread)
    · obtain ⟨hread, -⟩ | ⟨-, h', text', cause', herr'⟩ :=
        @compile_spell norm (registers.map f) resolve' _ _ (hlen ▸ hn) hp'
      · exact absurd (hiff.mpr hread) hnot
      · exact .inl ⟨_, _, ⟨_, _, herr, rfl⟩, ⟨_, _, herr', rfl⟩⟩
  · have hp' : ¬ ∃ p', strip nodes' = spell p' := by
      rintro ⟨p', hp'⟩
      have hspell := (hstrip.imp fun _ _ => Node.Twin.symm).flip
      rw [show stripFrom 0 nodes' = spell p' from hp'] at hspell
      obtain ⟨p, hspelled, -⟩ := exists_spell_of_twin hspell
      exact hp ⟨p, hspelled⟩
    obtain ⟨g, herr⟩ := compile_not_spell hp registers
    obtain ⟨g', herr'⟩ := @compile_not_spell norm resolve' _ hp' (registers.map f)
    exact .inl ⟨_, _, ⟨_, _, herr, rfl⟩, ⟨_, _, herr', rfl⟩⟩

/-- Two spellings of one name become one spelling of another, a number gets a sign, and the registers
go up by one. -/
theorem shape_determines_code_respelled :
    let resolve : Resolver := fun h => if h = 0 then "\u00e9" else if h = 1 then "e\u0301" else "7"
    let resolve' : Resolver := fun h => if h = 0 then "x" else "+7"
    let nodes : List Node :=
      [.assignment, .identifier 0, .number 2, .assignment, .identifier 1, { kind := .add },
        .identifier 0, .number 2]
    let nodes' : List Node :=
      [.assignment, .identifier 0, .number 1, .assignment, .identifier 0, { kind := .add },
        .identifier 0, .number 1]
    SameShape Text.normalize resolve nodes resolve' nodes' ∧ ∃ c c',
      compile Text.normalize [4, 5] resolve nodes = .ok c ∧
        compile Text.normalize [5, 6] resolve' nodes' = .ok c' ∧ SameUpTo (· + 1) c c' := by
  intro resolve resolve' nodes nodes'
  have hshape : SameShape Text.normalize resolve nodes resolve' nodes' :=
    ⟨by decide, by decide +kernel, by decide +kernel⟩
  let p : List Statement := [.assign 0 0 (.number 2), .assign 0 1 (.binary .add 0 (.name 0) (.number 2))]
  have hread : LiteralsRead resolve p := by
    intro c hc h hh
    have htwo : h = 2 := by
      rcases List.mem_pair.mp hc with rfl | rfl
      · exact List.mem_singleton.mp hh
      · exact List.mem_singleton.mp hh
    exact ⟨7, by rw [htwo]; cbv⟩
  refine ⟨hshape, ?_⟩
  obtain ⟨_, _, ⟨f, _, hf, -⟩, -⟩ | hsame :=
    shape_determines_code (by decide) hshape (add_left_injective 1) [4, 5]
  · obtain ⟨c, hc⟩ : ∃ c, compile Text.normalize [4, 5] resolve nodes = .ok c :=
      exists_compile (by decide) (by decide) hread
    cases hc.symm.trans hf
  · exact hsame

end StraightLine.Compile
