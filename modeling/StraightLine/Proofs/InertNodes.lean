import StraightLine.Proofs.CompileOutcome

/-! Declarations and scope markers bear on nothing. Complete declarations may be put between any two
nodes of a stream, and stripping takes them out again; whatever a stream looks like, stripping it leaves
no declaration and loses nothing but declarations and identifiers. Scope markers may be put between
statements or taken away, and the compilation stays the same. -/

namespace StraightLine.Source

/-- A complete declaration: its head, and right behind it the identifiers that it declares. -/
inductive Declaration : List Node → Prop
  | var (mark g h : Handle) :
    Declaration [{ kind := .varDecl, handle := mark }, .identifier g, .identifier h]
  | structMember (mark g h : Handle) :
    Declaration [{ kind := .structMemberDecl, handle := mark }, .identifier g, .identifier h]
  | struct (mark h : Handle) :
    Declaration [{ kind := .structDecl, handle := mark }, .identifier h]

/-- The second stream is the first one with complete declarations put anywhere between its nodes. -/
inductive WithDeclarations : List Node → List Node → Prop
  | nil : WithDeclarations [] []
  | keep {xs ys : List Node} (n : Node) (h : WithDeclarations xs ys) :
    WithDeclarations (n :: xs) (n :: ys)
  | insert {d xs ys : List Node} (hd : Declaration d) (h : WithDeclarations xs ys) :
    WithDeclarations xs (d ++ ys)

def DeclarationFree (nodes : List Node) : Prop := ∀ n ∈ nodes, n.kind.isDeclaration = false

instance (nodes : List Node) : Decidable (DeclarationFree nodes) :=
  inferInstanceAs (Decidable (∀ n ∈ nodes, n.kind.isDeclaration = false))

/-- The node is neither a declaration nor an identifier. -/
def Node.lasts (n : Node) : Bool := !n.kind.isDeclaration && n.kind ≠ .identifier

theorem WithDeclarations.refl (nodes : List Node) : WithDeclarations nodes nodes := by
  induction nodes with
  | nil => exact .nil
  | cons n nodes ih => exact .keep n ih

theorem strip_cons_of_not_declaration {n : Node} (hn : n.kind.isDeclaration = false)
    (nodes : List Node) : strip (n :: nodes) = n :: strip nodes := by
  have hdeclared : n.kind.declared = none := by
    rwa [Kind.isDeclaration, Option.isSome_eq_false_iff, Option.isNone_iff_eq_none] at hn
  rw [strip, stripFrom, hdeclared]
  · rfl
  · intro left hdue
    omega

/-- A complete declaration is taken out, and it takes nothing else along. -/
theorem strip_declaration_append {d : List Node} (hd : Declaration d) (nodes : List Node) :
    strip (d ++ nodes) = strip nodes := by
  cases hd <;> rfl

theorem DeclarationFree.tail {n : Node} {nodes : List Node} (h : DeclarationFree (n :: nodes)) :
    DeclarationFree nodes := fun m hm => h m (List.mem_cons_of_mem _ hm)

/-- Stripping takes out the declarations that were put in. -/
theorem WithDeclarations.strip_eq {xs ys : List Node} (h : WithDeclarations xs ys)
    (hx : DeclarationFree xs) : strip ys = xs := by
  induction h with
  | nil => rfl
  | keep n h ih => rw [strip_cons_of_not_declaration (hx n List.mem_cons_self), ih hx.tail]
  | insert hd h ih => rw [strip_declaration_append hd, ih hx]

/-- What stripping leaves of a stream: no declaration is left, and all nodes that are neither declarations
nor identifiers are, in their order. -/
structure Stripped (nodes left : List Node) : Prop where
  free : DeclarationFree left
  sublist : left.Sublist nodes
  lasting : left.filter Node.lasts = nodes.filter Node.lasts

theorem Stripped.drop {n : Node} {nodes left : List Node} (h : Stripped nodes left)
    (hn : n.lasts = false) : Stripped (n :: nodes) left where
  free := h.free
  sublist := h.sublist.cons n
  lasting := by rw [List.filter_cons_of_neg (by simp [hn]), h.lasting]

theorem Stripped.keep {n : Node} {nodes left : List Node} (h : Stripped nodes left)
    (hn : n.kind.isDeclaration = false) : Stripped (n :: nodes) (n :: left) where
  free := List.forall_mem_cons.mpr ⟨hn, h.free⟩
  sublist := h.sublist.cons_cons n
  lasting := by rw [List.filter_cons, List.filter_cons, h.lasting]

theorem stripped_stripFrom (due : Nat) (nodes : List Node) :
    Stripped nodes (stripFrom due nodes) := by
  induction nodes generalizing due with
  | nil => exact ⟨by simp [DeclarationFree, stripFrom], .slnil, rfl⟩
  | cons n nodes ih =>
    unfold stripFrom
    split
    · rename_i left hkind
      exact (ih left).drop (by simp [Node.lasts, hkind])
    · split
      · rename_i operands hdeclared
        exact (ih operands).drop (by simp [Node.lasts, Kind.isDeclaration, hdeclared])
      · rename_i hdeclared
        exact (ih 0).keep (by simp [Kind.isDeclaration, hdeclared])

theorem Expr.declarationFree_nodes (e : Expr) : DeclarationFree e.nodes := by
  induction e with
  | number h => simp [DeclarationFree, nodes, Node.number, Kind.isDeclaration, Kind.declared]
  | name h => simp [DeclarationFree, nodes, Node.identifier, Kind.isDeclaration, Kind.declared]
  | binary op mark left right ihl ihr =>
    have hop : op.kind.isDeclaration = false := by cases op <;> rfl
    exact List.forall_mem_cons.mpr ⟨hop, List.forall_mem_append.mpr ⟨ihl, ihr⟩⟩

theorem Statement.declarationFree_nodes (c : Statement) : DeclarationFree c.nodes := by
  cases c with
  | scopeOpen mark => simp [DeclarationFree, nodes, Kind.isDeclaration, Kind.declared]
  | scopeEnd mark => simp [DeclarationFree, nodes, Kind.isDeclaration, Kind.declared]
  | assign mark target value =>
    exact List.forall_mem_cons.mpr ⟨rfl, List.forall_mem_cons.mpr ⟨rfl, value.declarationFree_nodes⟩⟩
  | bare e => exact e.declarationFree_nodes

/-- Statements declare nothing. -/
theorem declarationFree_spell (p : List Statement) : DeclarationFree (spell p) := by
  intro n hn
  obtain ⟨c, -, hc⟩ := List.mem_flatMap.mp hn
  exact c.declarationFree_nodes n hc

def unmarked (p : List Statement) : List Statement := p.filter fun c => !c.isMarker

end StraightLine.Source

namespace StraightLine.Code

open StraightLine.Source

/-- Scope markers have no code and leave the session as it is. -/
theorem lowerStatements_unmarked (key : Handle → String) (p : List Statement) (s : Session) :
    lowerStatements key (unmarked p) s = lowerStatements key p s := by
  induction p generalizing s with
  | nil => rfl
  | cons c p ih =>
    cases c with
    | scopeOpen mark => exact ih s
    | scopeEnd mark => exact ih s
    | assign mark target value =>
      have hcons : unmarked (.assign mark target value :: p) =
          .assign mark target value :: unmarked p := rfl
      simp only [hcons, lowerStatements, ih]
    | bare e =>
      have hcons : unmarked (.bare e :: p) = .bare e :: unmarked p := rfl
      simp only [hcons, lowerStatements, ih]

end StraightLine.Code

namespace StraightLine.Compile

open StraightLine.Source StraightLine.Code

/-- A compilation depends on the code of the stripped stream only. -/
theorem compile_spell_congr {norm : String → String} {registers : List Alloc.Reg}
    {resolve : Resolver} {nodes nodes' : List Node} {p q : List Statement}
    (hp : strip nodes = spell p) (hq : strip nodes' = spell q)
    (h : unmarked p = unmarked q) :
    compile norm registers resolve nodes = compile norm registers resolve nodes' := by
  have hcode : lowerStatements (keyBy norm resolve) p (.start []) =
      lowerStatements (keyBy norm resolve) q (.start []) := by
    rw [← lowerStatements_unmarked, h, lowerStatements_unmarked]
  rw [compile_eq_stages, compile_eq_stages, stages, stages, hp, hq, lowerAll_spell, lowerAll_spell,
    hcode]
  rfl

/-- Declarations and scope markers are inert. Complete declarations that are put between the nodes of a
stream are stripped again; stripping any stream leaves no declaration, keeps the order, and loses nothing
but declarations and identifiers; and a stream that is compiled is spelled by statements, among which
scope markers may come and go, and complete declarations may then be put anywhere, without any change
to code, ranges, conflicts, locations and program. -/
theorem declarations_and_markers_are_inert :
    (∀ xs ys, DeclarationFree xs → WithDeclarations xs ys → strip ys = xs) ∧
    (∀ nodes, Stripped nodes (strip nodes)) ∧
    ∀ norm registers resolve nodes c, DeclarationFree nodes →
      compile norm registers resolve nodes = .ok c →
        (∃ p, nodes = spell p) ∧
        ∀ p q ys, nodes = spell p → unmarked q = unmarked p → WithDeclarations (spell q) ys →
          compile norm registers resolve ys = .ok c := by
  refine ⟨fun xs ys hx h => h.strip_eq hx, stripped_stripFrom 0, ?_⟩
  intro norm registers resolve nodes c hfree hc
  have hstrip : strip nodes = nodes := (WithDeclarations.refl nodes).strip_eq hfree
  refine ⟨?_, fun p q ys hp hpq hys => ?_⟩
  · obtain ⟨p, hp⟩ := exists_spell_of_compile hc
    exact ⟨p, hstrip.symm.trans hp⟩
  · have hq : strip ys = spell q := hys.strip_eq (declarationFree_spell q)
    rw [compile_spell_congr hq (hstrip.trans hp) hpq, hc]

/-- A sum, and the same sum in a scope that is opened twice and never ended, with a declaration in front of
the target and one between the operands. The identifier behind a complete declaration stays. -/
theorem declarations_and_markers_are_inert_scoped :
    let resolve : Resolver := fun h => if h = 0 then "x" else "7"
    let nodes : List Node := [.assignment, .identifier 0, { kind := .add }, .number 1, .number 1]
    let marked : List Node :=
      [.scopeOpen, .scopeOpen, .assignment, .identifier 0, { kind := .add }, .number 1, .number 1]
    let declared : List Node :=
      [.scopeOpen, .scopeOpen, .assignment, { kind := .varDecl }, .identifier 0, .identifier 0,
        .identifier 0, { kind := .add }, .number 1, { kind := .structDecl }, .identifier 0, .number 1]
    strip declared = marked ∧ Stripped declared (strip declared) ∧
      ∃ c, compile Text.normalize [] resolve nodes = .ok c ∧
        compile Text.normalize [] resolve declared = .ok c := by
  intro resolve nodes marked declared
  let sum : Statement := .assign 0 0 (.binary .add 0 (.number 1) (.number 1))
  have hwith : WithDeclarations (spell [.scopeOpen 0, .scopeOpen 0, sum]) declared :=
    .keep _ <| .keep _ <| .keep _ <| .insert (.var 0 0 0) <| .keep _ <| .keep _ <| .keep _ <|
      .insert (.struct 0 0) <| .keep _ .nil
  have hread : LiteralsRead resolve [sum] := by
    intro c hc h hh
    cases List.mem_singleton.mp hc
    have hone : h = 1 := by simpa [sum, Statement.literals, Expr.numbers] using hh
    exact ⟨7, by rw [hone]; cbv⟩
  have hstream : strip nodes = spell [sum] := by decide
  obtain ⟨c, hc⟩ : ∃ c, compile Text.normalize [] resolve nodes = .ok c :=
    exists_compile (by decide) hstream hread
  obtain ⟨hstrip, hstripped, hcompile⟩ := declarations_and_markers_are_inert
  refine ⟨hstrip marked declared (by decide) hwith, hstripped declared, c, hc, ?_⟩
  exact (hcompile Text.normalize [] resolve nodes c (by decide) hc).2 [sum]
    [.scopeOpen 0, .scopeOpen 0, sum]
    declared rfl rfl hwith

end StraightLine.Compile
