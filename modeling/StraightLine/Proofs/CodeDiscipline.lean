import StraightLine.Proofs.NameVersions
import StraightLine.Proofs.StatementCalls

/-! The discipline of lowered code. Temporaries and versions are in order, no instruction reads what it
writes, and every name goes by one handle: the first one that spelled it. Which identifier of the program
became which variable of the code is told by a relation that follows the trees. -/

namespace StraightLine.Source

def Node.name? (n : Node) : Option Handle := if n.kind = .identifier then some n.handle else none

/-- The names of a statement in the order in which a session meets them. A target is met behind the
value that is assigned to it. -/
def Statement.visited : Statement → List Handle
  | scopeOpen _ | scopeEnd _ => []
  | assign _ target value => value.names ++ [target]
  | bare e => e.names

def visited (p : List Statement) : List Handle := p.flatMap Statement.visited

theorem Expr.filterMap_name? (e : Expr) : e.nodes.filterMap Node.name? = e.names := by
  induction e with
  | number h => rfl
  | name h => rfl
  | binary op mark left right ihl ihr =>
    have hop : Node.name? { kind := op.kind, handle := mark } = none := by cases op <;> rfl
    rw [nodes, List.filterMap_cons_none hop, List.filterMap_append, ihl, ihr, names]

theorem Statement.visited_perm (c : Statement) : c.visited.Perm (c.nodes.filterMap Node.name?) := by
  cases c with
  | scopeOpen mark => exact .refl _
  | scopeEnd mark => exact .refl _
  | bare e => rw [visited, nodes, e.filterMap_name?]
  | assign mark target value =>
    have hnodes : (assign mark target value).nodes.filterMap Node.name? =
        target :: value.nodes.filterMap Node.name? := rfl
    rw [hnodes, value.filterMap_name?]
    exact List.perm_append_singleton target value.names

/-- A session meets each identifier of its stream once. -/
theorem visited_perm (p : List Statement) : (visited p).Perm ((spell p).filterMap Node.name?) := by
  induction p with
  | nil => exact .refl _
  | cons c p ih =>
    rw [spell_cons, List.filterMap_append]
    exact c.visited_perm.append ih

end StraightLine.Source

namespace StraightLine.Code

open StraightLine.Source StraightLine.Range

/-- What an expression became, each of its names being stood for by a variable as `stands` says. -/
inductive Renders (stands : Handle → Var → Prop) : Expr → Lowered → Prop
  | number (h : Handle) : Renders stands (.number h) (.leaf (.literal h))
  | name {h : Handle} {v : Var} (hv : stands h v) : Renders stands (.name h) (.leaf (.var v))
  | binary {op : Arith} {mark : Handle} {left right : Expr} {l r : Lowered} (dst : Var)
    (hl : Renders stands left l) (hr : Renders stands right r) :
    Renders stands (.binary op mark left right)
      (.code (l.instrs ++ r.instrs)
        { dst := dst, left := l.operand, right := some (.ofArith op, r.operand) })

/-- The code of a statement, each of its names being stood for by a variable as `stands` says. -/
inductive RendersStatement (stands : Handle → Var → Prop) : Statement → List Instr → Prop
  | scopeOpen (mark : Handle) : RendersStatement stands (.scopeOpen mark) []
  | scopeEnd (mark : Handle) : RendersStatement stands (.scopeEnd mark) []
  | assign {mark target : Handle} {value : Expr} {l : Lowered} {v : Var}
    (hl : Renders stands value l) (hv : stands target v) :
    RendersStatement stands (.assign mark target value) (l.into v)
  | bare {e : Expr} {l : Lowered} (hl : Renders stands e l) :
    RendersStatement stands (.bare e) l.instrs

/-! ## First spellings -/

/-- The first of the handles met that spells the same name. -/
def firstSpelling (key : Handle → String) (met : List Handle) (h : Handle) : Handle :=
  (met.find? fun g => key g == key h).getD h

/-- The variable is a version of the name under its first spelling. -/
def StandsFor (key : Handle → String) (met : List Handle) (h : Handle) (v : Var) : Prop :=
  ∃ n, v = .named (firstSpelling key met h) n

/-- The session has met these names, and it knows each of them by its first spelling. -/
def Session.Met (key : Handle → String) (met : List Handle) (s : Session) : Prop :=
  ∀ k, (s.find? k).map (·.handle) = met.find? fun g => key g == k

variable {key : Handle → String} {met rest : List Handle} {s : Session}

theorem exists_find?_of_mem (key : Handle → String) {h : Handle} (hm : h ∈ met) :
    ∃ g, met.find? (fun g => key g == key h) = some g := by
  rw [← Option.isSome_iff_exists, List.find?_isSome]
  exact ⟨h, hm, beq_self_eq_true _⟩

theorem firstSpelling_append {h : Handle} (hm : h ∈ met) :
    firstSpelling key (met ++ rest) h = firstSpelling key met h := by
  obtain ⟨g, hg⟩ := exists_find?_of_mem key hm
  rw [firstSpelling, firstSpelling, List.find?_append, hg]
  rfl

theorem key_firstSpelling (key : Handle → String) (met : List Handle) (h : Handle) :
    key (firstSpelling key met h) = key h := by
  unfold firstSpelling
  cases hf : met.find? fun g => key g == key h with
  | none => rfl
  | some g => simpa using List.find?_some hf

/-- Identifiers have one first spelling if and only if they spell one name. -/
theorem firstSpelling_eq_iff {g h : Handle} (hg : g ∈ met) :
    firstSpelling key met g = firstSpelling key met h ↔ key g = key h := by
  constructor
  · intro he
    rw [← key_firstSpelling key met g, he, key_firstSpelling key met h]
  · intro he
    obtain ⟨f, hf⟩ := exists_find?_of_mem key hg
    have hf' := hf
    rw [he] at hf'
    rw [firstSpelling, firstSpelling, hf, hf']
    rfl

namespace Session

theorem met_start (key : Handle → String) (nodes : List Node) : (start nodes).Met key [] :=
  fun _ => rfl

/-- The handle by which a session knows a name is its first spelling, the present one included. -/
theorem Met.handle_nameAt (hs : s.Met key met) (h : Handle) :
    (s.nameAt key h).handle = firstSpelling key (met ++ [h]) h := by
  have hk := hs (key h)
  rw [firstSpelling, List.find?_append, ← hk, nameAt]
  cases s.find? (key h) with
  | none => simp
  | some ns => rfl

theorem handle_rewritten (key : Handle → String) (h : Handle) (s : Session) :
    (s.rewritten key h).handle = (s.nameAt key h).handle := by
  unfold rewritten nameAt
  cases s.find? (key h) <;> rfl

/-- Recording a state of a name under the handle that it has. -/
theorem Met.put (hs : s.Met key met) {h : Handle} {ns : NameState}
    (hh : ns.handle = (s.nameAt key h).handle) : (s.put (key h) ns).Met key (met ++ [h]) := by
  intro k
  have hk := hs k
  rw [find?_put, List.find?_append, List.find?_singleton, ← hk]
  by_cases he : k = key h
  · subst he
    rw [if_pos rfl, Option.map_some, hh, nameAt]
    cases s.find? (key h) with
    | none => simp
    | some ns => rfl
  · have hne : (key h == k) = false := beq_false_of_ne (Ne.symm he)
    rw [if_neg he, hne]
    simp

theorem Met.lowerTree (hs : s.Met key met) (e : Expr) :
    (Code.lowerTree key e s).2.Met key (met ++ e.names) := by
  induction e generalizing s met with
  | number h => simpa [Expr.names, Code.lowerTree] using hs
  | name h => exact hs.put rfl
  | binary op mark left right ihl ihr =>
    rw [Expr.names, ← List.append_assoc]
    exact ihr (ihl hs)

theorem Met.lowerStatement (hs : s.Met key met) (c : Statement) :
    (Code.lowerStatement key c s).2.Met key (met ++ c.visited) := by
  cases c with
  | scopeOpen mark => simpa [Statement.visited, Code.lowerStatement] using hs
  | scopeEnd mark => simpa [Statement.visited, Code.lowerStatement] using hs
  | bare e => exact hs.lowerTree e
  | assign mark target value =>
    intro k
    rw [Code.lowerStatement, find?_releaseFor, Statement.visited, ← List.append_assoc]
    exact (hs.lowerTree value).put (handle_rewritten key target _) k

theorem Met.lowerStatements (hs : s.Met key met) (p : List Statement) :
    (Code.lowerStatements key p s).2.Met key (met ++ visited p) := by
  induction p generalizing s met with
  | nil => simpa [visited, Code.lowerStatements] using hs
  | cons c p ih =>
    rw [visited, List.flatMap_cons, ← List.append_assoc]
    exact ih (hs.lowerStatement c)

end Session

/-- A name that is met next gets a variable under its first spelling, whatever is met later. -/
theorem standsFor_next (hs : s.Met key met) (rest : List Handle) {h : Handle} {ns : NameState}
    (hh : ns.handle = (s.nameAt key h).handle) : StandsFor key (met ++ h :: rest) h ns.var := by
  have hfirst : firstSpelling key (met ++ h :: rest) h = ns.handle := by
    rw [List.append_cons, firstSpelling_append (by simp), ← hs.handle_nameAt, hh]
  exact ⟨Int64.ofNat ns.version, by rw [hfirst]; rfl⟩

theorem renders_lowerTree (hs : s.Met key met) (e : Expr) (rest : List Handle) :
    Renders (StandsFor key (met ++ e.names ++ rest)) e (lowerTree key e s).1 := by
  induction e generalizing s met rest with
  | number h => exact .number h
  | name h =>
    rw [Expr.names, List.append_assoc]
    exact .name (standsFor_next hs rest rfl)
  | binary op mark left right ihl ihr =>
    have hl := ihl hs (right.names ++ rest)
    have hr := ihr (hs.lowerTree left) rest
    rw [← List.append_assoc] at hl
    rw [Expr.names, ← List.append_assoc]
    exact .binary _ hl hr

theorem renders_lowerStatement (hs : s.Met key met) (c : Statement) (rest : List Handle) :
    RendersStatement (StandsFor key (met ++ c.visited ++ rest)) c (lowerStatement key c s).1 := by
  cases c with
  | scopeOpen mark => exact .scopeOpen mark
  | scopeEnd mark => exact .scopeEnd mark
  | bare e => exact .bare (renders_lowerTree hs e rest)
  | assign mark target value =>
    have hvalue := renders_lowerTree hs value (target :: rest)
    rw [Statement.visited, ← List.append_assoc, List.append_assoc _ [target]]
    exact .assign hvalue
      (standsFor_next (hs.lowerTree value) rest (Session.handle_rewritten key target _))

/-- The code of a program is the code of its statements, and each identifier became a variable under
its first spelling. -/
theorem renders_lowerStatements (hs : s.Met key met) (p : List Statement) :
    ∃ parts, (lowerStatements key p s).1 = parts.flatten ∧
      List.Forall₂ (RendersStatement (StandsFor key (met ++ visited p))) p parts := by
  induction p generalizing s met with
  | nil => exact ⟨[], rfl, .nil⟩
  | cons c p ih =>
    obtain ⟨parts, hcode, hparts⟩ := ih (hs.lowerStatement c)
    have hc := renders_lowerStatement hs c (visited p)
    have hvisited : met ++ visited (c :: p) = met ++ c.visited ++ visited p := by
      rw [visited, List.flatMap_cons, ← List.append_assoc]
      rfl
    rw [hvisited]
    refine ⟨(lowerStatement key c s).1 :: parts, ?_, .cons hc hparts⟩
    simp only [lowerStatements, hcode, List.flatten_cons]

/-- How code and session name the identifiers of a program. The session meets each identifier once,
every identifier is stood for by a variable under the first handle that was met for its name, and
identifiers have one handle if and only if their texts have one normal form. -/
structure NamedByFirst (norm : String → String) (resolve : Resolver) (p : List Statement)
    (code : List Instr) (s : Session) : Prop where
  met : (visited p).Perm ((spell p).filterMap Node.name?)
  rendered : ∃ parts, code = parts.flatten ∧
    List.Forall₂ (RendersStatement (StandsFor (Compile.keyBy norm resolve) (visited p))) p parts
  recorded : ∀ h ∈ visited p, ∃ ns, s.find? (Compile.keyBy norm resolve h) = some ns ∧
    ns.handle = firstSpelling (Compile.keyBy norm resolve) (visited p) h
  same_iff : ∀ g ∈ visited p, ∀ h ∈ visited p,
    firstSpelling (Compile.keyBy norm resolve) (visited p) g =
        firstSpelling (Compile.keyBy norm resolve) (visited p) h ↔
      norm (resolve g) = norm (resolve h)

theorem namedByFirst_lowerStatements (norm : String → String) (resolve : Resolver)
    (p : List Statement) (c : Nat) :
    let lowered := lowerStatements (Compile.keyBy norm resolve) p (.start [])
    NamedByFirst norm resolve p lowered.1 (lowered.2.moved [] c) := by
  intro lowered
  have hstart := Session.met_start (Compile.keyBy norm resolve) []
  refine ⟨visited_perm p, renders_lowerStatements hstart p, fun h hm => ?_,
    fun g hg h _ => firstSpelling_eq_iff hg⟩
  have hmet := hstart.lowerStatements p (Compile.keyBy norm resolve h)
  obtain ⟨g, hg⟩ := exists_find?_of_mem (Compile.keyBy norm resolve) hm
  rw [List.nil_append, hg] at hmet
  obtain ⟨ns, hns, hhandle⟩ := Option.map_eq_some_iff.mp hmet
  refine ⟨ns, hns, ?_⟩
  rw [hhandle, firstSpelling, hg]
  rfl

/-- The discipline of the code that a session gives for a stream it accepts. Temporaries are numbered
without gaps and read once at most; the versions of each name count up from one, are read when they are
the latest and not written after that; names go by their first handle; and no instruction reads its
destination. -/
theorem code_is_disciplined {norm : String → String} {resolve : Resolver} {nodes : List Node}
    {code : List Instr} {s : Session} (hn : nodes.length < UInt32.size)
    (h : lowerAll (Compile.keyBy norm resolve) (.start nodes) = .ok code s) :
    TempsInOrder code ∧
    (∀ k, VersionsInOrder (Compile.keyBy norm resolve) k code) ∧
    (∃ p, nodes = spell p ∧ NamedByFirst norm resolve p code s) ∧
    ∀ i ∈ code, i.dst ∉ i.reads := by
  obtain ⟨p, rfl⟩ := (lowerAll_ok_iff _ nodes).mp ⟨code, s, h⟩
  have hpos : (spell p).length < positions := Nat.lt_trans hn (by decide)
  rw [lowerAll_spell] at h
  obtain ⟨rfl, rfl⟩ := EStateM.Result.ok.inj h
  refine ⟨tempsInOrder_lowerStatements _ hpos, fun k => ?_,
    ⟨p, rfl, namedByFirst_lowerStatements norm resolve p _⟩, fun i hi => (proper_start _ hpos i hi).apart⟩
  have hversioned := (versioned_start (Compile.keyBy norm resolve) k []).lowerStatements
    (tracks_start _ []).keyed (within_start []) p (by omega)
  exact hversioned.inOrder

/-- A letter with an accent is spelled in two ways. Both spell one name, which goes by the first
handle. -/
theorem code_is_disciplined_accent :
    let resolve : Resolver := fun h => if h = 0 then "\u00e9" else if h = 1 then "e\u0301" else "7"
    let nodes : List Node :=
      [.assignment, .identifier 0, .number 2, .assignment, .identifier 1, { kind := .add },
        .identifier 0, { kind := .mul }, .identifier 1, .identifier 1]
    let code : List Instr :=
      [{ dst := .named 0 1, left := .literal 2 },
        { dst := .temp 1, left := .var (.named 0 1), right := some (.mul, .var (.named 0 1)) },
        { dst := .named 0 2, left := .var (.named 0 1), right := some (.add, .var (.temp 1)) }]
    ∃ s, lowerAll (Compile.nameKey resolve) (.start nodes) = .ok code s ∧
      TempsInOrder code ∧
      (∀ k, VersionsInOrder (Compile.nameKey resolve) k code) ∧
      (∃ p, nodes = spell p ∧ NamedByFirst Text.normalize resolve p code s) ∧
      ∀ i ∈ code, i.dst ∉ i.reads := by
  intro resolve nodes code
  let p : List Statement :=
    [.assign 0 0 (.number 2),
      .assign 0 1 (.binary .add 0 (.name 0) (.binary .mul 0 (.name 1) (.name 1)))]
  have hcode : (lowerStatements (Compile.nameKey resolve) p (.start [])).1 = code := by
    decide +kernel
  have h := lowerAll_spell (Compile.nameKey resolve) p
  rw [hcode] at h
  exact ⟨_, h, code_is_disciplined (by decide) h⟩

end StraightLine.Code
