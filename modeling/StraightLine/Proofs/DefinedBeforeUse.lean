import StraightLine.Proofs.BackEnd
import StraightLine.Proofs.LoweringMeaning

/-! Lowered code defines its variables before it uses them, if the program assigns its names before
it reads them. Each statement leaves the present variables of the assigned names defined, and within
a statement every temporary is defined by an earlier instruction. So the back end translates all
code of such programs. -/

namespace StraightLine.Source

def Expr.names : Expr → List Handle
  | number _ => []
  | name h => [h]
  | binary _ _ left right => left.names ++ right.names

/-- The names that a statement reads. A leaf that stands alone is not looked at. -/
def Statement.reads : Statement → List Handle
  | scopeOpen _ | scopeEnd _ => []
  | assign _ _ value => value.names
  | bare e => if e.isLeaf then [] else e.names

def Statement.Assigns (key : Handle → String) (k : String) (c : Statement) : Prop :=
  ∃ mark target value, c = .assign mark target value ∧ key target = k

/-- Every name that is read is one of `known` or was assigned by an earlier statement. -/
def AssignedFrom (key : Handle → String) (known : String → Prop) (p : List Statement) : Prop :=
  ∀ pre c post, p = pre ++ c :: post → ∀ h ∈ c.reads,
    known (key h) ∨ ∃ d ∈ pre, d.Assigns key (key h)

/-- Every name that is read was assigned by an earlier statement. -/
def AssignedFirst (key : Handle → String) (p : List Statement) : Prop :=
  ∀ pre c post, p = pre ++ c :: post → ∀ h ∈ c.reads, ∃ d ∈ pre, d.Assigns key (key h)

theorem AssignedFirst.from {key : Handle → String} {p : List Statement} (h : AssignedFirst key p) :
    AssignedFrom key (fun _ => False) p :=
  fun pre c post hp g hg => .inr (h pre c post hp g hg)

theorem AssignedFrom.head {key : Handle → String} {known : String → Prop} {c : Statement}
    {p : List Statement} (h : AssignedFrom key known (c :: p)) : ∀ g ∈ c.reads, known (key g) := by
  intro g hg
  rcases h [] c p rfl g hg with hk | ⟨d, hd, -⟩
  · exact hk
  · cases hd

theorem AssignedFrom.tail {key : Handle → String} {known : String → Prop} {c : Statement}
    {p : List Statement} (h : AssignedFrom key known (c :: p)) :
    AssignedFrom key (fun k => known k ∨ c.Assigns key k) p := by
  rintro pre d post rfl g hg
  rcases h (c :: pre) d post rfl g hg with hk | ⟨a, ha, hassign⟩
  · exact .inl (.inl hk)
  · rcases List.mem_cons.mp ha with rfl | ha
    · exact .inl (.inr hassign)
    · exact .inr ⟨a, ha, hassign⟩

theorem AssignedFrom.cons {key : Handle → String} {known : String → Prop} {c : Statement}
    {p : List Statement} (hc : ∀ g ∈ c.reads, known (key g))
    (hp : AssignedFrom key (fun k => known k ∨ c.Assigns key k) p) :
    AssignedFrom key known (c :: p) := by
  rintro (_ | ⟨b, pre⟩) d post h g hg
  · cases h
    exact .inl (hc g hg)
  · obtain ⟨rfl, rfl⟩ := List.cons.inj h
    rcases hp pre d post rfl g hg with (hk | hassign) | ⟨a, ha, hassign⟩
    · exact .inl hk
    · exact .inr ⟨c, List.mem_cons_self, hassign⟩
    · exact .inr ⟨a, List.mem_cons_of_mem _ ha, hassign⟩

theorem AssignedFrom.first {key : Handle → String} {p : List Statement}
    (h : AssignedFrom key (fun _ => False) p) : AssignedFirst key p :=
  fun pre c post hp g hg => (h pre c post hp g hg).resolve_left id

end StraightLine.Source

namespace StraightLine.Code

open StraightLine.Source StraightLine.Range

/-! ## Defined variables -/

/-- The variable is known, or it is a destination of the code. -/
def Defines (known : Var → Prop) (is : List Instr) (v : Var) : Prop :=
  known v ∨ ∃ i ∈ is, i.dst = v

/-- Each instruction reads variables that are known or that are destinations in front of it. -/
def Grounded (known : Var → Prop) : List Instr → Prop
  | [] => True
  | i :: is => (∀ v ∈ i.reads, known v) ∧ Grounded (Defines known [i]) is

theorem Defines.mono {known known' : Var → Prop} (hk : ∀ v, known v → known' v) {is : List Instr}
    {v : Var} (h : Defines known is v) : Defines known' is v :=
  h.imp_left (hk v)

theorem defines_append {known : Var → Prop} {xs ys : List Instr} {v : Var} :
    Defines known (xs ++ ys) v ↔ Defines (Defines known xs) ys v := by
  simp only [Defines, List.mem_append, or_and_right, exists_or, or_assoc]

theorem Grounded.mono {known known' : Var → Prop} (hk : ∀ v, known v → known' v) {is : List Instr}
    (h : Grounded known is) : Grounded known' is := by
  induction is generalizing known known' with
  | nil => trivial
  | cons i is ih => exact ⟨fun v hv => hk v (h.1 v hv), ih (fun v hv => hv.mono hk) h.2⟩

theorem Grounded.append {known : Var → Prop} {xs ys : List Instr} (hx : Grounded known xs)
    (hy : Grounded (Defines known xs) ys) : Grounded known (xs ++ ys) := by
  induction xs generalizing known with
  | nil => exact hy.mono fun v hv => hv.elim id fun ⟨i, hi, _⟩ => nomatch hi
  | cons i xs ih =>
    refine ⟨hx.1, ih hx.2 (hy.mono fun v hv => ?_)⟩
    rw [← List.singleton_append, defines_append] at hv
    exact hv

theorem Grounded.left {known : Var → Prop} {xs ys : List Instr} (h : Grounded known (xs ++ ys)) :
    Grounded known xs := by
  induction xs generalizing known with
  | nil => trivial
  | cons i xs ih => exact ⟨h.1, ih h.2⟩

theorem Grounded.reads {known : Var → Prop} {pre post : List Instr} {i : Instr}
    (h : Grounded known (pre ++ i :: post)) : ∀ v ∈ i.reads, Defines known pre v := by
  induction pre generalizing known with
  | nil => exact fun v hv => .inl (h.1 v hv)
  | cons j pre ih =>
    intro v hv
    rw [← List.singleton_append, defines_append]
    exact ih h.2 v hv

/-! ## Expressions -/

section

variable {key : Handle → String} {resolve : Resolver} {s : Session}

/-- Expressions mark names as read and change nothing else about them. -/
theorem find?_lowerTree (key : Handle → String) (e : Expr) {k : String} {ns : NameState}
    (h : s.find? k = some ns) :
    ∃ r, (lowerTree key e s).2.find? k = some { ns with read := ns.read || r } := by
  induction e generalizing s ns with
  | number g => exact ⟨false, by rw [Bool.or_false]; exact h⟩
  | name g =>
    simp only [lowerTree, Session.afterRead, Session.find?_put, Session.nameAt]
    split
    · rename_i hk
      subst hk
      exact ⟨true, by rw [h, Bool.or_true]; rfl⟩
    · exact ⟨false, by rw [Bool.or_false]; exact h⟩
  | binary op mark left right ihl ihr =>
    obtain ⟨r₁, h₁⟩ := ihl h
    obtain ⟨r₂, h₂⟩ := ihr h₁
    exact ⟨r₁ || r₂, by rw [← Bool.or_assoc]; exact h₂⟩

/-- Names that were known stay known, but for being read. -/
def Session.Kept (s t : Session) : Prop :=
  ∀ k ns, s.find? k = some ns → ∃ r, t.find? k = some { ns with read := ns.read || r }

theorem Session.Kept.refl (s : Session) : s.Kept s :=
  fun _ ns h => ⟨false, by rw [Bool.or_false]; exact h⟩

theorem Session.Kept.trans {t u : Session} (h : s.Kept t) (h' : t.Kept u) : s.Kept u := by
  intro k ns hk
  obtain ⟨r, hr⟩ := h k ns hk
  obtain ⟨r', hr'⟩ := h' k _ hr
  exact ⟨r || r', by rw [← Bool.or_assoc]; exact hr'⟩

theorem kept_lowerTree (key : Handle → String) (e : Expr) : s.Kept (lowerTree key e s).2 :=
  fun _ _ h => find?_lowerTree key e h

/-- If its names are found in known variables, an expression reads known variables and what it has
defined itself, and its value is in one of these. -/
theorem grounded_of_nameAt {known : Var → Prop} (e : Expr)
    (hk : ∀ t : Session, s.Kept t → ∀ g ∈ e.names, known (t.nameAt key g).var) :
    Grounded known (lowerTree key e s).1.instrs ∧
      ∀ v, (lowerTree key e s).1.operand = .var v →
        Defines known (lowerTree key e s).1.instrs v := by
  induction e generalizing s with
  | number g => exact ⟨trivial, nofun⟩
  | name g =>
    refine ⟨trivial, fun v h => ?_⟩
    cases h
    exact .inl (hk s (.refl s) g (by simp [Expr.names]))
  | binary op mark left right ihl ihr =>
    simp only [Expr.names, List.mem_append] at hk
    obtain ⟨hl, hlo⟩ := ihl fun t ht g hg => hk t ht g (.inl hg)
    obtain ⟨hr, hro⟩ := ihr (s := (lowerTree key left s).2) fun t ht g hg =>
      hk t ((kept_lowerTree key left).trans ht) g (.inr hg)
    refine ⟨(hl.append (hr.mono fun v hv => .inl hv)).append ⟨fun v hv => ?_, trivial⟩, ?_⟩
    · rw [defines_append]
      rcases Instr.mem_reads.mp hv with h | ⟨op, h⟩
      · exact .inl (hlo v h)
      · have ho : (lowerTree key right (lowerTree key left s).2).1.operand = .var v :=
          congrArg Prod.snd (Option.some.inj h)
        exact (hro v ho).mono fun v hv => .inl hv
    · intro v h
      cases h
      exact .inr ⟨_, List.mem_append_right _ (List.mem_singleton_self _), rfl⟩

/-- An expression over defined names reads defined variables, and its value is in a defined one. -/
theorem grounded_lowerTree {known : Var → Prop} (e : Expr)
    (hk : ∀ g ∈ e.names, ∃ ns, s.find? (key g) = some ns ∧ known ns.var) :
    Grounded known (lowerTree key e s).1.instrs ∧
      ∀ v, (lowerTree key e s).1.operand = .var v →
        Defines known (lowerTree key e s).1.instrs v := by
  refine grounded_of_nameAt e fun t ht g hg => ?_
  obtain ⟨ns, hns, hv⟩ := hk g hg
  obtain ⟨r, hr⟩ := ht _ ns hns
  rw [Session.nameAt, hr]
  exact hv

/-- The variable of an operand is a temporary, or it is present for a name that counts as read. -/
theorem operand_read (e : Expr) {v : Var} (hv : (lowerTree key e s).1.operand = .var v) :
    TempWithin s.temps (s.temps + e.operators) v ∨
      ∃ k ns, (lowerTree key e s).2.find? k = some ns ∧ ns.read = true ∧ v = ns.var := by
  cases e with
  | number g => cases hv
  | name g =>
    cases hv
    exact .inr ⟨key g, _, Session.find?_put_self _ _ _, rfl, rfl⟩
  | binary op mark left right =>
    rcases operand_lowerTree key (.binary op mark left right) s hv with ⟨g, n, rfl⟩ | ht
    · cases Operand.var.inj hv
    · exact .inl ht

/-- What the last instruction of an expression reads. -/
theorem reads_last (e : Expr) {dst v : Var} (hv : v ∈ ((lowerTree key e s).1.last dst).reads) :
    TempWithin s.temps (s.temps + (e.operators - 1)) v ∨
      ∃ k ns, (lowerTree key e s).2.find? k = some ns ∧ ns.read = true ∧ v = ns.var := by
  cases e with
  | number g => cases hv
  | name g =>
    cases List.mem_singleton.mp hv
    exact .inr ⟨key g, _, Session.find?_put_self _ _ _, rfl, rfl⟩
  | binary op mark left right =>
    have hs := temps_lowerTree key left s
    rcases Instr.mem_reads.mp hv with h | ⟨op, h⟩
    · rcases operand_read left h with ht | ⟨k, ns, hf, hr, rfl⟩
      · exact .inl (ht.mono (Nat.le_refl _) (by simp only [Expr.operators]; omega))
      · -- a name that counts as read keeps its state
        obtain ⟨r, hfr⟩ := find?_lowerTree key right hf
        rw [hr, Bool.true_or, ← hr] at hfr
        exact .inr ⟨k, ns, hfr, hr, rfl⟩
    · rcases operand_read right (congrArg Prod.snd (Option.some.inj h)) with ht | hn
      · exact .inl (ht.mono (by omega) (by simp only [Expr.operators]; omega))
      · exact .inr hn

/-- No instruction of an expression reads its own destination. -/
theorem dst_not_mem_reads (e : Expr) (hb : s.temps + e.operators < positions) :
    ∀ i ∈ (lowerTree key e s).1.instrs, i.dst ∉ i.reads := by
  induction e generalizing s with
  | number g => simp [lowerTree, Lowered.instrs]
  | name g => simp [lowerTree, Lowered.instrs]
  | binary op mark left right ihl ihr =>
    have hs := temps_lowerTree key left s
    simp only [Expr.operators] at hb
    intro i hi
    simp only [lowerTree, Lowered.instrs, List.mem_append, List.mem_singleton] at hi
    rcases hi with (hi | hi) | rfl
    · exact ihl (by omega) i hi
    · exact ihr (by omega) i hi
    · intro hv
      have hdst : TempWithin (s.temps + (left.operators + right.operators))
          (s.temps + (left.operators + right.operators + 1))
          (.temp (Int64.ofNat ((lowerTree key right (lowerTree key left s).2).2.temps + 1))) :=
        ⟨_, by rw [temps_lowerTree, hs]; omega, by rw [temps_lowerTree, hs]; omega, rfl⟩
      rcases reads_last (.binary op mark left right) hv with ht | ⟨k, ns, -, -, hv⟩
      · exact ht.ne hdst (by simp only [Expr.operators]; omega) hb rfl
      · exact hdst.ne_named _ _ hv

def NumbersRead (resolve : Resolver) (nodes : List Node) : Prop :=
  ∀ h, Node.number h ∈ nodes → ∃ n, Text.Decimal.read (resolve h) = .ok n

theorem readable_operand {e : Expr} (hnum : NumbersRead resolve e.nodes) :
    (lowerTree key e s).1.operand.Readable resolve := by
  cases e with
  | number g => exact hnum g (by simp [Expr.nodes])
  | name g => trivial
  | binary op mark left right => trivial

theorem known_ofArith (op : Arith) : (Operator.ofArith op).Known := by
  cases op <;> trivial

theorem NumbersRead.append {xs ys : List Node} (h : NumbersRead resolve (xs ++ ys)) :
    NumbersRead resolve xs ∧ NumbersRead resolve ys :=
  ⟨fun g hg => h g (List.mem_append_left _ hg), fun g hg => h g (List.mem_append_right _ hg)⟩

theorem NumbersRead.binary {op : Arith} {mark : Handle} {left right : Expr}
    (h : NumbersRead resolve (Expr.binary op mark left right).nodes) :
    NumbersRead resolve left.nodes ∧ NumbersRead resolve right.nodes :=
  NumbersRead.append fun g hg => h g (List.mem_cons_of_mem _ hg)

theorem NumbersRead.assign {mark target : Handle} {value : Expr}
    (h : NumbersRead resolve (Statement.assign mark target value).nodes) :
    NumbersRead resolve value.nodes :=
  fun g hg => h g (List.mem_cons_of_mem _ (List.mem_cons_of_mem _ hg))

/-- The instruction with the value of an expression can be read wherever the value is put. -/
theorem readable_last {e : Expr} (hnum : NumbersRead resolve e.nodes) (dst : Var) :
    ((lowerTree key e s).1.last dst).Readable resolve := by
  cases e with
  | number g => exact ⟨hnum g (by simp [Expr.nodes]), fun _ _ h => by cases h⟩
  | name g => exact ⟨trivial, fun _ _ h => by cases h⟩
  | binary op mark left right =>
    refine ⟨readable_operand hnum.binary.1, fun o r hr => ?_⟩
    cases hr
    exact ⟨known_ofArith op, readable_operand hnum.binary.2⟩

theorem readable_instrs {e : Expr} (hnum : NumbersRead resolve e.nodes) :
    ∀ i ∈ (lowerTree key e s).1.instrs, i.Readable resolve := by
  induction e generalizing s with
  | number g => simp [lowerTree, Lowered.instrs]
  | name g => simp [lowerTree, Lowered.instrs]
  | binary op mark left right ihl ihr =>
    intro i hi
    simp only [lowerTree, Lowered.instrs, List.mem_append, List.mem_singleton] at hi
    rcases hi with (hi | hi) | rfl
    · exact ihl hnum.binary.1 i hi
    · exact ihr hnum.binary.2 i hi
    · exact readable_last hnum _

/-! ## Statements and programs -/

/-- A name that counts as read gets another variable when it is written. -/
theorem rewritten_ne_of_read (hs : s.Keyed key) (g : Handle) {k : String} {ns : NameState}
    (hf : s.find? k = some ns) (hr : ns.read = true) (hb : ns.version + 1 < positions) :
    (s.rewritten key g).var ≠ ns.var := by
  intro he
  by_cases hk : k = key g
  · subst hk
    have hv : Int64.ofNat (ns.version + 1) = Int64.ofNat ns.version := by
      have := congrArg Var.version he
      simp only [Session.rewritten, hf, hr, if_true] at this
      exact this
    have := ofNat_position_inj hb (by omega) hv
    omega
  · have hh : (s.rewritten key g).handle = ns.handle := congrArg Var.handle he
    exact hk (by rw [← hs k ns hf, ← hh, hs.rewritten])

/-- An instruction that the back end can translate by itself. -/
structure Instr.Proper (resolve : Resolver) (i : Instr) : Prop where
  readable : i.Readable resolve
  apart : i.dst ∉ i.reads

theorem Lowered.length_into (l : Lowered) (dst : Var) :
    (l.into dst).length ≤ l.instrs.length + 1 := by
  cases l with
  | leaf v => exact Nat.le_refl 1
  | code body last =>
    simp only [Lowered.into, Lowered.body, Lowered.instrs, List.length_append,
      List.length_singleton]
    omega

theorem proper_lowerStatement {n : Nat} (hs : s.Keyed key) (hw : s.Within n) (c : Statement)
    (hn : n + c.nodes.length < positions) (hnum : NumbersRead resolve c.nodes) :
    ∀ i ∈ (lowerStatement key c s).1, i.Proper resolve := by
  have htemps := hw.temps_le
  cases c with
  | scopeOpen mark => nofun
  | scopeEnd mark => nofun
  | bare e =>
    have hl := e.length_nodes
    simp only [Statement.nodes] at hn
    exact fun i hi => ⟨readable_instrs hnum i hi, dst_not_mem_reads e (by omega) i hi⟩
  | assign mark target value =>
    have hl := value.length_nodes
    simp only [Statement.nodes, List.length_cons] at hn
    have hw' := hw.lowerTree key value
    intro i hi
    rcases List.mem_append.mp hi with hi | hi
    · have hi := Lowered.body_subset _ hi
      exact ⟨readable_instrs hnum.assign i hi, dst_not_mem_reads value (by omega) i hi⟩
    · cases List.mem_singleton.mp hi
      refine ⟨readable_last hnum.assign _, fun hv => ?_⟩
      rw [Lowered.dst_last] at hv
      rcases reads_last value hv with ht | ⟨k, ns, hf, hr, hv⟩
      · exact ht.ne_named _ _ rfl
      · have := hw'.version_le k ns hf
        exact rewritten_ne_of_read (hs.lowerTree value) target hf hr (by omega) hv

/-- The present variables of the assigned names are known. -/
def Session.Written (assigned : String → Prop) (known : Var → Prop) (s : Session) : Prop :=
  ∀ k, assigned k → ∃ ns, s.find? k = some ns ∧ known ns.var

section

variable {assigned : String → Prop} {known : Var → Prop}

theorem Session.Written.lowerTree (h : s.Written assigned known) (key : Handle → String) (e : Expr) :
    (Code.lowerTree key e s).2.Written assigned known := by
  intro k hk
  obtain ⟨ns, hns, hv⟩ := h k hk
  obtain ⟨r, hr⟩ := find?_lowerTree key e hns
  exact ⟨_, hr, hv⟩

theorem Lowered.grounded_into {l : Lowered} (h : Grounded known l.instrs)
    (ho : ∀ v, l.operand = .var v → Defines known l.instrs v) (dst : Var) :
    Grounded known (l.into dst) := by
  cases l with
  | leaf v =>
    refine ⟨fun w hw => ?_, trivial⟩
    rcases Instr.mem_reads.mp hw with hv | ⟨op, hv⟩
    · exact (ho w hv).elim id fun ⟨i, hi, _⟩ => nomatch hi
    · cases hv
  | code body last => exact Grounded.append h.left ⟨h.reads, trivial⟩

/-- A statement that reads assigned names reads defined variables. -/
theorem Session.Written.grounded (h : s.Written assigned known) (c : Statement)
    (hc : ∀ g ∈ c.reads, assigned (key g)) : Grounded known (Code.lowerStatement key c s).1 := by
  cases c with
  | scopeOpen mark => trivial
  | scopeEnd mark => trivial
  | assign mark target value =>
    obtain ⟨hg, ho⟩ := grounded_lowerTree value fun g hg => h (key g) (hc g hg)
    exact Lowered.grounded_into hg ho _
  | bare e =>
    cases e with
    | number g => trivial
    | name g => trivial
    | binary op mark left right =>
      exact (grounded_lowerTree (.binary op mark left right) fun g hg => h (key g) (hc g hg)).1

/-- Behind a statement the present variables of the names assigned so far are defined. -/
theorem Session.Written.lowerStatement (h : s.Written assigned known) (key : Handle → String)
    (c : Statement) :
    (Code.lowerStatement key c s).2.Written (fun k => assigned k ∨ c.Assigns key k)
      (Defines known (Code.lowerStatement key c s).1) := by
  have hkeep : ∀ {t : Session} {is : List Instr}, t.Written assigned known →
      (∀ k, ¬ c.Assigns key k) → t.Written (fun k => assigned k ∨ c.Assigns key k)
        (Defines known is) := by
    intro t is ht hno k hk
    obtain ⟨ns, hns, hv⟩ := ht k (hk.resolve_right (hno k))
    exact ⟨ns, hns, .inl hv⟩
  cases c with
  | scopeOpen mark => exact hkeep h nofun
  | scopeEnd mark => exact hkeep h nofun
  | bare e => exact hkeep (h.lowerTree key e) nofun
  | assign mark target value =>
    intro k hk
    simp only [Code.lowerStatement, find?_releaseFor, Session.afterWrite, Session.find?_put]
    split
    · refine ⟨_, rfl, .inr ⟨_, List.mem_append_right _ (List.mem_singleton_self _), ?_⟩⟩
      exact Lowered.dst_last _ _
    · rename_i hne
      rcases hk with hk | ⟨mark', target', value', heq, rfl⟩
      · obtain ⟨ns, hns, hv⟩ := h.lowerTree key value k hk
        exact ⟨ns, hns, .inl hv⟩
      · cases heq
        exact absurd rfl hne

end

/-- All code of a program is proper. -/
theorem proper_lowerStatements {n : Nat} (hs : s.Keyed key) (hw : s.Within n) (p : List Statement)
    (hn : n + (spell p).length < positions) (hnum : NumbersRead resolve (spell p)) :
    ∀ i ∈ (lowerStatements key p s).1, i.Proper resolve := by
  induction p generalizing s n with
  | nil => nofun
  | cons c p ih =>
    rw [spell_cons, List.length_append] at hn
    rw [spell_cons] at hnum
    have hproper := proper_lowerStatement hs hw c (by omega) hnum.append.1
    have hrest := ih (hs.lowerStatement c) (hw.lowerStatement key c) (by omega) hnum.append.2
    exact fun i hi => (List.mem_append.mp hi).elim (hproper i) (hrest i)

/-- Code is proper but for its literals: it is proper for texts that are all numbers. -/
theorem proper_start (key : Handle → String) {p : List Statement} (hn : (spell p).length < positions) :
    ∀ i ∈ (lowerStatements key p (.start [])).1, i.Proper fun _ => "0" := by
  have hread : NumbersRead (fun _ => "0") (spell p) := fun _ _ => ⟨0, by cbv⟩
  exact proper_lowerStatements (tracks_start key []).keyed (within_start []) p (by omega) hread

/-- Code of a program that reads assigned names defines variables before it reads them. -/
theorem grounded_lowerStatements {assigned : String → Prop} {known : Var → Prop}
    (hwritten : s.Written assigned known) (p : List Statement) (hp : AssignedFrom key assigned p) :
    Grounded known (lowerStatements key p s).1 := by
  induction p generalizing s assigned known with
  | nil => trivial
  | cons c p ih =>
    exact (hwritten.grounded c hp.head).append (ih (hwritten.lowerStatement key c) hp.tail)

theorem length_lowerStatements (key : Handle → String) (p : List Statement) (s : Session) :
    (lowerStatements key p s).1.length ≤ (spell p).length := by
  induction p generalizing s with
  | nil => exact Nat.le_refl 0
  | cons c p ih =>
    have hc : (lowerStatement key c s).1.length ≤ c.nodes.length := by
      cases c with
      | scopeOpen mark => exact Nat.zero_le _
      | scopeEnd mark => exact Nat.zero_le _
      | bare e =>
        have hl := e.length_nodes
        have := length_instrs_lowerTree key e s
        simp only [lowerStatement, Statement.nodes]
        omega
      | assign mark target value =>
        have hl := value.length_nodes
        have hlen := length_instrs_lowerTree key value s
        have hinto := (lowerTree key value s).1.length_into
          ((lowerTree key value s).2.rewritten key target).var
        simp only [lowerStatement, Statement.nodes, List.length_cons]
        omega
    have := ih (lowerStatement key c s).2
    rw [spell_cons, lowerStatements, List.length_append, List.length_append]
    omega

/-- Every variable of grounded code is a destination. -/
theorem Grounded.exists_dst {code : List Instr} (h : Grounded (fun _ => False) code) {i : Instr}
    (hi : i ∈ code) {v : Var} (hv : v ∈ i.vars) : ∃ j ∈ code, j.dst = v := by
  rcases List.mem_cons.mp (Instr.vars_eq i ▸ hv) with rfl | hv
  · exact ⟨i, hi, rfl⟩
  · obtain ⟨pre, post, rfl⟩ := List.append_of_mem hi
    rcases h.reads v hv with hf | ⟨j, hj, hd⟩
    · exact hf.elim
    · exact ⟨j, List.mem_append_left _ hj, hd⟩

/-- There are not more variables than instructions. -/
theorem Grounded.size_analyze_le {code : List Instr} (h : Grounded (fun _ => False) code)
    (hs : code.length < positions) : (Ranges.analyze code).size ≤ code.length := by
  have hsub : ∀ i ∈ code, i.vars ⊆ code.map (·.dst) := by
    intro i hi v hv
    obtain ⟨j, hj, hd⟩ := h.exists_dst hi hv
    exact List.mem_map.mpr ⟨j, hj, hd⟩
  have hsize := Ranges.size_analyze_le hs hsub
  rwa [List.length_map] at hsize

/-- In grounded code the first instruction that touches a variable defines it. -/
theorem Grounded.definedFirst {code : List Instr} (h : Grounded (fun _ => False) code) :
    Lockstep.DefinedFirst code := by
  rintro pre i post rfl v hv hfirst
  have hreads : v ∉ i.reads := by
    intro hr
    rcases h.reads v hr with hf | ⟨j, hj, rfl⟩
    · exact hf
    · exact hfirst j hj (by simp [Instr.vars_eq])
  exact ⟨((List.mem_cons.mp (Instr.vars_eq i ▸ hv)).resolve_right hreads).symm, hreads⟩

/-- The back end translates the code of every program that assigns its names before it reads
them. -/
theorem translatable_lowerStatements {p : List Statement} (hn : (spell p).length < UInt32.size)
    (hnum : NumbersRead resolve (spell p)) (hp : AssignedFirst key p) :
    Lockstep.Translatable resolve (lowerStatements key p (.start [])).1 := by
  have hlen := length_lowerStatements key p (.start [])
  have hpos : UInt32.size < positions := by decide
  have hwritten : (Session.start []).Written (fun _ => False) fun _ => False := nofun
  have hproper := proper_lowerStatements (tracks_start key []).keyed (within_start []) p (by omega)
    hnum
  have hgrounded := grounded_lowerStatements hwritten p hp.from
  refine ⟨by omega, ?_, fun i hi => (hproper i hi).readable, hgrounded.definedFirst, ?_⟩
  · have := hgrounded.size_analyze_le (by omega)
    omega
  · intro i hi op hright
    exact absurd (Instr.mem_reads.mpr (.inr ⟨op, hright⟩)) (hproper i hi).apart

end

end StraightLine.Code
