import StraightLine.Proofs.CompileCorrect
import StraightLine.Proofs.SampleBytes

/-! Samples compile and run, whatever bytes they are made of. The words of a sample are those of a small
grammar: expressions of digits, of names that were assigned, and of divisions by digits from one to
nine. Words of this grammar are read back as statements, and all that the back end asks of a program can
be told from the grammar. -/

namespace StraightLine.Sample

open StraightLine.Source

/-! ## The words of a sample -/

/-- The words of an expression that reads known names. -/
inductive ExprWords (known : String → Prop) : List String → Prop
  | name {w : String} (ht : w ∈ targets) (hk : known w) : ExprWords known [w]
  | digit {n : Nat} (hn : n < 10) : ExprWords known [toString n]
  | operation {w : String} {xs ys : List String} (hw : w ∈ ["+", "-", "*"])
      (hx : ExprWords known xs) (hy : ExprWords known ys) : ExprWords known (w :: (xs ++ ys))
  | quotient {xs : List String} {n : Nat} (hx : ExprWords known xs) (hn : n < 9) :
      ExprWords known ("/" :: (xs ++ [toString (n + 1)]))

/-- The words of statements in front of which some names are known. An assignment makes its target
known. -/
inductive ProgramWords : (String → Prop) → List String → Prop
  | done {known : String → Prop} : ProgramWords known []
  | marker {known : String → Prop} {w : String} {ws : List String} (hw : w ∈ ["\x7b", "\x7d"])
      (h : ProgramWords known ws) : ProgramWords known (w :: ws)
  | bare {known : String → Prop} {xs ws : List String} (hx : ExprWords known xs)
      (h : ProgramWords known ws) : ProgramWords known (xs ++ ws)
  | assign {known known' : String → Prop} {t : String} {xs ws : List String} (ht : t ∈ targets)
      (hx : ExprWords known xs) (hk : ∀ w, known' w → known w ∨ w = t) (h : ProgramWords known' ws) :
      ProgramWords known ("=" :: t :: (xs ++ ws))

section

variable {names : List String} {ws : List String}

theorem LeafByte.exprWords {b : UInt8} {w : String} (h : LeafByte names b w) (hn : names ⊆ targets) :
    ExprWords (· ∈ names) [w] := by
  cases h with
  | name hb hw =>
    have hmem := List.mem_of_getElem? hw
    exact .name (hn hmem) hmem
  | digit hb => exact .digit (Nat.mod_lt _ (by decide))

/-- Bytes of an expression stand for the words of one. They are fewer than the nodes of a full tree of
this depth and one more. -/
theorem ExprBytes.exprWords {depth : Nat} {bs : List UInt8} (h : ExprBytes names depth bs ws)
    (hn : names ⊆ targets) : ExprWords (· ∈ names) ws ∧ ws.length < 2 ^ (depth + 1) := by
  induction h with
  | leaf ha hb => exact ⟨hb.exprWords hn, Nat.one_lt_two_pow (Nat.succ_ne_zero _)⟩
  | operation ha hw hx hy ihx ihy =>
    obtain ⟨hxs, hxl⟩ := ihx
    obtain ⟨hys, hyl⟩ := ihy
    refine ⟨.operation (List.mem_of_getElem? hw) hxs hys, ?_⟩
    rw [List.length_cons, List.length_append, Nat.pow_succ]
    omega
  | @quotient depth a c bs xs ha hq hx ih =>
    obtain ⟨hxs, hxl⟩ := ih
    have hpos : 0 < 2 ^ (depth + 1) := Nat.two_pow_pos _
    refine ⟨.quotient hxs (Nat.mod_lt _ (by decide)), ?_⟩
    rw [List.length_cons, List.length_append, List.length_singleton, Nat.pow_succ]
    omega

/-- Bytes of a statement stand for a few words, which may stand in front of those of statements. -/
theorem StatementBytes.programWords {names' : List String} {bs : List UInt8}
    (h : StatementBytes names bs ws names') (hn : names ⊆ targets) :
    names' ⊆ targets ∧ ws.length ≤ 17 ∧
      ∀ rest, ProgramWords (· ∈ names') rest → ProgramWords (· ∈ names) (ws ++ rest) := by
  cases h with
  | opening hb => exact ⟨hn, by simp, fun rest hrest => .marker (by simp) hrest⟩
  | closing hb => exact ⟨hn, by simp, fun rest hrest => .marker (by simp) hrest⟩
  | bare hb h =>
    obtain ⟨hwords, hlen⟩ := h.exprWords hn
    exact ⟨hn, by omega, fun rest hrest => .bare hwords hrest⟩
  | @assign b bs t ws hb ht h =>
    obtain ⟨hwords, hlen⟩ := h.exprWords hn
    have ht := List.mem_of_getElem? ht
    have hknown : ∀ w, w ∈ (if t ∈ names then names else names ++ [t]) → w ∈ names ∨ w = t := by
      intro w hw
      split at hw
      · exact .inl hw
      · rwa [List.mem_append, List.mem_singleton] at hw
    refine ⟨fun w hw => ?_, ?_, fun rest hrest => .assign ht hwords hknown hrest⟩
    · rcases hknown w hw with hw | rfl
      · exact hn hw
      · exact ht
    · simp only [List.length_cons]
      omega

theorem ProgramBytes.programWords {n : Nat} {l : List UInt8} (h : ProgramBytes n names l ws)
    (hn : names ⊆ targets) : ProgramWords (· ∈ names) ws ∧ ws.length ≤ 17 * n := by
  induction h with
  | full => exact ⟨.done, Nat.zero_le _⟩
  | done => exact ⟨.done, Nat.zero_le _⟩
  | cons hl hs hstart h ih =>
    obtain ⟨hn', hshort, hprogram⟩ := hs.programWords hn
    obtain ⟨hwords, hlen⟩ := ih hn'
    refine ⟨hprogram _ hwords, ?_⟩
    rw [List.length_append]
    omega

end

end StraightLine.Sample

namespace StraightLine.Source

open StraightLine.Code (NumbersRead)

/-! ## Words that are read back -/

/-- The nodes of words that stand from a position on. -/
def nodesFrom (k : Nat) : List String → List Node
  | [] => []
  | w :: ws => nodeOfWord (UInt32.ofNat k) w :: nodesFrom (k + 1) ws

theorem nodesFrom_append (k : Nat) (xs ys : List String) :
    nodesFrom k (xs ++ ys) = nodesFrom k xs ++ nodesFrom (k + xs.length) ys := by
  induction xs generalizing k with
  | nil => rfl
  | cons x xs ih =>
    rw [List.cons_append, nodesFrom, nodesFrom, ih, List.cons_append, List.length_cons,
      Nat.add_assoc, Nat.add_comm 1]

theorem nodesOfWords_eq (words : List String) : nodesOfWords words = nodesFrom 0 words := by
  have hall : ∀ k, words.mapIdx (fun i w => nodeOfWord (UInt32.ofNat (k + i)) w) =
      nodesFrom k words := by
    induction words with
    | nil => exact fun _ => rfl
    | cons w ws ih =>
      intro k
      rw [List.mapIdx_cons, nodesFrom, ← ih (k + 1)]
      simp only [Nat.add_zero, Nat.add_assoc, Nat.add_comm 1]
  simpa [nodesOfWords] using hall 0

theorem length_nodesFrom (k : Nat) (ws : List String) : (nodesFrom k ws).length = ws.length := by
  induction ws generalizing k with
  | nil => rfl
  | cons w ws ih => rw [nodesFrom, List.length_cons, List.length_cons, ih]

/-- The texts from a position on are these words. -/
def SpelledFrom (resolve : Resolver) (k : Nat) : List String → Prop
  | [] => True
  | w :: ws => resolve (UInt32.ofNat k) = w ∧ SpelledFrom resolve (k + 1) ws

theorem SpelledFrom.append {resolve : Resolver} {k : Nat} {xs ys : List String}
    (h : SpelledFrom resolve k (xs ++ ys)) :
    SpelledFrom resolve k xs ∧ SpelledFrom resolve (k + xs.length) ys := by
  induction xs generalizing k with
  | nil => exact ⟨trivial, h⟩
  | cons x xs ih =>
    obtain ⟨hx, hxs⟩ := h
    obtain ⟨hxs, hys⟩ := ih hxs
    rw [List.length_cons, Nat.add_comm xs.length, ← Nat.add_assoc]
    exact ⟨⟨hx, hxs⟩, hys⟩

theorem spelledFrom_resolveWords (pre : List String) {ws : List String}
    (hlen : (pre ++ ws).length ≤ UInt32.size) :
    SpelledFrom (resolveWords (pre ++ ws)) pre.length ws := by
  induction ws generalizing pre with
  | nil => trivial
  | cons w ws ih =>
    have hrest : SpelledFrom (resolveWords (pre ++ [w] ++ ws)) (pre ++ [w]).length ws :=
      ih (pre ++ [w]) (by rwa [← List.append_cons])
    rw [← List.append_cons, List.length_append] at hrest
    refine ⟨?_, hrest⟩
    rw [List.length_append, List.length_cons] at hlen
    rw [resolveWords, UInt32.toNat_ofNat_of_lt' (by omega), List.getElem?_append_right (Nat.le_refl _),
      Nat.sub_self]
    rfl

/-- No word declares anything. -/
theorem declared_nodeOfWord (h : Handle) (w : String) : (nodeOfWord h w).kind.declared = none := by
  unfold nodeOfWord
  repeat' split
  all_goals rfl

theorem strip_nodesFrom (k : Nat) (ws : List String) : strip (nodesFrom k ws) = nodesFrom k ws := by
  unfold strip
  induction ws generalizing k with
  | nil => rfl
  | cons w ws ih => simp only [nodesFrom, stripFrom, declared_nodeOfWord, ih]

theorem nodeOfWord_target {w : String} (hw : w ∈ Sample.targets) (h : Handle) :
    nodeOfWord h w = .identifier h := by
  simp only [Sample.targets, List.mem_cons, List.not_mem_nil, or_false] at hw
  rcases hw with rfl | rfl | rfl | rfl | rfl <;> rfl

theorem nodeOfWord_digit {n : Nat} (hn : n < 10) (h : Handle) :
    nodeOfWord h (toString n) = .number h := by
  interval_cases n <;> rfl

theorem read_digit {n : Nat} (hn : n < 10) :
    Text.Decimal.read (toString n) = .ok (Int64.ofNat n) := by
  interval_cases n <;> cbv

/-! ## Well-made programs -/

/-- Every division is by a number from one to nine. -/
def Expr.DigitDivisors (resolve : Resolver) : Expr → Prop
  | number _ | name _ => True
  | binary op _ left right => left.DigitDivisors resolve ∧ right.DigitDivisors resolve ∧
      (op = .div → ∃ h n, right = .number h ∧ Text.Decimal.read (resolve h) = .ok n ∧ 1 ≤ n ∧ n ≤ 9)

/-- The expression in a statement, also if it is a leaf that stands alone. -/
def Statement.exprs : Statement → List Expr
  | scopeOpen _ | scopeEnd _ => []
  | assign _ _ value => [value]
  | bare e => [e]

/-- All names in the expression are known, its numbers can be read, and it divides by digits. -/
structure Expr.WellMade (resolve : Resolver) (known : String → Prop) (e : Expr) : Prop where
  names : ∀ h ∈ e.names, known (resolve h)
  numbers : NumbersRead resolve e.nodes
  divisors : e.DigitDivisors resolve

/-- All names in expressions are known or are the targets of earlier assignments, all numbers can be
read, and all divisions are by digits. -/
structure WellMade (resolve : Resolver) (known : String → Prop) (p : List Statement) : Prop where
  names : ∀ pre c post, p = pre ++ c :: post → ∀ e ∈ c.exprs, ∀ h ∈ e.names,
    known (resolve h) ∨ ∃ d ∈ pre, d.Assigns resolve (resolve h)
  numbers : NumbersRead resolve (spell p)
  divisors : ∀ c ∈ p, ∀ e ∈ c.exprs, e.DigitDivisors resolve

section

variable {resolve : Resolver} {known : String → Prop}

theorem Expr.WellMade.binary {op : Arith} {mark : Handle} {left right : Expr}
    (hl : left.WellMade resolve known) (hr : right.WellMade resolve known)
    (hdiv : op = .div → ∃ h n, right = .number h ∧ Text.Decimal.read (resolve h) = .ok n ∧
      1 ≤ n ∧ n ≤ 9) : (Expr.binary op mark left right).WellMade resolve known where
  names := fun h hh => (List.mem_append.mp hh).elim (hl.names h) (hr.names h)
  numbers := by
    intro h hh
    rw [Expr.nodes, List.mem_cons, List.mem_append] at hh
    rcases hh with hh | hh | hh
    · cases op <;> cases hh
    · exact hl.numbers h hh
    · exact hr.numbers h hh
  divisors := ⟨hl.divisors, hr.divisors, hdiv⟩

theorem Expr.wellMade_name {h : Handle} (hk : known (resolve h)) :
    (Expr.name h).WellMade resolve known where
  names := by simpa [Expr.names] using hk
  numbers := by simp [NumbersRead, Expr.nodes, Node.number, Node.identifier]
  divisors := trivial

theorem Expr.wellMade_number {h : Handle} {n : Int64}
    (hn : Text.Decimal.read (resolve h) = .ok n) : (Expr.number h).WellMade resolve known where
  names := nofun
  numbers := by simp [NumbersRead, Expr.nodes, Node.number, hn]
  divisors := trivial

theorem WellMade.nil : WellMade resolve known [] where
  names := fun pre c post h => by simp at h
  numbers := nofun
  divisors := nofun

/-- One more statement in front. -/
theorem WellMade.cons {known' : String → Prop} {c : Statement} {p : List Statement}
    (hc : ∀ e ∈ c.exprs, e.WellMade resolve known)
    (hk : ∀ w, known' w → known w ∨ c.Assigns resolve w) (hp : WellMade resolve known' p) :
    WellMade resolve known (c :: p) where
  names := by
    rintro (_ | ⟨b, pre⟩) d post h e he g hg
    · cases h
      exact .inl ((hc e he).names g hg)
    · obtain ⟨rfl, rfl⟩ := List.cons.inj h
      rcases hp.names pre d post rfl e he g hg with hg | ⟨a, ha, hassign⟩
      · exact (hk _ hg).imp_right fun hassign => ⟨c, List.mem_cons_self, hassign⟩
      · exact .inr ⟨a, List.mem_cons_of_mem _ ha, hassign⟩
  numbers := by
    intro g hg
    rw [spell_cons, List.mem_append] at hg
    rcases hg with hg | hg
    · cases c with
      | scopeOpen mark => simp [Statement.nodes, Node.number] at hg
      | scopeEnd mark => simp [Statement.nodes, Node.number] at hg
      | assign mark target value =>
        refine (hc value (List.mem_singleton_self _)).numbers g ?_
        simpa [Statement.nodes, Node.number, Node.identifier] using hg
      | bare e => exact (hc e (List.mem_singleton_self _)).numbers g hg
    · exact hp.numbers g hg
  divisors := by
    intro d hd e he
    rcases List.mem_cons.mp hd with rfl | hd
    · exact (hc e he).divisors
    · exact hp.divisors d hd e he

/-- Names that are not known beforehand are assigned before they are read. -/
theorem WellMade.assignedFirst {p : List Statement} (h : WellMade resolve (fun _ => False) p)
    (norm : String → String) : AssignedFirst (Compile.keyBy norm resolve) p := by
  intro pre c post hp g hg
  have hexpr : ∃ e ∈ c.exprs, g ∈ e.names := by
    cases c with
    | scopeOpen mark => cases hg
    | scopeEnd mark => cases hg
    | assign mark target value => exact ⟨value, List.mem_singleton_self _, hg⟩
    | bare e =>
      rw [Statement.reads] at hg
      split at hg
      · cases hg
      · exact ⟨e, List.mem_singleton_self _, hg⟩
  obtain ⟨e, he, hg⟩ := hexpr
  obtain ⟨d, hd, mark, target, value, rfl, htarget⟩ :=
    (h.names pre c post hp e he g hg).resolve_left id
  exact ⟨_, hd, mark, target, value, rfl, congrArg norm htarget⟩

variable (key : Handle → String)

/-- An expression that divides by digits has a value. -/
theorem Expr.exists_eval {e : Expr} (hnum : NumbersRead resolve e.nodes)
    (hdiv : e.DigitDivisors resolve) (st : Store) : ∃ x, e.eval key resolve st = .ok x := by
  induction e with
  | number h =>
    obtain ⟨n, hn⟩ := hnum h (List.mem_singleton_self _)
    exact ⟨n, by rw [Expr.eval, hn]⟩
  | name h => exact ⟨_, rfl⟩
  | binary op mark left right ihl ihr =>
    obtain ⟨hl, hr, hdigit⟩ := hdiv
    obtain ⟨a, ha⟩ := ihl hnum.binary.1 hl
    obtain ⟨b, hb⟩ := ihr hnum.binary.2 hr
    obtain ⟨c, hc⟩ : ∃ c, op.apply? a b = some c := by
      cases op with
      | add => exact ⟨_, rfl⟩
      | sub => exact ⟨_, rfl⟩
      | mul => exact ⟨_, rfl⟩
      | div =>
        obtain ⟨h, n, rfl, hn, hpos, -⟩ := hdigit rfl
        rw [Expr.eval, hn] at hb
        cases hb
        refine ⟨a / b, if_neg ?_⟩
        rintro rfl
        revert hpos
        decide
    exact ⟨c, by simp only [Expr.eval, ha, hb, bind, Except.bind, hc]⟩

theorem Statement.exists_exec {c : Statement} (hnum : NumbersRead resolve c.nodes)
    (hdiv : ∀ e ∈ c.exprs, e.DigitDivisors resolve) (st : Store) :
    ∃ st', c.exec key resolve st = .ok st' := by
  cases c with
  | scopeOpen mark => exact ⟨st, rfl⟩
  | scopeEnd mark => exact ⟨st, rfl⟩
  | assign mark target value =>
    obtain ⟨x, hx⟩ := Expr.exists_eval key hnum.assign (hdiv value (List.mem_singleton_self _)) st
    exact ⟨_, by simp only [Statement.exec, hx, bind, Except.bind]; rfl⟩
  | bare e =>
    rw [Statement.exec]
    split
    · exact ⟨st, rfl⟩
    · obtain ⟨x, hx⟩ := Expr.exists_eval key hnum (hdiv e (List.mem_singleton_self _)) st
      exact ⟨_, by simp only [hx, bind, Except.bind]; rfl⟩

/-- A well-made program runs to its end. -/
theorem WellMade.exists_exec {p : List Statement} (h : WellMade resolve known p) (st : Store) :
    ∃ st', exec key resolve st p = .ok st' := by
  obtain ⟨-, hnum, hdiv⟩ := h
  induction p generalizing st with
  | nil => exact ⟨st, rfl⟩
  | cons c p ih =>
    rw [spell_cons] at hnum
    obtain ⟨st', hst'⟩ := Statement.exists_exec key hnum.append.1 (hdiv c List.mem_cons_self) st
    obtain ⟨st'', hst''⟩ := ih st' hnum.append.2 fun d hd => hdiv d (List.mem_cons_of_mem _ hd)
    exact ⟨st'', by rw [exec, List.foldlM_cons, hst']; exact hst''⟩

end

end StraightLine.Source

namespace StraightLine.Sample

open StraightLine.Source

variable {resolve : Resolver} {known : String → Prop}

/-- The operators that a sample may use with any right operand. -/
theorem exists_arith {w : String} (hw : w ∈ ["+", "-", "*"]) (h : Handle) :
    ∃ op : Arith, op ≠ .div ∧ nodeOfWord h w = { kind := op.kind } := by
  simp only [List.mem_cons, List.not_mem_nil, or_false] at hw
  rcases hw with rfl | rfl | rfl
  · exact ⟨.add, by decide, rfl⟩
  · exact ⟨.sub, by decide, rfl⟩
  · exact ⟨.mul, by decide, rfl⟩

/-- The words of an expression are read back as an expression that is well made. -/
theorem ExprWords.exists_expr {ws : List String} (h : ExprWords known ws) {k : Nat}
    (hs : SpelledFrom resolve k ws) :
    ∃ e : Expr, nodesFrom k ws = e.nodes ∧ e.WellMade resolve known := by
  induction h generalizing k with
  | name ht hk =>
    refine ⟨.name (UInt32.ofNat k), ?_, Expr.wellMade_name (hs.1 ▸ hk)⟩
    rw [nodesFrom, nodeOfWord_target ht]
    rfl
  | digit hn =>
    refine ⟨.number (UInt32.ofNat k), ?_, Expr.wellMade_number (hs.1 ▸ read_digit hn)⟩
    rw [nodesFrom, nodeOfWord_digit hn]
    rfl
  | operation hw hx hy ihx ihy =>
    obtain ⟨-, hs⟩ := hs
    obtain ⟨hsx, hsy⟩ := hs.append
    obtain ⟨left, hl, hleft⟩ := ihx hsx
    obtain ⟨right, hr, hright⟩ := ihy hsy
    obtain ⟨op, hop, hnode⟩ := exists_arith hw (UInt32.ofNat k)
    refine ⟨.binary op 0 left right, ?_, hleft.binary hright fun hdiv => absurd hdiv hop⟩
    rw [nodesFrom, nodesFrom_append, hl, hr, hnode, Expr.nodes]
  | @quotient xs n hx hn ihx =>
    obtain ⟨-, hs⟩ := hs
    obtain ⟨hsx, hsn, -⟩ := hs.append
    obtain ⟨left, hl, hleft⟩ := ihx hsx
    have hread := hsn ▸ read_digit (show n + 1 < 10 by omega)
    refine ⟨.binary .div 0 left (.number _), ?_, hleft.binary (Expr.wellMade_number hread) fun _ =>
      ⟨_, _, rfl, hread, ?_, ?_⟩⟩
    · rw [nodesFrom, nodesFrom_append, hl, nodesFrom, nodeOfWord_digit (by omega)]
      rfl
    · interval_cases n <;> decide
    · interval_cases n <;> decide

theorem exists_marker {w : String} (hw : w ∈ ["\x7b", "\x7d"]) (h : Handle) :
    ∃ c : Statement, [nodeOfWord h w] = c.nodes ∧ c.exprs = [] := by
  simp only [List.mem_cons, List.not_mem_nil, or_false] at hw
  rcases hw with rfl | rfl
  · exact ⟨.scopeOpen 0, rfl, rfl⟩
  · exact ⟨.scopeEnd 0, rfl, rfl⟩

/-- The words of statements are read back as statements that are well made. -/
theorem ProgramWords.exists_statements {ws : List String} (h : ProgramWords known ws) {k : Nat}
    (hs : SpelledFrom resolve k ws) :
    ∃ p, nodesFrom k ws = spell p ∧ WellMade resolve known p := by
  induction h generalizing k with
  | done => exact ⟨[], rfl, .nil⟩
  | marker hw h ih =>
    obtain ⟨p, hp, hmade⟩ := ih hs.2
    obtain ⟨c, hnode, hnone⟩ := exists_marker hw (UInt32.ofNat k)
    refine ⟨c :: p, ?_, .cons (by simp [hnone]) (fun w hw => .inl hw) hmade⟩
    rw [nodesFrom, hp, spell_cons, ← hnode, List.singleton_append]
  | bare hx h ih =>
    obtain ⟨hsx, hsw⟩ := hs.append
    obtain ⟨e, he, hexpr⟩ := hx.exists_expr hsx
    obtain ⟨p, hp, hmade⟩ := ih hsw
    refine ⟨.bare e :: p, by rw [nodesFrom_append, he, hp, spell_cons, Statement.nodes], ?_⟩
    refine .cons (fun e' he' => ?_) (fun w hw => .inl hw) hmade
    rwa [List.mem_singleton.mp he']
  | @assign known known' t xs ws ht hx hk h ih =>
    obtain ⟨-, htarget, hs⟩ := hs
    obtain ⟨hsx, hsw⟩ := hs.append
    obtain ⟨e, he, hexpr⟩ := hx.exists_expr hsx
    obtain ⟨p, hp, hmade⟩ := ih hsw
    refine ⟨.assign 0 (UInt32.ofNat (k + 1)) e :: p, ?_, ?_⟩
    · rw [nodesFrom, nodesFrom, nodesFrom_append, he, hp, nodeOfWord_target ht, spell_cons,
        Statement.nodes]
      rfl
    · refine .cons (fun e' he' => ?_) (fun w hw => (hk w hw).imp_right ?_) hmade
      · rwa [List.mem_singleton.mp he']
      · rintro rfl
        exact ⟨_, _, _, rfl, htarget⟩

end StraightLine.Sample

namespace StraightLine

open StraightLine.Source StraightLine.Code StraightLine.Range StraightLine.Alloc StraightLine.Compile

/-- A sample has the first few registers, and its words are those of statements. -/
theorem programWords_sample (bytes : List UInt8) :
    (∃ n ≤ 4, (sample bytes).1 = (List.range n).map UInt32.ofNat) ∧
      (sample bytes).2.length < UInt32.size ∧
      Sample.ProgramWords (fun _ => False) (sample bytes).2 := by
  obtain ⟨hregisters, hbytes⟩ := sample_eq_iff.mp (show sample bytes = (_, _) from rfl)
  obtain ⟨hwords, hlen⟩ := hbytes.programWords (List.nil_subset _)
  simp only [List.not_mem_nil] at hwords
  exact ⟨⟨_, Nat.le_of_lt_succ (Nat.mod_lt _ (by decide)), hregisters⟩,
    Nat.lt_of_le_of_lt hlen (by decide), hwords⟩

/-- Every sample compiles and runs. Its words are read as statements that assign names before they
mention them and divide by digits only, and the check accepts the locations of the compiled code. The
interpreter and a machine, whatever it holds, take one instruction after the other: for each of them the
interpreter finds a value, and the machine runs its code and then has the value in the location of the
destination. -/
theorem samples_compile_and_agree (norm : String → String) (bytes : List UInt8) :
    (∃ n ≤ 4, (sample bytes).1 = (List.range n).map UInt32.ofNat) ∧
    let words := (sample bytes).2
    let resolve := resolveWords words
    ∃ p, nodesOfWords words = spell p ∧ WellMade resolve (fun _ => False) p ∧
      ∃ c, compile norm (sample bytes).1 resolve (nodesOfWords words) = .ok c ∧
        checkBoth (some c.ranges) (some c.allocation) = none ∧
        ∀ m, ∃ xs t, Lockstep.InStep c.allocation.find? resolve ⟨.empty, m⟩ c.code xs t ∧
          xs.length = c.code.length ∧
          Lockstep.run c.allocation.find? resolve ⟨.empty, m⟩ c.code =
            xs.map fun x => ⟨.ok x, .ok x⟩ := by
  obtain ⟨hregisters, hlen, hprogram⟩ := programWords_sample bytes
  refine ⟨hregisters, ?_⟩
  intro words resolve
  have hr : (sample bytes).1.Nodup := by
    obtain ⟨n, hn, heq⟩ := hregisters
    rw [heq]
    interval_cases n <;> decide
  have hspelled : SpelledFrom resolve 0 words := spelledFrom_resolveWords [] hlen.le
  obtain ⟨p, hp, hmade⟩ := hprogram.exists_statements hspelled
  have hspell : (spell p).length < UInt32.size := by
    rwa [← hp, length_nodesFrom]
  have hpos : UInt32.size < positions := by decide
  have hnodes : nodesOfWords words = spell p := (nodesOfWords_eq words).trans hp
  have hstrip : strip (nodesOfWords words) = spell p := by
    rw [nodesOfWords_eq, strip_nodesFrom, ← nodesOfWords_eq, hnodes]
  have htrans := translatable_lowerStatements hspell hmade.numbers (hmade.assignedFirst norm)
  have hlower := lowerAll_spell (keyBy norm resolve) p
  rw [← hstrip] at hlower
  refine ⟨p, hnodes, hmade, _, compile_eq hlower (htrans.emit_eq hr), ?_, fun m => ?_⟩
  · exact check_allocate (Ranges.distinct_analyze _) (Ranges.startsNonneg_analyze htrans.short) hr
      (htrans.few.le.trans (by decide))
  · obtain ⟨st, hst⟩ := hmade.exists_exec (keyBy norm resolve) .empty
    have hfollows := (tracks_start (keyBy norm resolve) []).lowerStatements (within_start []) resolve p
      (by omega)
    obtain ⟨env, henv⟩ := hfollows.ok_iff.mpr ⟨st, hst⟩
    obtain ⟨xs, t, hsteps⟩ := htrans.inStep hr m henv
    exact ⟨xs, t, hsteps, hsteps.length_eq, hsteps.run_eq⟩

end StraightLine
