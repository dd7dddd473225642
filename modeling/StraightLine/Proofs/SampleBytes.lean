import Mathlib.Data.List.TakeDrop
import StraightLine.Sample

/-! How bytes decide a sample. Which words some bytes stand for is said without a draft that is written
to: a leaf has two bytes, an operator one in front of those of its operands, a division one more for its
divisor, and a statement one that tells what it is. Zeros stand behind the given bytes. The sample of
some bytes is what they stand for, and nothing else. -/

namespace StraightLine.Sample

/-! ## What bytes stand for -/

/-- The bytes, with zeros behind them, start with `bs`. -/
def StartsWith (l bs : List UInt8) : Prop := l.takeD bs.length 0 = bs

/-- An odd byte stands for one of the known names, if there are any, and other bytes for digits. -/
inductive LeafByte (names : List String) : UInt8 → String → Prop
  | name {b : UInt8} {w : String} (hb : b.toNat % 2 = 1)
      (hw : names[b.toNat / 2 % names.length]? = some w) : LeafByte names b w
  | digit {b : UInt8} (hb : names = [] ∨ b.toNat % 2 ≠ 1) :
      LeafByte names b (toString (b.toNat % 10))

/-- The bytes of an expression with at most `depth` operators on top of each other, and its words. -/
inductive ExprBytes (names : List String) : Nat → List UInt8 → List String → Prop
  | leaf {depth : Nat} {a b : UInt8} {w : String} (ha : depth = 0 ∨ a.toNat % 3 = 0)
      (hb : LeafByte names b w) : ExprBytes names depth [a, b] [w]
  | operation {depth : Nat} {a : UInt8} {bs cs : List UInt8} {w : String} {xs ys : List String}
      (ha : a.toNat % 3 ≠ 0) (hw : ["+", "-", "*"][a.toNat / 3 % 4]? = some w)
      (hx : ExprBytes names depth bs xs) (hy : ExprBytes names depth cs ys) :
      ExprBytes names (depth + 1) (a :: (bs ++ cs)) (w :: (xs ++ ys))
  | quotient {depth : Nat} {a c : UInt8} {bs : List UInt8} {xs : List String}
      (ha : a.toNat % 3 ≠ 0) (hq : a.toNat / 3 % 4 = 3) (hx : ExprBytes names depth bs xs) :
      ExprBytes names (depth + 1) (a :: (bs ++ [c])) ("/" :: (xs ++ [toString (c.toNat % 9 + 1)]))

/-- The bytes of a statement, its words, and the names that are known behind it. -/
inductive StatementBytes (names : List String) : List UInt8 → List String → List String → Prop
  | opening {b : UInt8} (hb : b.toNat % 8 = 0) : StatementBytes names [b] ["\x7b"] names
  | closing {b : UInt8} (hb : b.toNat % 8 = 1) : StatementBytes names [b] ["\x7d"] names
  | bare {b : UInt8} {bs : List UInt8} {ws : List String} (hb : b.toNat % 8 = 2)
      (h : ExprBytes names 2 bs ws) : StatementBytes names (b :: bs) ws names
  | assign {b : UInt8} {bs : List UInt8} {t : String} {ws : List String} (hb : 2 < b.toNat % 8)
      (ht : targets[b.toNat / 8 % 5]? = some t) (h : ExprBytes names 3 bs ws) :
      StatementBytes names (b :: bs) ("=" :: t :: ws) (if t ∈ names then names else names ++ [t])

/-- The bytes of statements, while there are any, and the words of at most `n` statements. The last
statement may go on behind the end of the bytes. -/
inductive ProgramBytes : Nat → List String → List UInt8 → List String → Prop
  | full {names : List String} {l : List UInt8} : ProgramBytes 0 names l []
  | done {n : Nat} {names : List String} : ProgramBytes n names [] []
  | cons {n : Nat} {names names' : List String} {l bs : List UInt8} {ws vs : List String} (hl : l ≠ [])
      (hs : StatementBytes names bs ws names') (hstart : StartsWith l bs)
      (h : ProgramBytes n names' (l.drop bs.length) vs) : ProgramBytes (n + 1) names l (ws ++ vs)

section

variable {names : List String} {l xs ys : List UInt8} {b : UInt8}

theorem startsWith_cons : StartsWith l (b :: xs) ↔ l.headD 0 = b ∧ StartsWith l.tail xs := by
  rw [StartsWith, List.length_cons, List.takeD_succ, List.cons.injEq, List.headD_eq_head?_getD]
  exact .rfl

theorem startsWith_append :
    StartsWith l (xs ++ ys) ↔ StartsWith l xs ∧ StartsWith (l.drop xs.length) ys := by
  induction xs generalizing l with
  | nil => simp [StartsWith]
  | cons x xs ih =>
    rw [List.cons_append, startsWith_cons, startsWith_cons, ih, and_assoc, List.length_cons,
      List.drop_tail]

theorem exists_leafByte (names : List String) (b : UInt8) : ∃ w, LeafByte names b w := by
  by_cases hb : b.toNat % 2 = 1
  · rcases names.eq_nil_or_concat with rfl | ⟨init, last, rfl⟩
    · exact ⟨_, .digit (.inl rfl)⟩
    · have hlt := Nat.mod_lt (b.toNat / 2) (show 0 < (init.concat last).length by simp)
      exact ⟨_, .name hb (List.getElem?_eq_getElem hlt)⟩
  · exact ⟨_, .digit (.inr hb)⟩

theorem exists_leafBytes (l : List UInt8) {depth : Nat}
    (ha : depth = 0 ∨ (l.headD 0).toNat % 3 = 0) :
    ∃ bs ws, ExprBytes names depth bs ws ∧ StartsWith l bs := by
  obtain ⟨w, hw⟩ := exists_leafByte names (l.tail.headD 0)
  exact ⟨_, _, .leaf ha hw, startsWith_cons.mpr ⟨rfl, startsWith_cons.mpr ⟨rfl, rfl⟩⟩⟩

theorem exists_exprBytes (names : List String) (depth : Nat) (l : List UInt8) :
    ∃ bs ws, ExprBytes names depth bs ws ∧ StartsWith l bs := by
  induction depth generalizing l with
  | zero => exact exists_leafBytes l (.inl rfl)
  | succ depth ih =>
    by_cases ha : (l.headD 0).toNat % 3 = 0
    · exact exists_leafBytes l (.inr ha)
    · obtain ⟨bs, xs, hx, hbs⟩ := ih l.tail
      by_cases hq : (l.headD 0).toNat / 3 % 4 = 3
      · have hlast : StartsWith (l.tail.drop bs.length) [_] := startsWith_cons.mpr ⟨rfl, rfl⟩
        exact ⟨_, _, .quotient ha hq hx,
          startsWith_cons.mpr ⟨rfl, startsWith_append.mpr ⟨hbs, hlast⟩⟩⟩
      · obtain ⟨cs, ys, hy, hcs⟩ := ih (l.tail.drop bs.length)
        have hlt : (l.headD 0).toNat / 3 % 4 < ["+", "-", "*"].length := by
          rw [List.length_cons, List.length_cons, List.length_singleton]
          omega
        exact ⟨_, _, .operation ha (List.getElem?_eq_getElem hlt) hx hy,
          startsWith_cons.mpr ⟨rfl, startsWith_append.mpr ⟨hbs, hcs⟩⟩⟩

theorem exists_statementBytes (names : List String) (l : List UInt8) :
    ∃ bs ws names', StatementBytes names bs ws names' ∧ StartsWith l bs := by
  have hone : StartsWith l [l.headD 0] := startsWith_cons.mpr ⟨rfl, rfl⟩
  by_cases hopen : (l.headD 0).toNat % 8 = 0
  · exact ⟨_, _, _, .opening hopen, hone⟩
  by_cases hclose : (l.headD 0).toNat % 8 = 1
  · exact ⟨_, _, _, .closing hclose, hone⟩
  by_cases hbare : (l.headD 0).toNat % 8 = 2
  · obtain ⟨bs, ws, h, hbs⟩ := exists_exprBytes names 2 l.tail
    exact ⟨_, _, _, .bare hbare h, startsWith_cons.mpr ⟨rfl, hbs⟩⟩
  · obtain ⟨bs, ws, h, hbs⟩ := exists_exprBytes names 3 l.tail
    have hlt : (l.headD 0).toNat / 8 % 5 < targets.length := Nat.mod_lt _ (by decide)
    exact ⟨_, _, _, .assign (by omega) (List.getElem?_eq_getElem hlt) h,
      startsWith_cons.mpr ⟨rfl, hbs⟩⟩

theorem exists_programBytes (n : Nat) (names : List String) (l : List UInt8) :
    ∃ ws, ProgramBytes n names l ws := by
  induction n generalizing names l with
  | zero => exact ⟨[], .full⟩
  | succ n ih =>
    by_cases hl : l = []
    · exact ⟨[], hl ▸ .done⟩
    · obtain ⟨bs, ws, names', hs, hbs⟩ := exists_statementBytes names l
      obtain ⟨vs, hvs⟩ := ih names' (l.drop bs.length)
      exact ⟨_, .cons hl hs hbs hvs⟩

end

/-! ## Drafts write what bytes stand for -/

/-- The draft when these bytes were read and these words were written. -/
def Draft.after (d : Draft) (bs : List UInt8) (ws : List String) : Draft :=
  { d with bytes := d.bytes.drop bs.length, words := d.words ++ ws }

section

variable {d : Draft} {names : List String} {bs : List UInt8} {ws : List String}

theorem next_eq (d : Draft) : d.next = ((d.bytes.headD 0).toNat, d.after [d.bytes.headD 0] []) := by
  obtain ⟨bytes, defined, words⟩ := d
  cases bytes <;> simp [Draft.next, Draft.after]

theorem after_after (d : Draft) (bs cs : List UInt8) (ws vs : List String) :
    (d.after bs ws).after cs vs = d.after (bs ++ cs) (ws ++ vs) := by
  simp [Draft.after, List.drop_drop]

theorem word_eq (d : Draft) (w : String) : d.word w = d.after [] [w] := rfl

theorem LeafByte.leaf_eq {b : UInt8} {w : String} (h : LeafByte names b w)
    (hb : d.bytes.headD 0 = b) (hd : d.defined = names) : leaf d = d.after [b] [w] := by
  unfold leaf
  rw [next_eq, hb]
  simp only [word_eq, after_after]
  cases h with
  | name hodd hw =>
    have hne : d.defined ≠ [] := by
      rintro hnil
      rw [← hd, hnil] at hw
      cases hw
    rw [if_pos (by simp [Draft.after, hne, hodd])]
    simp [Draft.after, hd, hw]
  | digit hdigit =>
    rw [if_neg]
    · rfl
    · rcases hdigit with hnil | hb
      · simp [Draft.after, hd, hnil]
      · simp [hb]

theorem expr_of_leaf {depth : Nat} (ha : depth = 0 ∨ (d.bytes.headD 0).toNat % 3 = 0) :
    expr depth d = leaf (d.after [d.bytes.headD 0] []) := by
  cases depth with
  | zero => rw [expr, next_eq]
  | succ depth =>
    rw [expr, next_eq]
    exact if_pos (ha.resolve_left (Nat.succ_ne_zero _))

theorem expr_of_operation {depth : Nat} {w : String} (ha : (d.bytes.headD 0).toNat % 3 ≠ 0)
    (hw : ["+", "-", "*"][(d.bytes.headD 0).toNat / 3 % 4]? = some w) :
    expr (depth + 1) d = expr depth (expr depth (d.after [d.bytes.headD 0] [w])) := by
  have hlt : (d.bytes.headD 0).toNat / 3 % 4 < 3 := (List.getElem?_eq_some_iff.mp hw).1
  have hk : (d.bytes.headD 0).toNat / 3 % 4 = 0 ∨ (d.bytes.headD 0).toNat / 3 % 4 = 1 ∨
      (d.bytes.headD 0).toNat / 3 % 4 = 2 := by omega
  rw [expr, next_eq]
  simp only [if_neg ha, word_eq, after_after]
  rcases hk with hk | hk | hk <;>
    · rw [hk] at hw ⊢
      cases hw
      rfl

theorem expr_of_quotient {depth : Nat} {e : Draft} (ha : (d.bytes.headD 0).toNat % 3 ≠ 0)
    (hq : (d.bytes.headD 0).toNat / 3 % 4 = 3)
    (he : expr depth (d.after [d.bytes.headD 0] ["/"]) = e) :
    expr (depth + 1) d =
      e.after [e.bytes.headD 0] [toString ((e.bytes.headD 0).toNat % 9 + 1)] := by
  rw [expr, next_eq]
  simp only [if_neg ha, hq, word_eq, after_after, next_eq]
  exact he ▸ rfl

/-- A draft goes on with the bytes behind those that it has read. -/
theorem startsWith_after {b : UInt8} (hs : StartsWith d.bytes (b :: bs)) (ws : List String) :
    d.bytes.headD 0 = b ∧ StartsWith (d.after [b] ws).bytes bs := by
  simpa [Draft.after] using startsWith_cons.mp hs

theorem ExprBytes.expr_eq {depth : Nat} (h : ExprBytes names depth bs ws)
    (hs : StartsWith d.bytes bs) (hd : d.defined = names) : expr depth d = d.after bs ws := by
  induction h generalizing d with
  | @leaf depth a b w ha hb =>
    obtain ⟨rfl, hs⟩ := startsWith_after hs []
    obtain ⟨hbyte, -⟩ := startsWith_cons.mp hs
    rw [expr_of_leaf ha, hb.leaf_eq hbyte hd, after_after]
    rfl
  | @operation depth a bs cs w xs ys ha hw hx hy ihx ihy =>
    obtain ⟨rfl, hs⟩ := startsWith_after hs [w]
    obtain ⟨hbs, hcs⟩ := startsWith_append.mp hs
    have hright : StartsWith ((d.after [d.bytes.headD 0] [w]).after bs xs).bytes cs := hcs
    rw [expr_of_operation ha hw, ihx hbs hd, ihy hright hd, after_after, after_after]
    rfl
  | @quotient depth a c bs xs ha hq hx ih =>
    obtain ⟨rfl, hs⟩ := startsWith_after hs ["/"]
    obtain ⟨hbs, hc⟩ := startsWith_append.mp hs
    have hlast : ((d.after [d.bytes.headD 0] ["/"]).after bs xs).bytes.headD 0 = c :=
      (startsWith_cons.mp hc).1
    rw [expr_of_quotient ha hq (ih hbs hd), hlast, after_after, after_after]
    rfl

/-- The draft behind a statement. Its target is a known name from now on. -/
theorem StatementBytes.statement_eq {names' : List String} (h : StatementBytes names bs ws names')
    (hs : StartsWith d.bytes bs) (hd : d.defined = names) :
    statement d = { d.after bs ws with defined := names' } := by
  subst hd
  unfold statement
  rw [next_eq]
  cases h with
  | @opening b hb =>
    obtain ⟨rfl, -⟩ := startsWith_cons.mp hs
    simp only [hb]
    exact after_after d [_] [] [] ["\x7b"]
  | @closing b hb =>
    obtain ⟨rfl, -⟩ := startsWith_cons.mp hs
    simp only [hb]
    exact after_after d [_] [] [] ["\x7d"]
  | @bare b bs ws hb h =>
    obtain ⟨rfl, hs⟩ := startsWith_after hs []
    simp only [hb]
    exact (h.expr_eq hs rfl).trans (after_after d _ _ _ _)
  | @assign b bs t ws hb ht h =>
    obtain ⟨rfl, hs⟩ := startsWith_after hs ["=", t]
    have htarget : targets.getD ((d.bytes.headD 0).toNat / 8 % 5) "" = t := by
      rw [List.getD_eq_getElem?_getD, ht, Option.getD_some]
    have hvalue := (h.expr_eq hs rfl).trans (after_after d _ _ _ _)
    simp only [htarget, word_eq, after_after, List.singleton_append, List.nil_append, hvalue]
    split
    · omega
    · omega
    · omega
    · by_cases hm : t ∈ d.defined <;> simp [Draft.after, hm]

/-- Statements write the words that the bytes of the draft stand for. -/
theorem ProgramBytes.words_eq {n : Nat} (h : ProgramBytes n d.defined d.bytes ws) :
    (statements n d).words = d.words ++ ws := by
  generalize hnames : d.defined = names at h
  generalize hbytes : d.bytes = l at h
  induction h generalizing d with
  | full => simp [statements]
  | @done n names =>
    rw [List.append_nil]
    cases n with
    | zero => rfl
    | succ n => rw [statements, hbytes]; rfl
  | cons hl hs hstart h ih =>
    subst hbytes
    rw [statements, if_neg (by simpa using hl), hs.statement_eq hstart hnames]
    rw [ih rfl rfl]
    simp [Draft.after]

end

end StraightLine.Sample

namespace StraightLine

open StraightLine.Alloc StraightLine.Sample

/-- Bytes decide a sample: the first one the number of its registers, and those behind it its words. -/
theorem sample_eq_iff {bytes : List UInt8} {registers : List Reg} {words : List String} :
    sample bytes = (registers, words) ↔
      registers = (List.range ((bytes.headD 0).toNat % 5)).map UInt32.ofNat ∧
        ProgramBytes maxStatements [] bytes.tail words := by
  have hwords : ∀ {ws}, ProgramBytes maxStatements [] bytes.tail ws →
      sample bytes = ((List.range ((bytes.headD 0).toNat % 5)).map UInt32.ofNat, ws) := by
    intro ws h
    have hdraft : (statements maxStatements (({ bytes } : Draft).after [bytes.headD 0] [])).words =
        [] ++ ws := ProgramBytes.words_eq (by simpa [Draft.after] using h)
    rw [sample, next_eq]
    exact congrArg (Prod.mk _) hdraft
  obtain ⟨ws, hws⟩ := exists_programBytes maxStatements [] bytes.tail
  constructor
  · intro h
    obtain ⟨rfl, rfl⟩ := Prod.mk.inj ((hwords hws).symm.trans h)
    exact ⟨rfl, hws⟩
  · rintro ⟨rfl, h⟩
    exact hwords h

end StraightLine
