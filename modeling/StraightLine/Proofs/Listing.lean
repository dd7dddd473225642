import Mathlib
import StraightLine.Proofs.PlainText
import StraightLine.Proofs.TwoAddress
import StraightLine.Text.Writer

/-! Listings are unambiguous. The pieces of a line, an operation, a target and a source, hold none of the
signs that stand between pieces and lines, so a listing falls into its pieces in one way only; and each
piece belongs to one operation, target or source of the form that emission gives. -/

namespace StraightLine.Program

open StraightLine.Alloc StraightLine.Source StraightLine.Text

/-! ## Pieces and the signs between them -/

/-- A text with none of the signs that stand between pieces and lines. -/
def Solid (s : String) : Prop := ∀ c ∈ s.toList, c ≠ ' ' ∧ c ≠ ',' ∧ c ≠ '\n'

theorem Solid.append {s t : String} (hs : Solid s) (ht : Solid t) : Solid (s ++ t) := by
  intro c hc
  rw [String.toList_append] at hc
  exact (List.mem_append.mp hc).elim (hs c) (ht c)

theorem ne_sign_of_isDigit {c : Char} (h : c.isDigit = true) : c ≠ ' ' ∧ c ≠ ',' ∧ c ≠ '\n' := by
  refine ⟨?_, ?_, ?_⟩ <;> rintro rfl <;> exact absurd h (by decide)

theorem solid_nat (n : Nat) : Solid (toString n) := fun _ hc =>
  ne_sign_of_isDigit (isDigit_of_mem_toString hc)

theorem solid_write (n : Int64) : Solid (Decimal.write n) := by
  intro c hc
  obtain rfl | hdigit := Decimal.mem_write hc
  · decide
  · exact ne_sign_of_isDigit hdigit

theorem solid_opName (op : UInt8) : Solid (opName op) := by
  unfold opName
  split
  case h_6 => exact (Solid.append (by simp [Solid]) (solid_nat op.toNat)).append (by simp [Solid])
  all_goals simp [Solid]

theorem solid_slotText (slot : UInt32) : Solid (slotText slot) :=
  (Solid.append (by simp [Solid]) (solid_nat slot.toNat)).append (by simp [Solid])

theorem solid_name (r : Reg) : Solid r.name := Solid.append (by simp [Solid]) (solid_nat r.toNat)

theorem Target.solid_text (t : Target) : Solid t.text := by
  rw [text]
  split
  · exact solid_slotText _
  · exact solid_name _

theorem Source.solid_text (s : Source) : Solid s.text := by
  rw [text]
  split
  · exact Solid.append (by simp [Solid]) (solid_write _)
  · split
    · exact solid_slotText _
    · exact solid_name _

/-- Where two texts are cut at the first of some sign, they agree in front of it and behind it. -/
theorem cut_unique {c : Char} {s t r u : List Char} (hs : c ∉ s) (ht : c ∉ t)
    (h : s ++ c :: r = t ++ c :: u) : s = t ∧ r = u := by
  induction s generalizing t with
  | nil =>
    cases t with
    | nil => exact ⟨rfl, (List.cons.inj h).2⟩
    | cons x t => exact absurd ((List.cons.inj h).1 ▸ List.mem_cons_self) ht
  | cons y s ih =>
    cases t with
    | nil => exact absurd ((List.cons.inj h).1 ▸ List.mem_cons_self) hs
    | cons x t =>
      obtain ⟨rfl, htail⟩ := List.cons.inj h
      obtain ⟨rfl, rfl⟩ := ih (fun hm => hs (List.mem_cons_of_mem _ hm))
        (fun hm => ht (List.mem_cons_of_mem _ hm)) htail
      exact ⟨rfl, rfl⟩

/-! ## What a piece stands for -/

/-- The number of an operation that emission gives. -/
def IsOpcode (op : UInt8) : Prop := 1 ≤ op ∧ op ≤ 5

/-- The form that emission gives a target: a register or a slot, and zero in the other field. -/
def Target.Canonical (t : Target) : Prop := t.kind = 1 ∧ t.slot = 0 ∨ t.kind = 2 ∧ t.reg = 0

/-- The form that emission gives a source: a number, a register or a slot, and zero in the other
fields. -/
def Source.Canonical (s : Source) : Prop :=
  s.kind = 1 ∧ s.reg = 0 ∧ s.slot = 0 ∨ s.kind = 2 ∧ s.imm = 0 ∧ s.slot = 0 ∨
    s.kind = 3 ∧ s.imm = 0 ∧ s.reg = 0

/-- The form that emission gives an instruction. -/
structure Instr.Canonical (i : Instr) : Prop where
  op : IsOpcode i.op
  dst : i.dst.Canonical
  src : i.src.Canonical

theorem Target.canonical_iff {t : Target} :
    t.Canonical ↔ (∃ r, t = .register r) ∨ ∃ slot, t = .memory slot := by
  obtain ⟨kind, reg, slot⟩ := t
  simp [Canonical, register, memory]

theorem Source.canonical_iff {s : Source} :
    s.Canonical ↔ (∃ n, s = .immediate n) ∨ (∃ r, s = .register r) ∨ ∃ slot, s = .memory slot := by
  obtain ⟨kind, imm, reg, slot⟩ := s
  simp [Canonical, immediate, register, memory]

theorem opName_inj {a b : UInt8} (ha : IsOpcode a) (hb : IsOpcode b) (h : opName a = opName b) :
    a = b := by
  have hmem {op : UInt8} (hop : IsOpcode op) : op ∈ [1, 2, 3, 4, 5] := by
    obtain ⟨hl, hr⟩ := hop
    rw [UInt8.le_iff_toNat_le] at hl hr
    simp only [List.mem_cons, List.not_mem_nil, or_false, ← UInt8.toNat_inj]
    change 1 ≤ op.toNat at hl
    change op.toNat ≤ 5 at hr
    change op.toNat = 1 ∨ op.toNat = 2 ∨ op.toNat = 3 ∨ op.toNat = 4 ∨ op.toNat = 5
    omega
  have hnames : (List.map opName [1, 2, 3, 4, 5]).Nodup := by decide
  exact List.inj_on_of_nodup_map hnames (hmem ha) (hmem hb) h

/-- A sign in front of a number leaves the number. -/
theorem signed_inj {sign : String} {m n : Nat} (h : sign ++ toString m = sign ++ toString n) : m = n := by
  rw [← String.toList_inj, String.toList_append, String.toList_append] at h
  exact Nat.repr_inj.mp (String.toList_inj.mp (List.append_cancel_left h))

theorem name_inj {q r : Reg} (h : q.name = r.name) : q = r := UInt32.toNat_inj.mp (signed_inj h)

theorem slotText_inj {m n : UInt32} (h : slotText m = slotText n) : m = n := by
  have hsigned : "[" ++ toString m.toNat = "[" ++ toString n.toNat := by
    rw [slotText, slotText, ← String.toList_inj, String.toList_append,
      @String.toList_append _ "]"] at h
    exact String.toList_inj.mp (List.append_cancel_right h)
  exact UInt32.toNat_inj.mp (signed_inj hsigned)

theorem write_inj {m n : Int64} (h : Decimal.write m = Decimal.write n) : m = n :=
  Int64.toInt_inj.mp (Int.repr_inj.mp h)

/-- Texts that begin with different signs are different. -/
theorem ne_of_front {a b : Char} (hab : a ≠ b) {s t : String} (hs : s.toList.head? = some a)
    (ht : t.toList.head? = some b) : s ≠ t := by
  rintro rfl
  exact hab (Option.some.inj (hs.symm.trans ht))

theorem front_name (r : Reg) : r.name.toList.head? = some 'r' := by
  rw [Reg.name, String.toList_append]
  rfl

theorem front_slotText (slot : UInt32) : (slotText slot).toList.head? = some '[' := by
  rw [slotText, String.toList_append, String.toList_append]
  rfl

theorem front_immediate (n : Int64) : ("#" ++ Decimal.write n).toList.head? = some '#' := by
  rw [String.toList_append]
  rfl

theorem Target.text_inj {t u : Target} (ht : t.Canonical) (hu : u.Canonical) (h : t.text = u.text) :
    t = u := by
  rw [canonical_iff] at ht hu
  obtain ⟨q, rfl⟩ | ⟨m, rfl⟩ := ht <;> obtain ⟨r, rfl⟩ | ⟨n, rfl⟩ := hu
  · exact congrArg register (name_inj h)
  · exact absurd h (ne_of_front (by decide) (front_name q) (front_slotText n))
  · exact absurd h (ne_of_front (by decide) (front_slotText m) (front_name r))
  · exact congrArg memory (slotText_inj h)

theorem Source.text_inj {s t : Source} (hs : s.Canonical) (ht : t.Canonical) (h : s.text = t.text) :
    s = t := by
  rw [canonical_iff] at hs ht
  obtain ⟨m, rfl⟩ | ⟨q, rfl⟩ | ⟨m, rfl⟩ := hs <;> obtain ⟨n, rfl⟩ | ⟨r, rfl⟩ | ⟨n, rfl⟩ := ht
  · have hnumber : "#" ++ Decimal.write m = "#" ++ Decimal.write n := h
    rw [← String.toList_inj, String.toList_append, String.toList_append] at hnumber
    exact congrArg immediate (write_inj (String.toList_inj.mp (List.append_cancel_left hnumber)))
  · exact absurd h (ne_of_front (by decide) (front_immediate m) (front_name r))
  · exact absurd h (ne_of_front (by decide) (front_immediate m) (front_slotText n))
  · exact absurd h (ne_of_front (by decide) (front_name q) (front_immediate n))
  · exact congrArg register (name_inj h)
  · exact absurd h (ne_of_front (by decide) (front_name q) (front_slotText n))
  · exact absurd h (ne_of_front (by decide) (front_slotText m) (front_immediate n))
  · exact absurd h (ne_of_front (by decide) (front_slotText m) (front_name r))
  · exact congrArg memory (slotText_inj h)

/-! ## Lines and listings -/

/-- A line, its end, and what stands behind it. -/
theorem toList_line (i : Instr) (rest : List Char) :
    (i.text ++ "\n").toList ++ rest = (opName i.op).toList ++
      ' ' :: (i.dst.text.toList ++ ',' :: ' ' :: (i.src.text.toList ++ '\n' :: rest)) := by
  simp [Instr.text]

/-- A listing begins with the line of one instruction only, and goes on in one way. -/
theorem line_unique {i j : Instr} (hi : i.Canonical) (hj : j.Canonical) {r u : List Char}
    (h : (i.text ++ "\n").toList ++ r = (j.text ++ "\n").toList ++ u) : i = j ∧ r = u := by
  rw [toList_line, toList_line] at h
  obtain ⟨hop, h⟩ := cut_unique (fun hc => (solid_opName _ _ hc).1 rfl)
    (fun hc => (solid_opName _ _ hc).1 rfl) h
  obtain ⟨hdst, h⟩ := cut_unique (fun hc => (i.dst.solid_text _ hc).2.1 rfl)
    (fun hc => (j.dst.solid_text _ hc).2.1 rfl) h
  obtain ⟨hsrc, hrest⟩ := cut_unique (fun hc => (i.src.solid_text _ hc).2.2 rfl)
    (fun hc => (j.src.solid_text _ hc).2.2 rfl) (List.cons.inj h).2
  obtain ⟨op, dst, src⟩ := i
  obtain ⟨op', dst', src'⟩ := j
  obtain rfl := opName_inj hi.op hj.op (String.toList_inj.mp hop)
  obtain rfl := Target.text_inj hi.dst hj.dst (String.toList_inj.mp hdst)
  obtain rfl := Source.text_inj hi.src hj.src (String.toList_inj.mp hsrc)
  exact ⟨rfl, hrest⟩

theorem canonical_of_targetOf {locate : Locator} {v : Code.Var} {t : Target}
    (h : targetOf locate v = .ok t) : t.Canonical := by
  rw [targetOf] at h
  split at h
  · cases h
  · split at h
    · cases h
      exact .inr ⟨rfl, rfl⟩
    · cases h
  · cases h
    exact .inl ⟨rfl, rfl⟩
  · cases h
    exact .inl ⟨rfl, rfl⟩

theorem Target.Canonical.asSource {t : Target} (h : t.Canonical) : t.asSource.Canonical := by
  rw [Target.canonical_iff] at h
  obtain ⟨r, rfl⟩ | ⟨slot, rfl⟩ := h
  · exact .inr (.inl ⟨rfl, rfl, rfl⟩)
  · exact .inr (.inr ⟨rfl, rfl, rfl⟩)

theorem canonical_of_sourceOf {locate : Locator} {resolve : Resolver} {o : Code.Operand} {s : Source}
    (h : sourceOf locate resolve o = .ok s) : s.Canonical := by
  have hvar : ∀ v, (targetOf locate v).map Target.asSource = .ok s → s.Canonical := by
    intro v hs
    cases ht : targetOf locate v with
    | error f => rw [ht] at hs; cases hs
    | ok t =>
      rw [ht] at hs
      cases hs
      exact (canonical_of_targetOf ht).asSource
  cases o with
  | var v => exact hvar v h
  | untagged v _ => exact hvar v h
  | literal g =>
    rw [sourceOf] at h
    split at h
    · cases h
      exact .inl ⟨rfl, rfl, rfl⟩
    · cases h

theorem isOpcode_of_opcodeOf {o : Code.Operator} {op : UInt8} (h : opcodeOf o = .ok op) :
    IsOpcode op := by
  cases o <;> cases h <;> exact ⟨by decide, by decide⟩

/-- Whatever is emitted has the form that listings tell apart. -/
theorem canonical_of_emit {locate : Locator} {resolve : Resolver} {code : List Code.Instr}
    {program : Program} (h : emit locate resolve code = .ok program) :
    ∀ j ∈ program.instrs, j.Canonical := by
  intro j hj
  have hall := emitOne_of_emit h
  rw [emit_eq hall] at h
  cases h
  obtain ⟨i, hi, hj⟩ := List.mem_flatMap.mp hj
  obtain ⟨mc, hmc⟩ := hall i hi
  rw [codeOf_eq hmc] at hj
  obtain ⟨ht, ⟨o, ho⟩, hop⟩ := parts_of_mem_emitOne hmc j hj
  refine ⟨?_, canonical_of_targetOf ht, canonical_of_sourceOf ho⟩
  obtain hop | ⟨p, hp⟩ := hop
  · rw [hop]
    exact ⟨by decide, by decide⟩
  · exact isOpcode_of_opcodeOf hp

def dump (p : Program) : String := String.join (lines p.listing)

theorem toList_dump (p : Program) :
    p.dump.toList = p.instrs.flatMap fun i => (i.text ++ "\n").toList := by
  rw [dump, lines, listing, String.toList_join, List.flatMap_map, List.flatMap_map]

theorem instrs_unique {is js : List Instr} (hi : ∀ i ∈ is, i.Canonical) (hj : ∀ j ∈ js, j.Canonical)
    (h : (is.flatMap fun i => (i.text ++ "\n").toList) = js.flatMap fun j => (j.text ++ "\n").toList) :
    is = js := by
  have hline : ∀ i : Instr, (i.text ++ "\n").toList ≠ [] := fun i => by simp
  induction is generalizing js with
  | nil =>
    cases js with
    | nil => rfl
    | cons j js => exact absurd (List.append_eq_nil_iff.mp h.symm).1 (hline j)
  | cons i is ih =>
    cases js with
    | nil => exact absurd (List.append_eq_nil_iff.mp h).1 (hline i)
    | cons j js =>
      rw [List.flatMap_cons, List.flatMap_cons] at h
      obtain ⟨rfl, hrest⟩ := line_unique (hi i List.mem_cons_self) (hj j List.mem_cons_self) h
      rw [ih (fun k hk => hi k (List.mem_cons_of_mem _ hk))
        (fun k hk => hj k (List.mem_cons_of_mem _ hk)) hrest]

/-- Listings are unambiguous. Everything that is emitted has the form in which fields without a meaning
are zero, and two programs of that form with the same listing have the same instructions, whatever
their registers, slots and numbers are. -/
theorem listing_is_unambiguous :
    (∀ locate resolve code p, emit locate resolve code = .ok p → ∀ i ∈ p.instrs, i.Canonical) ∧
    ∀ p q : Program, (∀ i ∈ p.instrs, i.Canonical) → (∀ i ∈ q.instrs, i.Canonical) →
      p.dump = q.dump → p.instrs = q.instrs := by
  refine ⟨fun _ _ _ _ => canonical_of_emit, fun p q hp hq h => instrs_unique hp hq ?_⟩
  rw [← toList_dump, ← toList_dump, h]

/-- A negative number is moved into a register and squared into a slot. The program that is emitted has
the listing of the one beside it, whose packed form is of another version. -/
theorem listing_is_unambiguous_squared :
    let code : List Code.Instr := [⟨.named 0 1, .literal 1, none⟩,
      ⟨.temp 1, .var (.named 0 1), some (.mul, .var (.named 0 1))⟩]
    let locate : Locator := fun v => some (if v = .temp 1 then .spilled 0 else .register 3)
    let q : Program := { schema := 2, instrs := [⟨1, .register 3, .immediate (-7)⟩,
      ⟨1, .memory 0, .register 3⟩, ⟨4, .memory 0, .register 3⟩] }
    q.dump = "move r3, #-7\nmove [0], r3\nmultiply [0], r3\n" ∧
      ∃ p, emit locate (fun _ => "-7") code = .ok p ∧ (∀ i ∈ p.instrs, i.Canonical) ∧
        (∀ i ∈ q.instrs, i.Canonical) ∧ p.dump = q.dump ∧ p.instrs = q.instrs := by
  intro code locate q
  let p : Program := { instrs := q.instrs }
  have hemit : emit locate (fun _ => "-7") code = .ok p := by cbv
  have hp : ∀ i ∈ p.instrs, i.Canonical := canonical_of_emit hemit
  have hsame : p.dump = q.dump := rfl
  exact ⟨by cbv, p, hemit, hp, hp, hsame, listing_is_unambiguous.2 p q hp hp hsame⟩

end StraightLine.Program
