import StraightLine.Proofs.PackedRoundTrip

/-! A packed program that is cut off is never read. A reader looks at no byte behind those it consumes,
so what it makes of some bytes it makes of them when more bytes follow, and it leaves these over. If a
beginning of a packed program were read, reading the whole of it would leave the rest over; but it
leaves nothing. -/

namespace StraightLine.Program.Packed

/-- What is read from some bytes is read when more bytes follow them, and these are left over. -/
def Extends {α : Type} (read : Bytes → Option (α × Bytes)) : Prop :=
  ∀ bs x rest, read bs = some (x, rest) → ∀ more, read (bs ++ more) = some (x, rest ++ more)

section

variable {α β : Type} {read : Bytes → Option (α × Bytes)}

theorem extends_pure (x : α) : Extends fun bs => some (x, bs) := by
  intro bs y rest h more
  cases h
  rfl

theorem Extends.map (h : Extends read) (f : α → β) :
    Extends fun bs => (read bs).map fun r => (f r.1, r.2) := by
  intro bs y rest hr more
  obtain ⟨⟨x, left⟩, hx, he⟩ := Option.map_eq_some_iff.mp hr
  cases he
  simp only [h _ _ _ hx more, Option.map_some]

theorem Extends.bind {next : α → Bytes → Option (β × Bytes)} (h : Extends read)
    (hnext : ∀ x, Extends (next x)) : Extends fun bs => (read bs).bind fun r => next r.1 r.2 := by
  intro bs y rest hr more
  obtain ⟨⟨x, left⟩, hx, hy⟩ := Option.bind_eq_some_iff.mp hr
  simp only [h _ _ _ hx more, Option.bind_some]
  exact hnext x _ _ _ hy more

theorem Extends.ite {c : Prop} [Decidable c] {other : Bytes → Option (α × Bytes)} (h : Extends read)
    (hother : Extends other) : Extends fun bs => if c then read bs else other bs := by
  intro bs x rest hx more
  by_cases hc : c
  · simp only [hc, if_true] at hx ⊢
    exact h _ _ _ hx more
  · simp only [hc, if_false] at hx ⊢
    exact hother _ _ _ hx more

/-- A reader that consumes all of some bytes reads no shorter beginning of them. -/
theorem Extends.eq_none_of_shortened (h : Extends read) {bs : Bytes} {x : α} (hx : Reads read bs x)
    {cut : Bytes} (hcut : cut <+: bs) (hne : cut ≠ bs) : read cut = none := by
  obtain ⟨more, rfl⟩ := hcut
  cases hread : read cut with
  | none => rfl
  | some r =>
    have hwhole := hx []
    rw [List.append_nil, h _ r.1 r.2 hread more, Option.some.injEq, Prod.mk.injEq,
      List.append_eq_nil_iff] at hwhole
    rw [hwhole.2.2, List.append_nil] at hne
    exact absurd rfl hne

end

/-! ## Tokens -/

theorem extends_takeBytes (n : Nat) : Extends (takeBytes n) := by
  intro bs x rest h more
  rw [takeBytes] at h
  split at h
  · rename_i hle
    cases h
    rw [takeBytes, if_pos (by rw [List.length_append]; omega), List.take_append_of_le_length hle,
      List.drop_append_of_le_length hle]
  · cases h

theorem extends_takeNat (width : Nat) : Extends (takeNat width) :=
  (extends_takeBytes width).map ofBigEndian

theorem extends_takeUnsigned (width : Nat) : Extends (takeUnsigned width) :=
  (extends_takeNat width).map fun n => Token.int n

theorem extends_takeSigned (width : Nat) : Extends (takeSigned width) :=
  (extends_takeNat width).map fun n => Token.int (asSigned width n)

theorem extends_takeText (n : Nat) : Extends (takeText n) := (extends_takeBytes n).map Token.text

theorem extends_takeForeign (n : Nat) : Extends (takeForeign n) :=
  (extends_takeBytes n).map fun _ => Token.foreign

theorem extends_takeSizedText (width : Nat) : Extends (takeSizedText width) :=
  (extends_takeNat width).bind extends_takeText

theorem extends_takeSizedForeign (width : Nat) : Extends (takeSizedForeign width) :=
  (extends_takeNat width).bind fun n => extends_takeForeign (n + 1)

/-- The first byte tells which of these readers goes on. -/
theorem extends_takeToken : Extends takeToken := by
  intro bs t rest h more
  cases bs with
  | nil => cases h
  | cons b bs =>
    rw [List.cons_append]
    by_cases h₁ : b.toNat < 0x80
    · simp only [takeToken, h₁, if_true] at h ⊢
      exact extends_pure _ _ _ _ h more
    by_cases h₂ : b.toNat < 0x90
    · simp only [takeToken, h₁, h₂, if_true, if_false] at h ⊢
      exact extends_pure _ _ _ _ h more
    by_cases h₃ : b.toNat < 0xA0
    · simp only [takeToken, h₁, h₂, h₃, if_true, if_false] at h ⊢
      exact extends_pure _ _ _ _ h more
    by_cases h₄ : b.toNat < 0xC0
    · simp only [takeToken, h₁, h₂, h₃, h₄, if_true, if_false] at h ⊢
      exact extends_takeText _ _ _ _ h more
    by_cases h₅ : 0xE0 ≤ b.toNat
    · simp only [takeToken, h₁, h₂, h₃, h₄, h₅, if_true, if_false] at h ⊢
      exact extends_pure _ _ _ _ h more
    simp only [takeToken, h₁, h₂, h₃, h₄, h₅, if_false] at h
    -- the bytes from 0xC0 to 0xDF, in the order in which they are looked at
    split at h
    case h_1 | h_2 | h_3 => exact extends_pure _ _ _ _ h more
    case h_4 | h_5 | h_6 | h_7 | h_8 | h_9 => exact extends_takeSizedText _ _ _ _ h more
    case h_10 | h_11 | h_12 => exact extends_takeSizedForeign _ _ _ _ h more
    case h_13 | h_14 | h_23 | h_24 | h_25 | h_26 | h_27 => exact extends_takeForeign _ _ _ _ h more
    case h_15 | h_16 | h_17 | h_18 => exact extends_takeUnsigned _ _ _ _ h more
    case h_19 | h_20 | h_21 | h_22 => exact extends_takeSigned _ _ _ _ h more
    case h_28 | h_29 => exact (extends_takeNat _).map Token.array _ _ _ h more
    case h_30 | h_31 => exact (extends_takeNat _).map Token.map _ _ _ h more
    case h_32 => cases h

/-- Values that can be skipped are skipped when more bytes follow, and more fuel does no harm. -/
theorem skipWithin_append {fuel pending : Nat} {bs rest : Bytes}
    (h : skipWithin fuel pending bs = some rest) {fuel' : Nat} (hf : fuel ≤ fuel') (more : Bytes) :
    skipWithin fuel' pending (bs ++ more) = some (rest ++ more) := by
  induction fuel generalizing pending bs fuel' with
  | zero =>
    cases pending with
    | zero =>
      cases h
      rw [skipWithin]
    | succ pending => cases h
  | succ fuel ih =>
    cases pending with
    | zero =>
      cases h
      rw [skipWithin]
    | succ pending =>
      obtain ⟨fuel', rfl⟩ : ∃ n, fuel' = n + 1 := ⟨fuel' - 1, by omega⟩
      rw [skipWithin] at h ⊢
      cases ht : takeToken bs with
      | none =>
        rw [ht] at h
        cases h
      | some r =>
        rw [ht] at h
        rw [extends_takeToken _ r.1 r.2 ht more]
        exact ih h (by omega)

/-! ## Records and programs -/

theorem extends_readInt : Extends readInt := by
  intro bs n rest h more
  unfold readInt at h
  split at h
  · rename_i m left ht
    cases h
    rw [readInt, extends_takeToken _ _ _ ht more]
  · rename_i left ht
    cases h
    rw [readInt, extends_takeToken _ _ _ ht more]
  · cases h

theorem extends_readName : Extends readName := by
  intro bs name rest h more
  unfold readName at h
  split at h
  · rename_i text left ht
    cases h
    rw [readName, extends_takeToken _ _ _ ht more]
  · rename_i left ht
    cases h
    rw [readName, extends_takeToken _ _ _ ht more]
  · cases h

theorem extends_skipField {α : Type} (x : α) : Extends (skipField x) := by
  intro bs y rest h more
  obtain ⟨left, hskip, he⟩ := Option.map_eq_some_iff.mp h
  cases he
  have hlen : bs.length ≤ (bs ++ more).length := by
    rw [List.length_append]
    omega
  have hmore := skipWithin_append hskip hlen more
  rw [skipField, skipValue, hmore, Option.map_some]

section

variable {α : Type} {field : FieldReader α} (hfield : ∀ name x, Extends (field name x))
include hfield

theorem extends_readEntries (n : Nat) (x : α) : Extends (readEntries field n x) := by
  induction n generalizing x with
  | zero => exact extends_pure x
  | succ n ih =>
    intro bs y rest h more
    rw [readEntries] at h ⊢
    cases hname : readName bs with
    | none =>
      rw [hname] at h
      cases h
    | some r =>
      obtain ⟨name, left⟩ := r
      simp only [hname] at h
      rw [extends_readName _ _ _ hname more]
      cases hvalue : field name x left with
      | none =>
        rw [hvalue] at h
        cases h
      | some s =>
        simp only [hvalue] at h
        simp only [hfield name x _ _ _ hvalue more]
        exact ih s.1 _ _ _ h more

theorem extends_readInOrder (names : List Bytes) (x : α) :
    Extends (readInOrder field names x) := by
  induction names generalizing x with
  | nil => exact extends_pure x
  | cons name names ih =>
    intro bs y rest h more
    rw [readInOrder] at h ⊢
    cases hvalue : field name x bs with
    | none =>
      rw [hvalue] at h
      cases h
    | some s =>
      simp only [hvalue] at h
      simp only [hfield name x _ _ _ hvalue more]
      exact ih s.1 _ _ _ h more

theorem extends_readRecord (names : List Bytes) (zero x : α) :
    Extends (readRecord names field zero x) := by
  intro bs y rest h more
  unfold readRecord at h
  split at h
  · rename_i left ht
    cases h
    rw [readRecord, extends_takeToken _ _ _ ht more]
  · rename_i n left ht
    rw [readRecord, extends_takeToken _ _ _ ht more]
    exact extends_readEntries hfield n x _ _ _ h more
  · rename_i n left ht
    rw [readRecord, extends_takeToken _ _ _ ht more]
    simp only
    split at h
    · rename_i hn
      cases h
      rw [if_pos hn]
    · rename_i hn
      rw [if_neg hn]
      split at h
      · rename_i hlen
        rw [if_pos hlen]
        exact extends_readInOrder hfield names x _ _ _ h more
      · cases h
  · cases h

end

theorem extends_readUInt8 : Extends readUInt8 := extends_readInt.map UInt8.ofInt

theorem extends_readUInt16 : Extends readUInt16 := extends_readInt.map UInt16.ofInt

theorem extends_readUInt32 : Extends readUInt32 := extends_readInt.map UInt32.ofInt

theorem extends_readInt64 : Extends readInt64 := extends_readInt.map Int64.ofInt

theorem extends_targetField (name : Bytes) (t : Target) : Extends (targetField name t) :=
  .ite (extends_readUInt8.map fun kind => { t with kind := kind }) <|
    .ite (extends_readUInt32.map fun reg => { t with reg := reg }) <|
    .ite (extends_readUInt32.map fun slot => { t with slot := slot }) (extends_skipField t)

theorem extends_sourceField (name : Bytes) (s : Source) : Extends (sourceField name s) :=
  .ite (extends_readUInt8.map fun kind => { s with kind := kind }) <|
    .ite (extends_readInt64.map fun imm => { s with imm := imm }) <|
    .ite (extends_readUInt32.map fun reg => { s with reg := reg }) <|
    .ite (extends_readUInt32.map fun slot => { s with slot := slot }) (extends_skipField s)

theorem extends_readTarget (t : Target) : Extends (readTarget t) :=
  extends_readRecord extends_targetField _ {} t

theorem extends_readSource (s : Source) : Extends (readSource s) :=
  extends_readRecord extends_sourceField _ {} s

theorem extends_instrField (name : Bytes) (i : Instr) : Extends (instrField name i) :=
  .ite (extends_readUInt8.map fun op => { i with op := op }) <|
    .ite ((extends_readTarget i.dst).map fun dst => { i with dst := dst }) <|
    .ite ((extends_readSource i.src).map fun src => { i with src := src }) (extends_skipField i)

theorem extends_readInstr (i : Instr) : Extends (readInstr i) :=
  extends_readRecord extends_instrField _ {} i

theorem extends_readArray (n : Nat) (earlier : List Instr) : Extends (readArray n earlier) := by
  induction n generalizing earlier with
  | zero => exact extends_pure []
  | succ n ih =>
    intro bs is rest h more
    rw [readArray] at h ⊢
    cases hinstr : readInstr (earlier.headD {}) bs with
    | none =>
      rw [hinstr] at h
      cases h
    | some r =>
      obtain ⟨i, left⟩ := r
      simp only [hinstr] at h
      simp only [extends_readInstr _ _ _ _ hinstr more]
      cases hrest : readArray n earlier.tail left with
      | none =>
        rw [hrest] at h
        cases h
      | some r =>
        rw [hrest] at h
        cases h
        rw [ih _ _ _ _ hrest more]

theorem extends_readInstrs (d : Draft) : Extends (readInstrs d) := by
  intro bs y rest h more
  unfold readInstrs at h
  split at h
  · rename_i left ht
    cases h
    rw [readInstrs, extends_takeToken _ _ _ ht more]
  · rename_i n left ht
    rw [readInstrs, extends_takeToken _ _ _ ht more]
    exact (extends_readArray n _).map
      (fun is => { d with instrs := is, earlier := (d.instrs ++ d.earlier).drop n }) _ _ _ h more
  · cases h

theorem extends_draftField (name : Bytes) (d : Draft) : Extends (draftField name d) :=
  .ite (extends_readUInt16.map fun schema => { d with schema := schema }) <|
    .ite (extends_readInstrs d) (extends_skipField d)

/-- A strict beginning of a packed program, the empty one included, is malformed: it is neither a
program nor one of a foreign version, whatever the version of the whole. -/
theorem unpack_truncated {p : Program} (h : p.instrs.length < UInt32.size) {cut : Bytes}
    (hcut : cut <+: pack p) (hne : cut ≠ pack p) : unpack cut = .error .malformed := by
  have hread := (extends_readRecord extends_draftField [nameBytes "schema", nameBytes "instrs"] {}
    {}).eq_none_of_shortened (reads_pack h) hcut hne
  rw [unpack, hread]

/-- The bytes up to the array of the instructions. A map with a version alone would be a program, but
the head of the map promises two entries. -/
theorem unpack_truncated_version :
    let p : Program := { instrs := [{ op := 1, dst := .register 3, src := .immediate (-1) }] }
    unpack ((pack p).take 11) = .error .malformed ∧
      unpack (mapHead 1 :: (pack p).tail.take 10) = .ok { instrs := [] } := by
  intro p
  have hp : p.instrs.length < UInt32.size := by decide
  have hne : (pack p).take 11 ≠ pack p := by decide
  refine ⟨unpack_truncated hp (List.take_prefix 11 (pack p)) hne, ?_⟩
  have hbytes : mapHead 1 :: (pack p).tail.take 10 =
      packRecord [("schema", some (packUInt16 1))] ++ [] := by decide
  have hversion : Reads (readRecord [nameBytes "schema", nameBytes "instrs"] draftField {} {})
      (packRecord [("schema", some (packUInt16 1))]) { schema := 1 } := by
    refine Fills.reads ?_ (by simp)
    exact .always (fun schema => { schema := schema }) (by decide) (reads_packUInt16 1)
      (fun _ => rfl) (.nil _)
  rw [unpack, hbytes, hversion]
  rfl

end StraightLine.Program.Packed
