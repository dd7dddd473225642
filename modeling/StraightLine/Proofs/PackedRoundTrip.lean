import StraightLine.Program.Packed.Reader

/-! What is packed is read back. Every part of the packed form is read as the part that was packed,
whatever bytes follow it, and these are left to the next reader: first numbers and heads, then records,
whose fields may be left out, then instructions and their array, and last a whole program. -/

namespace StraightLine.Program.Packed

/-- The bytes are read as `x`, and what follows them is left. -/
def Reads {α : Type} (read : Bytes → Option (α × Bytes)) (bs : Bytes) (x : α) : Prop :=
  ∀ rest, read (bs ++ rest) = some (x, rest)

/-! ## Numbers and names -/

theorem length_bigEndian (width n : Nat) : (bigEndian width n).length = width := by
  induction width generalizing n with
  | zero => rfl
  | succ width ih => rw [bigEndian, List.length_append, ih, List.length_singleton]

theorem ofBigEndian_concat (bs : Bytes) (b : UInt8) :
    ofBigEndian (bs ++ [b]) = ofBigEndian bs * 256 + b.toNat := by
  simp [ofBigEndian]

/-- A number that fits is what its bytes stand for. -/
theorem ofBigEndian_bigEndian {width n : Nat} (h : n < Nat.pow 256 width) :
    ofBigEndian (bigEndian width n) = n := by
  induction width generalizing n with
  | zero =>
    have hn : n = 0 := Nat.lt_one_iff.mp h
    rw [hn]
    rfl
  | succ width ih =>
    have hdiv : n / 256 < Nat.pow 256 width := Nat.div_lt_of_lt_mul (Nat.mul_comm _ _ ▸ h)
    have hlow : (UInt8.ofNat n).toNat = n % 256 := UInt8.toNat_ofNat'
    rw [bigEndian, ofBigEndian_concat, ih hdiv, hlow]
    omega

theorem reads_takeBytes (bs : Bytes) : Reads (takeBytes bs.length) bs bs := by
  intro rest
  rw [takeBytes, if_pos (by simp), List.take_left, List.drop_left]

theorem reads_takeNat {width n : Nat} (h : n < Nat.pow 256 width) :
    Reads (takeNat width) (bigEndian width n) n := by
  intro rest
  have hbytes := reads_takeBytes (bigEndian width n) rest
  rw [length_bigEndian] at hbytes
  rw [takeNat, hbytes, Option.map_some, ofBigEndian_bigEndian h]

/-- A number of a fixed width behind a head is read into a field, if reducing it to the width of the
field gives the value of the field. -/
theorem reads_number {α : Type} {ofInt : Int → α} {n : Nat} {x : α} (head : UInt8) (width : Nat)
    (value : Nat → Int)
    (hhead : ∀ bs, takeToken (head :: bs) = (takeNat width bs).map fun r => (.int (value r.1), r.2))
    (hn : n < Nat.pow 256 width) (hx : ofInt (value n) = x) :
    Reads (fun bs => (readInt bs).map fun r => (ofInt r.1, r.2)) (head :: bigEndian width n) x := by
  intro rest
  have hread : readInt (head :: bigEndian width n ++ rest) = some (value n, rest) := by
    rw [readInt, List.cons_append, hhead, reads_takeNat hn]
    rfl
  simp only [hread, Option.map_some, hx]

theorem reads_packUInt8 (n : UInt8) : Reads readUInt8 (packUInt8 n) n := by
  have hbytes : packUInt8 n = 0xCC :: bigEndian 1 n.toNat := by simp [packUInt8, bigEndian]
  have hmod : ((n.toNat : Int) % 2 ^ 8).toNat = n.toNat := by
    have := n.toNat_lt
    omega
  rw [hbytes]
  exact reads_number 0xCC 1 Int.ofNat (fun _ => rfl) n.toNat_lt
    ((congrArg UInt8.ofNat hmod).trans UInt8.ofNat_toNat)

theorem reads_packUInt16 (n : UInt16) : Reads readUInt16 (packUInt16 n) n := by
  have hmod : ((n.toNat : Int) % 2 ^ 16).toNat = n.toNat := by
    have := n.toNat_lt
    omega
  exact reads_number 0xCD 2 Int.ofNat (fun _ => rfl) n.toNat_lt
    ((congrArg UInt16.ofNat hmod).trans UInt16.ofNat_toNat)

theorem reads_packUInt32 (n : UInt32) : Reads readUInt32 (packUInt32 n) n := by
  have hmod : ((n.toNat : Int) % 2 ^ 32).toNat = n.toNat := by
    have := n.toNat_lt
    omega
  exact reads_number 0xCE 4 Int.ofNat (fun _ => rfl) n.toNat_lt
    ((congrArg UInt32.ofNat hmod).trans UInt32.ofNat_toNat)

/-- A signed number is written by its bits, and the bits are read as a signed number again. -/
theorem reads_packInt64 (n : Int64) : Reads readInt64 (packInt64 n) n := by
  have hsigned : asSigned 8 n.toUInt64.toNat = n.toInt :=
    (BitVec.toInt_eq_toNat_bmod n.toBitVec).symm
  refine reads_number 0xD3 8 (asSigned 8) (fun _ => rfl) n.toUInt64.toNat_lt ?_
  rw [hsigned, Int64.ofInt_toInt]

theorem takeToken_mapHead {n : Nat} (h : n < 16) (bs : Bytes) :
    takeToken (mapHead n :: bs) = some (.map n, bs) := by
  have hhead : (mapHead n).toNat = 0x80 + n := UInt8.toNat_ofNat_of_lt' (by
    have : UInt8.size = 256 := rfl
    omega)
  simp only [takeToken, hhead]
  rw [if_neg (by omega), if_pos (by omega), Nat.add_sub_cancel_left]

/-- The head of an array has one of three forms, by the number of parts. -/
theorem takeToken_arrayHead {n : Nat} (h : n < UInt32.size) (bs : Bytes) :
    takeToken (arrayHead n ++ bs) = some (.array n, bs) := by
  unfold arrayHead
  split
  · have hhead : (UInt8.ofNat (0x90 + n)).toNat = 0x90 + n := UInt8.toNat_ofNat_of_lt' (by
      have : UInt8.size = 256 := rfl
      omega)
    simp only [List.cons_append, List.nil_append, takeToken, hhead]
    rw [if_neg (by omega), if_neg (by omega), if_pos (by omega), Nat.add_sub_cancel_left]
  · split
    · have hhead : takeToken (0xDC :: (bigEndian 2 n ++ bs)) =
          (takeNat 2 (bigEndian 2 n ++ bs)).map fun r => (.array r.1, r.2) := rfl
      rw [List.cons_append, hhead, reads_takeNat ‹n < UInt16.size›]
      rfl
    · have hhead : takeToken (0xDD :: (bigEndian 4 n ++ bs)) =
          (takeNat 4 (bigEndian 4 n ++ bs)).map fun r => (.array r.1, r.2) := rfl
      rw [List.cons_append, hhead, reads_takeNat h]
      rfl

def ShortName (name : String) : Prop := (nameBytes name).length < 32

instance (name : String) : Decidable (ShortName name) :=
  inferInstanceAs (Decidable ((nameBytes name).length < 32))

theorem reads_packName {name : String} (h : ShortName name) :
    Reads readName (packName name) (nameBytes name) := by
  intro rest
  have hlt : (nameBytes name).length < 32 := h
  have hhead : (UInt8.ofNat (0xA0 + (nameBytes name).length)).toNat =
      0xA0 + (nameBytes name).length := UInt8.toNat_ofNat_of_lt' (by
    have : UInt8.size = 256 := rfl
    omega)
  have htoken : takeToken (packName name ++ rest) = some (.text (nameBytes name), rest) := by
    simp only [packName, List.cons_append, takeToken, hhead]
    rw [if_neg (by omega), if_neg (by omega), if_neg (by omega), if_pos (by omega),
      Nat.add_sub_cancel_left, takeText, reads_takeBytes]
    rfl
  rw [readName, htoken]

/-! ## Records -/

/-- Reading the fields that are present, one after the other, turns the record `x` into `y`. -/
inductive Fills {α : Type} (field : FieldReader α) : α → List (String × Option Bytes) → α → Prop
  | nil (x : α) : Fills field x [] x
  | absent {x y : α} {name : String} {fields : List (String × Option Bytes)}
      (h : Fills field x fields y) : Fills field x ((name, none) :: fields) y
  | present {x y z : α} {name : String} {bs : Bytes} {fields : List (String × Option Bytes)}
      (hname : ShortName name) (hfield : Reads (field (nameBytes name) x) bs y)
      (h : Fills field y fields z) : Fills field x ((name, some bs) :: fields) z

section

variable {α : Type} {field : FieldReader α} {x y z : α} {name : String}
  {fields : List (String × Option Bytes)}

/-- A field that is left out when it is zero, in a record where it is zero until it is read. -/
theorem Fills.unlessZero {β : Type} [DecidableEq β] {read : Bytes → Option (β × Bytes)}
    {pack : β → Bytes} {zero n : β} (set : β → α) (hzero : set zero = x) (hname : ShortName name)
    (hread : Reads read (pack n) n)
    (hfield : ∀ bs, field (nameBytes name) x bs = (read bs).map fun r => (set r.1, r.2))
    (h : Fills field (set n) fields z) :
    Fills field x ((name, if n = zero then none else some (pack n)) :: fields) z := by
  split
  · rename_i hn
    rw [hn, hzero] at h
    exact .absent h
  · refine .present hname (fun rest => ?_) h
    rw [hfield, hread]
    rfl

/-- The entries of the fields that are present. -/
def entriesOf (fields : List (String × Option Bytes)) : List Bytes :=
  fields.filterMap fun f => f.2.map fun bs => packName f.1 ++ bs

theorem packRecord_eq (fields : List (String × Option Bytes)) :
    packRecord fields = mapHead (entriesOf fields).length :: (entriesOf fields).flatten := rfl

/-- The entries of a map are read into the record that their fields fill. -/
theorem Fills.readEntries (h : Fills field x fields y) (rest : Bytes) :
    readEntries field (entriesOf fields).length x ((entriesOf fields).flatten ++ rest) =
      some (y, rest) := by
  induction h with
  | nil x => rfl
  | absent h ih => exact ih
  | @present x y z name bs fields hname hfield h ih =>
    have hentries : entriesOf ((name, some bs) :: fields) =
        (packName name ++ bs) :: entriesOf fields := rfl
    simp only [hentries, List.length_cons, List.flatten_cons, List.append_assoc, Packed.readEntries,
      reads_packName hname _, hfield _]
    exact ih

/-- A packed record is read over the record that its fields fill. -/
theorem Fills.reads {names : List Bytes} {zero : α} (h : Fills field x fields y)
    (hlen : fields.length < 16) : Reads (readRecord names field zero x) (packRecord fields) y := by
  intro rest
  have hle : (entriesOf fields).length ≤ fields.length := List.length_filterMap_le _ _
  rw [readRecord, packRecord_eq, List.cons_append, takeToken_mapHead (by omega)]
  exact h.readEntries rest

/-- A field that is always there. -/
theorem Fills.always {β : Type} {read : Bytes → Option (β × Bytes)} {bs : Bytes} {n : β}
    (set : β → α) (hname : ShortName name) (hread : Reads read bs n)
    (hfield : ∀ bs, field (nameBytes name) x bs = (read bs).map fun r => (set r.1, r.2))
    (h : Fills field (set n) fields z) : Fills field x ((name, some bs) :: fields) z := by
  refine .present hname (fun rest => ?_) h
  rw [hfield, hread]
  rfl

end

/-! ## Programs and their parts -/

theorem reads_packTarget (t : Target) : Reads (readTarget {}) (packTarget t) t := by
  refine Fills.reads ?_ (by simp)
  refine .always (fun kind => { kind := kind }) (by decide) (reads_packUInt8 t.kind) (fun _ => rfl) ?_
  refine .unlessZero (fun reg => { kind := t.kind, reg := reg }) rfl (by decide)
    (reads_packUInt32 t.reg) (fun _ => rfl) ?_
  refine .unlessZero (fun slot => { kind := t.kind, reg := t.reg, slot := slot }) rfl (by decide)
    (reads_packUInt32 t.slot) (fun _ => rfl) ?_
  exact .nil t

/-- A register or slot that is zero takes no bytes. -/
example : packTarget (.memory 0) = [0x81, 0xA1, 0x6B, 0xCC, 0x02] := by decide

theorem reads_packSource (s : Source) : Reads (readSource {}) (packSource s) s := by
  refine Fills.reads ?_ (by simp)
  refine .always (fun kind => { kind := kind }) (by decide) (reads_packUInt8 s.kind) (fun _ => rfl) ?_
  refine .unlessZero (fun imm => { kind := s.kind, imm := imm }) rfl (by decide)
    (reads_packInt64 s.imm) (fun _ => rfl) ?_
  refine .unlessZero (fun reg => { kind := s.kind, imm := s.imm, reg := reg }) rfl (by decide)
    (reads_packUInt32 s.reg) (fun _ => rfl) ?_
  refine .unlessZero (fun slot => { kind := s.kind, imm := s.imm, reg := s.reg, slot := slot }) rfl
    (by decide) (reads_packUInt32 s.slot) (fun _ => rfl) ?_
  exact .nil s

theorem reads_packInstr (i : Instr) : Reads (readInstr {}) (packInstr i) i := by
  refine Fills.reads ?_ (by simp)
  refine .always (fun op => { op := op }) (by decide) (reads_packUInt8 i.op) (fun _ => rfl) ?_
  refine .always (fun dst => { op := i.op, dst := dst }) (by decide) (reads_packTarget i.dst)
    (fun _ => rfl) ?_
  refine .always (fun src => { op := i.op, dst := i.dst, src := src }) (by decide)
    (reads_packSource i.src) (fun _ => rfl) ?_
  exact .nil i

theorem reads_readArray (is : List Instr) :
    Reads (readArray is.length []) (is.flatMap packInstr) is := by
  induction is with
  | nil => exact fun _ => rfl
  | cons i is ih =>
    intro rest
    simp only [List.length_cons, readArray, List.headD_nil, List.tail_nil, List.flatMap_cons,
      List.append_assoc, reads_packInstr i _, ih rest]

/-- The instructions of a program are read into a draft that has none yet. -/
theorem reads_packInstrs {is : List Instr} (h : is.length < UInt32.size) (schema : UInt16) :
    Reads (readInstrs { schema := schema }) (packInstrs is) { schema := schema, instrs := is } := by
  intro rest
  unfold packInstrs
  split
  · rename_i hempty
    rw [List.isEmpty_iff.mp hempty]
    rfl
  · rw [readInstrs, List.append_assoc, takeToken_arrayHead h]
    simp only [List.append_nil, reads_readArray is rest, Option.map_some, List.drop_nil]

theorem reads_pack {p : Program} (h : p.instrs.length < UInt32.size) :
    Reads (readRecord [nameBytes "schema", nameBytes "instrs"] draftField {} {}) (pack p)
      { schema := p.schema, instrs := p.instrs } := by
  refine Fills.reads ?_ (by simp)
  refine .always (fun schema => { schema := schema }) (by decide) (reads_packUInt16 p.schema)
    (fun _ => rfl) ?_
  exact .present (by decide) (reads_packInstrs h p.schema) (.nil _)

/-- A packed program is read back whatever bytes follow it: it is the same program if its version is
the current one, and otherwise the fault tells its version. -/
theorem unpack_pack_append {p : Program} (h : p.instrs.length < UInt32.size) (rest : Bytes) :
    unpack (pack p ++ rest) =
      if p.schema = 1 then .ok p else .error (.schemaMismatch p.schema) := by
  rw [unpack, reads_pack h]
  rfl

/-- Sixteen instructions, which need a longer head, with negative numbers; a byte follows. -/
theorem unpack_pack_append_sixteen :
    let p : Program := { instrs := List.replicate 16 { op := 2, src := .immediate (-1) } }
    unpack (pack p ++ [0xC1]) = .ok p ∧
      unpack (pack { p with schema := 515 } ++ [0xC1]) = .error (.schemaMismatch 515) := by
  intro p
  have hp : p.instrs.length < UInt32.size := by decide
  have hforeign : ({ p with schema := 515 } : Program).instrs.length < UInt32.size := hp
  exact ⟨unpack_pack_append hp [0xC1], unpack_pack_append hforeign [0xC1]⟩

end StraightLine.Program.Packed
