import Mathlib.Data.List.Induction
import Mathlib.Data.List.Nodup
import StraightLine.Proofs.KeyedList
import StraightLine.Source.Names

/-! Names and numbers belong to each other one to one, over any history of calls on a new table. The
names stand in the order in which their normal forms were interned first, and the index leads back from
each to its place. Both stay as they are when more calls come, so a number is good for ever. -/

namespace StraightLine.Source.NameTable

/-! ## Histories -/

inductive Call
  | intern (s : String)
  | find (s : String)
  | lookup (i : NameId)
  deriving DecidableEq, Repr

inductive Answer
  | number (i : NameId)
  | found (i : Option NameId)
  | name (s : Option String)
  deriving DecidableEq, Repr

def Call.interned? : Call → Option String
  | intern s => some s
  | find _ => none
  | lookup _ => none

theorem Call.interned?_eq_some_iff {c : Call} {s : String} :
    c.interned? = some s ↔ c = intern s := by
  cases c <;> simp [interned?]

def answer (norm : String → String) (t : NameTable) : Call → Answer × NameTable
  | .intern s => (.number (t.intern norm s).1, (t.intern norm s).2)
  | .find s => (.found (t.find? norm s), t)
  | .lookup i => (.name (t.lookup? i), t)

def run (norm : String → String) (t : NameTable) : List Call → List Answer × NameTable
  | [] => ([], t)
  | c :: cs =>
    let (a, t) := t.answer norm c
    let (as, t) := run norm t cs
    (a :: as, t)

def after (norm : String → String) (calls : List Call) : NameTable := (run norm .empty calls).2

def answers (norm : String → String) (calls : List Call) : List Answer := (run norm .empty calls).1

/-- The normal forms that some calls intern, in the order in which they come first. The empty name is
in front of them. -/
def forms (norm : String → String) (calls : List Call) : List String :=
  ("" :: (calls.filterMap Call.interned?).map norm).eraseDups

section

variable {norm : String → String} {t : NameTable} {calls : List Call} {s : String}

theorem run_append (cs ds : List Call) :
    run norm t (cs ++ ds) =
      ((run norm t cs).1 ++ (run norm (run norm t cs).2 ds).1, (run norm (run norm t cs).2 ds).2) := by
  induction cs generalizing t with
  | nil => rfl
  | cons c cs ih => simp only [List.cons_append, run, ih]

/-- A call is answered from the table behind the calls in front of it. -/
theorem getElem?_run (p : Nat) :
    (run norm t calls).1[p]? =
      calls[p]?.map fun c => ((run norm t (calls.take p)).2.answer norm c).1 := by
  induction calls generalizing t p with
  | nil => rfl
  | cons c cs ih =>
    cases p with
    | zero => rfl
    | succ p => exact ih p

theorem getElem?_answers {p : Nat} {c : Call} (h : calls[p]? = some c) :
    (answers norm calls)[p]? = some ((after norm (calls.take p)).answer norm c).1 := by
  rw [answers, getElem?_run, h]
  rfl

theorem after_concat (calls : List Call) (c : Call) :
    after norm (calls ++ [c]) = ((after norm calls).answer norm c).2 := by
  rw [after, run_append]
  rfl

theorem forms_concat (calls : List Call) (c : Call) :
    forms norm (calls ++ [c]) =
      match c with
      | .intern s =>
        if norm s ∈ forms norm calls then forms norm calls else forms norm calls ++ [norm s]
      | _ => forms norm calls := by
  cases c with
  | intern s =>
    have hconcat : forms norm (calls ++ [.intern s]) =
        (("" :: (calls.filterMap Call.interned?).map norm) ++ [norm s]).eraseDups := by
      simp [forms, Call.interned?]
    rw [hconcat, eraseDups_concat]
    simp only [forms, List.mem_eraseDups]
  | find s =>
    rw [forms, List.filterMap_append]
    exact congrArg (fun texts => ("" :: texts.map norm).eraseDups) (List.append_nil _)
  | lookup i =>
    rw [forms, List.filterMap_append]
    exact congrArg (fun texts => ("" :: texts.map norm).eraseDups) (List.append_nil _)

/-! ## Both tables agree, and numbers stay -/

/-- No name is there twice, and the index has each name with its place. -/
structure Consistent (t : NameTable) : Prop where
  distinct : t.names.Nodup
  indexed : t.index = t.names.zipIdx.map fun e => (e.1, UInt32.ofNat e.2)

theorem consistent_empty : Consistent .empty := ⟨by simp [empty], rfl⟩

/-- The index has a number for a normal form if and only if it is the place of this form. -/
theorem Consistent.number?_eq_some_iff (h : Consistent t) {form : String} {i : NameId} :
    t.number? form = some i ↔ ∃ n, t.names[n]? = some form ∧ UInt32.ofNat n = i := by
  have hkeys : t.index.map (·.1) = t.names := by
    rw [h.indexed, List.map_map]
    exact List.zipIdx_map_fst 0 t.names
  have hn : (t.index.map (·.1)).Nodup := hkeys ▸ h.distinct
  have hmem : t.number? form = some i ↔ (form, i) ∈ t.index := by
    rw [number?, Option.map_eq_some_iff]
    constructor
    · rintro ⟨e, he, rfl⟩
      obtain ⟨hm, rfl⟩ := (find?_key_iff hn).mp he
      exact hm
    · exact fun hm => ⟨_, (find?_key_iff hn).mpr ⟨hm, rfl⟩, rfl⟩
  rw [hmem, h.indexed, List.mem_map]
  constructor
  · rintro ⟨⟨f, n⟩, hf, he⟩
    cases he
    exact ⟨n, List.mem_zipIdx_iff_getElem?.mp hf, rfl⟩
  · rintro ⟨n, hf, rfl⟩
    exact ⟨(form, n), List.mem_zipIdx_iff_getElem?.mpr hf, rfl⟩

theorem Consistent.number?_isSome (h : Consistent t) {form : String} :
    (t.number? form).isSome = true ↔ form ∈ t.names := by
  rw [Option.isSome_iff_exists, List.mem_iff_getElem?]
  constructor
  · rintro ⟨i, hi⟩
    obtain ⟨n, hn, -⟩ := h.number?_eq_some_iff.mp hi
    exact ⟨n, hn⟩
  · rintro ⟨n, hn⟩
    exact ⟨_, h.number?_eq_some_iff.mpr ⟨n, hn, rfl⟩⟩

/-- As long as there are numbers for all names, the index and the names are inverse to each other. -/
theorem Consistent.number?_eq_some_iff_lookup? (h : Consistent t) (hsize : t.size ≤ UInt32.size)
    {form : String} {i : NameId} : t.number? form = some i ↔ t.lookup? i = some form := by
  rw [h.number?_eq_some_iff, lookup?]
  constructor
  · rintro ⟨n, hn, rfl⟩
    have hlt : n < t.size := (List.getElem?_eq_some_iff.mp hn).1
    rwa [UInt32.toNat_ofNat_of_lt' (by omega)]
  · exact fun hi => ⟨i.toNat, hi, UInt32.ofNat_toNat⟩

theorem Consistent.add (h : Consistent t) {form : String} (hf : form ∉ t.names) :
    Consistent (t.add form).2 where
  distinct := by
    refine List.nodup_append.mpr ⟨h.distinct, by simp, fun f hft g hg => ?_⟩
    rintro rfl
    exact hf (List.mem_singleton.mp hg ▸ hft)
  indexed := by
    simp only [NameTable.add, h.indexed, List.zipIdx_append, List.map_append, Nat.zero_add]
    rfl

/-- What interning can do: the number is there and nothing changes, or the next number is given. -/
theorem Consistent.intern_cases (h : Consistent t) (norm : String → String) (s : String) :
    (norm s ∈ t.names ∧ t.number? (norm s) = some (t.intern norm s).1 ∧ (t.intern norm s).2 = t) ∨
    (norm s ∉ t.names ∧ t.intern norm s = t.add (norm s)) := by
  rw [intern]
  cases hi : t.number? (norm s) with
  | some i => exact .inl ⟨h.number?_isSome.mp (Option.isSome_of_eq_some hi), rfl, rfl⟩
  | none =>
    refine .inr ⟨fun hm => ?_, rfl⟩
    rw [← h.number?_isSome, hi] at hm
    cases hm

theorem Consistent.names_intern (h : Consistent t) (norm : String → String) (s : String) :
    (t.intern norm s).2.names = if norm s ∈ t.names then t.names else t.names ++ [norm s] := by
  rcases h.intern_cases norm s with ⟨hm, -, ht⟩ | ⟨hm, ht⟩
  · rw [if_pos hm, ht]
  · rw [if_neg hm, ht]
    rfl

/-- Tables stay consistent. -/
theorem Consistent.answer (h : Consistent t) (norm : String → String) (c : Call) :
    Consistent (t.answer norm c).2 := by
  cases c with
  | intern s =>
    rcases h.intern_cases norm s with ⟨-, -, ht⟩ | ⟨hm, ht⟩
    · rw [NameTable.answer, ht]
      exact h
    · rw [NameTable.answer, ht]
      exact h.add hm
  | find s => exact h
  | lookup i => exact h

theorem consistent_after (norm : String → String) (calls : List Call) :
    Consistent (after norm calls) := by
  induction calls using List.reverseRecOn with
  | nil => exact consistent_empty
  | append_singleton calls c ih =>
    rw [after_concat]
    exact ih.answer norm c

/-- The names behind some calls are the forms that they intern. -/
theorem names_after (norm : String → String) (calls : List Call) :
    (after norm calls).names = forms norm calls := by
  induction calls using List.reverseRecOn with
  | nil => rfl
  | append_singleton calls c ih =>
    rw [after_concat, forms_concat, ← ih]
    cases c with
    | intern s => exact (consistent_after norm calls).names_intern norm s
    | find s => rfl
    | lookup i => rfl

theorem mem_forms {form : String} :
    form ∈ forms norm calls ↔
      form = "" ∨ ∃ (q : Nat) (s : String), calls[q]? = some (.intern s) ∧ norm s = form := by
  rw [forms, List.mem_eraseDups, List.mem_cons, List.mem_map]
  refine or_congr_right ⟨?_, ?_⟩
  · rintro ⟨s, hs, he⟩
    obtain ⟨c, hc, hcs⟩ := List.mem_filterMap.mp hs
    obtain ⟨q, hq⟩ := List.mem_iff_getElem?.mp hc
    exact ⟨q, s, Call.interned?_eq_some_iff.mp hcs ▸ hq, he⟩
  · rintro ⟨q, s, hq, he⟩
    exact ⟨s, List.mem_filterMap.mpr ⟨_, List.mem_of_getElem? hq, rfl⟩, he⟩

/-- Names that are there stay where they are. -/
theorem names_after_append (norm : String → String) (cs ds : List Call) :
    (after norm cs).names <+: (after norm (cs ++ ds)).names := by
  induction ds using List.reverseRecOn with
  | nil => simp
  | append_singleton ds d ih =>
    rw [← List.append_assoc, names_after norm (cs ++ ds ++ [d]), forms_concat, ← names_after]
    refine ih.trans ?_
    cases d with
    | intern s =>
      dsimp only
      split
      · exact List.prefix_refl _
      · exact List.prefix_append _ _
    | find s => exact List.prefix_refl _
    | lookup i => exact List.prefix_refl _

theorem names_after_take (norm : String → String) (calls : List Call) (p : Nat) :
    (after norm (calls.take p)).names <+: (after norm calls).names := by
  have h := names_after_append norm (calls.take p) (calls.drop p)
  rwa [List.take_append_drop] at h

theorem lookup?_after_take {p : Nat} {i : NameId} {form : String}
    (h : (after norm (calls.take p)).lookup? i = some form) :
    (after norm calls).lookup? i = some form := by
  obtain ⟨rest, hrest⟩ := names_after_take norm calls p
  rw [lookup?, ← hrest]
  exact List.getElem?_append_left (List.getElem?_eq_some_iff.mp h).1 ▸ h

/-- The number that interning gives leads back to the normal form. -/
theorem Consistent.lookup?_intern (h : Consistent t) (hsize : (t.intern norm s).2.size ≤ UInt32.size) :
    (t.intern norm s).2.lookup? (t.intern norm s).1 = some (norm s) := by
  rcases h.intern_cases norm s with ⟨-, hi, ht⟩ | ⟨-, ht⟩
  · rw [ht] at hsize ⊢
    exact (h.number?_eq_some_iff_lookup? hsize).mp hi
  · rw [ht] at hsize ⊢
    have hlt : t.size < UInt32.size := by
      simp only [NameTable.add, size, List.length_append, List.length_singleton] at hsize
      exact hsize
    rw [lookup?, NameTable.add, UInt32.toNat_ofNat_of_lt' hlt]
    exact List.getElem?_concat_length

section

variable (hsize : (forms norm calls).length ≤ UInt32.size)
include hsize

theorem length_forms_take_le (p : Nat) : (forms norm (calls.take p)).length ≤ UInt32.size := by
  have hle := (names_after_take norm calls p).length_le
  rw [names_after, names_after] at hle
  exact Nat.le_trans hle hsize

omit hsize in
theorem size_after (norm : String → String) (calls : List Call) :
    (after norm calls).size = (forms norm calls).length := congrArg _ (names_after norm calls)

/-- Interning answers with the place of the normal form among all names, also among later ones. -/
theorem number_of_intern {p : Nat} (h : calls[p]? = some (.intern s)) :
    ∃ i, (answers norm calls)[p]? = some (.number i) ∧
      (after norm calls).lookup? i = some (norm s) := by
  refine ⟨_, getElem?_answers h, lookup?_after_take (p := p + 1) ?_⟩
  have hnext := length_forms_take_le hsize (p + 1)
  rw [← size_after, List.take_add_one, h, Option.toList_some, after_concat] at hnext
  rw [List.take_add_one, h, Option.toList_some, after_concat]
  exact (consistent_after norm _).lookup?_intern hnext

/-- Only one number leads to a name. -/
theorem number_unique {i j : NameId} {form : String}
    (hi : (after norm calls).lookup? i = some form)
    (hj : (after norm calls).lookup? j = some form) : i = j := by
  have hc := consistent_after norm calls
  have hle : (after norm calls).size ≤ UInt32.size := size_after norm calls ▸ hsize
  rw [← hc.number?_eq_some_iff_lookup? hle] at hi hj
  exact Option.some.inj (hi.symm.trans hj)

end

/-! ## The table is a bijection -/

/-- The call at position `p` is `c`, and `a` is its answer. -/
def Replies (norm : String → String) (calls : List Call) (p : Nat) (c : Call) (a : Answer) : Prop :=
  calls[p]? = some c ∧ (answers norm calls)[p]? = some a

theorem Replies.eq {p : Nat} {c : Call} {a : Answer} (h : Replies norm calls p c a) :
    a = ((after norm (calls.take p)).answer norm c).1 :=
  Option.some.inj (h.2.symm.trans (getElem?_answers h.1))

/-- A reply does not depend on later calls. -/
theorem Replies.take {p q : Nat} {c : Call} {a : Answer} (h : Replies norm calls p c a)
    (hpq : p < q) : Replies norm (calls.take q) p c a := by
  have hc : (calls.take q)[p]? = some c := (List.getElem?_take_of_lt hpq).trans h.1
  refine ⟨hc, ?_⟩
  rw [getElem?_answers hc, List.take_take, Nat.min_eq_left (Nat.le_of_lt hpq), h.eq]

theorem Replies.lookup? (hsize : (forms norm calls).length ≤ UInt32.size) {p : Nat} {i : NameId}
    (h : Replies norm calls p (.intern s) (.number i)) :
    (after norm calls).lookup? i = some (norm s) := by
  obtain ⟨j, hj, hl⟩ := number_of_intern hsize h.1
  rw [h.2] at hj
  cases hj
  exact hl

theorem Replies.lookup?_found (hsize : (forms norm calls).length ≤ UInt32.size) {p : Nat} {i : NameId}
    (h : Replies norm calls p (.find s) (.found (some i))) :
    (after norm calls).lookup? i = some (norm s) := by
  have hfind : (after norm (calls.take p)).number? (norm s) = some i := (Answer.found.inj h.eq).symm
  have hle := length_forms_take_le hsize p
  rw [← size_after] at hle
  rw [(consistent_after norm _).number?_eq_some_iff_lookup? hle] at hfind
  exact lookup?_after_take hfind

/-- What a history of calls on a new table shows. -/
structure StableBijection (norm : String → String) (calls : List Call) : Prop where
  /-- The names are listed as they come first, the empty one in front, and none twice. -/
  listed : (after norm calls).toList = forms norm calls ∧ (forms norm calls)[0]? = some "" ∧
    (forms norm calls).Nodup
  /-- The list and the numbers go together. -/
  numbered : ∀ n, n < (after norm calls).size →
    (after norm calls).lookup? (UInt32.ofNat n) = (after norm calls).toList[n]?
  /-- A text is given the place of its normal form. -/
  dense {p : Nat} {s : String} : calls[p]? = some (.intern s) →
    ∃ i, Replies norm calls p (.intern s) (.number i) ∧ i.toNat = (forms norm calls).idxOf (norm s)
  /-- Texts have one number exactly if they have one normal form, whenever they are interned. -/
  injective {p q : Nat} {s u : String} {i j : NameId} : Replies norm calls p (.intern s) (.number i) →
    Replies norm calls q (.intern u) (.number j) → (i = j ↔ norm s = norm u)
  /-- A number that was given or found leads to the normal form of its text ever after. -/
  stable {p q : Nat} {s : String} {i : NameId} : Replies norm calls p (.intern s) (.number i) ∨
    Replies norm calls p (.find s) (.found (some i)) → p < q → calls[q]? = some (.lookup i) →
      Replies norm calls q (.lookup i) (.name (some (norm s)))
  /-- A text is found exactly if its normal form is empty or was interned before. -/
  found {p : Nat} {s : String} : calls[p]? = some (.find s) →
    ∃ r, Replies norm calls p (.find s) (.found r) ∧
      (r.isSome = true ↔ norm s = "" ∨
        ∃ (q : Nat) (u : String), q < p ∧ calls[q]? = some (.intern u) ∧ norm u = norm s)
  /-- The number that is found is the one that interning gives, and zero for the empty form. -/
  found_number {p : Nat} {s : String} {i : NameId} :
    Replies norm calls p (.find s) (.found (some i)) → (norm s = "" → i = 0) ∧
      ∀ {q : Nat} {u : String} {j : NameId}, Replies norm calls q (.intern u) (.number j) →
        norm u = norm s → i = j
  /-- Nothing is changed by finding a text or looking a number up. -/
  kept (c : Call) : c.interned? = none → after norm (calls ++ [c]) = after norm calls
  /-- A name keeps its number when it is interned itself. -/
  fixed : (∀ s, norm (norm s) = norm s) → ∀ {i : NameId} {s : String},
    (after norm calls).lookup? i = some s → (after norm calls).intern norm s = (i, after norm calls)

/-- The forms are normal forms, with the empty one among them. -/
theorem norm_of_mem_forms (hempty : norm "" = "") (hnorm : ∀ s, norm (norm s) = norm s)
    {form : String} (h : form ∈ forms norm calls) : norm form = form := by
  rcases mem_forms.mp h with rfl | ⟨-, s, -, rfl⟩
  · exact hempty
  · exact hnorm s

theorem getElem?_forms_zero : (forms norm calls)[0]? = some "" := by
  rw [forms, List.eraseDups_cons]
  rfl

/-- Names and numbers belong to each other one to one, over every history of calls on a new table that
has numbers for all names. -/
theorem names_have_stable_numbers (hempty : norm "" = "")
    (hsize : (forms norm calls).length ≤ UInt32.size) : StableBijection norm calls where
  listed := ⟨names_after norm calls, getElem?_forms_zero,
    names_after norm calls ▸ (consistent_after norm calls).distinct⟩
  numbered n hn := by
    rw [size_after] at hn
    rw [lookup?, UInt32.toNat_ofNat_of_lt' (by omega)]
    rfl
  dense {p s} h := by
    obtain ⟨i, hi, hl⟩ := number_of_intern hsize h
    obtain ⟨hlt, hget⟩ := List.getElem?_eq_some_iff.mp hl
    refine ⟨i, ⟨h, hi⟩, ?_⟩
    rw [← hget, ← names_after, (consistent_after norm calls).distinct.idxOf_getElem]
  injective {p q s u i j} hi hj := by
    have hs := hi.lookup? hsize
    have hu := hj.lookup? hsize
    refine ⟨fun h => ?_, fun h => number_unique hsize hs (h ▸ hu)⟩
    rw [h, hu] at hs
    exact (Option.some.inj hs).symm
  stable {p q s i} hi hpq hq := by
    have hle := length_forms_take_le hsize q
    have hl : (after norm (calls.take q)).lookup? i = some (norm s) := by
      rcases hi with hi | hi
      · exact (hi.take hpq).lookup? hle
      · exact (hi.take hpq).lookup?_found hle
    refine ⟨hq, ?_⟩
    rw [getElem?_answers hq, answer, hl]
  found {p s} h := by
    refine ⟨_, ⟨h, getElem?_answers h⟩, ?_⟩
    rw [find?, (consistent_after norm _).number?_isSome, names_after, mem_forms]
    refine or_congr_right ⟨?_, ?_⟩
    · rintro ⟨q, u, hq, hu⟩
      rw [List.getElem?_take] at hq
      split at hq
      · exact ⟨q, u, ‹_›, hq, hu⟩
      · cases hq
    · rintro ⟨q, u, hqp, hq, hu⟩
      exact ⟨q, u, (List.getElem?_take_of_lt hqp).trans hq, hu⟩
  found_number {p s i} h := by
    have hl := h.lookup?_found hsize
    refine ⟨fun hs => number_unique hsize (hs ▸ hl) ?_, fun {q u j} hj hu => ?_⟩
    · rw [lookup?, names_after]
      exact getElem?_forms_zero
    · exact number_unique hsize hl (hu ▸ hj.lookup? hsize)
  kept c hc := by
    rw [after_concat]
    cases c with
    | intern s => cases hc
    | find s => rfl
    | lookup i => rfl
  fixed hnorm {i s} h := by
    have hform : s ∈ forms norm calls := names_after norm calls ▸ List.mem_of_getElem? h
    have hle : (after norm calls).size ≤ UInt32.size := size_after norm calls ▸ hsize
    rw [← (consistent_after norm calls).number?_eq_some_iff_lookup? hle] at h
    rw [intern, norm_of_mem_forms hempty hnorm hform, h]

end

/-- Two spellings of one letter: the second one is given the number of the first, and the name in front
of them has a number of its own. -/
theorem names_have_stable_numbers_accent :
    let norm : String → String := fun s => if s = "e\u0301" then "\u00e9" else s
    let calls : List Call := [.find "e\u0301", .intern "b", .intern "e\u0301", .intern "\u00e9",
      .lookup 2, .find "e\u0301", .intern ""]
    answers norm calls = [.found none, .number 1, .number 2, .number 2, .name (some "\u00e9"),
      .found (some 2), .number 0] ∧ StableBijection norm calls := by
  intro norm calls
  exact ⟨by decide, names_have_stable_numbers (by decide) (by decide)⟩

end StraightLine.Source.NameTable
