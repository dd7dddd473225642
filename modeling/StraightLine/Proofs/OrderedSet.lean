import Mathlib.Data.Finset.Card
import Mathlib.Tactic.Tauto
import StraightLine.Alloc.Location
import StraightLine.Range.Basic

/-! Ordered sets of the ranges that have a register. A set is known by what can be asked of it: its size,
the element that comes first and the one that comes last. Entries are ordered by end, and a count of
insertions tells equal ends apart, so that the newest entry comes first. All answers of a set with the
elements of a sorted list are those of the list. -/

namespace StraightLine.Alloc

open StraightLine.Code StraightLine.Range

/-- Finite sets that are searched by an order, such as balanced trees. An element that is inserted
replaces the one that comes neither before nor behind it. -/
structure OrderedSet (α : Type) [DecidableEq α] (before : α → α → Bool) where
  /-- The sets. -/
  Carrier : Type
  elements : Carrier → Finset α
  empty : Carrier
  size : Carrier → Nat
  first? : Carrier → Option α
  last? : Carrier → Option α
  dropFirst : Carrier → Carrier
  dropLast : Carrier → Carrier
  insert : α → Carrier → Carrier
  elements_empty : elements empty = ∅
  size_eq : ∀ s, size s = (elements s).card
  first?_eq_none_iff : ∀ s, first? s = none ↔ elements s = ∅
  last?_eq_none_iff : ∀ s, last? s = none ↔ elements s = ∅
  first?_spec : ∀ s a, first? s = some a →
    a ∈ elements s ∧ ∀ b ∈ elements s, before b a = false
  last?_spec : ∀ s a, last? s = some a →
    a ∈ elements s ∧ ∀ b ∈ elements s, before a b = false
  elements_dropFirst : ∀ s a, first? s = some a → elements (dropFirst s) = (elements s).erase a
  elements_dropLast : ∀ s a, last? s = some a → elements (dropLast s) = (elements s).erase a
  elements_insert : ∀ a s, elements (insert a s) =
    Insert.insert a ((elements s).filter fun b => before a b || before b a)

/-- A range that has a register. -/
structure Entry where
  reg : Reg
  range : LiveRange
  var : Var
  /-- The number of insertions up to this one. -/
  order : UInt64
  deriving DecidableEq, Repr

/-- By end; of equal ends the one that was inserted last comes first. -/
def byEnd (a b : Entry) : Bool :=
  if a.range.stop ≠ b.range.stop then a.range.stop < b.range.stop else b.order < a.order

theorem byEnd_iff {a b : Entry} : byEnd a b = true ↔ a.range.stop.toInt < b.range.stop.toInt ∨
    (a.range.stop.toInt = b.range.stop.toInt ∧ b.order.toNat < a.order.toNat) := by
  rw [byEnd]
  split
  · rename_i h
    rw [Ne, ← Int64.toInt_inj] at h
    rw [decide_eq_true_iff, Int64.lt_iff_toInt_lt]
    omega
  · rename_i h
    rw [Ne, ← Int64.toInt_inj] at h
    rw [decide_eq_true_iff, UInt64.lt_iff_toNat_lt]
    omega

theorem byEnd_trans {a b c : Entry} (hab : byEnd a b = true) (hbc : byEnd b c = true) :
    byEnd a c = true := by
  rw [byEnd_iff] at *
  omega

theorem byEnd_asymm {a b : Entry} (h : byEnd a b = true) : byEnd b a = false := by
  rw [← Bool.not_eq_true, byEnd_iff]
  rw [byEnd_iff] at h
  omega

theorem byEnd_self (a : Entry) : byEnd a a = false := by
  cases h : byEnd a a with
  | false => rfl
  | true => exact h.symm.trans (byEnd_asymm h)

/-- The entries are listed by end, each once. -/
def Sorted (as : List Entry) : Prop := as.Pairwise fun a b => byEnd a b = true

section

variable {as : List Entry} {a : Entry}

theorem Sorted.nodup (h : Sorted as) : as.Nodup := by
  refine h.imp fun {a b} hab he => ?_
  rw [he, byEnd_self] at hab
  cases hab

/-- Of two entries of a sorted list one comes before the other. -/
theorem Sorted.eq_of_level (h : Sorted as) {b : Entry} (ha : a ∈ as) (hb : b ∈ as)
    (hab : byEnd a b = false) (hba : byEnd b a = false) : a = b := by
  obtain ⟨i, hi, rfl⟩ := List.mem_iff_getElem.mp ha
  obtain ⟨j, hj, rfl⟩ := List.mem_iff_getElem.mp hb
  rcases Nat.lt_trichotomy i j with hij | rfl | hij
  · rw [List.pairwise_iff_getElem.mp h i j hi hj hij] at hab
    cases hab
  · rfl
  · rw [List.pairwise_iff_getElem.mp h j i hj hi hij] at hba
    cases hba

theorem Sorted.tail (h : Sorted as) : Sorted as.tail := h.sublist (List.tail_sublist as)

theorem Sorted.dropLast (h : Sorted as) : Sorted as.dropLast := h.sublist (List.dropLast_sublist as)

theorem Sorted.first_spec (h : Sorted as) (ha : as.head? = some a) :
    a ∈ as ∧ ∀ b ∈ as, byEnd b a = false := by
  obtain ⟨rest, rfl⟩ := List.head?_eq_some_iff.mp ha
  refine ⟨List.mem_cons_self, fun b hb => ?_⟩
  rcases List.mem_cons.mp hb with rfl | hb
  · exact byEnd_self b
  · exact byEnd_asymm ((List.pairwise_cons.mp h).1 b hb)

theorem Sorted.last_spec (h : Sorted as) (ha : as.getLast? = some a) :
    a ∈ as ∧ ∀ b ∈ as, byEnd a b = false := by
  obtain ⟨init, rfl⟩ := List.getLast?_eq_some_iff.mp ha
  refine ⟨List.mem_append_right _ List.mem_cons_self, fun b hb => ?_⟩
  rcases List.mem_append.mp hb with hb | hb
  · exact byEnd_asymm ((List.pairwise_append.mp h).2.2 b hb a List.mem_cons_self)
  · exact List.mem_singleton.mp hb ▸ byEnd_self a

theorem Sorted.erase_first (h : Sorted as) (ha : as.head? = some a) :
    as.toFinset.erase a = as.tail.toFinset := by
  obtain ⟨rest, rfl⟩ := List.head?_eq_some_iff.mp ha
  have hnew : a ∉ rest.toFinset := fun hm => (List.nodup_cons.mp h.nodup).1 (List.mem_toFinset.mp hm)
  rw [List.toFinset_cons, Finset.erase_insert hnew, List.tail_cons]

theorem Sorted.erase_last (h : Sorted as) (ha : as.getLast? = some a) :
    as.toFinset.erase a = as.dropLast.toFinset := by
  obtain ⟨init, rfl⟩ := List.getLast?_eq_some_iff.mp ha
  have hn := List.nodup_append_comm.mp h.nodup
  have hnew : a ∉ init.toFinset := fun hm => (List.nodup_cons.mp hn).1 (List.mem_toFinset.mp hm)
  rw [List.toFinset_eq_of_perm _ _ List.perm_append_comm, List.singleton_append, List.toFinset_cons,
    Finset.erase_insert hnew, List.dropLast_concat]

/-- An entry is inserted between those that come before it and those that it comes before. -/
theorem Sorted.insert (h : Sorted as) (a : Entry) :
    Sorted (as.filter (byEnd · a) ++ a :: as.filter (byEnd a ·)) := by
  refine List.pairwise_append.mpr ⟨h.sublist List.filter_sublist, ?_, fun b hb c hc => ?_⟩
  · refine List.pairwise_cons.mpr ⟨fun b hb => (List.mem_filter.mp hb).2, ?_⟩
    exact h.sublist List.filter_sublist
  · have hba := (List.mem_filter.mp hb).2
    rcases List.mem_cons.mp hc with rfl | hc
    · exact hba
    · exact byEnd_trans hba (List.mem_filter.mp hc).2

end

/-! ## A set and its sorted list -/

namespace OrderedSet

theorem card_dropFirst_lt {sets : OrderedSet Entry byEnd} {s : sets.Carrier} {a : Entry}
    (h : sets.first? s = some a) :
    (sets.elements (sets.dropFirst s)).card < (sets.elements s).card := by
  rw [sets.elements_dropFirst s a h]
  exact Finset.card_erase_lt_of_mem (sets.first?_spec s a h).1

/-- Two searches agree if they fail together and never find different elements. -/
theorem found_eq {α : Type} {o p : Option α} (hnone : o = none ↔ p = none)
    (hsome : ∀ a b, o = some a → p = some b → a = b) : o = p := by
  cases o with
  | none => exact (hnone.mp rfl).symm
  | some a =>
    cases p with
    | none => exact hnone.mpr rfl
    | some b => exact congrArg some (hsome a b rfl rfl)

/-- The set has the elements of a sorted list. -/
structure ListedBy (sets : OrderedSet Entry byEnd) (s : sets.Carrier) (as : List Entry) : Prop where
  sorted : Sorted as
  elements : sets.elements s = as.toFinset

section

variable {sets : OrderedSet Entry byEnd} {s : sets.Carrier} {as : List Entry}

theorem ListedBy.mem_iff (h : sets.ListedBy s as) {a : Entry} : a ∈ sets.elements s ↔ a ∈ as := by
  rw [h.elements, List.mem_toFinset]

theorem ListedBy.size_eq (h : sets.ListedBy s as) : sets.size s = as.length := by
  rw [sets.size_eq, h.elements, List.toFinset_card_of_nodup h.sorted.nodup]

theorem ListedBy.first?_eq (h : sets.ListedBy s as) : sets.first? s = as.head? := by
  refine found_eq ?_ fun a b ha hb => ?_
  · rw [sets.first?_eq_none_iff, h.elements, List.toFinset_eq_empty_iff, List.head?_eq_none_iff]
  · obtain ⟨hamem, hafirst⟩ := sets.first?_spec s a ha
    obtain ⟨hbmem, hbfirst⟩ := h.sorted.first_spec hb
    rw [h.mem_iff] at hamem
    exact h.sorted.eq_of_level hamem hbmem (hbfirst a hamem) (hafirst b (h.mem_iff.mpr hbmem))

theorem ListedBy.last?_eq (h : sets.ListedBy s as) : sets.last? s = as.getLast? := by
  refine found_eq ?_ fun a b ha hb => ?_
  · rw [sets.last?_eq_none_iff, h.elements, List.toFinset_eq_empty_iff, List.getLast?_eq_none_iff]
  · obtain ⟨hamem, halast⟩ := sets.last?_spec s a ha
    obtain ⟨hbmem, hblast⟩ := h.sorted.last_spec hb
    rw [h.mem_iff] at hamem
    exact h.sorted.eq_of_level hamem hbmem (halast b (h.mem_iff.mpr hbmem)) (hblast a hamem)

theorem listedBy_empty : sets.ListedBy sets.empty [] := ⟨.nil, sets.elements_empty⟩

theorem ListedBy.dropFirst (h : sets.ListedBy s as) (hn : as ≠ []) :
    sets.ListedBy (sets.dropFirst s) as.tail := by
  have ha := List.head?_eq_some_head hn
  refine ⟨h.sorted.tail, ?_⟩
  rw [sets.elements_dropFirst s _ (h.first?_eq.trans ha), h.elements, h.sorted.erase_first ha]

theorem ListedBy.dropLast (h : sets.ListedBy s as) (hn : as ≠ []) :
    sets.ListedBy (sets.dropLast s) as.dropLast := by
  have ha := List.getLast?_eq_some_getLast hn
  refine ⟨h.sorted.dropLast, ?_⟩
  rw [sets.elements_dropLast s _ (h.last?_eq.trans ha), h.elements, h.sorted.erase_last ha]

/-- An entry that can be told from all others is put in without replacing one. -/
theorem ListedBy.insert (h : sets.ListedBy s as) {a : Entry} {bs cs : List Entry} (has : as = bs ++ cs)
    (hsorted : Sorted (bs ++ a :: cs)) : sets.ListedBy (sets.insert a s) (bs ++ a :: cs) := by
  refine ⟨hsorted, ?_⟩
  have hsides := List.pairwise_append.mp hsorted
  have hall : (bs ++ cs).toFinset.filter (fun b => byEnd a b || byEnd b a) =
      (bs ++ cs).toFinset := by
    refine Finset.filter_true_of_mem fun b hb => ?_
    rcases List.mem_append.mp (List.mem_toFinset.mp hb) with hb | hb
    · rw [hsides.2.2 b hb a List.mem_cons_self, Bool.or_true]
    · rw [(List.pairwise_cons.mp hsides.2.1).1 b hb, Bool.true_or]
  rw [sets.elements_insert, h.elements, has, hall, ← List.toFinset_cons]
  exact List.toFinset_eq_of_perm _ _ List.perm_middle.symm

end

end OrderedSet

/-- Sorted lists are ordered sets. -/
def OrderedSet.ofLists : OrderedSet Entry byEnd where
  Carrier := { as : List Entry // Sorted as }
  elements s := s.1.toFinset
  empty := ⟨[], .nil⟩
  size s := s.1.length
  first? s := s.1.head?
  last? s := s.1.getLast?
  dropFirst s := ⟨s.1.tail, s.2.tail⟩
  dropLast s := ⟨s.1.dropLast, s.2.dropLast⟩
  insert a s := ⟨s.1.filter (byEnd · a) ++ a :: s.1.filter (byEnd a ·), s.2.insert a⟩
  elements_empty := rfl
  size_eq s := (List.toFinset_card_of_nodup s.2.nodup).symm
  first?_eq_none_iff s := by rw [List.head?_eq_none_iff, List.toFinset_eq_empty_iff]
  last?_eq_none_iff s := by rw [List.getLast?_eq_none_iff, List.toFinset_eq_empty_iff]
  first?_spec s a ha := by simpa using s.2.first_spec ha
  last?_spec s a ha := by simpa using s.2.last_spec ha
  elements_dropFirst s a ha := (s.2.erase_first ha).symm
  elements_dropLast s a ha := (s.2.erase_last ha).symm
  elements_insert a s := by
    ext b
    simp only [List.toFinset_append, List.toFinset_cons, List.toFinset_filter, Finset.mem_union,
      Finset.mem_insert, Finset.mem_filter, Bool.or_eq_true]
    tauto

end StraightLine.Alloc
