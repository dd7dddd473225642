import Mathlib.Data.List.Induction
import Mathlib.Data.List.Nodup
import Mathlib.Data.List.Perm.Basic
import StraightLine.Settings

/-! Register files are checked completely. A list of numbers is accepted if and only if each of them is
the number of a register and none comes twice, and then the registers are given back in ascending order.
Of a list that is refused, the first number that is out of range or came before decides the fault. -/

namespace StraightLine

open StraightLine.Alloc

theorem toInt_injective : Function.Injective Int64.toInt := fun _ _ => Int64.toInt_inj.mp

namespace Alloc.Reg

def number (r : Reg) : Int := r.toNat

theorem number_injective : Function.Injective number :=
  fun _ _ h => UInt32.toNat_inj.mp (Int.ofNat_inj.mp h)

def InRange (n : Int64) : Prop := 0 ≤ n.toInt ∧ n.toInt < UInt32.size

instance : DecidablePred InRange := fun n =>
  inferInstanceAs (Decidable (0 ≤ n.toInt ∧ n.toInt < UInt32.size))

def Numbered (ns : List Int64) (rs : List Reg) : Prop := ns.map Int64.toInt = rs.map number

theorem ofNumber_eq_ok_iff {n : Int64} {r : Reg} : Reg.ofNumber n = .ok r ↔ n.toInt = r.number := by
  rw [Reg.ofNumber, number]
  split
  · have hto : (UInt32.ofNat n.toInt.toNat).toNat = n.toInt.toNat :=
      UInt32.toNat_ofNat_of_lt' (by omega)
    rw [Except.ok.injEq, ← UInt32.toNat_inj, hto]
    omega
  · have hr := r.toNat_lt_size
    simp only [reduceCtorEq, false_iff]
    omega

theorem ofNumber_of_not_inRange {n : Int64} (h : ¬ InRange n) :
    Reg.ofNumber n = .error (.outOfRange n) := if_neg h

theorem exists_ofNumber {n : Int64} (h : InRange n) : ∃ r, Reg.ofNumber n = .ok r := ⟨_, if_pos h⟩

theorem Numbered.cons_iff {n : Int64} {ns : List Int64} {r : Reg} {rs : List Reg} :
    Numbered (n :: ns) (r :: rs) ↔ Reg.ofNumber n = .ok r ∧ Numbered ns rs := by
  rw [Numbered, List.map_cons, List.map_cons, List.cons.injEq, ofNumber_eq_ok_iff]
  exact .rfl

theorem exists_numbered {ns : List Int64} (h : ∀ n ∈ ns, InRange n) : ∃ rs, Numbered ns rs := by
  induction ns with
  | nil => exact ⟨[], rfl⟩
  | cons n ns ih =>
    obtain ⟨hn, hns⟩ := List.forall_mem_cons.mp h
    obtain ⟨r, hr⟩ := exists_ofNumber hn
    obtain ⟨rs, hrs⟩ := ih hns
    exact ⟨r :: rs, Numbered.cons_iff.mpr ⟨hr, hrs⟩⟩

section

variable {ns : List Int64} {rs : List Reg}

/-- A number comes twice if and only if its register does. -/
theorem Numbered.nodup_iff (h : Numbered ns rs) : rs.Nodup ↔ ns.Nodup := by
  rw [← List.nodup_map_iff number_injective, ← h, List.nodup_map_iff toInt_injective]

theorem Numbered.mem_iff (h : Numbered ns rs) {n : Int64} {r : Reg} (hr : Reg.ofNumber n = .ok r) :
    r ∈ rs ↔ n ∈ ns := by
  rw [← List.mem_map_of_injective number_injective, ← h, ← ofNumber_eq_ok_iff.mp hr,
    List.mem_map_of_injective toInt_injective]

end

end Alloc.Reg

namespace Settings

open Alloc.Reg

/-- Numbers that pass leave their registers behind. -/
theorem checkRegisters_append {ns : List Int64} {seen rs : List Reg} (h : Numbered ns rs)
    (hn : (seen ++ rs).Nodup) (rest : List Int64) :
    checkRegisters seen (ns ++ rest) = checkRegisters (seen ++ rs) rest := by
  induction ns generalizing seen rs with
  | nil =>
    rw [List.map_eq_nil_iff.mp h.symm, List.append_nil, List.nil_append]
  | cons n ns ih =>
    cases rs with
    | nil => cases h
    | cons r rs =>
      obtain ⟨hr, hrs⟩ := Numbered.cons_iff.mp h
      have hnew : r ∉ seen := fun hm => (List.nodup_append.mp hn).2.2 r hm r List.mem_cons_self rfl
      rw [List.append_cons] at hn ⊢
      rw [List.cons_append, checkRegisters, hr, ← ih hrs hn]
      exact if_neg (by simpa using hnew)

def Accepted (ns : List Int64) : Prop := (∀ n ∈ ns, InRange n) ∧ ns.Nodup

-- members are tried, not all words
instance : DecidablePred Accepted := fun ns =>
  have := List.decidableBAll InRange ns
  inferInstanceAs (Decidable ((∀ n ∈ ns, InRange n) ∧ ns.Nodup))

/-- The number is out of range or came before, and this is its fault. -/
inductive Refused (before : List Int64) (n : Int64) : RegisterFault → Prop
  | outOfRange (h : ¬ InRange n) : Refused before n (.number (.outOfRange n))
  | duplicate {r : Reg} (hr : n.toInt = r.number) (h : n ∈ before) : Refused before n (.duplicate r)

/-- Some number of the list is refused, and those in front of it are accepted. -/
def FirstRefused (ns : List Int64) (f : RegisterFault) : Prop :=
  ∃ before n after, ns = before ++ n :: after ∧ Accepted before ∧ Refused before n f

theorem Accepted.concat {ns : List Int64} {n : Int64} (h : Accepted ns) (hn : InRange n)
    (hm : n ∉ ns) : Accepted (ns ++ [n]) := by
  refine ⟨fun m hm => ?_, List.nodup_append_comm.mp (List.nodup_cons.mpr ⟨hm, h.2⟩)⟩
  rcases List.mem_append.mp hm with hm | hm
  · exact h.1 m hm
  · exact List.mem_singleton.mp hm ▸ hn

theorem accepted_or_firstRefused (ns : List Int64) : Accepted ns ∨ ∃ f, FirstRefused ns f := by
  induction ns using List.reverseRecOn with
  | nil => exact .inl ⟨by simp, .nil⟩
  | append_singleton ns n ih =>
    rcases ih with ha | ⟨f, before, m, after, rfl, ha, hf⟩
    · by_cases hn : InRange n
      · by_cases hm : n ∈ ns
        · obtain ⟨r, hr⟩ := exists_ofNumber hn
          exact .inr ⟨_, ns, n, [], rfl, ha, .duplicate (ofNumber_eq_ok_iff.mp hr) hm⟩
        · exact .inl (ha.concat hn hm)
      · exact .inr ⟨_, ns, n, [], rfl, ha, .outOfRange hn⟩
    · exact .inr ⟨f, before, m, after ++ [n], by simp, ha, hf⟩

theorem mergeSort_increasing {rs : List Reg} (h : rs.Nodup) :
    (rs.mergeSort (· ≤ ·)).Pairwise (· < ·) := by
  have hle : (rs.mergeSort (· ≤ ·)).Pairwise fun a b => decide (a ≤ b) = true :=
    List.pairwise_mergeSort (fun a b c => by simpa using UInt32.le_trans)
      (fun a b => by simpa using UInt32.le_total a b) rs
  have hne := (List.mergeSort_perm rs (· ≤ ·)).nodup_iff.mpr h
  exact (hle.and hne).imp fun ⟨hab, hne⟩ => UInt32.lt_of_le_of_ne (of_decide_eq_true hab) hne

theorem registersOf_of_accepted {ns : List Int64} (h : Accepted ns) :
    ∃ rs, registersOf ns = .ok rs ∧ rs.Pairwise (· < ·) ∧
      (rs.map number).Perm (ns.map Int64.toInt) := by
  obtain ⟨rs, hrs⟩ := exists_numbered h.1
  have hn : ([] ++ rs).Nodup := hrs.nodup_iff.mpr h.2
  have hcheck : checkRegisters [] ns = .ok rs := by
    have happend := checkRegisters_append hrs hn []
    rwa [List.append_nil] at happend
  refine ⟨rs.mergeSort (· ≤ ·), ?_, mergeSort_increasing hn, ?_⟩
  · rw [registersOf, hcheck]
    rfl
  · rw [hrs]
    exact (List.mergeSort_perm rs _).map _

theorem registersOf_of_firstRefused {ns : List Int64} {f : RegisterFault} (h : FirstRefused ns f) :
    registersOf ns = .error f := by
  obtain ⟨before, n, after, rfl, ha, hf⟩ := h
  obtain ⟨rs, hrs⟩ := exists_numbered ha.1
  have hn : ([] ++ rs).Nodup := hrs.nodup_iff.mpr ha.2
  have hcheck : checkRegisters [] (before ++ n :: after) = .error f := by
    rw [checkRegisters_append hrs hn, List.nil_append, checkRegisters]
    cases hf with
    | outOfRange hn => rw [ofNumber_of_not_inRange hn]
    | duplicate hr hm =>
      rw [← ofNumber_eq_ok_iff] at hr
      rw [hr]
      exact if_pos (by simpa using (hrs.mem_iff hr).mpr hm)
  rw [registersOf, hcheck]
  rfl

theorem accepted_of_registersOf {ns : List Int64} {rs : List Reg} (h : registersOf ns = .ok rs) :
    Accepted ns := by
  rcases accepted_or_firstRefused ns with ha | ⟨f, hf⟩
  · exact ha
  · cases h.symm.trans (registersOf_of_firstRefused hf)

/-- A register file is accepted if and only if no number is out of range and none comes twice. Then the
registers are those with the given numbers, strictly ascending. Otherwise the fault is that of the first
number which is out of range or came before. -/
theorem register_file_is_checked (ns : List Int64) :
    ((∃ rs, registersOf ns = .ok rs) ↔ Accepted ns) ∧
      (∀ rs, registersOf ns = .ok rs →
        rs.Pairwise (· < ·) ∧ (rs.map number).Perm (ns.map Int64.toInt)) ∧
      ∀ f, registersOf ns = .error f ↔ FirstRefused ns f := by
  refine ⟨⟨fun ⟨rs, hrs⟩ => accepted_of_registersOf hrs, fun ha => ?_⟩, fun rs hrs => ?_,
    fun f => ⟨fun hf => ?_, registersOf_of_firstRefused⟩⟩
  · obtain ⟨rs, hrs, -⟩ := registersOf_of_accepted ha
    exact ⟨rs, hrs⟩
  · obtain ⟨qs, hqs, hincreasing, hperm⟩ := registersOf_of_accepted (accepted_of_registersOf hrs)
    cases hqs.symm.trans hrs
    exact ⟨hincreasing, hperm⟩
  · rcases accepted_or_firstRefused ns with ha | ⟨g, hg⟩
    · obtain ⟨rs, hrs, -⟩ := registersOf_of_accepted ha
      cases hf.symm.trans hrs
    · cases hf.symm.trans (registersOf_of_firstRefused hg)
      exact hg

/-- The greatest number of a register is accepted, the next one is not. What is refused first counts. -/
theorem register_file_is_checked_limits :
    registersOf [4294967295, 0, 7] = .ok [0, 7, 4294967295] ∧
      ([0, 7, 4294967295] : List Reg).Pairwise (· < ·) ∧
      registersOf [3, 4294967295, 3, 4294967296] = .error (.duplicate 3) ∧
      registersOf [3, 4294967296, 3] = .error (.number (.outOfRange 4294967296)) := by
  have hcheck : checkRegisters [] [4294967295, 0, 7] = .ok [4294967295, 0, 7] := by decide
  have hsorted : registersOf [4294967295, 0, 7] = .ok [0, 7, 4294967295] := by
    rw [registersOf, hcheck]
    simp [Except.map, List.mergeSort, List.MergeSort.Internal.splitInTwo]
  refine ⟨hsorted, ((register_file_is_checked _).2.1 _ hsorted).1, ?_, ?_⟩
  · exact ((register_file_is_checked _).2.2 _).mpr
      ⟨[3, 4294967295], 3, [4294967296], rfl, by decide, .duplicate rfl (by decide)⟩
  · exact ((register_file_is_checked _).2.2 _).mpr
      ⟨[3], _, [3], rfl, by decide, .outOfRange (by decide)⟩

end Settings

end StraightLine
