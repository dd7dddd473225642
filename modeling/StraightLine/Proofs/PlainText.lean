import Mathlib.Data.List.Basic
import StraightLine.Text.Column
import StraightLine.Text.Decimal

/-! Printable ASCII takes one column for each character: nothing in it is joined into clusters, and
nothing is invisible or wide. Numbers are written in it. -/

namespace StraightLine.Text

def IsPlain (c : Char) : Prop := 0x20 ≤ c.toNat ∧ c.toNat < 0x7F

instance : DecidablePred IsPlain := fun _ => instDecidableAnd

def Plain (s : String) : Prop := ∀ c ∈ s.toList, IsPlain c

instance : DecidablePred Plain := fun s => List.decidableBAll IsPlain s.toList

theorem role_of_plain {c : Char} (h : IsPlain c) : Cluster.role c.toNat = .other := by
  obtain ⟨hl, hr⟩ := h
  rw [Cluster.role, if_neg (by omega), if_neg (by omega), if_pos (by simp [hl, hr])]

theorem charWidth_of_plain {c : Char} (h : IsPlain c) : Column.charWidth c = 1 := by
  obtain ⟨hl, hr⟩ := h
  rw [Column.charWidth, if_neg (by omega), if_neg (by simp; omega), if_pos (by omega)]

/-- Behind a plain character there is a cut in front of each of the plain characters that follow. -/
theorem cutFrom_of_plain {l : Cluster.Left} (hl : l.role = .other) (cluster : List Char) {cs : List Char}
    (h : ∀ c ∈ cs, IsPlain c) :
    Cluster.cutFrom l cluster cs = cluster.reverse :: cs.map fun c => [c] := by
  induction cs generalizing l cluster with
  | nil => rfl
  | cons c cs ih =>
    have hrole := role_of_plain (h c List.mem_cons_self)
    have hcut : l.keeps c.toNat = false := by rw [Cluster.Left.keeps, hl, hrole]
    rw [Cluster.cutFrom, if_neg (by simp [hcut]), ih hrole [c] fun d hd => h d (List.mem_cons_of_mem _ hd)]
    rfl

theorem cut_of_plain {cs : List Char} (h : ∀ c ∈ cs, IsPlain c) :
    Cluster.cut cs = cs.map fun c => [c] := by
  cases cs with
  | nil => rfl
  | cons c cs =>
    exact cutFrom_of_plain (role_of_plain (h c List.mem_cons_self)) [c] fun d hd =>
      h d (List.mem_cons_of_mem _ hd)

/-- Plain text takes as many columns as it has characters. -/
theorem width_of_plain {s : String} (h : Plain s) : Column.width s = s.length := by
  have hones : s.toList.map (Column.clusterWidth ∘ fun c => [c]) = List.replicate s.length 1 := by
    rw [← String.length_toList, ← List.map_const']
    refine List.map_congr_left fun c hc => ?_
    simp [Column.clusterWidth, charWidth_of_plain (h c hc)]
  have hsum (n acc : Nat) : (List.replicate n 1).foldl (· + ·) acc = acc + n := by
    induction n generalizing acc with
    | zero => rfl
    | succ n ih => rw [List.replicate_succ, List.foldl_cons, ih]; omega
  rw [Column.width, cut_of_plain h, List.map_map, hones, hsum, Nat.zero_add]

namespace Plain

variable {s t : String}

theorem append (hs : Plain s) (ht : Plain t) : Plain (s ++ t) := by
  intro c hc
  rw [String.toList_append] at hc
  exact (List.mem_append.mp hc).elim (hs c) (ht c)

theorem join {ss : List String} (h : ∀ s ∈ ss, Plain s) : Plain (String.join ss) := by
  intro c hc
  rw [String.toList_join] at hc
  obtain ⟨s, hs, hc⟩ := List.mem_flatMap.mp hc
  exact h s hs c hc

theorem padRight (hs : Plain s) (n : Nat) : Plain (Column.padRight s n) := by
  refine hs.append fun c hc => ?_
  rw [String.toList_ofList] at hc
  rw [List.eq_of_mem_replicate hc]
  decide

/-- Blanks fill a plain text up. -/
theorem length_padRight (hs : Plain s) {n : Nat} (h : s.length ≤ n) :
    (Column.padRight s n).length = n := by
  rw [Column.padRight, String.length_append, String.length_ofList, List.length_replicate,
    width_of_plain hs]
  omega

end Plain

theorem isDigit_of_mem_toString {n : Nat} {c : Char} (h : c ∈ (toString n).toList) :
    c.isDigit = true := by
  rw [Nat.toString_eq_repr, Nat.toList_repr] at h
  exact Nat.isDigit_of_mem_toDigits (by decide) (by decide) h

/-- A number is written in digits, with a sign in front if it is negative. -/
theorem Decimal.mem_write {n : Int64} {c : Char} (h : c ∈ (write n).toList) :
    c = '-' ∨ c.isDigit = true := by
  rw [write, Int.toString_eq_repr, Int.repr_eq_if] at h
  split at h
  · exact .inr (isDigit_of_mem_toString h)
  · rw [String.toList_append] at h
    exact (List.mem_append.mp h).imp (by simp) isDigit_of_mem_toString

theorem isPlain_of_isDigit {c : Char} (h : c.isDigit = true) : IsPlain c := by
  rw [Char.isDigit_iff_toNat] at h
  change 48 ≤ c.toNat ∧ c.toNat ≤ 57 at h
  exact ⟨by omega, by omega⟩

theorem plain_nat (n : Nat) : Plain (toString n) := fun _ hc =>
  isPlain_of_isDigit (isDigit_of_mem_toString hc)

theorem Decimal.plain_write (n : Int64) : Plain (write n) := by
  intro c hc
  obtain rfl | hdigit := mem_write hc
  · decide
  · exact isPlain_of_isDigit hdigit

end StraightLine.Text
