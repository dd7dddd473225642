import Mathlib
import StraightLine.Proofs.Fallible
import StraightLine.Proofs.LiveRanges
import StraightLine.Proofs.PlainText
import StraightLine.Range.Chart

/-! The columns of a chart. A bar has two columns for each position, and so has the axis for its labels
of one digit. A longer label pushes the ones behind it to the right, so the bars line up with the axis
up to the label ten and fall behind from there on. -/

namespace StraightLine.Range

open StraightLine.Code StraightLine.Source StraightLine.Text

namespace Chart

/-! ## What stands in front of an end, and in front of a label -/

def opens (e : Interval) : Nat := e.range.start.toInt.toNat

def closes (e : Interval) : Nat := e.range.stop.toInt.toNat

/-- The line of a bar, as far as the end that opens it. -/
def rowFront (resolve : Resolver) (width : Nat) (e : Interval) : String :=
  Column.padRight (label resolve e) width ++ repeated "  " (opens e)

/-- The line of a bar, as far as the end that closes it. -/
def barFront (resolve : Resolver) (width : Nat) (e : Interval) : String :=
  rowFront resolve width e ++ "+-" ++ repeated "--" (e.range.length - 1).toInt.toNat

def axisFront (width p : Nat) : String :=
  repeated " " width ++ String.join ((List.range p).map fun q => toString q ++ " ")

def axisBack (p last : Nat) : String :=
  String.join ((List.range' (p + 1) (last - p)).map fun q => " " ++ toString q) ++ "\n"

/-- A chart: a line for each bar, and the axis under them. -/
def drawing (resolve : Resolver) (es : List Interval) : String :=
  String.join (es.map fun e => barFront resolve (labelWidth resolve es) e ++ "+\n") ++
    axis (labelWidth resolve es) (lastPosition es)

/-- Both ends of every bar stand in the columns where their labels begin. -/
def LinedUp (resolve : Resolver) (es : List Interval) : Prop :=
  let width := labelWidth resolve es
  ∀ e ∈ es, Column.width (rowFront resolve width e) = Column.width (axisFront width (opens e)) ∧
    Column.width (barFront resolve width e) = Column.width (axisFront width (closes e))

/-- How far a label is to the right of two columns for each position in front of it: the labels in front
have one column more for every digit but the first. -/
def lag : Nat → Nat
  | 0 => 0
  | p + 1 => lag p + ((toString p).length - 1)

/-- The columns of a chart. The ends of a bar stand two columns further right for each position in front
of them, and so do the labels, which are on the axis up to the last position, but for their lag. -/
structure Measured (resolve : Resolver) (es : List Interval) : Prop where
  ordered : ∀ e ∈ es, opens e < closes e ∧ closes e ≤ lastPosition es
  bars : ∀ e ∈ es,
    Column.width (rowFront resolve (labelWidth resolve es) e) = labelWidth resolve es + 2 * opens e ∧
      Column.width (barFront resolve (labelWidth resolve es) e) = labelWidth resolve es + 2 * closes e
  labels : ∀ p ≤ lastPosition es, axis (labelWidth resolve es) (lastPosition es) =
      axisFront (labelWidth resolve es) p ++ toString p ++ axisBack p (lastPosition es) ∧
    Column.width (axisFront (labelWidth resolve es) p) = labelWidth resolve es + 2 * p + lag p

theorem length_label_le_one_iff (p : Nat) : (toString p).length ≤ 1 ↔ p < 10 :=
  Nat.length_repr_le_iff (by decide)

theorem lag_eq_zero_iff (p : Nat) : lag p = 0 ↔ p ≤ 10 := by
  induction p with
  | zero => simp [lag]
  | succ p ih =>
    have hdigits := length_label_le_one_iff p
    rw [lag]
    omega

/-- From ten on each label is one column more behind at least. -/
theorem le_lag (p : Nat) : p - 10 ≤ lag p := by
  induction p with
  | zero => exact Nat.zero_le _
  | succ p ih =>
    have hdigits := length_label_le_one_iff p
    rw [lag]
    omega

theorem plain_repeated {s : String} (h : Plain s) (n : Nat) : Plain (repeated s n) :=
  .join fun _ ht => List.eq_of_mem_replicate ht ▸ h

theorem length_repeated (s : String) (n : Nat) : (repeated s n).length = n * s.length := by
  simp [repeated]

theorem plain_axisFront (width p : Nat) : Plain (axisFront width p) := by
  refine (plain_repeated (by decide) width).append (.join fun s hs => ?_)
  obtain ⟨q, -, rfl⟩ := List.mem_map.mp hs
  exact (plain_nat q).append (by decide)

theorem length_axisFront (width p : Nat) : (axisFront width p).length = width + 2 * p + lag p := by
  have hblank : " ".length = 1 := rfl
  induction p with
  | zero => simp [axisFront, lag, length_repeated, hblank]
  | succ p ih =>
    have hpos : 0 < (toString p).length := Nat.length_repr_pos
    have hnext : axisFront width (p + 1) = axisFront width p ++ (toString p ++ " ") := by
      simp [axisFront, List.range_succ, String.append_assoc]
    rw [hnext, String.length_append, String.length_append, ih, lag, hblank]
    omega

theorem width_axisFront (width p : Nat) : Column.width (axisFront width p) = width + 2 * p + lag p := by
  rw [width_of_plain (plain_axisFront width p), length_axisFront]

theorem intercalate_split (s x : String) (xs ys : List String) :
    s.intercalate (xs ++ x :: ys) =
      String.join (xs.map (· ++ s)) ++ x ++ String.join (ys.map (s ++ ·)) := by
  induction xs with
  | nil =>
    induction ys generalizing x with
    | nil => simp
    | cons y ys ih =>
      rw [List.nil_append, String.intercalate_cons_of_ne_nil (List.cons_ne_nil y ys), ← List.nil_append
        (y :: ys), ih y]
      simp [String.append_assoc]
  | cons z xs ih =>
    rw [List.cons_append, String.intercalate_cons_of_ne_nil (by simp), ih]
    simp [String.append_assoc]

/-- Each label up to the last one stands on the axis. -/
theorem axis_eq (width : Nat) {p last : Nat} (h : p ≤ last) :
    axis width last = axisFront width p ++ toString p ++ axisBack p last := by
  have hrange : List.range (last + 1) = List.range p ++ p :: List.range' (p + 1) (last - p) := by
    rw [show last + 1 = p + (last - p + 1) by omega, List.range_eq_range', List.range_eq_range',
      ← List.range'_append_1, Nat.zero_add, List.range'_succ]
  rw [axis, hrange, List.map_append, List.map_cons, intercalate_split, axisFront, axisBack]
  simp only [List.map_map, Function.comp_def, String.append_assoc]

theorem le_foldl_max (f : Interval → Nat) {es : List Interval} (acc : Nat) {e : Interval} (h : e ∈ es) :
    f e ≤ es.foldl (fun m d => max m (f d)) acc := by
  have hacc (es : List Interval) (acc : Nat) : acc ≤ es.foldl (fun m d => max m (f d)) acc := by
    induction es generalizing acc with
    | nil => exact Nat.le_refl acc
    | cons d es ih => exact Nat.le_trans (Nat.le_max_left _ _) (ih _)
  induction es generalizing acc with
  | nil => cases h
  | cons d es ih =>
    rcases List.mem_cons.mp h with rfl | h
    · exact Nat.le_trans (Nat.le_max_right _ _) (hacc es _)
    · exact ih _ h

theorem width_label_le (resolve : Resolver) {es : List Interval} {e : Interval} (h : e ∈ es) :
    Column.width (label resolve e) ≤ labelWidth resolve es :=
  le_foldl_max (fun e => Column.width (label resolve e)) 0 h

theorem closes_le_lastPosition {es : List Interval} {e : Interval} (h : e ∈ es) :
    closes e ≤ lastPosition es :=
  le_foldl_max closes 0 h

/-! ## Rows -/

section

variable {resolve : Resolver} (hr : ∀ h, Plain (resolve h))
include hr

theorem plain_label (e : Interval) : Plain (label resolve e) := by
  refine .append ?_ (by decide)
  rw [Var.name]
  split
  · exact .append (by decide) (Decimal.plain_write _)
  · exact (hr _).append (Decimal.plain_write _)

theorem plain_rowFront (width : Nat) (e : Interval) : Plain (rowFront resolve width e) :=
  ((plain_label hr e).padRight width).append (plain_repeated (by decide) _)

theorem plain_barFront (width : Nat) (e : Interval) : Plain (barFront resolve width e) :=
  ((plain_rowFront hr width e).append (by decide)).append
    (plain_repeated (by decide) _)

theorem width_rowFront {width : Nat} {e : Interval} (h : Column.width (label resolve e) ≤ width) :
    Column.width (rowFront resolve width e) = width + 2 * opens e := by
  have hlabel := plain_label hr e
  rw [width_of_plain hlabel] at h
  have hstep : "  ".length = 2 := rfl
  rw [width_of_plain (plain_rowFront hr width e), rowFront, String.length_append,
    hlabel.length_padRight h, length_repeated, hstep]
  omega

end

/-- The range starts at a position and ends behind it. -/
def Forward (e : Interval) : Prop := 0 ≤ e.range.start.toInt ∧ e.range.start.toInt < e.range.stop.toInt

theorem Forward.opens_lt_closes {e : Interval} (h : Forward e) : opens e < closes e := by
  obtain ⟨hstart, hlt⟩ := h
  rw [opens, closes]
  omega

/-- The positions of a range behind its first one, which are counted without wrapping around. -/
theorem toInt_length_pred {e : Interval} (h : Forward e) :
    (e.range.length - 1).toInt = e.range.stop.toInt - e.range.start.toInt - 1 := by
  have hlength : e.range.length.toInt = e.range.stop.toInt - e.range.start.toInt :=
    Int64.toInt_sub_of_le _ _ (Int64.le_iff_toInt_le.mpr h.1)
      (Int64.le_iff_toInt_le.mpr (Int.le_of_lt h.2))
  have hone : (1 : Int64) ≤ e.range.length := by
    rw [Int64.le_iff_toInt_le, hlength]
    exact Int.le_sub_left_of_add_le h.2
  rw [Int64.toInt_sub_of_le _ _ (by decide) hone, hlength]
  rfl

theorem width_barFront {resolve : Resolver} (hr : ∀ h, Plain (resolve h)) {width : Nat} {e : Interval}
    (h : Column.width (label resolve e) ≤ width) (he : Forward e) :
    Column.width (barFront resolve width e) = width + 2 * closes e := by
  have hopen : "+-".length = 2 := rfl
  have hstep : "--".length = 2 := rfl
  have hfront := width_rowFront hr h
  rw [width_of_plain (plain_rowFront hr width e)] at hfront
  rw [width_of_plain (plain_barFront hr width e), barFront, String.length_append, String.length_append,
    hfront, length_repeated, hopen, hstep, toInt_length_pred he, opens, closes]
  obtain ⟨hstart, hlt⟩ := he
  omega

/-- A line that is drawn is a label, the blanks in front of its bar, and the bar. -/
theorem row_eq_of_ok {resolve : Resolver} {width : Nat} {e : Interval} {s : String}
    (h : row resolve false width e = .ok s) : s = barFront resolve width e ++ "+\n" := by
  rw [row] at h
  split at h
  · cases h
  · split at h
    · cases h
    · rw [← Except.ok.inj h]
      simp [paint, bar, barFront, rowFront, opens, String.append_assoc]

/-- A line whose columns can be counted is drawn. -/
theorem exists_row (resolve : Resolver) (width : Nat) {e : Interval} (he : Forward e)
    (h : 2 * closes e ≤ positions) : ∃ s, row resolve false width e = .ok s := by
  have hneg : ¬ e.range.start < 0 := fun hlt =>
    absurd (Int64.lt_iff_toInt_lt.mp hlt) (Int.not_lt.mpr he.1)
  have hreach {n : Int64} (hn : n.toInt < e.range.stop.toInt) : inReach n = true := by
    have hmax : Int64.maxValue.toInt + 1 = positions := rfl
    rw [inReach, decide_eq_true_iff]
    rw [closes] at h
    omega
  have hstart : inReach e.range.start = true := hreach he.2
  have hrest : inReach (e.range.length - 1) = true := hreach (by
    rw [toInt_length_pred he]
    have := he.1
    omega)
  exact ⟨_, by rw [row, if_neg hneg, hstart, hrest]; rfl⟩

end Chart

namespace Ranges

open Chart

theorem chart_eq {resolve : Resolver} {color : Bool} {r : Ranges} (h : r.intervals ≠ []) :
    r.chart resolve color =
      (r.intervals.mapM (row resolve color (labelWidth resolve r.intervals))).map fun rows =>
        String.join rows ++ axis (labelWidth resolve r.intervals) (lastPosition r.intervals) := by
  have hempty : ¬ r.intervals.isEmpty = true := fun he => h (List.isEmpty_iff.mp he)
  rw [chart]
  simp only [if_neg hempty]
  rfl

/-- A chart has a line for each bar, and the axis under them. -/
theorem eq_drawing_of_chart {resolve : Resolver} {r : Ranges} (hne : r.intervals ≠ []) {text : String}
    (h : r.chart resolve false = .ok text) : text = drawing resolve r.intervals := by
  rw [chart_eq hne] at h
  cases hrows : r.intervals.mapM (row resolve false (labelWidth resolve r.intervals)) with
  | error f => rw [hrows] at h; cases h
  | ok rows =>
    rw [hrows] at h
    cases h
    rw [map_eq_of_mapM_eq_ok (fun _ _ _ hs => row_eq_of_ok hs) hrows]
    rfl

theorem exists_chart (resolve : Resolver) {r : Ranges} (hne : r.intervals ≠ [])
    (h : ∀ e ∈ r.intervals, Forward e ∧ 2 * closes e ≤ positions) :
    ∃ text, r.chart resolve false = .ok text := by
  let width := labelWidth resolve r.intervals
  have hrows : ∀ e ∈ r.intervals,
      row resolve false width e = .ok (barFront resolve width e ++ "+\n") := by
    intro e he
    obtain ⟨s, hs⟩ := exists_row resolve width (h e he).1 (h e he).2
    rw [hs, row_eq_of_ok hs]
  exact ⟨_, by rw [chart_eq hne, mapM_eq_ok_map hrows]; rfl⟩

section

variable {code : List Instr} {resolve : Resolver} (hlen : code.length < positions)
include hlen

theorem forward_of_mem_analyze {e : Interval} (he : e ∈ (analyze code).intervals) : Forward e := by
  obtain ⟨hstart, hlt, -⟩ := bounds_of_mem_analyze hlen ((intervals_perm _).mem_iff.mp he)
  exact ⟨hstart, hlt⟩

theorem closes_le_length {e : Interval} (he : e ∈ (analyze code).intervals) :
    closes e ≤ code.length := by
  obtain ⟨-, -, hstop⟩ := bounds_of_mem_analyze hlen ((intervals_perm _).mem_iff.mp he)
  rw [closes]
  omega

variable (hr : ∀ h, Plain (resolve h))
include hr

theorem measured_analyze : Measured resolve (analyze code).intervals where
  ordered _ he := ⟨(forward_of_mem_analyze hlen he).opens_lt_closes, closes_le_lastPosition he⟩
  bars _ he := ⟨width_rowFront hr (width_label_le resolve he),
    width_barFront hr (width_label_le resolve he) (forward_of_mem_analyze hlen he)⟩
  labels p hp := ⟨axis_eq _ hp, width_axisFront _ p⟩

/-- The bars line up with the axis if and only if no range ends behind position ten. -/
theorem linedUp_analyze_iff :
    LinedUp resolve (analyze code).intervals ↔ ∀ e ∈ (analyze code).intervals, closes e ≤ 10 := by
  have hm := measured_analyze hlen hr
  refine forall₂_congr fun e he => ?_
  obtain ⟨hopens, hcloses⟩ := hm.bars e he
  have hbefore := (hm.ordered e he).1
  have hstart := lag_eq_zero_iff (opens e)
  have hstop := lag_eq_zero_iff (closes e)
  rw [hopens, hcloses, width_axisFront, width_axisFront]
  omega

end

/-- A chart has a line for each bar and the axis under them, and there is one if the columns of code of
that length can be counted. Its bars and its axis are measured: bars have two columns for each position,
and so have the labels, but for their lag. There is none up to position ten, and one more column at least
for every position from there on; so the bars line up with the axis if and only if none of them closes
behind position ten. -/
theorem bars_line_up_to_ten {code : List Instr} {resolve : Resolver}
    (hlen : code.length < positions) (hpos : 0 < (analyze code).size)
    (hr : ∀ h, Plain (resolve h)) :
    (2 * code.length ≤ positions → ∃ text, (analyze code).chart resolve false = .ok text) ∧
      (∀ text, (analyze code).chart resolve false = .ok text →
        text = drawing resolve (analyze code).intervals) ∧
      Measured resolve (analyze code).intervals ∧
      (∀ p, (lag p = 0 ↔ p ≤ 10) ∧ p - 10 ≤ lag p) ∧
      (LinedUp resolve (analyze code).intervals ↔ ∀ e ∈ (analyze code).intervals, closes e ≤ 10) := by
  have hne : (analyze code).intervals ≠ [] := by
    rw [← List.length_pos_iff, (analyze code).intervals_perm.length_eq]
    exact hpos
  refine ⟨fun hreach => exists_chart resolve hne fun e he => ?_, fun _ => eq_drawing_of_chart hne,
    measured_analyze hlen hr, fun p => ⟨lag_eq_zero_iff p, le_lag p⟩, linedUp_analyze_iff hlen hr⟩
  have hcloses := closes_le_length hlen he
  exact ⟨forward_of_mem_analyze hlen he, by omega⟩

theorem plain_letter (h : Handle) : Plain (if h = 1 then "a" else "b") := by
  split <;> decide

/-- The chart of a copy. -/
theorem bars_line_up_to_ten_copy :
    let code : List Instr := [⟨.named 1 1, .literal 2, none⟩, ⟨.named 4 1, .var (.named 1 1), none⟩]
    let resolve : Resolver := fun h => if h = 1 then "a" else "b"
    code.length < positions ∧ 0 < (analyze code).size ∧ (∀ h, Plain (resolve h)) ∧
      (analyze code).chart resolve false = .ok "a1: +-+\nb1:   +-+\n    0 1 2\n" ∧
      LinedUp resolve (analyze code).intervals := by
  intro code resolve
  have hlen : code.length < positions := by decide
  have hpos : 0 < (analyze code).size := by decide
  obtain ⟨-, -, -, -, hiff⟩ := bars_line_up_to_ten hlen hpos plain_letter
  exact ⟨hlen, hpos, plain_letter, by cbv, hiff.mpr (by decide)⟩

/-- Ten assignments to one variable and an assignment to another one: the second bar has two columns
between its ends, and there are three between the labels ten and eleven, so it closes one column too far
left. -/
theorem last_bar_closes_too_early :
    let code : List Instr := List.replicate 10 ⟨.named 1 1, .literal 2, none⟩ ++
      [⟨.named 31 1, .literal 32, none⟩]
    let resolve : Resolver := fun h => if h = 1 then "a" else "b"
    code.length < positions ∧ 0 < (analyze code).size ∧ (∀ h, Plain (resolve h)) ∧
      (analyze code).chart resolve false = .ok ("a1: +-----------------+\n" ++
        "b1:                     +-+\n" ++
        "    0 1 2 3 4 5 6 7 8 9 10 11\n") ∧
      ¬ LinedUp resolve (analyze code).intervals := by
  intro code resolve
  have hlen : code.length < positions := by decide
  refine ⟨hlen, by decide, plain_letter, by cbv, ?_⟩
  rw [linedUp_analyze_iff hlen plain_letter]
  decide

end Ranges

end StraightLine.Range
