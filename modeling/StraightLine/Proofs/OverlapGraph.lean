import Mathlib
import StraightLine.Proofs.ConflictCount

/-! The conflict graph is the overlap graph. The variables that the sweep connects with a variable are
those of the other ranges that share a position with its range, and the order in which the ranges come
leaves no trace. -/

namespace StraightLine.Range

open StraightLine.Code

def overlappingPairs (entries : List Interval) : Finset (Finset Interval) :=
  (entries.toFinset.powersetCard 2).filter fun p =>
    ∀ e ∈ p, ∀ f ∈ p, e ≠ f → e.range.overlaps f.range = true

/-- The pairs of one range with others. -/
theorem filter_image_insert {e : Interval} {later : Finset Interval} (he : e ∉ later) :
    ((later.powersetCard 1).image (insert e)).filter
        (fun p => ∀ f ∈ p, ∀ g ∈ p, f ≠ g → f.range.overlaps g.range = true) =
      (later.filter fun f => e.range.overlaps f.range = true).image fun f => {e, f} := by
  ext p
  simp only [Finset.mem_filter, Finset.mem_image, Finset.powersetCard_one, Finset.mem_map,
    Function.Embedding.coeFn_mk]
  constructor
  · rintro ⟨⟨_, ⟨f, hf, rfl⟩, rfl⟩, hall⟩
    have hne : e ≠ f := fun h => he (h ▸ hf)
    exact ⟨f, ⟨hf, hall e (by simp) f (by simp) hne⟩, rfl⟩
  · rintro ⟨f, ⟨hf, hover⟩, rfl⟩
    refine ⟨⟨_, ⟨f, hf, rfl⟩, rfl⟩, fun g hg h hh hne => ?_⟩
    rw [Finset.mem_insert, Finset.mem_singleton] at hg hh
    rcases hg with rfl | rfl <;> rcases hh with rfl | rfl
    · exact absurd rfl hne
    · exact hover
    · rw [LiveRange.overlaps_comm]
      exact hover
    · exact absurd rfl hne

theorem card_overlappingPairs {es : List Interval} (hn : es.Nodup) :
    (overlappingPairs es).card = clashCount (es.map (·.range)) := by
  induction es with
  | nil => rfl
  | cons e later ih =>
    obtain ⟨he, hlater⟩ := List.nodup_cons.mp hn
    have hmem : e ∉ later.toFinset := by simpa using he
    have hcount : ((later.toFinset.filter fun f => e.range.overlaps f.range = true).image
        fun f => ({e, f} : Finset Interval)).card = later.countP fun f => e.range.overlaps f.range := by
      rw [Finset.card_image_of_injOn, ← List.toFinset_filter,
        List.toFinset_card_of_nodup (hlater.filter _), List.countP_eq_length_filter]
      intro f hf g hg heq
      have hfe : f ≠ e := by
        rintro rfl
        exact hmem (Finset.mem_filter.mp hf).1
      have hfg : f ∈ ({e, g} : Finset Interval) := by
        rw [← show ({e, f} : Finset Interval) = {e, g} from heq]
        simp
      simpa [hfe] using hfg
    rw [overlappingPairs, List.toFinset_cons, Finset.powersetCard_succ_insert hmem, Finset.filter_union,
      Finset.card_union_of_disjoint, filter_image_insert hmem, hcount, List.map_cons, clashCount,
      List.countP_map, ← ih hlater, overlappingPairs, Nat.add_comm]
    · rfl
    · -- a pair with `e` is not among the others
      refine Finset.disjoint_filter_filter (Finset.disjoint_left.mpr fun p hp hq => ?_)
      obtain ⟨q, -, rfl⟩ := Finset.mem_image.mp hq
      exact hmem ((Finset.mem_powersetCard.mp hp).1 (Finset.mem_insert_self e q))

namespace ConflictGraph

/-! ## The edges at a variable -/

def rivals (e : Interval) (es : List Interval) : List Interval :=
  es.filter fun f => f.var ≠ e.var && e.range.overlaps f.range

theorem mem_rivals {e f : Interval} {es : List Interval} :
    f ∈ rivals e es ↔ f ∈ es ∧ f.var ≠ e.var ∧ e.range.overlaps f.range = true := by
  simp [rivals]

theorem otherEnd?_fst (u v : Var) : otherEnd? u (u, v) = some v := if_pos rfl

theorem otherEnd?_of_ne {u v w : Var} (h : u ≠ w) :
    otherEnd? w (u, v) = if v = w then some u else none := if_neg h

theorem isSome_otherEnd? {v : Var} {p : Var × Var} :
    (otherEnd? v p).isSome = true ↔ p.1 = v ∨ p.2 = v := by
  by_cases h₁ : p.1 = v <;> by_cases h₂ : p.2 = v <;> simp [otherEnd?, h₁, h₂]

theorem otherEnd?_eq_some_iff {u v : Var} {p : Var × Var} :
    otherEnd? u p = some v ↔ p = (u, v) ∨ p = (v, u) := by
  obtain ⟨a, b⟩ := p
  by_cases ha : a = u
  · subst ha
    rw [otherEnd?_fst]
    grind
  · rw [otherEnd?_of_ne ha]
    grind

/-- The variables on both ends of an edge have ranges that were swept. -/
theorem mem_of_mem_sweep {es : List Interval} {p : Var × Var} (h : p ∈ sweep es) :
    p.1 ∈ es.map (·.var) ∧ p.2 ∈ es.map (·.var) := by
  induction es with
  | nil => cases h
  | cons cur later ih =>
    rw [List.map_cons]
    rcases List.mem_append.mp h with h | h
    · obtain ⟨f, hf, hp⟩ := List.mem_filterMap.mp h
      split at hp
      · cases hp
        exact ⟨by simp, List.mem_cons_of_mem _
          (List.mem_map.mpr ⟨f, (List.takeWhile_sublist _).subset hf, rfl⟩)⟩
      · cases hp
    · exact ⟨List.mem_cons_of_mem _ (ih h).1, List.mem_cons_of_mem _ (ih h).2⟩

theorem filterMap_otherEnd_eq_nil {es : List Interval} {v : Var} (h : v ∉ es.map (·.var)) :
    (sweep es).filterMap (otherEnd? v) = [] := by
  refine List.filterMap_eq_nil_iff.mpr fun p hp => Option.not_isSome_iff_eq_none.mp fun hs => ?_
  rcases isSome_otherEnd?.mp hs with he | he
  · exact h (he ▸ (mem_of_mem_sweep hp).1)
  · exact h (he ▸ (mem_of_mem_sweep hp).2)

/-- Only one range belongs to a variable. -/
theorem filter_var_eq {es : List Interval} (hn : (es.map (·.var)).Nodup) {e : Interval} (he : e ∈ es) :
    es.filter (fun f => f.var = e.var) = [e] := by
  induction es with
  | nil => cases he
  | cons f es ih =>
    obtain ⟨hf, hn⟩ := List.nodup_cons.mp hn
    rcases List.mem_cons.mp he with rfl | he
    · rw [List.filter_cons_of_pos (by simp), List.filter_eq_nil_iff.mpr fun g hg => ?_]
      simpa using fun hv => hf (List.mem_map.mpr ⟨g, hg, hv⟩)
    · have hne : f.var ≠ e.var := fun hv => hf (List.mem_map.mpr ⟨e, he, hv.symm⟩)
      rw [List.filter_cons_of_neg (by simpa using hne), ih hn he]

/-- The edges of the first range to those behind it. -/
theorem filterMap_otherEnd_first (cur : Interval) (later : List Interval) :
    (later.map fun f => (cur.var, f.var)).filterMap (otherEnd? cur.var) = later.map (·.var) := by
  rw [List.filterMap_map]
  exact List.filterMap_eq_map' ▸ List.filterMap_congr fun f _ => otherEnd?_fst cur.var f.var

/-- The edge from the first range to a later one. -/
theorem filterMap_otherEnd_later {cur e : Interval} {later : List Interval}
    (hn : (later.map (·.var)).Nodup) (he : e ∈ later) (hne : cur.var ≠ e.var) :
    ((later.filter fun f => cur.range.overlaps f.range).map fun f => (cur.var, f.var)).filterMap
        (otherEnd? e.var) = if cur.range.overlaps e.range then [cur.var] else [] := by
  have hone : (later.filter fun f => cur.range.overlaps f.range).filter (fun f => f.var = e.var) =
      if cur.range.overlaps e.range then [e] else [] := by
    rw [List.filter_filter, List.filter_congr fun f _ => Bool.and_comm _ _, ← List.filter_filter,
      filter_var_eq hn he, List.filter_singleton]
    cases cur.range.overlaps e.range <;> rfl
  have hguard : otherEnd? e.var ∘ (fun f : Interval => (cur.var, f.var)) = fun f =>
      (Option.guard (fun f : Interval => decide (f.var = e.var)) f).map fun _ => cur.var := by
    funext f
    rw [Function.comp_apply, otherEnd?_of_ne hne, Option.guard]
    by_cases hf : f.var = e.var <;> simp [hf]
  rw [List.filterMap_map, hguard, ← List.map_filterMap, List.filterMap_eq_filter, hone]
  cases cur.range.overlaps e.range <;> rfl

/-- The sweep connects a variable with the variables of its rivals, in the order of the sweep. -/
theorem filterMap_otherEnd_sweep {es : List Interval}
    (hs : es.Pairwise fun a b => a.range.start.toInt ≤ b.range.start.toInt)
    (hn : (es.map (·.var)).Nodup) {e : Interval} (he : e ∈ es) :
    (sweep es).filterMap (otherEnd? e.var) = (rivals e es).map (·.var) := by
  induction es with
  | nil => cases he
  | cons cur later ih =>
    obtain ⟨-, hs⟩ := List.pairwise_cons.mp hs
    obtain ⟨hcur, hn⟩ := List.nodup_cons.mp hn
    have hdiff : ∀ f ∈ later, f.var ≠ cur.var := fun f hf hv =>
      hcur (List.mem_map.mpr ⟨f, hf, hv⟩)
    rw [sweep, List.filterMap_append, sweepOne_eq cur hs]
    rcases List.mem_cons.mp he with rfl | he
    · have hrivals : rivals e (e :: later) = later.filter fun f => e.range.overlaps f.range := by
        rw [rivals, List.filter_cons_of_neg (by simp)]
        exact List.filter_congr fun f hf => by simp [hdiff f hf]
      rw [filterMap_otherEnd_eq_nil hcur, List.append_nil, hrivals, filterMap_otherEnd_first]
    · have hne := (hdiff e he).symm
      rw [filterMap_otherEnd_later hn he hne, ih hs hn he, rivals, rivals, List.filter_cons,
        LiveRange.overlaps_comm]
      cases e.range.overlaps cur.range <;> simp [hne]

/-! ## Neighbours -/

/-- The neighbours of a variable are the variables in conflict with it. -/
theorem mem_neighbors {g : ConflictGraph} {u v : Var} :
    v ∈ g.neighbors u ↔ g.adjacent u v = true := by
  rw [neighbors, Var.mem_sort, List.mem_filterMap, adjacent, Bool.or_eq_true, List.contains_iff_mem,
    List.contains_iff_mem]
  simp only [otherEnd?_eq_some_iff]
  constructor
  · rintro ⟨p, hp, rfl | rfl⟩
    · exact .inl hp
    · exact .inr hp
  · rintro (hp | hp)
    · exact ⟨_, hp, .inl rfl⟩
    · exact ⟨_, hp, .inr rfl⟩

section

variable {entries : List Interval} (hd : (entries.map (·.var)).Nodup)
  (hs : ∀ e ∈ entries, 0 ≤ e.range.start.toInt)
include hd hs

theorem neighbors_build {e : Interval} (he : e ∈ entries) :
    (build entries).neighbors e.var = Var.sort ((rivals e entries).map (·.var)) := by
  have hp := List.mergeSort_perm entries sweepLe
  rw [neighbors, build, filterMap_otherEnd_sweep (sorted_mergeSort hs)
    ((hp.map _).nodup_iff.mpr hd) (hp.mem_iff.mpr he)]
  exact Var.sort_congr ((hp.filter _).map _)

omit hd hs in
theorem neighbors_build_of_not_mem {v : Var} (hv : v ∉ entries.map (·.var)) :
    (build entries).neighbors v = [] := by
  have hp := List.mergeSort_perm entries sweepLe
  rw [neighbors, build, filterMap_otherEnd_eq_nil fun h => hv ((hp.map _).mem_iff.mp h), Var.sort,
    List.mergeSort_nil]

/-- Two variables are in conflict if and only if they are different and their ranges overlap. -/
theorem adjacent_build_iff (u v : Var) :
    (build entries).adjacent u v = true ↔ ∃ e ∈ entries, ∃ f ∈ entries, e.var = u ∧ f.var = v ∧
      u ≠ v ∧ e.range.overlaps f.range = true := by
  rw [← mem_neighbors]
  by_cases hu : u ∈ entries.map (·.var)
  · obtain ⟨e, he, rfl⟩ := List.mem_map.mp hu
    rw [neighbors_build hd hs he, Var.mem_sort, List.mem_map]
    constructor
    · rintro ⟨f, hf, rfl⟩
      obtain ⟨hf, hne, hover⟩ := mem_rivals.mp hf
      exact ⟨e, he, f, hf, rfl, rfl, hne.symm, hover⟩
    · rintro ⟨e', he', f, hf, heq, rfl, hne, hover⟩
      rw [List.inj_on_of_nodup_map hd he' he heq] at hover
      exact ⟨f, mem_rivals.mpr ⟨hf, hne.symm, hover⟩, rfl⟩
  · rw [neighbors_build_of_not_mem hu]
    refine ⟨nofun, ?_⟩
    rintro ⟨e, he, -, -, rfl, -⟩
    exact absurd (List.mem_map.mpr ⟨e, he, rfl⟩) hu

theorem neighbors_increasing (u : Var) :
    ((build entries).neighbors u).Pairwise fun v w => v.compare w = .lt := by
  by_cases hu : u ∈ entries.map (·.var)
  · obtain ⟨e, he, rfl⟩ := List.mem_map.mp hu
    rw [neighbors_build hd hs he]
    exact Var.sort_increasing (hd.sublist (List.filter_sublist.map _))
  · rw [neighbors_build_of_not_mem hu]
    exact .nil

end

/-! ## Degrees, and the order of the ranges -/

theorem degree_eq (g : ConflictGraph) (v : Var) :
    g.degree v = g.edges.countP fun p => (otherEnd? v p).isSome := by
  rw [degree, neighbors, Var.length_sort, List.length_filterMap_eq_countP]

/-- An edge is met at two variables. -/
theorem countP_otherEnd {vs : List Var} (hn : vs.Nodup) {p : Var × Var} (h₁ : p.1 ∈ vs)
    (h₂ : p.2 ∈ vs) (hne : p.1 ≠ p.2) : vs.countP (fun v => (otherEnd? v p).isSome) = 2 := by
  have hp : (vs.filter fun v => (otherEnd? v p).isSome).Perm [p.1, p.2] := by
    refine (List.perm_ext_iff_of_nodup (hn.filter _) (by simpa using hne)).mpr fun v => ?_
    rw [List.mem_filter, isSome_otherEnd?, List.mem_cons, List.mem_singleton, eq_comm, @eq_comm _ p.2]
    refine ⟨fun h => h.2, fun h => ⟨?_, h⟩⟩
    rcases h with rfl | rfl
    · exact h₁
    · exact h₂
  rw [List.countP_eq_length_filter, hp.length_eq]
  rfl

theorem sum_map_ite (q : Var → Bool) (vs : List Var) :
    (vs.map fun v => if q v = true then 1 else 0).sum = vs.countP q := by
  induction vs with
  | nil => rfl
  | cons v vs ih =>
    rw [List.map_cons, List.sum_cons, ih, List.countP_cons, Nat.add_comm]

/-- The degrees count every edge twice. -/
theorem sum_countP_otherEnd {vs : List Var} (hn : vs.Nodup) {edges : List (Var × Var)}
    (he : ∀ p ∈ edges, p.1 ∈ vs ∧ p.2 ∈ vs ∧ p.1 ≠ p.2) :
    (vs.map fun v => edges.countP fun p => (otherEnd? v p).isSome).sum = 2 * edges.length := by
  induction edges with
  | nil => simp
  | cons p edges ih =>
    obtain ⟨h₁, h₂, hne⟩ := he p List.mem_cons_self
    have ih := ih fun q hq => he q (List.mem_cons_of_mem _ hq)
    simp only [List.countP_cons, List.sum_map_add, ih, sum_map_ite, countP_otherEnd hn h₁ h₂ hne,
      List.length_cons]
    omega

section

variable {entries : List Interval} (hd : (entries.map (·.var)).Nodup)
  (hs : ∀ e ∈ entries, 0 ≤ e.range.start.toInt)
include hd hs

/-- Every edge has two ends among the variables. -/
theorem ends_build : ∀ p ∈ (build entries).edges,
    p.1 ∈ (build entries).vars ∧ p.2 ∈ (build entries).vars ∧ p.1 ≠ p.2 := by
  intro p hp
  have hadj : (build entries).adjacent p.1 p.2 = true := by
    rw [adjacent, List.contains_iff_mem.mpr hp, Bool.true_or]
  obtain ⟨e, he, f, hf, heu, hfv, hne, -⟩ := (adjacent_build_iff hd hs p.1 p.2).mp hadj
  exact ⟨Var.mem_sort.mpr (List.mem_map.mpr ⟨e, he, heu⟩),
    Var.mem_sort.mpr (List.mem_map.mpr ⟨f, hf, hfv⟩), hne⟩

theorem sum_degree_build :
    ((build entries).vars.map (build entries).degree).sum = 2 * (build entries).edgeCount := by
  have hn : (build entries).vars.Nodup := (Var.sort_perm _).nodup_iff.mpr hd
  rw [funext (degree_eq (build entries)), edgeCount, sum_countP_otherEnd hn (ends_build hd hs)]

/-- No two edges have the same ends. -/
theorem nodup_filterMap_otherEnd (u : Var) :
    ((build entries).edges.filterMap (otherEnd? u)).Nodup :=
  (Var.sort_perm _).nodup_iff.mp ((neighbors_increasing hd hs u).imp fun hlt he => by
    rw [he, Var.compare_self] at hlt
    cases hlt)

/-- The graph does not depend on the order in which the ranges come. -/
theorem build_congr {visited : List Interval} (h : visited.Perm entries) :
    build visited = build entries := by
  have hvisited : ∀ e ∈ visited, 0 ≤ e.range.start.toInt := fun e he => hs e (h.mem_iff.mp he)
  have hsort : visited.mergeSort sweepLe = entries.mergeSort sweepLe := by
    rw [mergeSort_sweepLe hvisited, mergeSort_sweepLe hs]
    refine List.Perm.eq_of_pairwise (fun a b ha hb hab hba => ?_)
      (List.pairwise_mergeSort startOrder_trans startOrder_total visited)
      (List.pairwise_mergeSort startOrder_trans startOrder_total entries)
      (((List.mergeSort_perm _ _).trans h).trans (List.mergeSort_perm _ _).symm)
    -- two ranges in both orders start together and have one variable
    have ha := h.mem_iff.mp ((List.mergeSort_perm _ _).mem_iff.mp ha)
    have hb := (List.mergeSort_perm _ _).mem_iff.mp hb
    exact List.inj_on_of_nodup_map hd ha hb (var_eq_of_startOrder hab hba)
  rw [build, build, hsort, Var.sort_congr (h.map _)]

end

/-! ## Rows of neighbours -/

/-- A row of neighbours for each variable, and a count of the edges. -/
structure Rows where
  rows : List (Var × List Var)
  count : Nat

namespace Rows

def start (vs : List Var) : Rows := ⟨vs.map fun v => (v, []), 0⟩

def row (t : Rows) (v : Var) : List Var := ((t.rows.find? fun r => r.1 = v).map (·.2)).getD []

/-- Notes `v` down in the row of `u`. -/
def note (t : Rows) (u v : Var) : Rows :=
  { t with rows := t.rows.map fun r => if r.1 = u then (r.1, r.2 ++ [v]) else r }

/-- Notes an edge down at both of its ends and counts it once. An edge that is there already and an edge
from a variable to itself are passed over. -/
def connect (t : Rows) (p : Var × Var) : Rows :=
  if p.1 = p.2 ∨ p.2 ∈ t.row p.1 then t
  else { (t.note p.1 p.2).note p.2 p.1 with count := t.count + 1 }

theorem row_start (vs : List Var) (v : Var) : (start vs).row v = [] := by
  rw [row, start, List.find?_map]
  cases vs.find? _ <;> rfl

def keys (t : Rows) : List Var := t.rows.map (·.1)

theorem keys_note (t : Rows) (u v : Var) : (t.note u v).keys = t.keys := by
  rw [keys, keys, note, List.map_map]
  refine List.map_congr_left fun r _ => ?_
  simp only [Function.comp_apply]
  split <;> rfl

theorem row_note {t : Rows} {u : Var} (hu : u ∈ t.keys) (v w : Var) :
    (t.note u v).row w = if u = w then t.row w ++ [v] else t.row w := by
  have hkey : (fun r : Var × List Var => decide (r.1 = w)) ∘
      (fun r => if r.1 = u then (r.1, r.2 ++ [v]) else r) = fun r => decide (r.1 = w) := by
    funext r
    simp only [Function.comp_apply]
    split <;> rfl
  simp only [row, note, List.find?_map, hkey]
  cases hf : t.rows.find? fun r => decide (r.1 = w) with
  | none =>
    have hne : u ≠ w := by
      rintro rfl
      obtain ⟨r, hr, hru⟩ := List.mem_map.mp hu
      simpa [hru] using List.find?_eq_none.mp hf r hr
    simp [hne]
  | some r =>
    have hrw : r.1 = w := by simpa using List.find?_some hf
    by_cases huw : u = w
    · simp [huw, hrw]
    · have hru : r.1 ≠ u := fun h => huw (h.symm.trans hrw)
      simp [huw, hru]

/-- Edges that are noted down one by one, each for the first time, are all counted, and every row has
the other ends of the edges at its variable. -/
theorem foldl_connect {vs : List Var} {edges : List (Var × Var)}
    (hends : ∀ p ∈ edges, p.1 ∈ vs ∧ p.2 ∈ vs ∧ p.1 ≠ p.2)
    (hn : ∀ u, (edges.filterMap (otherEnd? u)).Nodup) :
    let t := edges.foldl connect (start vs)
    t.keys = vs ∧ t.count = edges.length ∧ ∀ u, t.row u = edges.filterMap (otherEnd? u) := by
  induction edges using List.reverseRecOn with
  | nil =>
    refine ⟨?_, rfl, row_start vs⟩
    rw [List.foldl_nil, keys, start, List.map_map]
    exact List.map_id vs
  | append_singleton edges p ih =>
    intro t
    obtain ⟨hkeys, hcount, hrow⟩ := ih (fun q hq => hends q (List.mem_append_left _ hq)) fun u =>
      (hn u).sublist ((List.sublist_append_left edges [p]).filterMap _)
    obtain ⟨h₁, h₂, hne⟩ := hends p (by simp)
    have hnew : ¬ (p.1 = p.2 ∨ p.2 ∈ (edges.foldl connect (start vs)).row p.1) := by
      rintro (heq | hmem)
      · exact hne heq
      · have hnodup := hn p.1
        rw [List.filterMap_append, List.nodup_append] at hnodup
        rw [hrow] at hmem
        exact hnodup.2.2 _ hmem p.2 (by simp [otherEnd?]) rfl
    have ht : t = { ((edges.foldl connect (start vs)).note p.1 p.2).note p.2 p.1 with
        count := (edges.foldl connect (start vs)).count + 1 } := by
      rw [show t = connect (edges.foldl connect (start vs)) p from List.foldl_append, connect,
        if_neg hnew]
    have hk₁ : p.1 ∈ (edges.foldl connect (start vs)).keys := by
      rw [hkeys]
      exact h₁
    have hk₂ : p.2 ∈ ((edges.foldl connect (start vs)).note p.1 p.2).keys := by
      rw [keys_note, hkeys]
      exact h₂
    rw [ht]
    refine ⟨?_, by rw [List.length_append, hcount]; rfl, fun u => ?_⟩
    · exact (keys_note _ p.2 p.1).trans ((keys_note _ p.1 p.2).trans hkeys)
    · have hnote := row_note hk₂ p.1 u
      rw [row_note hk₁, hrow] at hnote
      refine hnote.trans ?_
      rw [List.filterMap_append]
      by_cases hu₁ : p.1 = u <;> by_cases hu₂ : p.2 = u
      · exact absurd (hu₁.trans hu₂.symm) hne
      · simp [otherEnd?, hu₁, hu₂]
      · simp [otherEnd?, hu₁, hu₂]
      · simp [otherEnd?, hu₁, hu₂]

end Rows

/-- The graph is the overlap graph of the ranges: one node for each variable, an edge for each pair of
ranges that overlap, everything listed in the order of the variables and every edge counted once. A
graph that is stored as rows of neighbours, with each edge at both of its ends, has the same
neighbours and the same number of edges. -/
structure OverlapGraph (entries : List Interval) (g : ConflictGraph) : Prop where
  nodes : g.vars.Perm (entries.map (·.var))
  vars_increasing : g.vars.Pairwise fun u v => u.compare v = .lt
  adjacent_iff : ∀ u v, g.adjacent u v = true ↔ ∃ e ∈ entries, ∃ f ∈ entries, e.var = u ∧
    f.var = v ∧ u ≠ v ∧ e.range.overlaps f.range = true
  neighbors_iff : ∀ u v, v ∈ g.neighbors u ↔ g.adjacent u v = true
  neighbors_increasing : ∀ u, (g.neighbors u).Pairwise fun v w => v.compare w = .lt
  edges : g.edgeCount = (overlappingPairs entries).card
  degrees : 2 * g.edgeCount = (g.vars.map g.degree).sum
  stored : let t := g.edges.foldl Rows.connect (.start g.vars)
    t.count = g.edgeCount ∧ ∀ u, Var.sort (t.row u) = g.neighbors u

/-- The sweep builds the overlap graph of all ranges that start at positions, also of empty and inverted
ones, and the graph does not depend on the order in which the ranges are visited. -/
theorem sweep_builds_overlap_graph {entries : List Interval} (hd : (entries.map (·.var)).Nodup)
    (hs : ∀ e ∈ entries, 0 ≤ e.range.start) :
    OverlapGraph entries (build entries) ∧
      ∀ visited : List Interval, visited.Perm entries → build visited = build entries := by
  have hs : ∀ e ∈ entries, 0 ≤ e.range.start.toInt := fun e he =>
    Int64.le_iff_toInt_le.mp (hs e he)
  refine ⟨?_, fun visited hv => build_congr hd hs hv⟩
  exact
    { nodes := Var.sort_perm _
      vars_increasing := Var.sort_increasing hd
      adjacent_iff := adjacent_build_iff hd hs
      neighbors_iff := fun _ _ => mem_neighbors
      neighbors_increasing := neighbors_increasing hd hs
      edges := by rw [edgeCount_build hs, card_overlappingPairs (.of_map _ hd)]
      degrees := (sum_degree_build hd hs).symm
      stored := by
        obtain ⟨-, hcount, hrow⟩ :=
          Rows.foldl_connect (ends_build hd hs) (nodup_filterMap_otherEnd hd hs)
        exact ⟨hcount, fun u => by rw [hrow]; rfl⟩ }

/-- Two ranges start together, one is empty and one is inverted. -/
theorem sweep_builds_overlap_graph_inverted :
    let entries : List Interval :=
      [⟨.named 5 1, ⟨3, 1⟩⟩, ⟨.temp 2, ⟨0, 4⟩⟩, ⟨.named 4 1, ⟨2, 2⟩⟩, ⟨.temp 1, ⟨0, 4⟩⟩]
    OverlapGraph entries (build entries) ∧ build entries.reverse = build entries ∧
      (build entries).edges = [(.temp 1, .temp 2), (.temp 1, .named 4 1), (.temp 1, .named 5 1),
        (.temp 2, .named 4 1), (.temp 2, .named 5 1)] := by
  intro entries
  obtain ⟨hgraph, horder⟩ := @sweep_builds_overlap_graph entries (by decide) (by decide)
  exact ⟨hgraph, horder _ entries.reverse_perm, by cbv⟩

end ConflictGraph

end StraightLine.Range
