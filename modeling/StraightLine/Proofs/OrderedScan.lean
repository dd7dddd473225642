import StraightLine.Proofs.OrderedSet
import StraightLine.Proofs.SlotTables

/-! A scan with its active entries in an ordered set and its allocation in tables. Registers are taken
back from the front of the set, one by one, the entry that ends last is the last of the set, and a
counter numbers the slots. It does what the scan over a list does, which puts a variable in front of the
first one that does not end before it: the list is the set in its order, and the tables are those of the
list's allocation. Between two ranges the free registers and those of the active variables are the given
ones, and when registers were taken back, the active variables are those with a register that reach the
next range. -/

namespace StraightLine.Alloc

open StraightLine.Code StraightLine.Range

def Entry.active (a : Entry) : Active := ⟨a.var, a.reg, a.range.stop⟩

namespace Scan

/-- A variable is put in front of the first one that does not end before it. -/
theorem insertActive_eq (a : Active) (as : List Active) : insertActive a as =
    as.takeWhile (·.stop < a.stop) ++ a :: as.dropWhile (·.stop < a.stop) := by
  induction as with
  | nil => rfl
  | cons b as ih =>
    rw [insertActive]
    split
    · rename_i hlt
      rw [List.takeWhile_cons_of_pos (by simpa using hlt),
        List.dropWhile_cons_of_pos (by simpa using hlt), List.cons_append, ih]
    · rename_i hlt
      rw [List.takeWhile_cons_of_neg (by simpa using hlt),
        List.dropWhile_cons_of_neg (by simpa using hlt), List.nil_append]

section

variable {registers : List Reg} {seen : List Interval} {s : Scan}

theorem Inv.not_mem_tables (h : Inv registers seen s) {e : Interval}
    (hn : (seen.map (·.var) ++ [e.var]).Nodup) :
    e.var ∉ s.alloc.regs.map (·.1) ++ s.alloc.slots :=
  fun hm => not_mem_of_nodup hn (h.placed.mem_iff.mp hm)

/-- An active variable is in no slot. -/
theorem Inv.not_mem_slots (h : Inv registers seen s) (hn : (seen.map (·.var)).Nodup) {a : Active}
    (ha : a ∈ s.active) : a.var ∉ s.alloc.slots := by
  have hd : s.alloc.Distinct := h.placed.nodup_iff.mpr hn
  have hreg := List.mem_map_of_mem (f := (·.1)) (h.held a ha).1
  exact fun hs => (List.nodup_append.mp hd).2.2 _ hreg _ hs rfl

end

end Scan

theorem Sorted.le_of_mem_dropWhile {as : List Entry} (h : Sorted as) (pos : Int64) :
    ∀ a ∈ as.dropWhile (·.range.stop < pos), pos.toInt ≤ a.range.stop.toInt := by
  have hact : (as.map Entry.active).Pairwise fun a b => a.stop.toInt ≤ b.stop.toInt := by
    refine List.pairwise_map.mpr (h.imp fun {a b} hab => ?_)
    rw [byEnd_iff] at hab
    simp only [Entry.active]
    omega
  intro a ha
  refine Scan.le_of_mem_dropWhile hact a.active ?_
  rw [List.dropWhile_map]
  exact List.mem_map.mpr ⟨a, ha, rfl⟩

/-- The newest entry belongs in front of the first one that does not end before it. -/
theorem Sorted.insertNewest {as : List Entry} (h : Sorted as) {a : Entry}
    (ha : ∀ b ∈ as, b.order < a.order) : Sorted
      (as.takeWhile (·.range.stop < a.range.stop) ++
        a :: as.dropWhile (·.range.stop < a.range.stop)) := by
  have hback := h.le_of_mem_dropWhile a.range.stop
  have hsub := (List.dropWhile_sublist (l := as) (·.range.stop < a.range.stop)).subset
  rw [← @List.takeWhile_append_dropWhile _ (·.range.stop < a.range.stop) as, Sorted,
    List.pairwise_append] at h
  obtain ⟨hf, hb, hcross⟩ := h
  refine List.pairwise_append.mpr
    ⟨hf, List.pairwise_cons.mpr ⟨fun b hm => ?_, hb⟩, fun b hm c hc => ?_⟩
  · have hle := hback b hm
    have hnew := UInt64.lt_iff_toNat_lt.mp (ha b (hsub hm))
    rw [byEnd_iff]
    omega
  · rcases List.mem_cons.mp hc with rfl | hc
    · have hlt := List.mem_takeWhile_imp hm
      exact byEnd_iff.mpr (.inl (Int64.lt_iff_toInt_lt.mp (of_decide_eq_true hlt)))
    · exact hcross b hm c hc

/-! ## The scan -/

/-- A scan in progress, with its active entries in an ordered set. -/
structure OrderedScan (sets : OrderedSet Entry byEnd) where
  /-- The free registers; the first one is handed out next. -/
  free : List Reg
  active : sets.Carrier
  /-- How many entries were inserted so far. -/
  inserts : UInt64
  alloc : Tables

namespace OrderedScan

variable {sets : OrderedSet Entry byEnd}

def start (sets : OrderedSet Entry byEnd) (registers : List Reg) : OrderedScan sets :=
  ⟨registers.reverse, sets.empty, 0, .empty⟩

/-- Takes registers back as long as the entry that ends first ended before `pos`. -/
def expire (pos : Int64) (t : OrderedScan sets) : OrderedScan sets :=
  match h : sets.first? t.active with
  | none => t
  | some a =>
    if pos ≤ a.range.stop then t
    else
      have := OrderedSet.card_dropFirst_lt h
      expire pos { t with free := a.reg :: t.free, active := sets.dropFirst t.active }
termination_by (sets.elements t.active).card

/-- Pops the register that is handed out next. It fails on an empty stack. -/
def pop? (t : OrderedScan sets) : Option (Reg × OrderedScan sets) :=
  match t.free with
  | [] => none
  | r :: free => some (r, { t with free := free })

def assign (e : Interval) (r : Reg) (t : OrderedScan sets) : OrderedScan sets :=
  { t with
    active := sets.insert ⟨r, e.range, e.var, t.inserts + 1⟩ t.active
    inserts := t.inserts + 1
    alloc := t.alloc.giveRegister e.var r }

def giveSlot (v : Var) (t : OrderedScan sets) : OrderedScan sets :=
  { t with alloc := t.alloc.giveSlot v }

def takeRegister (v : Var) (t : OrderedScan sets) : OrderedScan sets :=
  { t with alloc := t.alloc.takeRegister v }

/-- Finds a place for a range when no register is free. -/
def spillAt (e : Interval) (t : OrderedScan sets) : OrderedScan sets :=
  match sets.last? t.active with
  | some last =>
    if e.range.stop < last.range.stop then
      assign e last.reg
        (giveSlot last.var (takeRegister last.var { t with active := sets.dropLast t.active }))
    else giveSlot e.var t
  | none => giveSlot e.var t

/-- Finds a place for a range: as long as fewer entries are active than there are registers, a register
is popped. -/
def place (registers : Nat) (e : Interval) (t : OrderedScan sets) : Option (OrderedScan sets) :=
  if sets.size t.active < registers then t.pop?.map fun p => assign e p.1 p.2
  else some (spillAt e t)

/-- One step of the scan. It fails when no register can be popped. -/
def step (registers : Nat) (t : OrderedScan sets) (e : Interval) : Option (OrderedScan sets) :=
  place registers e (expire e.range.start t)

def run (registers : Nat) (t : OrderedScan sets) (es : List Interval) : Option (OrderedScan sets) :=
  es.foldlM (step registers) t

/-! ## The scan follows the one over a list -/

/-- The scan is where one over a list is. The entries, listed in the order of the set, are the active
variables of the list, they have ranges among the `seen` ones, and the tables are those of the other
scan's allocation. -/
structure Follows (seen : List Interval) (t : OrderedScan sets) (as : List Entry) (s : Scan) :
    Prop where
  free : t.free = s.free
  alloc : t.alloc = s.alloc.tables
  listed : sets.ListedBy t.active as
  active : as.map Entry.active = s.active
  range_mem : ∀ a ∈ as, ⟨a.var, a.range⟩ ∈ seen
  order_le : ∀ a ∈ as, a.order ≤ t.inserts
  inserts_le : t.inserts.toNat ≤ seen.length

theorem follows_start (sets : OrderedSet Entry byEnd) (registers : List Reg) :
    Follows [] (start sets registers) [] (.start registers) where
  free := rfl
  alloc := rfl
  listed := OrderedSet.listedBy_empty
  active := rfl
  range_mem := fun _ h => absurd h List.not_mem_nil
  order_le := fun _ h => absurd h List.not_mem_nil
  inserts_le := Nat.le_refl 0

section

variable {registers : List Reg} {seen : List Interval} {t : OrderedScan sets} {as : List Entry}
  {s : Scan}

theorem expire_none {pos : Int64} (h : sets.first? t.active = none) : t.expire pos = t := by
  rw [expire]
  split
  · rfl
  · rename_i a ha
    rw [h] at ha
    cases ha

theorem expire_some {pos : Int64} {a : Entry} (h : sets.first? t.active = some a) :
    t.expire pos = if pos ≤ a.range.stop then t else
      expire pos { t with free := a.reg :: t.free, active := sets.dropFirst t.active } := by
  rw [expire]
  split
  · rename_i ha
    rw [h] at ha
    cases ha
  · rename_i b hb
    cases h.symm.trans hb
    rfl

/-- Registers are taken back one by one, until the first entry that reaches the position. -/
theorem Follows.expire (h : Follows seen t as s) (pos : Int64) :
    Follows seen (t.expire pos) (as.dropWhile (·.range.stop < pos)) (s.expire pos) := by
  induction as generalizing t s with
  | nil =>
    have hs : s.expire pos = s := by
      have hact : s.active = [] := h.active.symm
      cases s
      cases hact
      rfl
    rw [expire_none h.listed.first?_eq, hs]
    exact h
  | cons a as ih =>
    rw [expire_some h.listed.first?_eq]
    obtain ⟨free, active, alloc⟩ := s
    obtain rfl : a.active :: as.map Entry.active = active := h.active
    by_cases hlt : a.range.stop < pos
    · -- the list gives all registers back at once: the first of them, and then the others
      have hnext : Scan.expire pos ⟨free, a.active :: as.map Entry.active, alloc⟩ =
          Scan.expire pos ⟨a.reg :: free, as.map Entry.active, alloc⟩ := by
        simp [Scan.expire, Entry.active, hlt]
      rw [if_neg (Int64.not_le.mpr hlt), List.dropWhile_cons_of_pos (by simpa using hlt), hnext]
      refine ih
        ⟨congrArg _ h.free, h.alloc, h.listed.dropFirst (by simp), rfl, ?_, ?_, h.inserts_le⟩
      · exact fun b hb => h.range_mem b (List.mem_cons_of_mem _ hb)
      · exact fun b hb => h.order_le b (List.mem_cons_of_mem _ hb)
    · have hstay : Scan.expire pos ⟨free, a.active :: as.map Entry.active, alloc⟩ =
          ⟨free, a.active :: as.map Entry.active, alloc⟩ := by
        simp [Scan.expire, Entry.active, hlt]
      rw [if_pos (Int64.not_lt.mp hlt), List.dropWhile_cons_of_neg (by simpa using hlt), hstay]
      exact h

/-- The new entry goes where the list has the new variable. -/
theorem Follows.assign (h : Follows seen t as s) (hi : Scan.Inv registers seen s) {e : Interval}
    (hn : (seen.map (·.var) ++ [e.var]).Nodup) (hlen : seen.length + 1 < UInt64.size) (r : Reg) :
    ∃ bs, Follows (seen ++ [e]) (t.assign e r) bs (s.assign e r) := by
  have hle := h.inserts_le
  -- the count does not wrap around, so the new entry is newer than all others
  have hnext : (t.inserts + 1).toNat = t.inserts.toNat + 1 :=
    (UInt64.toNat_add t.inserts 1).trans
      (Nat.mod_eq_of_lt (Nat.lt_of_le_of_lt (Nat.succ_le_succ hle) hlen))
  have hlt : ∀ b ∈ as, b.order < t.inserts + 1 := by
    intro b hb
    have horder := UInt64.le_iff_toNat_le.mp (h.order_le b hb)
    rw [UInt64.lt_iff_toNat_lt]
    omega
  have hsplit := (@List.takeWhile_append_dropWhile _ (·.range.stop < e.range.stop) as).symm
  have hsorted := h.listed.sorted.insertNewest (a := ⟨r, e.range, e.var, t.inserts + 1⟩) hlt
  have hmem : ∀ b ∈ as.takeWhile (·.range.stop < e.range.stop) ++
      ⟨r, e.range, e.var, t.inserts + 1⟩ :: as.dropWhile (·.range.stop < e.range.stop),
      b = ⟨r, e.range, e.var, t.inserts + 1⟩ ∨ b ∈ as := by
    intro b hb
    rwa [List.perm_middle.mem_iff, List.mem_cons, ← hsplit] at hb
  refine ⟨_, h.free, ?_, h.listed.insert hsplit hsorted, ?_, fun b hb => ?_, fun b hb => ?_, ?_⟩
  · rw [OrderedScan.assign, Scan.assign, h.alloc]
    exact Allocation.tables_giveRegister
      (fun hm => hi.not_mem_tables hn (List.mem_append_left _ hm)) r
  · simp only [Scan.assign, Scan.insertActive_eq, ← h.active, List.map_append, List.map_cons,
      List.takeWhile_map, List.dropWhile_map]
    rfl
  · rcases hmem b hb with rfl | hb
    · exact List.mem_append_right _ List.mem_cons_self
    · exact List.mem_append_left _ (h.range_mem b hb)
  · rcases hmem b hb with rfl | hb
    · exact UInt64.le_refl _
    · exact UInt64.le_of_lt (hlt b hb)
  · simpa [OrderedScan.assign, hnext] using hle

/-- A new variable gets a slot. -/
theorem Follows.giveSlot (h : Follows seen t as s) (hi : Scan.Inv registers seen s) {e : Interval}
    (hn : (seen.map (·.var) ++ [e.var]).Nodup) :
    Follows (seen ++ [e]) (t.giveSlot e.var) as (s.spill e.var) where
  free := h.free
  alloc := by
    have hnew : e.var ∉ s.alloc.slots :=
      fun hm => hi.not_mem_tables hn (List.mem_append_right _ hm)
    rw [OrderedScan.giveSlot, h.alloc, Allocation.tables_giveSlot hnew, ← hi.regs_spill_new hn]
    rfl
  listed := h.listed
  active := h.active
  range_mem := fun a ha => List.mem_append_left _ (h.range_mem a ha)
  order_le := h.order_le
  inserts_le := h.inserts_le.trans (by simp)

/-- The last entry gives its register up. -/
theorem Follows.evict (h : Follows seen t as s) (hi : Scan.Inv registers seen s)
    (hn : (seen.map (·.var)).Nodup) {init : List Active} {last : Active}
    (hact : s.active = init ++ [last]) : ∃ a bs, sets.last? t.active = some a ∧ a.active = last ∧
      Follows seen
        (OrderedScan.giveSlot a.var (takeRegister a.var { t with active := sets.dropLast t.active })) bs
        (Scan.spill last.var { s with active := init }) := by
  have hslot : last.var ∉ s.alloc.slots := hi.not_mem_slots hn (by simp [hact])
  obtain ⟨bs, cs, rfl, rfl, hcs⟩ := List.map_eq_append_iff.mp (h.active.trans hact)
  obtain ⟨a, rfl, rfl⟩ := List.map_eq_singleton_iff.mp hcs
  have hlast := h.listed.last?_eq
  have hdrop := h.listed.dropLast (by simp)
  rw [List.getLast?_concat] at hlast
  rw [List.dropLast_concat] at hdrop
  refine ⟨a, bs, hlast, rfl, h.free, ?_, hdrop, rfl, ?_, ?_, h.inserts_le⟩
  · rw [OrderedScan.giveSlot, takeRegister, h.alloc, Allocation.tables_takeRegister]
    exact Allocation.tables_giveSlot hslot
  · exact fun b hb => h.range_mem b (List.mem_append_left _ hb)
  · exact fun b hb => h.order_le b (List.mem_append_left _ hb)

/-- Fewer entries are active than there are registers if and only if a register is free. -/
theorem Follows.place (h : Follows seen t as s) (hi : Scan.Inv registers seen s) {e : Interval}
    (hn : (seen.map (·.var) ++ [e.var]).Nodup) (hlen : seen.length + 1 < UInt64.size) :
    ∃ u bs, t.place registers.length e = some u ∧ Follows (seen ++ [e]) u bs (s.place e) := by
  have hsize : sets.size t.active = s.active.length := by
    rw [h.listed.size_eq, ← h.active, List.length_map]
  have hpool := hi.length_pool
  rw [OrderedScan.place, hsize]
  rcases Scan.place_cases e s with
    ⟨r, free, hfree, hp⟩ | ⟨hfree, init, last, hact, hlt, hp⟩ | ⟨hfree, hnot, hp⟩
  · rw [hfree, List.length_cons] at hpool
    rw [if_pos (by omega), pop?, h.free, hfree, hp]
    have hrest : Follows seen { t with free := free } as { s with free := free } :=
      { h with free := rfl }
    have hinv : Scan.Inv (free ++ s.active.map (·.reg)) seen { s with free := free } :=
      { hi with pool := .refl _ }
    obtain ⟨bs, hbs⟩ := hrest.assign hinv hn hlen r
    exact ⟨_, bs, rfl, hbs⟩
  · rw [hfree, List.length_nil] at hpool
    have hseen := Scan.nodup_seen hn
    obtain ⟨a, bs, ha, rfl, hevict⟩ := h.evict hi hseen hact
    obtain ⟨cs, hcs⟩ := hevict.assign (hi.spill_last hseen hact) hn hlen a.reg
    refine ⟨_, cs, ?_, hp ▸ hcs⟩
    rw [if_neg (by omega), spillAt, ha]
    exact congrArg some (if_pos hlt)
  · rw [hfree, List.length_nil] at hpool
    refine ⟨_, as, ?_, hp ▸ h.giveSlot hi hn⟩
    rw [if_neg (by omega), spillAt, h.listed.last?_eq]
    cases hl : as.getLast? with
    | none => rfl
    | some a =>
      have hstop : ¬ e.range.stop < a.range.stop :=
        hnot a.active (by rw [← h.active, List.getLast?_map, hl]; rfl)
      exact congrArg some (if_neg hstop)

theorem Follows.step (h : Follows seen t as s) (hi : Scan.Inv registers seen s) {e : Interval}
    (hn : (seen.map (·.var) ++ [e.var]).Nodup) (hlen : seen.length + 1 < UInt64.size) :
    ∃ u bs, t.step registers.length e = some u ∧ Follows (seen ++ [e]) u bs (s.step e) :=
  (h.expire e.range.start).place (hi.expire e.range.start) hn hlen

/-- The scan over a set never fails, and follows the one over a list. -/
theorem Follows.run (h : Follows seen t as s) (hi : Scan.Inv registers seen s) {es : List Interval}
    (hn : ((seen ++ es).map (·.var)).Nodup) (hlen : (seen ++ es).length < UInt64.size) :
    ∃ u bs, t.run registers.length es = some u ∧ Follows (seen ++ es) u bs (s.run es) := by
  induction es generalizing seen t as s with
  | nil => exact ⟨t, as, rfl, by simpa [Scan.run] using h⟩
  | cons e es ih =>
    rw [List.append_cons] at hn hlen ⊢
    have hne := Scan.nodup_next hn
    have hshort : seen.length + 1 < UInt64.size := by
      rw [List.length_append, List.length_append, List.length_singleton] at hlen
      omega
    obtain ⟨u, bs, hu, hf⟩ := h.step hi hne hshort
    obtain ⟨w, cs, hw, hg⟩ := ih hf ((hi.expire e.range.start).place hne) hn hlen
    refine ⟨w, cs, ?_, hg⟩
    rw [OrderedScan.run, List.foldlM_cons, hu]
    exact hw

end

end OrderedScan

/-! ## What is active -/

namespace Scan

/-- When a range is due, a variable that has a register is active, or its range ended before. -/
theorem finished_intervals {registers : List Reg} {r : Ranges} (hs : r.StartsNonneg)
    {seen es : List Interval} {e : Interval} (hn : (seen.map (·.var)).Nodup)
    (hsplit : r.intervals = seen ++ e :: es) :
    Finished seen e.range.start.toInt ((start registers).run seen) := by
  have hsorted := Ranges.intervals_sorted hs
  have hpos : ∀ f ∈ r.intervals, 0 ≤ f.range.start.toInt := fun f hf =>
    hs f (r.intervals_perm.mem_iff.mp hf)
  rw [hsplit] at hsorted hpos
  obtain ⟨hfirst, -, hbefore⟩ := List.pairwise_append.mp hsorted
  have hnone : Finished [] 0 (start registers) := fun _ h => absurd h List.not_mem_nil
  exact hnone.run (inv_start registers) (fun f hf => hpos f (List.mem_append_left _ hf))
    (hpos e (by simp)) (fun f hf => hbefore f hf e List.mem_cons_self) hfirst hn

/-- The active variables are those of the ranges `seen` that are in the table of registers and whose
range reaches `pos`, each once and with its register in the table. -/
structure Current (seen : List Interval) (pos : Int64) (s : Scan) : Prop where
  once : (s.active.map (·.var)).Nodup
  mem_iff : ∀ v q stop, ⟨v, q, stop⟩ ∈ s.active ↔
    (∃ f ∈ seen, f.var = v ∧ f.range.stop = stop) ∧ s.alloc.reg? v = some q ∧ pos ≤ stop

theorem Inv.current {registers : List Reg} {seen : List Interval} {s : Scan} {pos : Int64}
    (h : Inv registers seen s) (hn : (seen.map (·.var)).Nodup) (hf : Finished seen pos.toInt s)
    (hreach : ∀ a ∈ s.active, pos.toInt ≤ a.stop.toInt) : Current seen pos s where
  once := h.distinct
  mem_iff v q stop := by
    have hd : s.alloc.Distinct := h.placed.nodup_iff.mpr hn
    rw [Allocation.reg?_eq_some_iff hd, Int64.le_iff_toInt_le]
    constructor
    · intro ha
      obtain ⟨hreg, hrange⟩ := h.held _ ha
      exact ⟨hrange, hreg, hreach _ ha⟩
    · rintro ⟨⟨f, hf', rfl, rfl⟩, hreg, hle⟩
      rcases hf f hf' q hreg with ha | hlt
      · exact ha
      · omega

end Scan

/-- The state of a scan between two ranges, for any list of registers, also if some come twice. The free
registers and those of the active variables are the given ones. When registers were taken back for the
next range, the active variables are those of the taken ranges that have a register and reach it. A scan
over any ordered set does not fail, and it is in the same state, also when registers were taken back: its
entries, strictly sorted by end with the newest of equal ends first, are the active variables of the
list, where each was put in front of the first one that does not end before it. This scan counts
insertions by 64-bit words, which tell them apart as long as there are fewer ranges than words. -/
theorem scan_state_is_kept (sets : OrderedSet Entry byEnd) (registers : List Reg) {r : Ranges}
    (hr : (∃ code, r = .analyze code) ∨ ∃ entries, r = .ofList entries)
    (hs : ∀ v x, r.find? v = some x → 0 ≤ x.start) {seen rest : List Interval}
    (hsplit : r.intervals = seen ++ rest) :
    let s := (Scan.start registers).run seen
    (s.free ++ s.active.map (·.reg)).Perm registers ∧
      (∀ e es, rest = e :: es → Scan.Current seen e.range.start (s.expire e.range.start)) ∧
      (r.size < UInt64.size →
        ∃ t as, OrderedScan.run registers.length (.start sets registers) seen = some t ∧
          OrderedScan.Follows seen t as s ∧
          ∀ pos, ∃ bs, OrderedScan.Follows seen (t.expire pos) bs (s.expire pos)) := by
  intro s
  have hd : r.Distinct := by
    rcases hr with ⟨code, rfl⟩ | ⟨entries, rfl⟩
    · exact Ranges.distinct_analyze code
    · exact Ranges.distinct_ofList entries
  have hnodup := Scan.nodup_intervals hd
  rw [hsplit, List.map_append] at hnodup
  have hseen : (seen.map (·.var)).Nodup := (List.nodup_append.mp hnodup).1
  have hinv : Scan.Inv registers seen s := (Scan.inv_start registers).run hseen
  refine ⟨hinv.pool, ?_, fun hsize => ?_⟩
  · rintro e es rfl
    have hstart : r.StartsNonneg := fun f hf =>
      Int64.le_iff_toInt_le.mp (hs _ _ ((Ranges.find?_eq_some_iff hd).mpr hf))
    have hfinished : Scan.Finished seen e.range.start.toInt s :=
      Scan.finished_intervals hstart hseen hsplit
    exact (hinv.expire _).current hseen (hfinished.expire (Int.le_refl _)) (hinv.expire_le _)
  · have hlen : seen.length < UInt64.size := by
      have hperm := r.intervals_perm.length_eq
      rw [hsplit, List.length_append] at hperm
      rw [Ranges.size] at hsize
      omega
    obtain ⟨t, as, ht, hfollows⟩ :=
      (OrderedScan.follows_start sets registers).run (Scan.inv_start registers) hseen hlen
    exact ⟨t, as, ht, hfollows, fun pos => ⟨_, hfollows.expire pos⟩⟩

/-- Three registers, two of which are one and the same. The fourth range takes the register of the first
one away, the fifth one is spilled, and of two equal ends the newer one comes first. -/
theorem scan_state_is_kept_ties :
    let seen : List Interval := [⟨.temp 1, ⟨0, 9⟩⟩, ⟨.temp 2, ⟨1, 4⟩⟩, ⟨.temp 3, ⟨1, 4⟩⟩,
      ⟨.temp 4, ⟨2, 3⟩⟩, ⟨.temp 5, ⟨3, 8⟩⟩]
    let next : Interval := ⟨.temp 6, ⟨4, 6⟩⟩
    let s := (Scan.start [2, 7, 7]).run seen
    (Ranges.ofList (seen ++ [next])).intervals = seen ++ [next] ∧
      s.active = [⟨.temp 4, 7, 3⟩, ⟨.temp 3, 2, 4⟩, ⟨.temp 2, 7, 4⟩] ∧
      (s.expire 4).active = [⟨.temp 3, 2, 4⟩, ⟨.temp 2, 7, 4⟩] ∧ Scan.Current seen 4 (s.expire 4) ∧
      ∃ t as, OrderedScan.run 3 (.start .ofLists [2, 7, 7]) seen = some t ∧
        OrderedScan.Follows seen t as s := by
  intro seen next s
  have hsplit : (Ranges.ofList (seen ++ [next])).intervals = seen ++ [next] := by cbv
  have hs : ∀ v x, (Ranges.ofList (seen ++ [next])).find? v = some x → 0 ≤ x.start := by
    intro v x h
    have hm := Ranges.mem_of_find?_ofList h
    simp only [seen, next, List.cons_append, List.nil_append, List.mem_cons, Interval.mk.injEq,
      List.not_mem_nil, or_false] at hm
    rcases hm with ⟨-, rfl⟩ | ⟨-, rfl⟩ | ⟨-, rfl⟩ | ⟨-, rfl⟩ | ⟨-, rfl⟩ | ⟨-, rfl⟩ <;> decide
  have hsize : (Ranges.ofList (seen ++ [next])).size < UInt64.size := by
    have hlen := (Ranges.intervals_perm (Ranges.ofList (seen ++ [next]))).length_eq
    rw [Ranges.size, ← hlen, hsplit]
    decide
  obtain ⟨-, hnext, hset⟩ :=
    scan_state_is_kept .ofLists [2, 7, 7] (.inr ⟨seen ++ [next], rfl⟩) hs hsplit
  obtain ⟨t, as, ht, hfollows, -⟩ := hset hsize
  exact ⟨hsplit, by decide +zetaReduce, by decide +zetaReduce, hnext next [] rfl, t, as, ht, hfollows⟩

end StraightLine.Alloc
