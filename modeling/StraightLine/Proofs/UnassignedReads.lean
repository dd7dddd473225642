import StraightLine.Proofs.CodeDiscipline
import StraightLine.Proofs.CompileOutcome
import StraightLine.Source.Words

/-! What the machine reads for a name that is not assigned yet. Version zero of a name is never written,
and the interpreter reads zero for it. The machine reads its location: a slot is not shared and still
holds zero, but a register holds what the last variable there has left. The range of that variable is
over by then, so nobody misses its word. -/

namespace StraightLine.Program

open StraightLine.Alloc StraightLine.Source

/-- A run changes only cells that are targets of its code. -/
theorem Machine.get_run_of_ne (m : Machine) {code : List Instr} {c : Cell}
    (h : ∀ i ∈ code, i.dst.cell ≠ c) : (m.run code).1.get c = m.get c := by
  rw [run]
  generalize 0 = p
  induction code generalizing m p with
  | nil => rfl
  | cons i is ih =>
    simp only [runFrom, step]
    cases effect i.op (m.get i.dst.cell) (m.read i.src) with
    | put x =>
      have hset := m.get_set_of_ne x (h i List.mem_cons_self).symm
      exact (ih (m.set i.dst.cell x) (fun j hj => h j (List.mem_cons_of_mem _ hj)) (p + 1)).trans hset
    | zeroDivisor => rfl
    | undefinedOp => rfl

/-- Code that ran to its end ran through each of its beginnings. -/
theorem Machine.run_left {m t : Machine} {xs ys : List Instr} (h : m.run (xs ++ ys) = (t, none)) :
    ∃ u, m.run xs = (u, none) ∧ t = (u.run ys).1 := by
  cases hx : m.run xs with
  | mk u fault =>
    cases fault with
    | some f =>
      rw [run_append_of_fault ys hx] at h
      cases h
    | none =>
      rw [run_append_of_ok ys hx] at h
      exact ⟨u, rfl, (Prod.mk.inj h).1.symm⟩

end StraightLine.Program

namespace StraightLine.Lockstep

open StraightLine.Source StraightLine.Code StraightLine.Program StraightLine.Alloc
open StraightLine.Range

section

variable {a : Allocation} {resolve : Resolver} {v : Var} {c : Cell}

/-- Code of an instruction whose destination is elsewhere leaves the cell of a variable alone. -/
theorem cell_ne_of_mem_codeOf (hc : LivesIn a.find? v c) {i : Code.Instr}
    (hne : a.find? i.dst ≠ a.find? v) {j : Program.Instr} (hj : j ∈ codeOf a.find? resolve i) :
    j.dst.cell ≠ c := by
  cases he : emitOne a.find? resolve i with
  | error f =>
    rw [codeOf, he] at hj
    cases hj
  | ok mc =>
    rw [codeOf_eq he] at hj
    obtain ⟨d, hd⟩ := livesIn_of_emitOne he i.dst (by simp [Instr.vars_eq])
    have htarget : j.dst = .ofCell d :=
      Except.ok.inj ((parts_of_mem_emitOne he j hj).1.symm.trans hd.targetOf)
    rw [htarget, Target.cell_ofCell]
    rintro rfl
    exact hne (hd.find?_eq hc)

theorem get_run_codeOf (hc : LivesIn a.find? v c) {is : List Code.Instr}
    (hne : ∀ i ∈ is, a.find? i.dst ≠ a.find? v) (resolve : Resolver) (m : Machine) :
    (m.run (is.flatMap (codeOf a.find? resolve))).1.get c = m.get c := by
  refine m.get_run_of_ne fun j hj => ?_
  obtain ⟨i, hi, hj⟩ := List.mem_flatMap.mp hj
  exact cell_ne_of_mem_codeOf hc (hne i hi) hj

/-- Of two variables in one cell, the range of the one that is touched earlier ends before the other
one starts, and the cell is a register. -/
theorem stop_lt_start_of_livesIn {code : List Code.Instr} (hs : code.length < positions)
    (hslots : a.slots.length ≤ UInt64.size) (hspaced : Spaced 1 (.analyze code) a) {u : Var}
    (hne : u ≠ v) (hu : LivesIn a.find? u c) (hv : LivesIn a.find? v c) {k n : Nat}
    {j i : Code.Instr} (hj : code[k]? = some j) (hi : code[n]? = some i) (huj : u ∈ j.vars)
    (hvi : v ∈ i.vars) (hkn : k ≤ n) :
    ∃ q x y, a.find? v = some (.register q) ∧ (Ranges.analyze code).find? u = some x ∧
      (Ranges.analyze code).find? v = some y ∧ x.stop.toInt < y.start.toInt ∧ k < n := by
  obtain ⟨q, hqu, hqv⟩ := registers_of_livesIn hslots hne hu hv
  obtain ⟨x, hx, hx₁, hx₂⟩ := range_of_mem_vars hs hj huj
  obtain ⟨y, hy, hy₁, hy₂⟩ := range_of_mem_vars hs hi hvi
  have happart := hspaced u v x y q hne hx hy hqu hqv
  exact ⟨q, x, y, hqv, hx, hy, by omega, by omega⟩

end

end StraightLine.Lockstep

namespace StraightLine.Compile

open StraightLine.Source StraightLine.Code StraightLine.Range StraightLine.Alloc StraightLine.Program
open StraightLine.Lockstep

/-! ## Names that are not assigned yet -/

/-- Version zero of a name is never written. -/
theorem named_zero_ne_dst {key : Handle → String} {p : List Statement}
    (hn : (spell p).length < positions) {i : Code.Instr}
    (hi : i ∈ (lowerStatements key p (.start [])).1) (h : Handle) : i.dst ≠ .named h 0 := by
  intro hdst
  have hversioned := (versioned_start key (key h) []).lowerStatements (tracks_start key []).keyed
    (within_start []) p (by omega)
  have hpos := hversioned.positive 0 (by
    rw [List.nil_append, writesOf, List.mem_map]
    refine ⟨i, List.mem_filter.mpr ⟨hi, ?_⟩, by rw [hdst]; rfl⟩
    rw [hdst, Var.isVersionOf_iff]
    exact ⟨rfl, rfl⟩)
  omega

/-- A compiled program reads what is left at the location of a name that is not assigned yet, and it is
left there while the instruction reads it. That is zero if nothing was put there before. Otherwise it
is the word of the last variable there, in a register that this variable does not need any more; so the
word that is read need not be zero. -/
theorem unassigned_reads_what_is_left {norm : String → String} {registers : List Reg}
    {resolve : Resolver} {nodes : List Node} {c : Compilation} (hn : nodes.length < positions)
    (hr : registers.Nodup) (hc : compile norm registers resolve nodes = .ok c)
    {pre post : List Code.Instr} {i : Code.Instr} (hsplit : c.code = pre ++ i :: post) {h : Handle}
    (hread : Var.named h 0 ∈ i.reads) {m : Machine}
    (hm : Machine.empty.run (pre.flatMap (codeOf c.allocation.find? resolve)) = (m, none)) :
    ∃ l, c.allocation.find? (.named h 0) = some l ∧
      (∀ n, (m.run ((codeOf c.allocation.find? resolve i).take n)).1.load l = m.load l) ∧
      ((∀ j ∈ pre, c.allocation.find? j.dst ≠ some l) → m.load l = .ok 0) ∧
      ∀ before j after, pre = before ++ j :: after → c.allocation.find? j.dst = some l →
        (∀ k ∈ after, c.allocation.find? k.dst ≠ some l) →
          (∃ q, l = .register q) ∧
          (∃ x y, c.ranges.find? j.dst = some x ∧ c.ranges.find? (.named h 0) = some y ∧
            x.stop < y.start) ∧
          ∃ m', Machine.empty.run ((before ++ [j]).flatMap (codeOf c.allocation.find? resolve)) =
            (m', none) ∧ m.load l = m'.load l := by
  obtain ⟨p, hp⟩ := exists_spell_of_compile hc
  obtain ⟨hcode, hranges, halloc, hemit⟩ := of_compile_eq_ok hp hc
  have hspell : (spell p).length < positions := by
    rw [← hp]
    exact Nat.lt_of_le_of_lt (length_stripFrom_le 0 nodes) hn
  have hshort : c.code.length < positions := by
    rw [hcode]
    exact Nat.lt_of_le_of_lt (length_lowerStatements _ p _) hspell
  have hslots : c.allocation.slots.length ≤ UInt64.size := by
    have hsize : (Ranges.analyze c.code).size ≤ (spell p).length :=
      hcode ▸ size_analyze_lowerStatements (keyBy norm resolve) p hspell (.start [])
    have hle := slots_allocate_le (Ranges.distinct_analyze c.code) registers
    have hpos : positions ≤ UInt64.size := by decide
    rw [halloc]
    omega
  have hspaced : Spaced 1 (.analyze c.code) c.allocation := halloc ▸ spaced_allocate hshort hr
  have hmem : i ∈ c.code := by simp [hsplit]
  have hvars : Var.named h 0 ∈ i.vars := List.mem_cons_of_mem _ hread
  have hat : c.code[pre.length]? = some i := by simp [hsplit]
  -- the variable has a cell, and no destination is the variable
  obtain ⟨mc, hmc⟩ := emitOne_of_emit hemit i hmem
  obtain ⟨cell, hcell⟩ := livesIn_of_emitOne hmc _ hvars
  have hdst : ∀ j ∈ c.code, j.dst ≠ .named h 0 := fun j hj =>
    named_zero_ne_dst hspell (hcode ▸ hj) h
  obtain ⟨l, hl, hlc⟩ := id hcell
  have hload : ∀ t : Machine, t.load l = .ok (t.get cell) := fun t => Machine.load_of_cell hlc t
  -- an instruction up to here with its destination in this cell is an earlier one
  have hearlier : ∀ k j, c.code[k]? = some j → k ≤ pre.length → c.allocation.find? j.dst = some l →
      ∃ q x y, l = .register q ∧ c.ranges.find? j.dst = some x ∧
        c.ranges.find? (.named h 0) = some y ∧ x.stop < y.start ∧ k < pre.length := by
    intro k j hj hk hloc
    obtain ⟨q, x, y, hq, hx, hy, hlt, hk⟩ := stop_lt_start_of_livesIn hshort hslots hspaced
      (hdst j (List.mem_of_getElem? hj)) ⟨l, hloc, hlc⟩ hcell hj hat
      (List.mem_cons_self : j.dst ∈ j.vars) hvars hk
    rw [hl] at hq
    exact ⟨q, x, y, Option.some.inj hq, hranges ▸ hx, hranges ▸ hy, Int64.lt_iff_toInt_lt.mpr hlt, hk⟩
  refine ⟨l, hl, fun n => ?_, fun hfresh => ?_, ?_⟩
  · rw [hload, hload]
    refine congrArg Except.ok (m.get_run_of_ne fun j hj => ?_)
    refine cell_ne_of_mem_codeOf hcell (fun hloc => ?_) (List.mem_of_mem_take hj)
    obtain ⟨-, -, -, -, -, -, -, hlt⟩ := hearlier pre.length i hat (Nat.le_refl _) (hloc.trans hl)
    exact Nat.lt_irrefl _ hlt
  · have hget := get_run_codeOf hcell (fun j hj => hl ▸ hfresh j hj) resolve .empty
    rw [hm, Machine.get_empty] at hget
    rw [hload, hget]
  · rintro before j after rfl hloc hlast
    have hj : c.code[before.length]? = some j := by simp [hsplit]
    obtain ⟨q, x, y, hq, hx, hy, hlt, -⟩ := hearlier before.length j hj (by simp) hloc
    refine ⟨⟨q, hq⟩, ⟨x, y, hx, hy, hlt⟩, ?_⟩
    rw [List.append_cons, List.flatMap_append] at hm
    obtain ⟨m', hm', rfl⟩ := Machine.run_left hm
    refine ⟨m', hm', ?_⟩
    rw [hload, hload, get_run_codeOf hcell fun k hk => hl ▸ hlast k hk]

/-- Five assignments, the third of which reads a name that is never assigned. -/
def strayWords : List String :=
  ["=", "a", "5", "=", "b", "3", "=", "c", "x", "=", "d", "1", "=", "e", "c"]

def strayFront : List Code.Instr :=
  [{ dst := .named 1 1, left := .literal 2 }, { dst := .named 4 1, left := .literal 5 }]

def strayRead : Code.Instr := { dst := .named 7 1, left := .var (.named 8 0) }

def strayRest : List Code.Instr :=
  [{ dst := .named 10 1, left := .literal 11 }, { dst := .named 13 1, left := .var (.named 7 1) }]

theorem compile_stray :
    ∃ c, compile Text.normalize [0] (resolveWords strayWords) (nodesOfWords strayWords) = .ok c ∧
      c.code = strayFront ++ strayRead :: strayRest ∧
      c.allocation = ⟨[(.named 1 1, 0), (.named 8 0, 0), (.named 13 1, 0)],
        [.named 4 1, .named 7 1, .named 10 1]⟩ := by
  let p : List Statement :=
    [.assign 0 1 (.number 2), .assign 0 4 (.number 5), .assign 0 7 (.name 8), .assign 0 10 (.number 11),
      .assign 0 13 (.name 14)]
  have hp : strip (nodesOfWords strayWords) = spell p := by decide +kernel
  have hcode : (lowerStatements (nameKey (resolveWords strayWords)) p (.start [])).1 =
      strayFront ++ strayRead :: strayRest := by
    decide +kernel
  have hread : LiteralsRead (resolveWords strayWords) p := by
    have h5 : Text.Decimal.read "5" = .ok 5 := by cbv
    have h3 : Text.Decimal.read "3" = .ok 3 := by cbv
    have h1 : Text.Decimal.read "1" = .ok 1 := by cbv
    simp [LiteralsRead, p, Statement.literals, Expr.numbers, IsNumber, resolveWords, strayWords, h1, h3,
      h5]
  obtain ⟨c, hc⟩ : ∃ c, compile Text.normalize [0] (resolveWords strayWords)
      (nodesOfWords strayWords) = .ok c :=
    exists_compile (by decide) hp hread
  obtain ⟨hlowered, -, hallocation, -⟩ := of_compile_eq_ok hp hc
  have hcodec : c.code = strayFront ++ strayRead :: strayRest := hlowered.trans hcode
  refine ⟨c, hc, hcodec, ?_⟩
  rw [hallocation, hcodec]
  decide +kernel

/-- Without registers a name that is not assigned yet has a slot to itself. With one register it may
have that of another variable, whose word is left there. -/
theorem unassigned_reads_what_is_left_spilled :
    (let resolve : Resolver := fun h => if h = 0 then "a" else "x"
    ∃ c l, compile Text.normalize [] resolve [.assignment, .identifier 0, .identifier 1] = .ok c ∧
      c.code = [{ dst := .named 0 1, left := .var (.named 1 0) }] ∧
      c.allocation.find? (.named 1 0) = some l ∧ Machine.empty.load l = .ok 0) ∧
    let resolve := resolveWords strayWords
    ∃ c m m', compile Text.normalize [0] resolve (nodesOfWords strayWords) = .ok c ∧
      c.code = strayFront ++ strayRead :: strayRest ∧
      c.allocation.find? (.named 8 0) = some (.register 0) ∧
      Machine.empty.run (strayFront.flatMap (codeOf c.allocation.find? resolve)) = (m, none) ∧
      Machine.empty.run ((strayFront.take 1).flatMap (codeOf c.allocation.find? resolve)) =
        (m', none) ∧
      m.load (.register 0) = m'.load (.register 0) := by
  refine ⟨?_, ?_⟩
  · intro resolve
    let i : Code.Instr := { dst := .named 0 1, left := .var (.named 1 0) }
    have hp : strip [.assignment, .identifier 0, .identifier 1] = spell [.assign 0 0 (.name 1)] := rfl
    have hliterals : LiteralsRead resolve [.assign 0 0 (.name 1)] := by
      simp [LiteralsRead, Statement.literals, Expr.numbers]
    obtain ⟨c, hc⟩ : ∃ c, compile Text.normalize [] resolve
        [.assignment, .identifier 0, .identifier 1] = .ok c :=
      exists_compile (by decide) hp hliterals
    have hsplit : c.code = [] ++ i :: [] := by
      rw [(of_compile_eq_ok hp hc).1]
      decide +kernel
    have hread : Var.named 1 0 ∈ i.reads := by decide
    have hrun : Machine.empty.run (List.flatMap (codeOf c.allocation.find? resolve) []) =
        (.empty, none) := rfl
    obtain ⟨l, hl, -, hzero, -⟩ := unassigned_reads_what_is_left (by decide) List.nodup_nil hc
      hsplit hread hrun
    exact ⟨c, l, hc, hsplit, hl, hzero (by simp)⟩
  · intro resolve
    obtain ⟨c, hc, hsplit, hallocation⟩ := compile_stray
    have hread : Var.named 8 0 ∈ strayRead.reads := by decide
    have hrun : Machine.empty.run (strayFront.flatMap (codeOf c.allocation.find? resolve)) =
        (⟨[(.mem 0, 3), (.reg 0, 5)]⟩, none) := by
      rw [hallocation]
      decide +kernel
    obtain ⟨l, hl, -, -, hlast⟩ := unassigned_reads_what_is_left (by decide) (List.nodup_singleton 0) hc
      hsplit hread hrun
    have hregister : l = .register 0 := by
      rw [hallocation] at hl
      exact Option.some.inj (hl.symm.trans (by decide +kernel))
    subst hregister
    obtain ⟨-, -, m', hm', hload⟩ := hlast [] { dst := .named 1 1, left := .literal 2 }
      [{ dst := .named 4 1, left := .literal 5 }] rfl (by rw [hallocation]; decide +kernel)
      (by rw [hallocation]; decide +kernel)
    exact ⟨c, _, m', hc, hsplit, hl, hrun, hm', hload⟩

/-- A name that is not assigned yet and reads as five. The first variable leaves its five in the only
register, and the name gets the register next, since its range ends before that of the variable it is
assigned to. -/
theorem unassigned_reads_nonzero :
    let resolve := resolveWords strayWords
    ∃ c m, compile Text.normalize [0] resolve (nodesOfWords strayWords) = .ok c ∧
      c.code = strayFront ++ strayRead :: strayRest ∧ Var.named 8 0 ∈ strayRead.reads ∧
      Machine.empty.run (strayFront.flatMap (codeOf c.allocation.find? resolve)) = (m, none) ∧
      c.allocation.find? (.named 8 0) = some (.register 0) ∧
      m.load (.register 0) = .ok 5 := by
  intro resolve
  obtain ⟨c, hc, hcode, hallocation⟩ := compile_stray
  refine ⟨c, ⟨[(.mem 0, 3), (.reg 0, 5)]⟩, hc, hcode, by decide, ?_, ?_, rfl⟩
  · rw [hallocation]
    decide +kernel
  · rw [hallocation]
    rfl

end StraightLine.Compile
