import StraightLine.Alloc.LinearScan
import StraightLine.Program.Emit
import StraightLine.Proofs.ConflictCount
import StraightLine.Proofs.TwoAddress

/-! The back end goes by positions alone. Where variables are renamed one to one, ranges and their order
stay; where registers are replaced, the scan hands out the replacements; and where registers are
replaced one to one, the machine code is the same code with the replacements. -/

namespace StraightLine

open StraightLine.Source StraightLine.Code StraightLine.Range StraightLine.Alloc

def Range.Interval.rename (ρ : Var → Var) (e : Interval) : Interval := { e with var := ρ e.var }

def Range.Ranges.rename (ρ : Var → Var) (r : Ranges) : Ranges := ⟨r.entries.map (Interval.rename ρ)⟩

def Alloc.Location.mapReg (f : Reg → Reg) : Location → Location
  | .register r => .register (f r)
  | .spilled slot => .spilled slot
  | .untagged r slot => .untagged (f r) slot

def Alloc.Active.rename (ρ : Var → Var) (f : Reg → Reg) (a : Active) : Active :=
  { a with var := ρ a.var, reg := f a.reg }

def Alloc.Allocation.rename (ρ : Var → Var) (f : Reg → Reg) (a : Allocation) : Allocation :=
  ⟨a.regs.map fun e => (ρ e.1, f e.2), a.slots.map ρ⟩

def Alloc.Scan.rename (ρ : Var → Var) (f : Reg → Reg) (s : Scan) : Scan :=
  ⟨s.free.map f, s.active.map (Active.rename ρ f), s.alloc.rename ρ f⟩

namespace Program

/-- A register is replaced; a slot stays. -/
def Target.mapReg (f : Reg → Reg) (t : Target) : Target :=
  if t.kind = 2 then t else { t with reg := f t.reg }

/-- A register is replaced; a number and a slot stay. -/
def Source.mapReg (f : Reg → Reg) (s : Source) : Source :=
  if s.kind = 1 ∨ s.kind = 3 then s else { s with reg := f s.reg }

def Instr.mapReg (f : Reg → Reg) (i : Instr) : Instr :=
  { i with dst := i.dst.mapReg f, src := i.src.mapReg f }

def mapReg (f : Reg → Reg) (p : Program) : Program := { p with instrs := p.instrs.map (Instr.mapReg f) }

end Program

namespace Code

variable {ρ : Var → Var} {alike : Handle → Handle → Prop}

/-- A variable is renamed, and a literal is replaced by one that is alike. -/
inductive Operand.Renamed (ρ : Var → Var) (alike : Handle → Handle → Prop) : Operand → Operand → Prop
  | var (v : Var) : Renamed ρ alike (.var v) (.var (ρ v))
  | literal {g h : Handle} (hgh : alike g h) : Renamed ρ alike (.literal g) (.literal h)

/-- The second instruction is the first one with its variables renamed and its literals replaced. -/
structure Instr.Renamed (ρ : Var → Var) (alike : Handle → Handle → Prop) (i j : Instr) : Prop where
  dst : j.dst = ρ i.dst
  left : Operand.Renamed ρ alike i.left j.left
  right : Option.Rel (fun x y => y.1 = x.1 ∧ Operand.Renamed ρ alike x.2 y.2) i.right j.right

theorem Operand.Renamed.var?_eq {v w : Operand} (h : Operand.Renamed ρ alike v w) :
    w.var? = v.var?.map ρ := by
  cases h <;> rfl

theorem Instr.Renamed.vars_eq {i j : Instr} (h : Instr.Renamed ρ alike i j) :
    j.vars = i.vars.map ρ := by
  have hright : (j.right.bind fun r => r.2.var?) = (i.right.bind fun r => r.2.var?).map ρ := by
    have hxy := h.right
    generalize i.right = x at hxy
    generalize j.right = y at hxy
    cases hxy with
    | none => rfl
    | some hxy => exact hxy.2.var?_eq
  rw [vars, vars, h.dst, h.left.var?_eq, hright]
  cases i.left.var? <;> cases i.right.bind fun r => r.2.var? <;> rfl

end Code

/-! ## Ranges -/

namespace Range.Ranges

variable {ρ : Var → Var}

theorem touch_rename (hρ : Function.Injective ρ) (pos : Int64) (es : List Interval) (v : Var) :
    touch pos (es.map (Interval.rename ρ)) (ρ v) = (touch pos es v).map (Interval.rename ρ) := by
  have hany : (es.map (Interval.rename ρ)).any (fun e => e.var = ρ v) =
      es.any fun e => e.var = v := by
    simp only [List.any_map, Function.comp_def, Interval.rename, hρ.eq_iff]
  rw [touch, touch, hany]
  split
  · rw [List.map_map, List.map_map]
    refine List.map_congr_left fun e _ => ?_
    rw [Function.comp_apply, Function.comp_apply, apply_ite (Interval.rename ρ)]
    simp only [Interval.rename, hρ.eq_iff]
    rfl
  · rw [List.map_append]
    rfl

theorem foldl_touch_rename (hρ : Function.Injective ρ) (pos : Int64) (es : List Interval)
    (vs : List Var) :
    (vs.map ρ).foldl (touch pos) (es.map (Interval.rename ρ)) =
      (vs.foldl (touch pos) es).map (Interval.rename ρ) := by
  induction vs generalizing es with
  | nil => rfl
  | cons v vs ih => rw [List.map_cons, List.foldl_cons, List.foldl_cons, touch_rename hρ, ih]

/-- Ranges go by the variables that instructions touch. -/
theorem analyze_rename (hρ : Function.Injective ρ) {code code' : List Instr}
    (h : List.Forall₂ (fun i j => j.vars = i.vars.map ρ) code code') :
    analyze code' = (analyze code).rename ρ := by
  have hfold : ∀ (es : List Interval) (n : Nat),
      (code'.zipIdx n).foldl (fun es e => touchAll es e.1 e.2) (es.map (Interval.rename ρ)) =
        ((code.zipIdx n).foldl (fun es e => touchAll es e.1 e.2) es).map (Interval.rename ρ) := by
    induction h with
    | nil => exact fun _ _ => rfl
    | cons hij _ ih =>
      intro es n
      rw [List.zipIdx_cons, List.zipIdx_cons, List.foldl_cons, List.foldl_cons, touchAll, hij,
        foldl_touch_rename hρ, ih, touchAll]
  exact congrArg Ranges.mk (hfold [] 0)

theorem StartsNonneg.rename {r : Ranges} (hn : r.StartsNonneg) (ρ : Var → Var) :
    (r.rename ρ).StartsNonneg := by
  intro e he
  obtain ⟨a, ha, rfl⟩ := List.mem_map.mp he
  exact hn a ha

/-- The order of the intervals goes by starts and, for equal starts, by places. -/
theorem intervals_rename (hρ : Function.Injective ρ) {r : Ranges} (hn : r.StartsNonneg)
    (hd : r.Distinct) : (r.rename ρ).intervals = r.intervals.map (Interval.rename ρ) := by
  have hnodup : (r.entries.map (Interval.rename ρ)).Nodup := by
    refine .of_map Interval.var ?_
    rw [List.map_map]
    have hvar : Interval.var ∘ Interval.rename ρ = ρ ∘ Interval.var := rfl
    rw [hvar, ← List.map_map]
    exact hd.map hρ
  let prior (a b : Interval) : Prop :=
    (r.entries.map (Interval.rename ρ)).idxOf a < (r.entries.map (Interval.rename ρ)).idxOf b
  have hprior : (r.entries.map (Interval.rename ρ)).Pairwise prior := by
    refine List.pairwise_iff_getElem.mpr fun i j hi hj hij => ?_
    simpa only [prior, List.Nodup.idxOf_getElem hnodup] using hij
  have hleft := intervals_arranged (hn.rename ρ).close hprior
  have hright := intervals_arranged hn.close (List.pairwise_map.mp hprior)
  refine List.Perm.eq_of_pairwise (fun a b _ _ hab hba => ?_) hleft (List.pairwise_map.mpr hright) ?_
  · simp only [Order.Arranged, prior] at hab hba
    omega
  · exact (intervals_perm _).trans ((intervals_perm r).map _).symm

/-- The order of the variables decides where a conflict is found, and not how many there are. -/
theorem edgeCount_rename {r : Ranges} (hn : r.StartsNonneg) (ρ : Var → Var) :
    (ConflictGraph.build (r.rename ρ).entries).edgeCount =
      (ConflictGraph.build r.entries).edgeCount := by
  rw [ConflictGraph.edgeCount_build (hn.rename ρ), ConflictGraph.edgeCount_build hn, rename,
    List.map_map]
  rfl

end Range.Ranges

/-! ## The scan -/

namespace Alloc

variable {ρ : Var → Var} {f : Reg → Reg}

namespace Scan

theorem insertActive_rename (a : Active) (as : List Active) :
    insertActive (a.rename ρ f) (as.map (Active.rename ρ f)) =
      (insertActive a as).map (Active.rename ρ f) := by
  induction as with
  | nil => rfl
  | cons b as ih =>
    rw [List.map_cons, insertActive, insertActive, ih, apply_ite (List.map (Active.rename ρ f))]
    rfl

theorem expire_rename (pos : Int64) (s : Scan) :
    expire pos (s.rename ρ f) = (expire pos s).rename ρ f := by
  have hstop : (fun a : Active => decide (a.stop < pos)) ∘ Active.rename ρ f =
      fun a => decide (a.stop < pos) := rfl
  have hreg : (fun a : Active => a.reg) ∘ Active.rename ρ f = f ∘ fun a => a.reg := rfl
  simp only [expire, rename, List.takeWhile_map, List.dropWhile_map, hstop, List.map_append,
    List.map_reverse, List.map_map, hreg]

theorem assign_rename (e : Interval) (r : Reg) (s : Scan) :
    assign (e.rename ρ) (f r) (s.rename ρ f) = (assign e r s).rename ρ f := by
  have hactive := insertActive_rename (ρ := ρ) (f := f) ⟨e.var, r, e.range.stop⟩ s.active
  simp only [assign, rename, Allocation.rename, List.map_append, ← hactive]
  rfl

theorem spill_rename (hρ : Function.Injective ρ) (v : Var) (s : Scan) :
    spill (ρ v) (s.rename ρ f) = (spill v s).rename ρ f := by
  have hkey : (fun e : Var × Reg => decide (e.1 ≠ ρ v)) ∘ (fun e : Var × Reg => (ρ e.1, f e.2)) =
      fun e => decide (e.1 ≠ v) := by
    funext e
    simp only [Function.comp_apply, ne_eq, hρ.eq_iff]
  simp only [spill, rename, Allocation.rename, List.filter_map, hkey, List.map_append]
  rfl

theorem spillAt_rename (hρ : Function.Injective ρ) (e : Interval) (s : Scan) :
    spillAt (e.rename ρ) (s.rename ρ f) = (spillAt e s).rename ρ f := by
  have hlast : (s.rename ρ f).active.getLast? = s.active.getLast?.map (Active.rename ρ f) :=
    List.getLast?_map
  have hspill := spill_rename (f := f) hρ
  rw [spillAt, spillAt, hlast]
  cases s.active.getLast? with
  | none => exact hspill e.var s
  | some last =>
    have hinit : { s.rename ρ f with active := (s.rename ρ f).active.dropLast } =
        ({ s with active := s.active.dropLast } : Scan).rename ρ f := by
      simp only [rename, List.map_dropLast]
    simp only [Option.map_some, hinit]
    rw [apply_ite (Scan.rename ρ f), ← assign_rename, ← hspill, ← hspill]
    rfl

theorem place_rename (hρ : Function.Injective ρ) (e : Interval) (s : Scan) :
    place (e.rename ρ) (s.rename ρ f) = (place e s).rename ρ f := by
  have hfree : (s.rename ρ f).free = s.free.map f := rfl
  rw [place, place, hfree]
  cases s.free with
  | nil => exact spillAt_rename hρ e s
  | cons r free => exact assign_rename e r { s with free := free }

theorem step_rename (hρ : Function.Injective ρ) (s : Scan) (e : Interval) :
    step (s.rename ρ f) (e.rename ρ) = (step s e).rename ρ f := by
  rw [step, step, ← place_rename hρ, ← expire_rename]
  rfl

theorem run_rename (hρ : Function.Injective ρ) (s : Scan) (es : List Interval) :
    run (s.rename ρ f) (es.map (Interval.rename ρ)) = (run s es).rename ρ f := by
  induction es generalizing s with
  | nil => rfl
  | cons e es ih =>
    rw [run, List.map_cons, List.foldl_cons, step_rename hρ]
    exact ih (step s e)

end Scan

theorem allocate_rename (hρ : Function.Injective ρ) {r : Ranges} (hn : r.StartsNonneg)
    (hd : r.Distinct) (registers : List Reg) :
    allocate (r.rename ρ) (registers.map f) = (allocate r registers).rename ρ f := by
  have hstart : Scan.start (registers.map f) = (Scan.start registers).rename ρ f := by
    simp only [Scan.start, Scan.rename, List.map_reverse]
    rfl
  rw [allocate, allocate, Ranges.intervals_rename hρ hn hd, hstart, Scan.run_rename hρ]
  rfl

theorem find?_rename (hρ : Function.Injective ρ) (a : Allocation) (v : Var) :
    (a.rename ρ f).find? (ρ v) = (a.find? v).map (Location.mapReg f) := by
  have hreg : (a.rename ρ f).reg? (ρ v) = (a.reg? v).map f := by
    simp only [Allocation.reg?, Allocation.rename, List.find?_map, Option.map_map,
      Function.comp_def, hρ.eq_iff]
  have hslot : (a.rename ρ f).slot? (ρ v) = a.slot? v := by
    simp only [Allocation.slot?, Allocation.rename, List.findIdx?_map, Function.comp_def, hρ.eq_iff]
  rw [Allocation.find?, Allocation.find?, hreg, hslot]
  cases a.reg? v with
  | some r => rfl
  | none => cases a.slot? v <;> rfl

end Alloc

/-! ## Machine code -/

namespace Program

variable {f : Reg → Reg} {ρ : Var → Var} {alike : Handle → Handle → Prop} {locate locate' : Locator}
  {resolve resolve' : Resolver}

theorem asSource_mapReg (t : Target) : (t.mapReg f).asSource = t.asSource.mapReg f := by
  rw [Target.mapReg, Target.asSource, Target.asSource]
  by_cases h : t.kind = 2
  · simp [h, Source.mapReg, Source.memory]
  · simp [h, Source.mapReg, Source.register]

@[simp] theorem kind_target_mapReg (f : Reg → Reg) (t : Target) : (t.mapReg f).kind = t.kind := by
  rw [Target.mapReg]
  split <;> rfl

@[simp] theorem kind_source_mapReg (f : Reg → Reg) (s : Source) : (s.mapReg f).kind = s.kind := by
  rw [Source.mapReg]
  split <;> rfl

@[simp] theorem slot_target_mapReg (f : Reg → Reg) (t : Target) : (t.mapReg f).slot = t.slot := by
  rw [Target.mapReg]
  split <;> rfl

@[simp] theorem slot_source_mapReg (f : Reg → Reg) (s : Source) : (s.mapReg f).slot = s.slot := by
  rw [Source.mapReg]
  split <;> rfl

/-- Replacing registers one to one keeps them apart. -/
theorem same_mapReg (hf : Function.Injective f) (t : Target) (s : Source) :
    (t.mapReg f).same (s.mapReg f) = t.same s := by
  simp only [Target.same, kind_target_mapReg, kind_source_mapReg, slot_target_mapReg,
    slot_source_mapReg]
  split
  · rename_i hkinds
    obtain ⟨ht, hs⟩ : t.kind = 1 ∧ s.kind = 2 := by simpa using hkinds
    have ht' : (t.mapReg f).reg = f t.reg := by simp [Target.mapReg, ht]
    have hs' : (s.mapReg f).reg = f s.reg := by simp [Source.mapReg, hs]
    rw [ht', hs', decide_eq_decide.mpr hf.eq_iff]
  · rfl

theorem targetOf_rename (hlocate : ∀ v, locate' (ρ v) = (locate v).map (Location.mapReg f)) {v : Var}
    {t : Target} (h : targetOf locate v = .ok t) : targetOf locate' (ρ v) = .ok (t.mapReg f) := by
  rw [targetOf] at h
  rw [targetOf, hlocate]
  cases hv : locate v with
  | none =>
    rw [hv] at h
    cases h
  | some l =>
    rw [hv] at h
    cases l with
    | register r =>
      cases h
      rfl
    | untagged r slot =>
      cases h
      rfl
    | spilled slot =>
      simp only at h
      simp only [Option.map_some, Location.mapReg]
      cases hn : slotNumber? slot with
      | none =>
        rw [hn] at h
        cases h
      | some n =>
        rw [hn] at h
        cases h
        rfl

/-- Alike literals are read as the same number. -/
def ReadAlike (resolve resolve' : Resolver) (alike : Handle → Handle → Prop) : Prop :=
  ∀ g h, alike g h →
    (Text.Decimal.read (resolve g)).toOption = (Text.Decimal.read (resolve' h)).toOption

theorem sourceOf_rename (hlocate : ∀ v, locate' (ρ v) = (locate v).map (Location.mapReg f))
    (halike : ReadAlike resolve resolve' alike) {v w : Operand} (hvw : Operand.Renamed ρ alike v w)
    {s : Source} (h : sourceOf locate resolve v = .ok s) :
    sourceOf locate' resolve' w = .ok (s.mapReg f) := by
  cases hvw with
  | var v =>
    rw [sourceOf] at h
    cases ht : targetOf locate v with
    | error e =>
      rw [ht] at h
      cases h
    | ok t =>
      rw [ht] at h
      cases h
      rw [sourceOf, targetOf_rename hlocate ht, ← asSource_mapReg]
      rfl
  | @literal g g' hgh =>
    have hread := halike g g' hgh
    rw [sourceOf] at h
    cases hg : Text.Decimal.read (resolve g) with
    | error e =>
      rw [hg] at h
      cases h
    | ok n =>
      rw [hg] at h hread
      cases h
      cases hg' : Text.Decimal.read (resolve' g') with
      | error e =>
        rw [hg'] at hread
        cases hread
      | ok n' =>
        rw [hg'] at hread
        cases hread
        rw [sourceOf, hg']
        rfl

theorem emitOne_rename (hf : Function.Injective f)
    (hlocate : ∀ v, locate' (ρ v) = (locate v).map (Location.mapReg f))
    (halike : ReadAlike resolve resolve' alike) {i j : Code.Instr}
    (hij : Code.Instr.Renamed ρ alike i j) {is : List Instr}
    (h : emitOne locate resolve i = .ok is) :
    emitOne locate' resolve' j = .ok (is.map (Instr.mapReg f)) := by
  obtain ⟨dst, hdst, h⟩ := exists_of_bind_eq_ok h
  obtain ⟨left, hleft, h⟩ := exists_of_bind_eq_ok h
  have hdst' := targetOf_rename hlocate hdst
  have hleft' := sourceOf_rename hlocate halike hij.left hleft
  have hright := hij.right
  rw [← hij.dst] at hdst'
  rw [emitOne, hdst', hleft']
  generalize i.right = x at h hright
  generalize j.right = y at hright
  cases hright with
  | none =>
    cases h
    rfl
  | @some x y hxy =>
    obtain ⟨op, hop, h⟩ := exists_of_bind_eq_ok h
    obtain ⟨right, hright, h⟩ := exists_of_bind_eq_ok h
    have hright' := sourceOf_rename hlocate halike hxy.2 hright
    cases h
    simp only [bind, Except.bind, hxy.1, hop, hright', same_mapReg hf, List.map_append]
    cases dst.same left <;> rfl

theorem mapM_emitOne_rename (hf : Function.Injective f)
    (hlocate : ∀ v, locate' (ρ v) = (locate v).map (Location.mapReg f))
    (halike : ReadAlike resolve resolve' alike) {code code' : List Code.Instr}
    (hcode : List.Forall₂ (Code.Instr.Renamed ρ alike) code code') {parts : List (List Instr)}
    (h : code.mapM (emitOne locate resolve) = .ok parts) :
    code'.mapM (emitOne locate' resolve') = .ok (parts.map (List.map (Instr.mapReg f))) := by
  induction hcode generalizing parts with
  | nil =>
    cases h
    rfl
  | cons hij _ ih =>
    rw [List.mapM_cons] at h
    obtain ⟨is, his, h⟩ := exists_of_bind_eq_ok h
    obtain ⟨rest, hrest, h⟩ := exists_of_bind_eq_ok h
    cases h
    rw [List.mapM_cons, emitOne_rename hf hlocate halike hij his, ih hrest]
    rfl

/-- Code that is renamed has the same machine code up to its registers. -/
theorem emit_rename (hf : Function.Injective f)
    (hlocate : ∀ v, locate' (ρ v) = (locate v).map (Location.mapReg f))
    (halike : ReadAlike resolve resolve' alike) {code code' : List Code.Instr}
    (hcode : List.Forall₂ (Code.Instr.Renamed ρ alike) code code') {p : Program}
    (h : emit locate resolve code = .ok p) : emit locate' resolve' code' = .ok (p.mapReg f) := by
  obtain ⟨parts, hparts, h⟩ := exists_of_bind_eq_ok h
  cases h
  rw [emit, mapM_emitOne_rename hf hlocate halike hcode hparts, mapReg, List.map_flatten]
  rfl

end Program

end StraightLine
