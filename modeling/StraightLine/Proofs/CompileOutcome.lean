import StraightLine.Proofs.CompileCorrect
import StraightLine.Proofs.OperandUses

/-! How a compilation ends. It fails in the first stage if the stream is not spelled by statements, and
in the last one if a literal that gets into the code is not a number; otherwise it succeeds. Nothing
else can fail: every operand has a place, slots have numbers that machine code can hold, and a register
is free whenever the scan takes one. -/

namespace StraightLine.Source

def Expr.numbers : Expr → List Handle
  | number h => [h]
  | name _ => []
  | binary _ _ left right => left.numbers ++ right.numbers

/-- The numbers in a statement, but for a number that is a statement by itself. -/
def Statement.literals : Statement → List Handle
  | scopeOpen _ | scopeEnd _ => []
  | assign _ _ value => value.numbers
  | bare e => if e.isLeaf then [] else e.numbers

def IsNumber (resolve : Resolver) (h : Handle) : Prop := ∃ n, Text.Decimal.read (resolve h) = .ok n

def LiteralsRead (resolve : Resolver) (p : List Statement) : Prop :=
  ∀ c ∈ p, ∀ h ∈ c.literals, IsNumber resolve h

end StraightLine.Source

namespace StraightLine.Code

open StraightLine.Source

/-! ## The literals of lowered code -/

def Operand.literal? : Operand → Option Handle
  | literal h => some h
  | var _ | untagged .. => none

def Instr.literals (i : Instr) : List Handle :=
  i.left.literal?.toList ++ (i.right.bind fun r => r.2.literal?).toList

/-- The literals in an expression's code, and the one that is its value. -/
def Lowered.literals (l : Lowered) : List Handle :=
  l.instrs.flatMap Instr.literals ++ l.operand.literal?.toList

theorem Lowered.literals_into (l : Lowered) (dst : Var) :
    (l.into dst).flatMap Instr.literals = l.literals := by
  cases l with
  | leaf v => simp [into, body, last, literals, instrs, operand, Instr.literals]
  | code is i =>
    simp [into, body, last, literals, instrs, operand, Operand.literal?, Instr.literals]

section

variable (key : Handle → String)

theorem mem_literals_lowerTree (e : Expr) (s : Session) (h : Handle) :
    h ∈ (lowerTree key e s).1.literals ↔ h ∈ e.numbers := by
  induction e generalizing s with
  | number g => rfl
  | name g => rfl
  | binary op mark left right ihl ihr =>
    have hlit : (lowerTree key (.binary op mark left right) s).1.operand.literal?.toList = [] := rfl
    rw [Expr.numbers, List.mem_append, ← ihl s, ← ihr (lowerTree key left s).2, Lowered.literals,
      instrs_binary, hlit]
    simp only [Lowered.literals, List.flatMap_append, List.flatMap_singleton, Instr.literals,
      Option.bind_some, List.append_nil, List.mem_append]
    tauto

theorem mem_literals_lowerStatement (c : Statement) (s : Session) (h : Handle) :
    h ∈ (lowerStatement key c s).1.flatMap Instr.literals ↔ h ∈ c.literals := by
  cases c with
  | scopeOpen mark => rfl
  | scopeEnd mark => rfl
  | assign mark target value =>
    simp only [lowerStatement, Lowered.literals_into]
    exact mem_literals_lowerTree key value s h
  | bare e =>
    cases e with
    | number g => rfl
    | name g => rfl
    | binary op mark left right =>
      have hmem := mem_literals_lowerTree key (.binary op mark left right) s h
      rw [Lowered.literals, List.mem_append] at hmem
      simpa [Statement.literals, Expr.isLeaf, lowerStatement, lowerTree, Lowered.operand,
        Operand.literal?] using hmem

/-- The literals of a program's code are the numbers of its statements. -/
theorem mem_literals_lowerStatements (p : List Statement) (s : Session) (h : Handle) :
    (∃ i ∈ (lowerStatements key p s).1, h ∈ i.literals) ↔ ∃ c ∈ p, h ∈ c.literals := by
  rw [← List.mem_flatMap, ← List.mem_flatMap]
  induction p generalizing s with
  | nil => rfl
  | cons c p ih =>
    simp only [lowerStatements, List.flatMap_append, List.flatMap_cons, List.mem_append,
      mem_literals_lowerStatement, ih]

end

end StraightLine.Code

namespace StraightLine.Program

open StraightLine.Source
open StraightLine.Code (Operand Operator Var)

/-! ## Emission and allocation -/

section

variable {locate : Locator} (resolve : Resolver)

def IsLiteralFault (resolve : Resolver) (h : Handle) (f : EmitFault) : Prop :=
  ∃ cause, Text.Decimal.read (resolve h) = .error cause ∧ f = .badLiteral h (resolve h) cause

/-- An operand that some texts make readable has a source, or it is a literal that is not a number.
-/
theorem sourceOf_outcome {texts : Resolver} {o : Operand} (ho : o.Readable texts)
    (hv : ∀ v, o = .var v → ∃ c, LivesIn locate v c) :
    (o.Readable resolve ∧ ∃ src, sourceOf locate resolve o = .ok src) ∨
    ∃ h f, o.literal? = some h ∧ IsLiteralFault resolve h f ∧
      sourceOf locate resolve o = .error f := by
  cases o with
  | untagged v h => exact ho.elim
  | var v =>
    obtain ⟨c, hc⟩ := hv v rfl
    exact .inl ⟨trivial, _, (Supplies.var hc).sourceOf⟩
  | literal h =>
    cases hr : Text.Decimal.read (resolve h) with
    | ok n => exact .inl ⟨⟨n, hr⟩, _, (Supplies.literal hr).sourceOf⟩
    | error cause =>
      exact .inr ⟨h, _, rfl, ⟨cause, hr, rfl⟩, by simp only [sourceOf, hr]⟩

/-- An instruction has code, or one of its literals is not a number. -/
theorem emitOne_outcome {texts : Resolver} {i : Code.Instr} (hi : i.Readable texts)
    (hv : ∀ v ∈ i.vars, ∃ c, LivesIn locate v c) :
    (i.Readable resolve ∧ ∃ mc, emitOne locate resolve i = .ok mc) ∨
    ∃ h f, h ∈ i.literals ∧ IsLiteralFault resolve h f ∧ emitOne locate resolve i = .error f := by
  obtain ⟨d, hd⟩ := hv i.dst (by simp [Code.Instr.vars_eq])
  have hreads : ∀ v ∈ i.reads, ∃ c, LivesIn locate v c := fun v hm =>
    hv v (by simp [Code.Instr.vars_eq, hm])
  have hleft := sourceOf_outcome resolve hi.1 fun v hl =>
    hreads v (Code.Instr.mem_reads.mpr (.inl hl))
  rcases hleft with ⟨hl, left, hsrc⟩ | ⟨h, f, hlit, hf, hsrc⟩
  · cases hr : i.right with
    | none =>
      refine .inl ⟨⟨hl, fun op o h => ?_⟩, ?_⟩
      · rw [hr] at h
        cases h
      · exact ⟨_, by simp only [emitOne, hd.targetOf, hsrc, hr]; rfl⟩
    | some r =>
      obtain ⟨op, o⟩ := r
      obtain ⟨hop, ho⟩ := hi.2 op o hr
      obtain ⟨k, hk⟩ := Lockstep.exists_opcode hop
      have hright := sourceOf_outcome resolve ho fun v hov =>
        hreads v (Code.Instr.mem_reads.mpr (.inr ⟨op, hov ▸ hr⟩))
      rcases hright with ⟨hro, right, hrsrc⟩ | ⟨h, f, hlit, hf, hrsrc⟩
      · refine .inl ⟨⟨hl, fun op' o' h => ?_⟩, ?_⟩
        · rw [hr] at h
          cases h
          exact ⟨hop, hro⟩
        · exact ⟨_, by simp only [emitOne, hd.targetOf, hsrc, hr, hk, hrsrc]; rfl⟩
      · refine .inr ⟨h, f, ?_, hf, by simp only [emitOne, hd.targetOf, hsrc, hr, hk, hrsrc]; rfl⟩
        simp [Code.Instr.literals, hr, hlit]
  · refine .inr ⟨h, f, ?_, hf, by simp only [emitOne, hd.targetOf, hsrc]; rfl⟩
    simp [Code.Instr.literals, hlit]

/-- Code is emitted, or one of its literals is not a number. -/
theorem emit_outcome {texts : Resolver} {code : List Code.Instr}
    (hi : ∀ i ∈ code, i.Readable texts)
    (hv : ∀ i ∈ code, ∀ v ∈ i.vars, ∃ c, LivesIn locate v c) :
    ((∀ i ∈ code, i.Readable resolve) ∧ ∃ program, emit locate resolve code = .ok program) ∨
    ∃ i ∈ code, ∃ h f, h ∈ i.literals ∧ IsLiteralFault resolve h f ∧
      emit locate resolve code = .error f := by
  suffices hs : ((∀ i ∈ code, i.Readable resolve) ∧
        ∃ parts, code.mapM (emitOne locate resolve) = .ok parts) ∨
      ∃ i ∈ code, ∃ h f, h ∈ i.literals ∧ IsLiteralFault resolve h f ∧
        code.mapM (emitOne locate resolve) = .error f by
    rcases hs with ⟨hread, parts, hparts⟩ | ⟨i, hi, h, f, hh, hf, hparts⟩
    · exact .inl ⟨hread, _, by rw [emit, hparts]; rfl⟩
    · exact .inr ⟨i, hi, h, f, hh, hf, by rw [emit, hparts]; rfl⟩
  induction code with
  | nil => exact .inl ⟨by simp, [], rfl⟩
  | cons i is ih =>
    have hone := emitOne_outcome resolve (hi i List.mem_cons_self)
      (hv i List.mem_cons_self)
    rcases hone with ⟨hri, mc, hmc⟩ | ⟨h, f, hh, hf, hmc⟩
    · have hrest := ih (fun j hj => hi j (List.mem_cons_of_mem _ hj))
        (fun j hj => hv j (List.mem_cons_of_mem _ hj))
      rcases hrest with ⟨hread, parts, hparts⟩ | ⟨j, hj, h, f, hh, hf, hparts⟩
      · refine .inl ⟨fun j hj => ?_, _, by rw [List.mapM_cons, hmc, hparts]; rfl⟩
        rcases List.mem_cons.mp hj with rfl | hj
        · exact hri
        · exact hread j hj
      · exact .inr ⟨j, List.mem_cons_of_mem _ hj, h, f, hh, hf, by
          rw [List.mapM_cons, hmc, hparts]; rfl⟩
    · exact .inr ⟨i, List.mem_cons_self, h, f, hh, hf, by rw [List.mapM_cons, hmc]; rfl⟩

end

end StraightLine.Program

namespace StraightLine.Alloc

open StraightLine.Range

/-- Whenever the scan comes to a range, a register is free if and only if fewer variables are active
than there are registers. -/
def Scan.Supplied (registers : List Reg) (r : Ranges) : Prop :=
  ∀ before e after, r.intervals = before ++ e :: after →
    let s := ((start registers).run before).expire e.range.start
    s.free ≠ [] ↔ s.active.length < registers.length

theorem Scan.supplied {r : Ranges} (hd : r.Distinct) (registers : List Reg) :
    Supplied registers r := by
  intro before e after hr s
  have hnodup := nodup_intervals hd
  rw [hr, List.map_append, List.nodup_append] at hnodup
  have hinv : Inv registers before ((start registers).run before) := (inv_start registers).run hnodup.1
  have hpool : s.free.length + s.active.length = registers.length :=
    (hinv.expire e.range.start).length_pool
  rw [← List.length_pos_iff]
  omega

end StraightLine.Alloc

namespace StraightLine.Code

open StraightLine.Source StraightLine.Range StraightLine.Alloc StraightLine.Program

section

variable (key : Handle → String) (p : List Statement)

/-- Every variable of a program's code is a destination, or a name that is read. -/
theorem vars_lowerStatements_subset (s : Session) :
    let code := (lowerStatements key p s).1
    ∀ i ∈ code, i.vars ⊆ code.map (·.dst) ++ (code.flatMap Instr.reads).filter fun v => !v.isTemp := by
  intro code i hi v hv
  rcases List.mem_cons.mp (Instr.vars_eq i ▸ hv) with rfl | hv
  · exact List.mem_append_left _ (List.mem_map.mpr ⟨i, hi, rfl⟩)
  · have hread : v ∈ code.flatMap Instr.reads := List.mem_flatMap.mpr ⟨i, hi, hv⟩
    cases ht : v.isTemp with
    | false => exact List.mem_append_right _ (List.mem_filter.mpr ⟨hread, by simp [ht]⟩)
    | true =>
      have hdst := (temp_reads_lowerStatements key p s).subset (List.mem_filter.mpr ⟨hread, ht⟩)
      exact List.mem_append_left _ (List.mem_of_mem_filter hdst)

/-- There are not more variables than nodes. -/
theorem size_analyze_lowerStatements (hn : (spell p).length < positions) (s : Session) :
    (Ranges.analyze (lowerStatements key p s).1).size ≤ (spell p).length := by
  have htouches := length_touches_lowerStatements key p s
  have hsize := Ranges.size_analyze_le (by omega) (vars_lowerStatements_subset key p s)
  rw [List.length_append, List.length_map] at hsize
  omega

/-- Every variable of a program's code has a place. -/
theorem exists_livesIn_lowerStatements (hn : (spell p).length < UInt32.size) (s : Session)
    (registers : List Reg) :
    let code := (lowerStatements key p s).1
    ∀ i ∈ code, ∀ v ∈ i.vars, ∃ c, LivesIn (allocate (.analyze code) registers).find? v c := by
  intro code i hi v hv
  have hpos : UInt32.size < positions := by decide
  have hlen : code.length ≤ (spell p).length := length_lowerStatements key p s
  have hsize : (Ranges.analyze code).size ≤ (spell p).length :=
    size_analyze_lowerStatements key p (by omega) s
  obtain ⟨n, hn⟩ := List.mem_iff_getElem?.mp hi
  obtain ⟨x, hx, -, -⟩ := Lockstep.range_of_mem_vars (by omega) hn hv
  exact Lockstep.exists_livesIn (Ranges.distinct_analyze code) (by omega) hx

end

theorem Instr.Readable.isNumber {resolve : Resolver} {i : Instr} (hi : i.Readable resolve)
    {h : Handle} (hh : h ∈ i.literals) : IsNumber resolve h := by
  have hlit : ∀ o : Operand, o.literal? = some h → o.Readable resolve → IsNumber resolve h := by
    intro o ho hr
    cases o with
    | literal g =>
      cases ho
      exact hr
    | var v => cases ho
    | untagged v g => cases ho
  rw [literals, List.mem_append, Option.mem_toList, Option.mem_toList, Option.bind_eq_some_iff] at hh
  rcases hh with hh | ⟨⟨op, o⟩, hr, hh⟩
  · exact hlit _ hh hi.1
  · exact hlit _ hh (hi.2 op o hr).2

/-- The last stage gives machine code if all literals can be read, and fails with a literal if one of
them cannot. -/
theorem emit_lowerStatements {key : Handle → String} {p : List Statement}
    (hn : (spell p).length < UInt32.size) (registers : List Reg) (resolve : Resolver) :
    let code := (lowerStatements key p (.start [])).1
    let result := emit (allocate (.analyze code) registers).find? resolve code
    (LiteralsRead resolve p ∧ ∃ program, result = .ok program) ∨
      (¬ LiteralsRead resolve p ∧ ∃ h text cause, result = .error (.badLiteral h text cause)) := by
  intro code result
  have hpos : UInt32.size < positions := by decide
  have houtcome := emit_outcome resolve
    (fun i hi => (proper_start key (by omega) i hi).readable)
    (exists_livesIn_lowerStatements key p hn (.start []) registers)
  rcases houtcome with ⟨hread, hok⟩ | ⟨i, hi, h, f, hh, ⟨cause, hbad, rfl⟩, herr⟩
  · refine .inl ⟨fun c hc h hh => ?_, hok⟩
    obtain ⟨i, hi, hm⟩ := (mem_literals_lowerStatements key p (.start []) h).mpr ⟨c, hc, hh⟩
    exact (hread i hi).isNumber hm
  · refine .inr ⟨fun hread => ?_, h, _, cause, herr⟩
    obtain ⟨c, hc, hm⟩ := (mem_literals_lowerStatements key p (.start []) h).mp ⟨i, hi, hh⟩
    obtain ⟨n, hn⟩ := hread c hc h hm
    rw [hbad] at hn
    cases hn

end StraightLine.Code

namespace StraightLine.Compile

open StraightLine.Source StraightLine.Code StraightLine.Range StraightLine.Alloc StraightLine.Program

/-! ## How a compilation ends -/

section

variable {norm : String → String} {registers : List Reg} {resolve : Resolver} {nodes : List Node}

/-- A compilation of a stream of statements succeeds if all literals can be read, and fails with a
literal otherwise. -/
theorem compile_spell {p : List Statement} (hn : nodes.length < UInt32.size)
    (hp : strip nodes = spell p) :
    (LiteralsRead resolve p ∧ ∃ c, compile norm registers resolve nodes = .ok c) ∨
    (¬ LiteralsRead resolve p ∧ ∃ h text cause,
      compile norm registers resolve nodes = .error (.emitting (.badLiteral h text cause))) := by
  have hlen : (spell p).length < UInt32.size := by
    rw [← hp]
    exact Nat.lt_of_le_of_lt (length_stripFrom_le 0 nodes) hn
  have hlower := lowerAll_spell (keyBy norm resolve) p
  rw [← hp] at hlower
  rcases emit_lowerStatements hlen registers resolve with
    ⟨hread, program, hemit⟩ | ⟨hread, h, text, cause, hemit⟩
  · exact .inl ⟨hread, _, compile_eq hlower hemit⟩
  · refine .inr ⟨hread, h, text, cause, ?_⟩
    rw [compile_eq_stages, stages, hlower]
    simp only [lowered, hemit]

theorem exists_compile {p : List Statement} (hn : nodes.length < UInt32.size)
    (hp : strip nodes = spell p) (hread : LiteralsRead resolve p) :
    ∃ c, compile norm registers resolve nodes = .ok c :=
  ((compile_spell hn hp).resolve_right fun h => h.1 hread).2

/-- A stream that statements do not spell is refused by the first stage. -/
theorem compile_not_spell (hp : ¬ ∃ p, strip nodes = spell p) (registers : List Reg) :
    ∃ f, compile norm registers resolve nodes = .error (.lowering f) := by
  rw [← lowerAll_ok_iff (keyBy norm resolve)] at hp
  cases hlower : lowerAll (keyBy norm resolve) (.start (strip nodes)) with
  | ok code session => exact absurd ⟨code, session, hlower⟩ hp
  | error f session => exact ⟨f, by rw [compile_eq_stages, stages, hlower]; rfl⟩

theorem exists_spell_of_compile {c : Compilation} (h : compile norm registers resolve nodes = .ok c) :
    ∃ p, strip nodes = spell p := by
  by_contra hp
  obtain ⟨f, hf⟩ := compile_not_spell hp registers
  cases h.symm.trans hf

/-- What a compilation that succeeds has found. -/
theorem of_compile_eq_ok {c : Compilation} {p : List Statement} (hp : strip nodes = spell p)
    (h : compile norm registers resolve nodes = .ok c) :
    c.code = (lowerStatements (keyBy norm resolve) p (.start [])).1 ∧ c.ranges = .analyze c.code ∧
      c.allocation = allocate (.analyze c.code) registers ∧
      emit c.allocation.find? resolve c.code = .ok c.program := by
  rw [compile_eq_stages, stages, hp, lowerAll_spell] at h
  simp only [lowered] at h
  split at h
  · cases h
  · rename_i program hemit
    cases h
    exact ⟨rfl, rfl, rfl, hemit⟩

/-- Code and slots of a compilation are few enough to be counted by positions and words. -/
theorem bounds_of_compile {c : Compilation} (hn : nodes.length < positions)
    (hc : compile norm registers resolve nodes = .ok c) :
    c.code.length < positions ∧ c.allocation.slots.length ≤ UInt64.size := by
  obtain ⟨p, hp⟩ := exists_spell_of_compile hc
  obtain ⟨hcode, -, halloc, -⟩ := of_compile_eq_ok hp hc
  have hspell : (spell p).length < positions := by
    rw [← hp]
    exact Nat.lt_of_le_of_lt (length_stripFrom_le 0 nodes) hn
  have hsize : (Ranges.analyze c.code).size ≤ (spell p).length :=
    hcode ▸ size_analyze_lowerStatements (keyBy norm resolve) p hspell (.start [])
  have hle := slots_allocate_le (Ranges.distinct_analyze c.code) registers
  have hpos : positions ≤ UInt64.size := by decide
  refine ⟨?_, by rw [halloc]; omega⟩
  rw [hcode]
  exact Nat.lt_of_le_of_lt (length_lowerStatements _ p _) hspell

/-- Instructions of a compilation are readable but for their literals, and none reads its destination.
-/
theorem proper_of_compile {c : Compilation} (hn : nodes.length < positions)
    (hc : compile norm registers resolve nodes = .ok c) : ∀ i ∈ c.code, i.Proper fun _ => "0" := by
  obtain ⟨p, hp⟩ := exists_spell_of_compile hc
  rw [(of_compile_eq_ok hp hc).1]
  refine proper_start (keyBy norm resolve) ?_
  rw [← hp]
  exact Nat.lt_of_le_of_lt (length_stripFrom_le 0 nodes) hn

end

/-- A compilation ends with an internal error of this kind in this stage. -/
def EndsWith (norm : String → String) (registers : List Reg) (resolve : Resolver) (nodes : List Node)
    (kind : InternalKind) (stage : String) : Prop :=
  ∃ f detail, compile norm registers resolve nodes = .error f ∧
    f.internal? resolve = some ⟨kind, stage, detail⟩

/-- How a compilation ends, for any registers and any texts. It succeeds if and only if the stream
without its declarations is spelled by statements whose literals can be read; a number that is a
statement by itself may be anything. A stream that is not spelled by statements is a structural
mismatch in the first stage, and a literal that cannot be read is malformed in the last one. There is
no other fault, and the scan never looks for a free register in vain. -/
theorem compile_outcome (norm : String → String) (registers : List Reg) (resolve : Resolver)
    {nodes : List Node} (hn : nodes.length < UInt32.size) :
    ((∃ c, compile norm registers resolve nodes = .ok c) ↔
      ∃ p, strip nodes = spell p ∧ LiteralsRead resolve p) ∧
    ((¬ ∃ p, strip nodes = spell p) →
      EndsWith norm registers resolve nodes .structuralMismatch "ssa") ∧
    (∀ p, strip nodes = spell p → ¬ LiteralsRead resolve p →
      EndsWith norm registers resolve nodes .malformedLiteral "emit") ∧
    (∀ f, compile norm registers resolve nodes = .error f → (∃ g, f = .lowering g) ∨
      ∃ h text cause, f = .emitting (.badLiteral h text cause)) ∧
    ∀ code s, lowerAll (keyBy norm resolve) (.start (strip nodes)) = .ok code s →
      Scan.Supplied registers (.analyze code) := by
  refine ⟨⟨?_, ?_⟩, ?_, ?_, ?_, fun code _ _ => Scan.supplied (Ranges.distinct_analyze code) _⟩
  · rintro ⟨c, hc⟩
    by_cases hp : ∃ p, strip nodes = spell p
    · obtain ⟨p, hp⟩ := hp
      rcases compile_spell hn hp with ⟨hread, -⟩ | ⟨-, h, text, cause, herr⟩
      · exact ⟨p, hp, hread⟩
      · cases hc.symm.trans herr
    · obtain ⟨f, herr⟩ := compile_not_spell hp registers
      cases hc.symm.trans herr
  · rintro ⟨p, hp, hread⟩
    exact exists_compile hn hp hread
  · intro hp
    obtain ⟨f, herr⟩ := compile_not_spell hp registers
    exact ⟨_, _, herr, rfl⟩
  · intro p hp hnot
    rcases compile_spell hn hp with ⟨hread, -⟩ | ⟨-, h, text, cause, herr⟩
    · exact absurd hread hnot
    · exact ⟨_, _, herr, rfl⟩
  · intro f hf
    by_cases hp : ∃ p, strip nodes = spell p
    · obtain ⟨p, hp⟩ := hp
      rcases compile_spell hn hp with ⟨-, c, hc⟩ | ⟨-, h, text, cause, herr⟩
      · cases hc.symm.trans hf
      · cases herr.symm.trans hf
        exact .inr ⟨h, text, cause, rfl⟩
    · obtain ⟨g, herr⟩ := compile_not_spell hp registers
      cases herr.symm.trans hf
      exact .inl ⟨g, rfl⟩

/-- A bare number that is no number is let through, the same text in an assignment is not, and an
operator without operands is no statement. -/
theorem compile_outcome_word :
    let resolve : Resolver := fun h => if h = 0 then "x" else "seven"
    (∃ c, compile Text.normalize [3, 3] resolve [.number 1] = .ok c) ∧
    EndsWith Text.normalize [] resolve
      [{ kind := .varDecl }, .identifier 0, .assignment, .identifier 0, .number 1]
      .malformedLiteral "emit" ∧
    EndsWith Text.normalize [1] resolve [{ kind := .add }, .number 1] .structuralMismatch "ssa" := by
  intro resolve
  refine ⟨?_, ?_, ?_⟩
  · have hp : strip [.number 1] = spell [.bare (.number 1)] := by decide
    have hread : LiteralsRead resolve [.bare (.number 1)] := by
      intro c hc h hh
      cases List.mem_singleton.mp hc
      cases hh
    exact (compile_outcome Text.normalize [3, 3] resolve (by decide)).1.mpr ⟨_, hp, hread⟩
  · refine (compile_outcome Text.normalize [] resolve (by decide)).2.2.1 [.assign 0 0 (.number 1)]
      (by decide) ?_
    intro hread
    obtain ⟨n, hn⟩ := hread _ List.mem_cons_self 1 List.mem_cons_self
    have hbad : Text.Decimal.read (resolve 1) = .error .malformed := by cbv
    rw [hbad] at hn
    cases hn
  · refine (compile_outcome Text.normalize [1] resolve (by decide)).2.1 ?_
    rw [← lowerAll_ok_iff (nameKey resolve)]
    rintro ⟨code, s, h⟩
    cases h

end StraightLine.Compile
