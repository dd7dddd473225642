import StraightLine.Proofs.CompileOutcome

/-! Variables that one instruction touches have different locations: their ranges share the position of
the instruction. A destination is never one of its own operands, so the move into it is never left out
and never overwrites the right operand, and the length of a program can be read off the code. -/

namespace StraightLine.Lockstep

open StraightLine.Source StraightLine.Code StraightLine.Program StraightLine.Alloc
open StraightLine.Range

/-- The machine code of an instruction whose operands are not at its destination. The left operand is
moved to the destination, and the right one, which the move leaves alone, is combined with it there. -/
inductive Moved (locate : Locator) (resolve : Resolver) (i : Code.Instr) : List Program.Instr → Prop
  | alone {dst : Target} {left : Program.Source} (hd : targetOf locate i.dst = .ok dst)
      (hl : sourceOf locate resolve i.left = .ok left) (hr : i.right = none) :
    Moved locate resolve i [{ op := 1, dst := dst, src := left }]
  | combined {dst : Target} {left right : Program.Source} {operator : Operator} {operand : Operand}
      {op : UInt8} (hd : targetOf locate i.dst = .ok dst)
      (hl : sourceOf locate resolve i.left = .ok left) (hr : i.right = some (operator, operand))
      (ho : opcodeOf operator = .ok op) (hs : sourceOf locate resolve operand = .ok right)
      (hmove : dst.same left = false) (hclear : dst.same right = false) :
    Moved locate resolve i
      [{ op := 1, dst := dst, src := left }, { op := op, dst := dst, src := right }]

section

variable {resolve texts : Resolver} {a : Allocation}

/-- An operand that is not at the location of a variable is not read from the variable's target. -/
theorem same_eq_false {u : Var} {o : Operand} {t : Target} {src : Program.Source}
    (ht : targetOf a.find? u = .ok t) (hs : sourceOf a.find? resolve o = .ok src)
    (ho : o.Readable texts) (hne : ∀ v, o = .var v → a.find? u ≠ a.find? v) : t.same src = false := by
  obtain ⟨c, hc⟩ := livesIn_of_targetOf ht
  cases ht.symm.trans hc.targetOf
  cases o with
  | untagged v h => exact ho.elim
  | literal h =>
    rw [sourceOf] at hs
    split at hs
    · cases hs
      exact Target.same_immediate c _
    · cases hs
  | var v =>
    have hplaced : ∃ d, LivesIn a.find? v d := by
      cases hv : targetOf a.find? v with
      | ok t => exact livesIn_of_targetOf hv
      | error f =>
        rw [sourceOf, hv] at hs
        cases hs
    obtain ⟨d, hd⟩ := hplaced
    cases hs.symm.trans (Supplies.var hd).sourceOf
    rw [Bool.eq_false_iff, Ne, Target.same_ofCell]
    rintro rfl
    exact hne v rfl (hc.find?_eq hd)

theorem moved_of_emitOne {i : Code.Instr} {mc : List Program.Instr}
    (h : emitOne a.find? resolve i = .ok mc) (hread : i.Readable texts)
    (hne : ∀ v ∈ i.reads, a.find? i.dst ≠ a.find? v) : Moved a.find? resolve i mc := by
  obtain ⟨t, ht, h⟩ := exists_of_bind_eq_ok h
  obtain ⟨left, hleft, h⟩ := exists_of_bind_eq_ok h
  cases hr : i.right with
  | none =>
    simp only [hr] at h
    cases h
    exact .alone ht hleft hr
  | some r =>
    obtain ⟨operator, operand⟩ := r
    simp only [hr] at h
    obtain ⟨op, hop, h⟩ := exists_of_bind_eq_ok h
    obtain ⟨right, hright, h⟩ := exists_of_bind_eq_ok h
    have hmove : t.same left = false := same_eq_false ht hleft hread.1 fun v hv =>
      hne v (Instr.mem_reads.mpr (.inl hv))
    have hclear : t.same right = false := same_eq_false ht hright (hread.2 _ _ hr).2 fun v hv =>
      hne v (Instr.mem_reads.mpr (.inr ⟨operator, hv ▸ hr⟩))
    rw [hmove, if_neg Bool.false_ne_true] at h
    cases h
    exact .combined ht hleft hr hop hright hmove hclear

theorem Moved.length_eq {locate : Locator} {i : Code.Instr} {mc : List Program.Instr}
    (h : Moved locate resolve i mc) : mc.length = if i.right.isSome then 2 else 1 := by
  cases h with
  | alone hd hl hr => rw [hr]; rfl
  | combined hd hl hr ho hs hmove hclear => rw [hr]; rfl

/-- One instruction for each move and one for each operation. -/
theorem length_flatMap_codeOf {locate : Locator} {code : List Code.Instr}
    (h : ∀ i ∈ code, Moved locate resolve i (codeOf locate resolve i)) :
    (code.flatMap (codeOf locate resolve)).length =
      code.length + code.countP fun i => i.right.isSome := by
  induction code with
  | nil => rfl
  | cons i is ih =>
    have ih := ih fun j hj => h j (List.mem_cons_of_mem _ hj)
    rw [List.flatMap_cons, List.length_append, (h i List.mem_cons_self).length_eq, ih,
      List.length_cons, List.countP_cons]
    cases i.right.isSome <;> simp <;> omega

end

end StraightLine.Lockstep

namespace StraightLine.Compile

open StraightLine.Source StraightLine.Code StraightLine.Range StraightLine.Alloc StraightLine.Program
open StraightLine.Lockstep

theorem moved_of_compile {norm : String → String} {registers : List Reg} (hr : registers.Nodup)
    {resolve : Resolver} {nodes : List Node} {c : Compilation} (hn : nodes.length < positions)
    (hc : compile norm registers resolve nodes = .ok c) :
    c.program.instrs = c.code.flatMap (codeOf c.allocation.find? resolve) ∧
      ∀ i ∈ c.code, Moved c.allocation.find? resolve i (codeOf c.allocation.find? resolve i) := by
  obtain ⟨p, hp⟩ := exists_spell_of_compile hc
  obtain ⟨-, -, halloc, hemit⟩ := of_compile_eq_ok hp hc
  obtain ⟨hshort, hslots⟩ := bounds_of_compile hn hc
  have hall := emitOne_of_emit hemit
  have hprogram := Except.ok.inj (hemit.symm.trans (emit_eq hall))
  refine ⟨by rw [hprogram], fun i hi => ?_⟩
  obtain ⟨mc, hmc⟩ := hall i hi
  have hproper := proper_of_compile hn hc i hi
  rw [codeOf_eq hmc]
  refine moved_of_emitOne hmc hproper.readable fun v hv heq => ?_
  -- the destination is not among the operands, so its location is not that of an operand
  have hne : i.dst ≠ v := fun h => hproper.apart (h ▸ hv)
  obtain ⟨n, hn⟩ := List.mem_iff_getElem?.mp hi
  obtain ⟨l, k, hl, hk, hlk⟩ := find?_ne_of_mem_vars hshort hr (halloc ▸ hslots) hn
    (List.mem_cons_self : i.dst ∈ i.vars) (List.mem_cons_of_mem _ hv) hne
  rw [← halloc] at hl hk
  rw [hl, hk] at heq
  exact hlk (Option.some.inj heq)

/-- Different variables that one instruction touches have different locations, for any code and
registers that are given once. So a compiled program moves the left operand of every instruction to
the destination, where it never is already, and never overwrites the right one: it has an instruction
for each instruction of the code, and one more for each with a right operand. Positions are 64-bit
signed numbers and slots are numbered by words, so there must not be more instructions, nodes and
slots than these count. -/
theorem operands_are_apart {registers : List Reg} (hr : registers.Nodup) :
    (∀ code : List Code.Instr, code.length < positions →
      (allocate (.analyze code) registers).spillSlots ≤ UInt64.size →
      ∀ i ∈ code, ∀ u ∈ i.vars, ∀ v ∈ i.vars, u ≠ v →
        ∃ l k, (allocate (.analyze code) registers).find? u = some l ∧
          (allocate (.analyze code) registers).find? v = some k ∧ l ≠ k) ∧
    ∀ (norm : String → String) (resolve : Resolver) (nodes : List Node) (c : Compilation),
      nodes.length < positions → compile norm registers resolve nodes = .ok c →
        (∀ i ∈ c.code, Moved c.allocation.find? resolve i (codeOf c.allocation.find? resolve i)) ∧
        c.program.instrs = c.code.flatMap (codeOf c.allocation.find? resolve) ∧
        c.program.instrs.length = c.code.length + c.code.countP fun i => i.right.isSome := by
  refine ⟨fun code hs hslots i hi u hu v hv hne => ?_, fun norm resolve nodes c hn hc => ?_⟩
  · obtain ⟨n, hn⟩ := List.mem_iff_getElem?.mp hi
    exact find?_ne_of_mem_vars hs hr hslots hn hu hv hne
  · obtain ⟨hprogram, hmoved⟩ := moved_of_compile hr hn hc
    exact ⟨hmoved, hprogram, hprogram ▸ length_flatMap_codeOf hmoved⟩

/-- The range of one variable ends where that of the next starts, and there is one register. -/
theorem operands_are_apart_handover :
    let code : List Code.Instr :=
      [⟨.named 0 1, .literal 1, none⟩, ⟨.named 2 1, .var (.named 0 1), none⟩,
        ⟨.named 3 1, .var (.named 2 1), some (.mul, .var (.named 2 1))⟩]
    let resolve : Resolver := fun h => if h = 1 then "12" else if h = 0 then "a" else "b"
    let nodes : List Node := [.assignment, .identifier 0, .number 1, .assignment, .identifier 2,
      { kind := .add }, .identifier 0, .number 1]
    (∃ l k, (allocate (.analyze code) [7]).find? (.named 2 1) = some l ∧
      (allocate (.analyze code) [7]).find? (.named 0 1) = some k ∧ l ≠ k) ∧
    ∃ c, compile Text.normalize [7] resolve nodes = .ok c ∧ c.code.length = 2 ∧
      c.program.instrs.length = 3 := by
  intro code resolve nodes
  have hapart := operands_are_apart (List.nodup_singleton (7 : Reg))
  refine ⟨hapart.1 code (by decide) (by decide +kernel) ⟨.named 2 1, .var (.named 0 1), none⟩
    (by simp [code]) _ (by decide) _ (by decide) (by decide), ?_⟩
  let p : List Statement :=
    [.assign 0 0 (.number 1), .assign 0 2 (.binary .add 0 (.name 0) (.number 1))]
  have hp : strip nodes = spell p := by decide
  have hread : LiteralsRead resolve p := by
    have h12 : Text.Decimal.read "12" = .ok 12 := by cbv
    simp [p, LiteralsRead, Statement.literals, Expr.numbers, IsNumber, resolve, h12]
  have hcode : (lowerStatements (nameKey resolve) p (.start [])).1 =
      [⟨.named 0 1, .literal 1, none⟩, ⟨.named 2 1, .var (.named 0 1), some (.add, .literal 1)⟩] := by
    decide +kernel
  obtain ⟨c, hc⟩ := exists_compile (by decide) hp hread
  have hlowered := (of_compile_eq_ok hp hc).1.trans hcode
  obtain ⟨-, -, hlength⟩ := hapart.2 Text.normalize resolve nodes c (by decide) hc
  rw [hlowered] at hlength
  exact ⟨c, hc, by rw [hlowered]; rfl, hlength⟩

end StraightLine.Compile
