import StraightLine.Proofs.DefinedBeforeUse

/-! What the check of an allocation is worth. It looks at half-open ranges, so two variables may share
a register when one is last read by the instruction that defines the other. Nothing that is still held
is overwritten behind such an instruction, but within it: the move of the left operand comes before the
operation, and a right operand in the destination's register is gone by then. So accepted locations are
as good as those of the scan up to the first instruction of this kind. -/

namespace StraightLine.Alloc

open StraightLine.Code StraightLine.Range

/-- What the check accepts: all variables have locations, there are no more slots than variables, and
of two ranges in one register one ends where the other starts or before. -/
structure Accepted (r : Ranges) (a : Allocation) : Prop where
  few : a.slots.length ≤ r.size
  placed : ∀ v x, r.find? v = some x → ∃ l, a.find? v = some l
  spaced : Lockstep.Spaced 0 r a

theorem accepted_of_check {r : Ranges} (hd : r.Distinct) {a : Allocation} (h : check r a = none) :
    Accepted r a := by
  have hconforms := (check_eq_none_iff hd).mp h
  refine ⟨?_, hconforms.located, fun u v x y q hne hx hy hu hv => ?_⟩
  · have hsize := hconforms.size
    rw [Allocation.size] at hsize
    exact (Nat.le_add_left _ _).trans hsize.le
  · have hapart := hconforms.registers u v x y q hne hx hy hu hv
    simpa using LiveRange.overlaps_eq_false_iff.mp hapart

end StraightLine.Alloc

namespace StraightLine.Lockstep

open StraightLine.Source StraightLine.Code StraightLine.Range StraightLine.Alloc StraightLine.Program

/-- The move of the left operand overwrites the right one, which is at the destination. -/
def Clobbers (locate : Locator) (i : Code.Instr) : Prop :=
  ∃ op v, i.right = some (op, .var v) ∧ i.left ≠ .var v ∧ locate v = locate i.dst

section

variable {resolve : Resolver} {code : List Code.Instr} {a : Allocation}

/-- Accepted locations keep what the machine has to hold, along code that clobbers nothing. -/
theorem keeps_of_accepted (hdefined : DefinedFirst code) (hs : code.length < positions)
    (hsize : (Ranges.analyze code).size ≤ UInt64.size) (ha : Accepted (.analyze code) a)
    {is : List Code.Instr} (hc : is <+: code) (hread : ∀ i ∈ is, i.Readable resolve)
    (hplaced : ∀ i ∈ is, ∀ v ∈ i.vars, ∃ c, LivesIn a.find? v c)
    (hclear : ∀ i ∈ is, ¬ Clobbers a.find? i) :
    Keeps a.find? resolve is (HeldBefore 0 code a) := by
  refine hdefined.keeps hs (ha.few.trans hsize) ha.spaced hc hread hplaced ?_
  intro i hi op v c hright hv hd
  have hleft : i.left = .var v := by
    by_contra hne
    obtain ⟨l, hl, hcell⟩ := id hv
    obtain ⟨k, hk, hcell'⟩ := id hd
    exact hclear i hi ⟨op, v, hright, hne, by rw [hl, hk, cellOf_inj hcell hcell']⟩
  exact ⟨v, hleft, hv⟩

/-- The check of an allocation, wherever it is from, is strong enough for code that clobbers nothing.
For every stream that assigns its names before it reads them and whose numbers can be read, machine
code with accepted locations does what the interpreter does up to the first fault or the first
instruction that clobbers its right operand. There is such machine code, unless there are more
variables than it can number slots. -/
theorem checked_allocation_simulates {norm : String → String} {nodes : List Node}
    {p : List Statement} {s : Session} (hn : nodes.length < positions)
    (hcode : lowerAll (Compile.keyBy norm resolve) (.start nodes) = .ok code s) (hp : nodes = spell p)
    (hassigned : AssignedFirst (Compile.keyBy norm resolve) p) (hnum : NumbersRead resolve nodes)
    (hcheck : checkBoth (some (.analyze code)) (some a) = none) (m : Machine) :
    (nodes.length < UInt32.size → ∃ program, emit a.find? resolve code = .ok program) ∧
    ∀ program, emit a.find? resolve code = .ok program →
      program.instrs = code.flatMap (codeOf a.find? resolve) ∧
      ∀ pre i post t, code = pre ++ i :: post → Runs a.find? resolve ⟨.empty, m⟩ pre t →
        (∀ j ∈ pre ++ [i], ¬ Clobbers a.find? j) →
          (∃ x u, step a.find? resolve t i = (⟨.ok x, .ok x⟩, u)) ∨
          ∃ q j u, step a.find? resolve t i =
            (⟨.error (.divisionByZero i), .error (.divisionByZero q j)⟩, u) := by
  subst hp
  rw [lowerAll_spell] at hcode
  obtain ⟨rfl, -⟩ := EStateM.Result.ok.inj hcode
  generalize hlowered : (lowerStatements (Compile.keyBy norm resolve) p (.start [])).1 = code at *
  have hlen : code.length ≤ (spell p).length := hlowered ▸ length_lowerStatements _ p _
  have hread : ∀ i ∈ code, i.Readable resolve := by
    intro i hi
    rw [← hlowered] at hi
    exact (proper_lowerStatements (tracks_start _ []).keyed (within_start []) p (by omega) hnum i
      hi).readable
  have hgrounded : Grounded (fun _ => False) code := by
    have hwritten : (Session.start []).Written (fun _ => False) fun _ => False := nofun
    exact hlowered ▸ grounded_lowerStatements hwritten p hassigned.from
  have hsize := hgrounded.size_analyze_le (by omega)
  have haccepted := accepted_of_check (Ranges.distinct_analyze code) hcheck
  refine ⟨fun hshort => ?_, fun program hemit => ⟨?_, fun pre i post t hsplit hruns hclear => ?_⟩⟩
  · refine ⟨_, emit_eq fun i hi => exists_emitOne (hread i hi) fun v hv => ?_⟩
    obtain ⟨n, hat⟩ := List.mem_iff_getElem?.mp hi
    obtain ⟨x, hx, -⟩ := range_of_mem_vars (by omega) hat hv
    obtain ⟨l, hl⟩ := haccepted.placed v x hx
    exact livesIn_of_find? (haccepted.few.trans (by omega)) hl
  · rw [emit_eq (emitOne_of_emit hemit)] at hemit
    cases hemit
    rfl
  · have hsub : pre ++ [i] <+: code := ⟨post, by simp [hsplit]⟩
    have hkeeps : Keeps a.find? resolve (pre ++ [i]) (HeldBefore 0 code a) := by
      refine keeps_of_accepted hgrounded.definedFirst (by omega) ?_ haccepted hsub
        (fun j hj => hread j (hsub.subset hj)) (fun j hj => ?_) hclear
      · have : positions ≤ UInt64.size := by decide
        omega
      · obtain ⟨mc, hmc⟩ := emitOne_of_emit hemit j (hsub.subset hj)
        exact livesIn_of_emitOne hmc
    exact hkeeps.next (agree_start (by omega) _ _ _ (State.mk .empty m).env m) rfl hruns

end

def difference (left right : Handle) : List Statement :=
  [.assign 0 0 (.number 3), .assign 0 1 (.number 4),
    .assign 0 2 (.binary .sub 0 (.name left) (.name right))]

def differenceTexts : Resolver := fun h =>
  if h = 0 then "a" else if h = 1 then "b" else if h = 2 then "c" else if h = 3 then "5" else "7"

theorem assignedFirst_difference (key : Handle → String) {left right : Handle}
    (hl : left = 0 ∨ left = 1) (hr : right = 0 ∨ right = 1) :
    AssignedFirst key (difference left right) := by
  refine (AssignedFrom.cons ?_ (.cons ?_ (.cons ?_ ?_))).first
  · simp [Statement.reads, Expr.names]
  · simp [Statement.reads, Expr.names]
  · rcases hl with rfl | rfl <;> rcases hr with rfl | rfl <;>
      simp [Statement.reads, Expr.names, Statement.Assigns]
  · exact fun pre c post h => by simp at h

theorem numbersRead_difference (left right : Handle) :
    NumbersRead differenceTexts (spell (difference left right)) := by
  have h3 : Text.Decimal.read "5" = .ok 5 := by cbv
  have h4 : Text.Decimal.read "7" = .ok 7 := by cbv
  simp [NumbersRead, difference, spell, Statement.nodes, Expr.nodes, Node.number, Node.identifier,
    Arith.kind, differenceTexts, h3, h4]

/-- The left operand may leave its register to the destination: the move is left out. -/
theorem checked_allocation_simulates_handover :
    let pre : List Code.Instr :=
      [{ dst := .named 0 1, left := .literal 3 }, { dst := .named 1 1, left := .literal 4 }]
    let last : Code.Instr :=
      { dst := .named 2 1, left := .var (.named 1 1), right := some (.sub, .var (.named 0 1)) }
    let a : Allocation := ⟨[(.named 0 1, 1), (.named 1 1, 0), (.named 2 1, 0)], []⟩
    (∃ s, lowerAll (Compile.nameKey differenceTexts) (.start (spell (difference 1 0))) =
        .ok (pre ++ [last]) s) ∧
      (∃ program, emit a.find? differenceTexts (pre ++ [last]) = .ok program) ∧
      ∃ t x u, Runs a.find? differenceTexts {} pre t ∧
        step a.find? differenceTexts t last = (⟨.ok x, .ok x⟩, u) := by
  intro pre last a
  have hcode : (lowerStatements (Compile.nameKey differenceTexts) (difference 1 0) (.start [])).1 =
      pre ++ [last] := by
    decide +kernel
  have h := lowerAll_spell (Compile.nameKey differenceTexts) (difference 1 0)
  rw [hcode] at h
  have hcheck : checkBoth (some (.analyze (pre ++ [last]))) (some a) = none := by decide +kernel
  obtain ⟨hemits, hagrees⟩ := checked_allocation_simulates (by decide) h rfl
    (assignedFirst_difference _ (.inr rfl) (.inl rfl)) (numbersRead_difference 1 0) hcheck .empty
  obtain ⟨program, hemit⟩ := hemits (by decide)
  refine ⟨⟨_, h⟩, ⟨program, hemit⟩, ?_⟩
  obtain ⟨t, hruns⟩ : ∃ t, Runs a.find? differenceTexts {} pre t := by
    refine ⟨_, .snoc (.snoc .nil (step_of_ok (x := 5) (m := ⟨[(.reg 1, 5)]⟩) ?_ ?_))
      (step_of_ok (x := 7) (m := ⟨[(.reg 0, 7), (.reg 1, 5)]⟩) ?_ ?_)⟩
    · cbv
    · decide +kernel
    · cbv
    · decide +kernel
  have hclear : ∀ j ∈ pre ++ [last], ¬ Clobbers a.find? j := by
    rintro j hj ⟨op, v, hright, -, hloc⟩
    simp [pre, last] at hj
    rcases hj with rfl | rfl | rfl
    · cases hright
    · cases hright
    · cases hright
      revert hloc
      decide
  rcases (hagrees program hemit).2 pre last [] t rfl hruns hclear with ⟨x, u, hstep⟩ | ⟨q, j, u, hstep⟩
  · exact ⟨t, x, u, hruns, hstep⟩
  · cases stepped_of_step hstep

/-- The check accepts a register that one variable leaves and another one takes in one instruction.
Here it is the right operand that leaves it: the locations come from ranges of the same variables, with
one of them cut short, and the machine gives zero for the difference of five and seven. -/
theorem check_accepts_clobbered :
    let code : List Code.Instr :=
      [{ dst := .named 0 1, left := .literal 3 }, { dst := .named 1 1, left := .literal 4 },
        { dst := .named 2 1, left := .var (.named 0 1), right := some (.sub, .var (.named 1 1)) }]
    let ranges : Ranges :=
      .ofList [⟨.named 0 1, ⟨0, 2⟩⟩, ⟨.named 1 1, ⟨1, 1⟩⟩, ⟨.named 2 1, ⟨2, 3⟩⟩]
    let a := allocate ranges [0, 1]
    (∃ s, lowerAll (Compile.nameKey differenceTexts) (.start (spell (difference 0 1))) = .ok code s) ∧
      AssignedFirst (Compile.nameKey differenceTexts) (difference 0 1) ∧
      NumbersRead differenceTexts (spell (difference 0 1)) ∧
      (Ranges.analyze code).entries.map (·.var) = ranges.entries.map (·.var) ∧
      checkBoth (some (.analyze code)) (some a) = none ∧
      (emit a.find? differenceTexts code).isOk = true ∧
      run a.find? differenceTexts {} code = [⟨.ok 5, .ok 5⟩, ⟨.ok 7, .ok 7⟩, ⟨.ok (-2), .ok 0⟩] := by
  intro code ranges a
  have hcode : (lowerStatements (Compile.nameKey differenceTexts) (difference 0 1) (.start [])).1 =
      code := by
    decide +kernel
  have h := lowerAll_spell (Compile.nameKey differenceTexts) (difference 0 1)
  rw [hcode] at h
  have ha : a = ⟨[(.named 0 1, 1), (.named 1 1, 0), (.named 2 1, 0)], []⟩ := by
    simp only [a, ranges]
    cbv
  refine ⟨⟨_, h⟩, assignedFirst_difference _ (.inl rfl) (.inr rfl), numbersRead_difference 0 1, by cbv,
    ?_⟩
  rw [ha]
  refine ⟨by decide +kernel, by decide +kernel, ?_⟩
  simp only [code]
  cbv

end StraightLine.Lockstep
