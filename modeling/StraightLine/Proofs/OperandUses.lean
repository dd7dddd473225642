import StraightLine.Proofs.DefinedBeforeUse

/-! What lowered code reads. The operands of an expression's code are its names, one for each, and its
temporaries, each of them once, the last one being the value of the expression. So over a whole
program the temporaries are numbered without gaps, each is read at most once and behind its
definition, and there are not more variables than nodes. -/

namespace StraightLine.Source

def Statement.temps : Statement → Nat
  | scopeOpen _ | scopeEnd _ => 0
  | assign _ _ value => value.operators - 1
  | bare e => e.operators

end StraightLine.Source

namespace StraightLine.Code

open StraightLine.Source StraightLine.Range

def Var.isTemp (v : Var) : Bool := v.kind = 1

def Var.numbered (n : Nat) : Var := .temp (Int64.ofNat n)

@[simp] theorem Var.isTemp_numbered (n : Nat) : (Var.numbered n).isTemp = true := rfl

@[simp] theorem NameState.isTemp_var (ns : NameState) : ns.var.isTemp = false := rfl

/-! ## Expressions -/

/-- The variables that an expression's code reads, and the one that has its value. -/
def Lowered.uses (l : Lowered) : List Var := l.instrs.flatMap Instr.reads ++ l.operand.var?.toList

theorem Lowered.reads_into_leaf (v : Operand) (dst : Var) :
    ((Lowered.leaf v).into dst).flatMap Instr.reads = (Lowered.leaf v).uses := by
  simp [into, body, last, uses, instrs, operand, Instr.reads]

theorem Lowered.reads_into_code (is : List Instr) (i : Instr) (dst : Var) :
    ((Lowered.code is i).into dst).flatMap Instr.reads =
      (Lowered.code is i).instrs.flatMap Instr.reads := by
  simp [into, body, last, instrs, Instr.reads]

/-- Putting the value elsewhere, the code reads nothing else. -/
theorem Lowered.reads_into_sublist (l : Lowered) (dst : Var) :
    ((l.into dst).flatMap Instr.reads).Sublist l.uses := by
  cases l with
  | leaf v => rw [reads_into_leaf]
  | code body last =>
    rw [reads_into_code]
    exact List.sublist_append_left _ _

section

variable (key : Handle → String)

/-- An operation uses what its operands use, and its own temporary. -/
theorem uses_binary_perm (op : Arith) (mark : Handle) (left right : Expr) (s : Session) :
    let t := (lowerTree key left s).2
    (lowerTree key (.binary op mark left right) s).1.uses.Perm
      ((lowerTree key left s).1.uses ++ (lowerTree key right t).1.uses ++
        [.numbered ((lowerTree key right t).2.temps + 1)]) := by
  intro t
  have hperm : ∀ a b c d : List Var, (a ++ b ++ (c ++ d)).Perm (a ++ c ++ (b ++ d)) := by
    intro a b c d
    rw [List.append_assoc, List.append_assoc, ← List.append_assoc b, ← List.append_assoc c]
    exact (List.perm_append_comm.append_right d).append_left a
  simp only [lowerTree, Lowered.uses, Lowered.instrs, Lowered.operand, Operand.var?,
    Option.toList_some, List.flatMap_append, List.flatMap_singleton, Instr.reads,
    Option.bind_some]
  exact (hperm _ _ _ _).append_right _

theorem instrs_binary (op : Arith) (mark : Handle) (left right : Expr) (s : Session) :
    let t := (lowerTree key left s).2
    (lowerTree key (.binary op mark left right) s).1.instrs =
      (lowerTree key left s).1.instrs ++ (lowerTree key right t).1.instrs ++
        [{ dst := .numbered ((lowerTree key right t).2.temps + 1),
           left := (lowerTree key left s).1.operand,
           right := some (.ofArith op, (lowerTree key right t).1.operand) }] := rfl

/-- The destinations of an expression's code are its temporaries in the order of their numbers. -/
theorem map_dst_lowerTree (e : Expr) (s : Session) :
    (lowerTree key e s).1.instrs.map (·.dst) =
      (List.range' (s.temps + 1) e.operators).map Var.numbered := by
  induction e generalizing s with
  | number g => rfl
  | name g => rfl
  | binary op mark left right ihl ihr =>
    have hl := temps_lowerTree key left s
    have hr := temps_lowerTree key right (lowerTree key left s).2
    have h₁ : s.temps + left.operators + 1 = s.temps + 1 + left.operators := by omega
    have h₂ : s.temps + left.operators + right.operators + 1 =
        s.temps + 1 + (left.operators + right.operators) := by omega
    rw [instrs_binary, List.map_append, List.map_append, ihl, ihr, List.map_singleton, hr, hl, h₁, h₂,
      Expr.operators, List.range'_1_concat, ← List.range'_append_1, List.map_append, List.map_append,
      List.map_singleton]

/-- An expression uses each of its temporaries once. -/
theorem uses_temp_perm (e : Expr) (s : Session) :
    ((lowerTree key e s).1.uses.filter Var.isTemp).Perm
      ((lowerTree key e s).1.instrs.map (·.dst)) := by
  induction e generalizing s with
  | number g => exact .refl _
  | name g => exact .refl _
  | binary op mark left right ihl ihr =>
    refine ((uses_binary_perm key op mark left right s).filter _).trans ?_
    rw [instrs_binary, List.filter_append, List.filter_append, List.map_append, List.map_append]
    exact ((ihl s).append (ihr _)).append_right _

/-- An expression uses as many names as it has. -/
theorem length_uses_named (e : Expr) (s : Session) :
    ((lowerTree key e s).1.uses.filter fun v => !v.isTemp).length = e.names.length := by
  induction e generalizing s with
  | number g => rfl
  | name g => rfl
  | binary op mark left right ihl ihr =>
    rw [((uses_binary_perm key op mark left right s).filter _).length_eq]
    simp only [List.filter_append, List.length_append, ihl, ihr, Expr.names]
    rfl

theorem length_names_le (e : Expr) : e.names.length ≤ e.operators + 1 := by
  induction e with
  | number g => exact Nat.zero_le _
  | name g => exact Nat.le_refl _
  | binary op mark left right ihl ihr =>
    simp only [Expr.names, List.length_append, Expr.operators]
    omega

/-- An expression reads names, and temporaries that it has defined before. -/
theorem grounded_temps_lowerTree (e : Expr) (s : Session) :
    Grounded (fun v => v.isTemp = false) (lowerTree key e s).1.instrs ∧
      ∀ v, (lowerTree key e s).1.operand = .var v →
        Defines (fun v => v.isTemp = false) (lowerTree key e s).1.instrs v :=
  grounded_of_nameAt e fun t _ g _ => (t.nameAt key g).isTemp_var

/-! ## Statements and programs -/

theorem map_dst_body (e : Expr) (s : Session) :
    (lowerTree key e s).1.body.map (·.dst) =
      (List.range' (s.temps + 1) (e.operators - 1)).map Var.numbered := by
  have h := map_dst_lowerTree key e s
  have hlen := length_instrs_lowerTree key e s
  cases hl : (lowerTree key e s).1 with
  | leaf v =>
    rw [hl] at hlen
    rw [← hlen]
    rfl
  | code body last =>
    rw [hl, Lowered.instrs, List.length_append] at hlen
    rw [hl, Lowered.instrs, ← hlen, List.length_singleton, List.range'_1_concat, List.map_append,
      List.map_append] at h
    rw [← hlen]
    exact (List.append_inj' h rfl).1

/-- Code that puts the value of an expression elsewhere reads each of its temporaries once. -/
theorem temp_reads_into_perm (e : Expr) (s : Session) (dst : Var) :
    ((((lowerTree key e s).1.into dst).flatMap Instr.reads).filter Var.isTemp).Perm
      ((lowerTree key e s).1.body.map (·.dst)) := by
  have h := uses_temp_perm key e s
  cases hl : (lowerTree key e s).1 with
  | leaf v =>
    rw [hl, ← Lowered.reads_into_leaf v dst] at h
    exact h
  | code body last =>
    -- the value itself is used behind the code only
    rw [hl, Lowered.uses, ← Lowered.reads_into_code body last dst, Lowered.instrs, List.filter_append,
      List.map_append] at h
    have hsplit : (Lowered.code body last).operand.var?.toList.filter Var.isTemp =
        [last].map (·.dst) := by
      have hmem : last.dst ∈ (lowerTree key e s).1.instrs.map (·.dst) := by
        simp [hl, Lowered.instrs]
      rw [map_dst_lowerTree] at hmem
      obtain ⟨n, -, hn⟩ := List.mem_map.mp hmem
      simp [Lowered.operand, Operand.var?, ← hn]
    rw [hsplit] at h
    exact (List.perm_append_right_iff _).mp h

theorem temps_lowerStatement (c : Statement) (s : Session) :
    (lowerStatement key c s).2.temps = s.temps + c.temps := by
  cases c with
  | scopeOpen mark => rfl
  | scopeEnd mark => rfl
  | bare e => exact temps_lowerTree key e s
  | assign mark target value =>
    have hwrite : ((lowerTree key value s).2.afterWrite key target).temps =
        s.temps + value.operators := by
      rw [Session.afterWrite, Session.temps_put, temps_lowerTree]
    cases value with
    | number g => exact hwrite
    | name g => exact hwrite
    | binary op m left right =>
      refine (congrArg (· - 1) hwrite).trans ?_
      simp only [Statement.temps, Expr.operators]
      omega

/-- The temporaries that a statement writes have the next numbers. -/
theorem temp_dsts_lowerStatement (c : Statement) (s : Session) :
    ((lowerStatement key c s).1.map (·.dst)).filter Var.isTemp =
      (List.range' (s.temps + 1) c.temps).map Var.numbered := by
  have hall : ∀ l : List Nat, (l.map Var.numbered).filter Var.isTemp = l.map Var.numbered := by
    intro l
    refine List.filter_eq_self.mpr fun v hv => ?_
    obtain ⟨n, -, rfl⟩ := List.mem_map.mp hv
    rfl
  cases c with
  | scopeOpen mark => rfl
  | scopeEnd mark => rfl
  | bare e =>
    simp only [lowerStatement, map_dst_lowerTree, hall]
    rfl
  | assign mark target value =>
    simp only [lowerStatement, Lowered.into, List.map_append, map_dst_body, List.filter_append, hall,
      List.map_singleton, Lowered.dst_last]
    exact List.append_nil _

/-- A statement reads only temporaries that it writes, and none of them twice. -/
theorem temp_reads_lowerStatement (c : Statement) (s : Session) :
    (((lowerStatement key c s).1.flatMap Instr.reads).filter Var.isTemp).Subperm
      (((lowerStatement key c s).1.map (·.dst)).filter Var.isTemp) := by
  rw [temp_dsts_lowerStatement]
  cases c with
  | scopeOpen mark => exact List.nil_subperm
  | scopeEnd mark => exact List.nil_subperm
  | bare e =>
    have hsub := ((List.sublist_append_left _ _).filter Var.isTemp).subperm.trans
      (uses_temp_perm key e s).subperm
    rw [map_dst_lowerTree] at hsub
    exact hsub
  | assign mark target value =>
    have hperm := temp_reads_into_perm key value s
      ((lowerTree key value s).2.rewritten key target).var
    rw [map_dst_body] at hperm
    exact hperm.subperm

/-- A statement has not more destinations and reads of names than it has nodes. -/
theorem length_touches_lowerStatement (c : Statement) (s : Session) :
    (lowerStatement key c s).1.length +
      (((lowerStatement key c s).1.flatMap Instr.reads).filter fun v => !v.isTemp).length ≤
        c.nodes.length := by
  cases c with
  | scopeOpen mark => exact Nat.zero_le _
  | scopeEnd mark => exact Nat.zero_le _
  | bare e =>
    have hreads := ((List.sublist_append_left ((lowerTree key e s).1.instrs.flatMap Instr.reads)
      (lowerTree key e s).1.operand.var?.toList).filter fun v => !v.isTemp).length_le
    have hnamed := length_uses_named key e s
    rw [Lowered.uses] at hnamed
    have hnames := length_names_le e
    have hnodes := e.length_nodes
    have hlen := length_instrs_lowerTree key e s
    simp only [lowerStatement, Statement.nodes]
    omega
  | assign mark target value =>
    have hreads := (((lowerTree key value s).1.reads_into_sublist
      ((lowerTree key value s).2.rewritten key target).var).filter fun v => !v.isTemp).length_le
    have hnamed := length_uses_named key value s
    have hnames := length_names_le value
    have hnodes := value.length_nodes
    have hlen := length_instrs_lowerTree key value s
    have hinto := (lowerTree key value s).1.length_into
      ((lowerTree key value s).2.rewritten key target).var
    simp only [lowerStatement, Statement.nodes, List.length_cons]
    omega

theorem grounded_temps_lowerStatement (c : Statement) (s : Session) :
    Grounded (fun v => v.isTemp = false) (lowerStatement key c s).1 := by
  cases c with
  | scopeOpen mark => trivial
  | scopeEnd mark => trivial
  | bare e => exact (grounded_temps_lowerTree key e s).1
  | assign mark target value =>
    obtain ⟨hg, ho⟩ := grounded_temps_lowerTree key value s
    exact Lowered.grounded_into hg ho _

theorem temp_dsts_lowerStatements (p : List Statement) (s : Session) :
    ((lowerStatements key p s).1.map (·.dst)).filter Var.isTemp =
      (List.range' (s.temps + 1) (p.map Statement.temps).sum).map Var.numbered := by
  induction p generalizing s with
  | nil => rfl
  | cons c p ih =>
    have hnext : s.temps + c.temps + 1 = s.temps + 1 + c.temps := by omega
    simp only [lowerStatements, List.map_append, List.filter_append, temp_dsts_lowerStatement, ih,
      temps_lowerStatement, hnext, List.map_cons, List.sum_cons]
    rw [← List.map_append, List.range'_append_1]

theorem temp_reads_lowerStatements (p : List Statement) (s : Session) :
    (((lowerStatements key p s).1.flatMap Instr.reads).filter Var.isTemp).Subperm
      (((lowerStatements key p s).1.map (·.dst)).filter Var.isTemp) := by
  induction p generalizing s with
  | nil => exact List.nil_subperm
  | cons c p ih =>
    simp only [lowerStatements, List.flatMap_append, List.map_append, List.filter_append]
    exact (temp_reads_lowerStatement key c s).append (ih _)

theorem length_touches_lowerStatements (p : List Statement) (s : Session) :
    (lowerStatements key p s).1.length +
      (((lowerStatements key p s).1.flatMap Instr.reads).filter fun v => !v.isTemp).length ≤
        (spell p).length := by
  induction p generalizing s with
  | nil => exact Nat.le_refl 0
  | cons c p ih =>
    have hc := length_touches_lowerStatement key c s
    have hp := ih (lowerStatement key c s).2
    simp only [lowerStatements, List.flatMap_append, List.filter_append, List.length_append,
      spell_cons]
    omega

/-- Code defines its temporaries before it reads them. -/
theorem grounded_temps_lowerStatements (p : List Statement) (s : Session) :
    Grounded (fun v => v.isTemp = false) (lowerStatements key p s).1 := by
  induction p generalizing s with
  | nil => trivial
  | cons c p ih =>
    exact (grounded_temps_lowerStatement key c s).append ((ih _).mono fun v hv => .inl hv)

/-- How code uses temporaries: their numbers count up from one without gaps, and each of them is read
once at most and behind its definition. -/
structure TempsInOrder (code : List Instr) : Prop where
  numbered : ∃ n, (code.map (·.dst)).filter Var.isTemp = (List.range' 1 n).map Var.numbered
  distinct : ((code.map (·.dst)).filter Var.isTemp).Nodup
  once : ∀ v : Var, v.isTemp = true → (code.flatMap Instr.reads).count v ≤ 1
  defined : ∀ (pre : List Instr) (i : Instr) (post : List Instr), code = pre ++ i :: post →
    ∀ v : Var, v ∈ i.reads → v.isTemp = true → ∃ j ∈ pre, j.dst = v

theorem nodup_numbered {m n : Nat} (h : m + n ≤ positions) :
    ((List.range' m n).map Var.numbered).Nodup := by
  refine List.Nodup.map_on ?_ List.nodup_range'
  intro x hx y hy he
  rw [List.mem_range'_1] at hx hy
  exact ofNat_position_inj (by omega) (by omega) (congrArg Var.version he)

theorem tempsInOrder_lowerStatements {p : List Statement} (hn : (spell p).length < positions) :
    TempsInOrder (lowerStatements key p (.start [])).1 := by
  have hdsts := temp_dsts_lowerStatements key p (.start [])
  have hnodup : (((lowerStatements key p (.start [])).1.map (·.dst)).filter Var.isTemp).Nodup := by
    have hlen := length_lowerStatements key p (.start [])
    have hle := List.length_filter_le Var.isTemp ((lowerStatements key p (.start [])).1.map (·.dst))
    rw [hdsts, List.length_map, List.length_map, List.length_range'] at hle
    rw [hdsts]
    refine nodup_numbered ?_
    change 0 + 1 + _ ≤ _
    omega
  refine ⟨⟨_, hdsts⟩, hnodup, fun v hv => ?_, fun pre i post hcode v hv ht => ?_⟩
  · rw [← List.count_filter hv]
    exact ((temp_reads_lowerStatements key p (.start [])).count_le v).trans
      (List.nodup_iff_count_le_one.mp hnodup v)
  · have hgrounded := grounded_temps_lowerStatements key p (.start [])
    rw [hcode] at hgrounded
    rcases hgrounded.reads v hv with hf | hj
    · rw [ht] at hf
      cases hf
    · exact hj

end

end StraightLine.Code
