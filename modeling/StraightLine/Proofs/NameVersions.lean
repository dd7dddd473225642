import StraightLine.Proofs.OperandUses

/-! The versions of a name in lowered code. The writes of a name count from one on, and a write takes the
version in front of it again only if nothing has read it. The version that the next write of a name will
get carries the proofs: it is above all that was read of the name, reading the name can only raise it,
and writing the name takes it. -/

namespace StraightLine.Code

open StraightLine.Source StraightLine.Range

section

variable (key : Handle → String) (k : String)

/-- The variable is a version of the name with the key `k`. -/
def Var.isVersionOf (v : Var) : Bool := !v.isTemp && key v.handle == k

def writesOf (code : List Instr) : List Int :=
  (code.filter (·.dst.isVersionOf key k)).map (·.dst.version.toInt)

/-- The version of the name that code writes last, and zero if it writes none. -/
def latest (code : List Instr) : Int := (writesOf key k code).getLastD 0

/-- The versions of the name are written and read in order: the writes count up from one without gaps,
each read takes the latest version in front of it, and what is read is not written any more. -/
structure VersionsInOrder (code : List Instr) : Prop where
  first : ∀ n, (writesOf key k code).head? = some n → n = 1
  grow : (writesOf key k code).IsChain fun m n => n = m ∨ n = m + 1
  read_latest : ∀ (pre : List Instr) (i : Instr) (post : List Instr), code = pre ++ i :: post →
    ∀ v : Var, v ∈ i.reads → v.isVersionOf key k = true → v.version.toInt = latest key k pre
  written_before : ∀ (pre : List Instr) (i : Instr) (post : List Instr), code = pre ++ i :: post →
    ∀ v : Var, v ∈ i.reads → v.isVersionOf key k = true →
      ∀ j : Instr, j ∈ i :: post → j.dst.isVersionOf key k = true → j.dst.version ≠ v.version

end

variable {key : Handle → String} {k : String}

theorem Var.isVersionOf_iff {v : Var} :
    v.isVersionOf key k = true ↔ v.isTemp = false ∧ key v.handle = k := by
  simp [isVersionOf]

theorem writesOf_concat (code : List Instr) (i : Instr) :
    writesOf key k (code ++ [i]) =
      writesOf key k code ++ if i.dst.isVersionOf key k then [i.dst.version.toInt] else [] := by
  rw [writesOf, List.filter_append, List.map_append, List.filter_singleton]
  split <;> simp_all [writesOf]

/-! ## The next version -/

namespace Session

variable {s : Session}

/-- The version of a name, and zero if the session has not seen it. -/
def currentVersion (k : String) (s : Session) : Nat := (s.version? k).getD 0

/-- The version that the next write of a name gets. -/
def nextVersion (k : String) (s : Session) : Nat :=
  match s.find? k with
  | none => 1
  | some ns => if ns.read then ns.version + 1 else ns.version

theorem currentVersion_of_find? {ns : NameState} (h : s.find? k = some ns) :
    s.currentVersion k = ns.version := by
  rw [currentVersion, version?, h]
  rfl

theorem nextVersion_of_find? {ns : NameState} (h : s.find? k = some ns) :
    s.nextVersion k = if ns.read then ns.version + 1 else ns.version := by
  rw [nextVersion, h]

theorem nextVersion_cases (k : String) (s : Session) :
    s.nextVersion k = s.currentVersion k ∨ s.nextVersion k = s.currentVersion k + 1 := by
  cases h : s.find? k with
  | none => exact .inr (by rw [nextVersion, currentVersion, version?, h]; rfl)
  | some ns =>
    rw [currentVersion_of_find? h, nextVersion_of_find? h]
    split
    · exact .inr rfl
    · exact .inl rfl

theorem version_rewritten (key : Handle → String) (h : Handle) (s : Session) :
    (s.rewritten key h).version = s.nextVersion (key h) := by
  unfold rewritten nextVersion
  cases s.find? (key h) <;> rfl

theorem currentVersion_afterRead (h : Handle) :
    (s.afterRead key h).currentVersion k = s.currentVersion k := by
  simp only [currentVersion, version?, afterRead, find?_put, nameAt]
  split
  · rename_i hk
    subst hk
    cases s.find? (key h) <;> rfl
  · rfl

/-- Reading a name does not lower the next version of any name. -/
theorem nextVersion_le_afterRead (h : Handle) :
    s.nextVersion k ≤ (s.afterRead key h).nextVersion k := by
  by_cases hk : k = key h
  · have hfind : (s.afterRead key h).find? k = some { s.nameAt key h with read := true } := by
      rw [afterRead, find?_put, if_pos hk]
    have hcur := currentVersion_of_find? hfind
    rw [currentVersion_afterRead] at hcur
    rw [nextVersion_of_find? hfind, if_pos rfl, ← hcur]
    rcases nextVersion_cases k s with hn | hn <;> omega
  · rw [nextVersion, nextVersion, afterRead, find?_put, if_neg hk]

theorem currentVersion_afterWrite (h : Handle) :
    (s.afterWrite key h).currentVersion k =
      if k = key h then s.nextVersion k else s.currentVersion k := by
  simp only [currentVersion, version?, afterWrite, find?_put]
  split
  · rename_i hk
    rw [hk, ← version_rewritten]
    rfl
  · rfl

/-- The version that was written last is not read yet, so it is still the next one. -/
theorem nextVersion_afterWrite (h : Handle) :
    (s.afterWrite key h).nextVersion k = s.nextVersion k := by
  by_cases hk : k = key h
  · have hfind : (s.afterWrite key h).find? k = some (s.rewritten key h) := by
      rw [afterWrite, find?_put, if_pos hk]
    have hunread : (s.rewritten key h).read = false := by
      unfold rewritten
      split <;> rfl
    rw [nextVersion_of_find? hfind, hunread, if_neg Bool.false_ne_true, version_rewritten, hk]
  · rw [nextVersion, nextVersion, afterWrite, find?_put, if_neg hk]

/-- The instruction reads temporaries, and present variables of names that count as read. -/
def Present (s : Session) (i : Instr) : Prop :=
  ∀ v ∈ i.reads, v.isTemp = true ∨
    ∃ k ns, s.find? k = some ns ∧ ns.read = true ∧ v = ns.var

theorem Present.lowerTree {i : Instr} (h : s.Present i) (key : Handle → String) (e : Expr) :
    (Code.lowerTree key e s).2.Present i := by
  intro v hv
  rcases h v hv with ht | ⟨k, ns, hf, hr, rfl⟩
  · exact .inl ht
  · obtain ⟨r, hfr⟩ := find?_lowerTree key e hf
    rw [hr, Bool.true_or, ← hr] at hfr
    exact .inr ⟨k, ns, hfr, hr, rfl⟩

/-- What is read of a name is its current version, which the next write does not get. -/
theorem Present.version {i : Instr} (h : s.Present i) (hs : s.Keyed key) {n : Nat}
    (hw : s.Within n) (hn : n < positions) {v : Var} (hv : v ∈ i.reads)
    (hk : v.isVersionOf key k = true) :
    v.version.toInt = s.currentVersion k ∧ v.version.toInt < s.nextVersion k := by
  obtain ⟨hnamed, hkey⟩ := Var.isVersionOf_iff.mp hk
  rcases h v hv with ht | ⟨k', ns, hf, hr, rfl⟩
  · rw [ht] at hnamed
    cases hnamed
  · have hk' : k' = k := (hs k' ns hf).symm.trans hkey
    subst hk'
    have hle := hw.version_le k' ns hf
    have hint : ns.var.version.toInt = ns.version := toInt_ofNat_position (by omega)
    rw [hint, currentVersion_of_find? hf, nextVersion_of_find? hf, if_pos hr]
    exact ⟨rfl, by omega⟩

end Session

theorem TempWithin.isTemp {lo hi : Nat} {v : Var} (h : TempWithin lo hi v) : v.isTemp = true := by
  obtain ⟨n, -, -, rfl⟩ := h
  rfl

theorem present_last {s : Session} (e : Expr) (dst : Var) :
    (lowerTree key e s).2.Present ((lowerTree key e s).1.last dst) :=
  fun _ hv => (reads_last e hv).imp_left TempWithin.isTemp

/-- An expression reads only what is present behind it. -/
theorem present_instrs {s : Session} (e : Expr) :
    ∀ i ∈ (lowerTree key e s).1.instrs, (lowerTree key e s).2.Present i := by
  induction e generalizing s with
  | number g => simp [lowerTree, Lowered.instrs]
  | name g => simp [lowerTree, Lowered.instrs]
  | binary op mark left right ihl ihr =>
    intro i hi
    rw [instrs_binary, List.mem_append, List.mem_append] at hi
    rcases hi with (hi | hi) | hi
    · exact (ihl i hi).lowerTree key right
    · exact ihr i hi
    · rw [List.mem_singleton.mp hi]
      exact present_last (.binary op mark left right) _

/-! ## Code and session -/

/-- What holds of a name between two steps of a session that has given the code `done` so far. -/
structure Versioned (key : Handle → String) (k : String) (done : List Instr) (s : Session) :
    Prop where
  steps : (0 :: writesOf key k done).IsChain fun m n => n = m ∨ n = m + 1
  positive : ∀ n ∈ writesOf key k done, 0 < n
  current : latest key k done = s.currentVersion k
  next_pos : 0 < s.nextVersion k
  below : ∀ i : Instr, i ∈ done → ∀ v : Var, v ∈ i.reads → v.isVersionOf key k = true →
    v.version.toInt < s.nextVersion k
  reads : ∀ (pre : List Instr) (i : Instr) (post : List Instr), done = pre ++ i :: post →
    ∀ v : Var, v ∈ i.reads → v.isVersionOf key k = true → v.version.toInt = latest key k pre ∧
      ∀ j : Instr, j ∈ i :: post → j.dst.isVersionOf key k = true → j.dst.version ≠ v.version

section

variable {done : List Instr} {s t : Session}

theorem versioned_start (key : Handle → String) (k : String) (nodes : List Node) :
    Versioned key k [] (.start nodes) where
  steps := .singleton 0
  positive := nofun
  current := rfl
  next_pos := Nat.one_pos
  below := nofun
  reads := fun pre i post h => absurd h.symm (by simp)

theorem Versioned.congr (h : Versioned key k done s) (ht : t.find? k = s.find? k) :
    Versioned key k done t := by
  have hcur : t.currentVersion k = s.currentVersion k := by
    rw [Session.currentVersion, Session.version?, ht]
    rfl
  have hnext : t.nextVersion k = s.nextVersion k := by
    rw [Session.nextVersion, ht]
    rfl
  exact ⟨h.steps, h.positive, hcur ▸ h.current, hnext ▸ h.next_pos, hnext ▸ h.below, h.reads⟩

theorem Versioned.afterRead (h : Versioned key k done s) (g : Handle) :
    Versioned key k done (s.afterRead key g) := by
  have hle : s.nextVersion k ≤ (s.afterRead key g).nextVersion k :=
    Session.nextVersion_le_afterRead g
  refine ⟨h.steps, h.positive, ?_, Nat.lt_of_lt_of_le h.next_pos hle, ?_, h.reads⟩
  · rw [Session.currentVersion_afterRead, h.current]
  · intro i hi v hv hk
    have := h.below i hi v hv hk
    omega

theorem Versioned.lowerTree (h : Versioned key k done s) (e : Expr) :
    Versioned key k done (lowerTree key e s).2 := by
  induction e generalizing s with
  | number g => exact h
  | name g => exact h.afterRead g
  | binary op mark left right ihl ihr => exact (ihr (ihl h)).congr rfl

/-- A list with one more element is cut at this element or in front of it. -/
theorem split_concat {xs pre post : List Instr} {x i : Instr} (h : xs ++ [x] = pre ++ i :: post) :
    (pre = xs ∧ i = x ∧ post = []) ∨ ∃ post', post = post' ++ [x] ∧ xs = pre ++ i :: post' := by
  rcases List.eq_nil_or_concat post with rfl | ⟨post', y, rfl⟩
  · obtain ⟨hpre, hi⟩ := List.append_inj' h rfl
    cases hi
    exact .inl ⟨hpre.symm, rfl, rfl⟩
  · rw [List.concat_eq_append, ← List.cons_append, ← List.append_assoc] at h
    obtain ⟨hxs, hx⟩ := List.append_inj' h rfl
    cases hx
    exact .inr ⟨post', List.concat_eq_append, hxs⟩

/-- One more instruction. It reads what is present, and if it writes the name it takes the next
version. -/
theorem Versioned.concat (h : Versioned key k done s) {x : Instr}
    (hreads : ∀ v ∈ x.reads, v.isVersionOf key k = true →
      v.version.toInt = s.currentVersion k ∧ v.version.toInt < s.nextVersion k)
    (hdst : x.dst.isVersionOf key k = true → x.dst.version.toInt = s.nextVersion k)
    (hcur : t.currentVersion k =
      if x.dst.isVersionOf key k then s.nextVersion k else s.currentVersion k)
    (hnext : t.nextVersion k = s.nextVersion k) : Versioned key k (done ++ [x]) t := by
  have hbelow : ∀ i ∈ done ++ [x], ∀ v ∈ i.reads, v.isVersionOf key k = true →
      v.version.toInt < s.nextVersion k := by
    intro i hi v hv hk
    rcases List.mem_append.mp hi with hi | hi
    · exact h.below i hi v hv hk
    · rw [List.mem_singleton.mp hi] at hv
      exact (hreads v hv hk).2
  have hfresh : ∀ i ∈ done ++ [x], ∀ v ∈ i.reads, v.isVersionOf key k = true →
      x.dst.isVersionOf key k = true → x.dst.version ≠ v.version := by
    intro i hi v hv hk hx he
    have := hbelow i hi v hv hk
    rw [← he, hdst hx] at this
    omega
  have hsteps := h.steps
  have hpos := h.next_pos
  have hstep := s.nextVersion_cases k
  refine ⟨?_, ?_, ?_, hnext ▸ hpos, hnext ▸ hbelow, ?_⟩
  · rw [writesOf_concat, ← List.cons_append, List.isChain_append]
    refine ⟨hsteps, ?_, ?_⟩
    · split
      · exact .singleton _
      · exact .nil
    · intro m hm n hn
      split at hn
      · rename_i hx
        have hlast : m = latest key k done := by
          rw [List.getLast?_cons, ← List.getLastD_eq_getLast?] at hm
          exact (Option.some.inj hm).symm
        have hn : n = x.dst.version.toInt := (Option.some.inj hn).symm
        rw [hn, hlast, hdst hx, h.current]
        omega
      · cases hn
  · intro n hn
    rw [writesOf_concat, List.mem_append] at hn
    rcases hn with hn | hn
    · exact h.positive n hn
    · split at hn
      · rename_i hx
        rw [List.mem_singleton.mp hn, hdst hx]
        omega
      · cases hn
  · rw [latest, writesOf_concat, hcur]
    split
    · rename_i hx
      rw [List.getLastD_concat, hdst hx]
    · rw [List.append_nil]
      exact h.current
  · intro pre i post hsplit v hv hk
    rcases split_concat hsplit with ⟨rfl, rfl, rfl⟩ | ⟨post', rfl, hdone⟩
    · refine ⟨(hreads v hv hk).1.trans h.current.symm, fun j hj hx => ?_⟩
      rw [List.mem_singleton.mp hj] at hx ⊢
      exact hfresh i (by simp) v hv hk hx
    · obtain ⟨hlatest, hsettled⟩ := h.reads pre i post' hdone v hv hk
      refine ⟨hlatest, fun j hj hx => ?_⟩
      rw [← List.cons_append] at hj
      rcases List.mem_append.mp hj with hj | hj
      · exact hsettled j hj hx
      · rw [List.mem_singleton.mp hj] at hx ⊢
        exact hfresh i (by simp [hdone]) v hv hk hx

/-- Code that writes temporaries only. -/
theorem Versioned.append (h : Versioned key k done s) (hs : s.Keyed key) {n : Nat}
    (hw : s.Within n) (hn : n < positions) {is : List Instr}
    (his : ∀ i ∈ is, i.dst.isTemp = true ∧ s.Present i) : Versioned key k (done ++ is) s := by
  induction is generalizing done with
  | nil => rwa [List.append_nil]
  | cons i is ih =>
    obtain ⟨htemp, hpresent⟩ := his i List.mem_cons_self
    have hno : i.dst.isVersionOf key k = false := by rw [Var.isVersionOf, htemp]; rfl
    rw [List.append_cons]
    refine ih (h.concat (fun v hv hk => hpresent.version hs hw hn hv hk) ?_ ?_ rfl) fun j hj =>
      his j (List.mem_cons_of_mem _ hj)
    · intro hk
      rw [hno] at hk
      cases hk
    · rw [hno, if_neg Bool.false_ne_true]

/-- An instruction that assigns to a name. -/
theorem Versioned.write (h : Versioned key k done s) (hs : s.Keyed key) {n : Nat}
    (hw : s.Within n) (hn : n + 1 < positions) {i : Instr} (hi : s.Present i) {g : Handle}
    (hdst : i.dst = (s.rewritten key g).var) : Versioned key k (done ++ [i]) (s.afterWrite key g) := by
  have hkey : i.dst.isVersionOf key k = true ↔ k = key g := by
    rw [hdst, Var.isVersionOf_iff, NameState.isTemp_var, eq_self, true_and]
    exact (hs.rewritten g ▸ eq_comm : key (s.rewritten key g).handle = k ↔ k = key g)
  have hle := hw.rewritten key g
  refine h.concat (fun v hv hk => hi.version hs hw (by omega) hv hk) (fun hk => ?_) ?_
    (Session.nextVersion_afterWrite g)
  · rw [hkey.mp hk, ← Session.version_rewritten, hdst]
    exact toInt_ofNat_position (by omega)
  · rw [Session.currentVersion_afterWrite]
    simp only [hkey]

theorem Versioned.lowerStatement (h : Versioned key k done s) (hs : s.Keyed key) {n : Nat}
    (hw : s.Within n) (c : Statement) (hn : n + c.nodes.length < positions) :
    Versioned key k (done ++ (lowerStatement key c s).1) (lowerStatement key c s).2 := by
  have htemps : ∀ e : Expr, ∀ i ∈ (Code.lowerTree key e s).1.instrs,
      i.dst.isTemp = true ∧ (Code.lowerTree key e s).2.Present i := fun e i hi =>
    ⟨(dst_lowerTree key e s i hi).isTemp, present_instrs e i hi⟩
  cases c with
  | scopeOpen mark => rwa [Code.lowerStatement, List.append_nil]
  | scopeEnd mark => rwa [Code.lowerStatement, List.append_nil]
  | bare e =>
    have hl := e.length_nodes
    simp only [Statement.nodes] at hn
    exact (h.lowerTree e).append (hs.lowerTree e) (hw.lowerTree key e) (by omega) (htemps e)
  | assign mark target value =>
    have hl := value.length_nodes
    simp only [Statement.nodes, List.length_cons] at hn
    have hs' := hs.lowerTree value
    have hw' := hw.lowerTree key value
    have hbody := (h.lowerTree value).append hs' hw' (by omega) fun i hi =>
      htemps value i (Lowered.body_subset _ hi)
    have hwrite := hbody.write hs' hw' (by omega) (present_last value _)
      (Lowered.dst_last _ ((Code.lowerTree key value s).2.rewritten key target).var)
    rw [List.append_assoc] at hwrite
    exact hwrite.congr (find?_releaseFor _ _ k)

theorem Versioned.lowerStatements (h : Versioned key k done s) (hs : s.Keyed key) {n : Nat}
    (hw : s.Within n) (p : List Statement) (hn : n + (spell p).length < positions) :
    Versioned key k (done ++ (lowerStatements key p s).1) (lowerStatements key p s).2 := by
  induction p generalizing done s n with
  | nil => rwa [Code.lowerStatements, List.append_nil]
  | cons c p ih =>
    rw [spell_cons, List.length_append] at hn
    rw [Code.lowerStatements, ← List.append_assoc]
    exact ih (h.lowerStatement hs hw c (by omega)) (hs.lowerStatement c) (hw.lowerStatement key c)
      (by omega)

theorem Versioned.inOrder (h : Versioned key k done s) : VersionsInOrder key k done where
  first := by
    intro n hn
    have hstep := (List.isChain_cons.mp h.steps).1 n hn
    have hpos := h.positive n (List.mem_of_mem_head? hn)
    omega
  grow := h.steps.tail
  read_latest := fun pre i post hsplit v hv hk => (h.reads pre i post hsplit v hv hk).1
  written_before := fun pre i post hsplit v hv hk => (h.reads pre i post hsplit v hv hk).2

end

end StraightLine.Code
