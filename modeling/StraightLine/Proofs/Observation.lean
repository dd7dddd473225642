import StraightLine.Proofs.CompileCorrect
import StraightLine.Proofs.Recording

/-! Lookers-on see a compilation and do not take part in it. What they see is a course of stages, which
depends on the program and the registers alone: a finished course has five stages, and the course of a
failed run breaks off in the stage that fails. A tracer follows the events of the course at its level,
and a timing lists its stages. -/

namespace StraightLine.Compile

open StraightLine.Source StraightLine.Code StraightLine.Range StraightLine.Alloc StraightLine.Program
open StraightLine.Trace

/-! ## The course of a run -/

/-- A stage of a run as a looker-on sees it. -/
structure Passage where
  name : String
  /-- The instructions that are recorded in the stage. -/
  points : List Code.Instr := []
  /-- The texts that the end of the stage carries. -/
  extra : Extra := []
  /-- What came of the stage; none if the run broke off in it. -/
  note : Option String := none

/-- The stages in front of the last one, for a stream with this code. -/
def frontPassages (registers : List Reg) (code : List Code.Instr) : List Passage :=
  let ranges := Ranges.analyze code
  [{ name := "ssa", points := code, note := some (toString code.length ++ " instrs") },
    { name := "liveness", note := some (toString ranges.size ++ " ranges") },
    { name := "interference"
      note := some (toString (ConflictGraph.build ranges.entries).edgeCount ++ " edges") },
    { name := "regalloc"
      extra := [("registers", toString registers.length)]
      note := some (toString (allocate ranges registers).spillSlots ++ " spilled") }]

/-- The stages that a run passes, and what it comes to. -/
inductive Course (norm : String → String) (registers : List Reg) (resolve : Resolver)
    (nodes : List Node) : List Passage → Except Fault Compilation → Prop
  /-- A statement cannot be lowered. The statements in front of it have been recorded. -/
  | lowering {iss : List (List Code.Instr)} {s t : Session} {f : LoweringFault}
    (hcalls : Calls (keyBy norm resolve) (.start (strip nodes)) iss s) (hs : s.done = false)
    (hnext : lowerNext (keyBy norm resolve) s = .error f t) :
    Course norm registers resolve nodes [{ name := "ssa", points := iss.flatten }]
      (.error (.lowering f))
  /-- The code cannot be emitted. -/
  | emitting {code : List Code.Instr} {s : Session} {f : EmitFault}
    (hlower : lowerAll (keyBy norm resolve) (.start (strip nodes)) = .ok code s)
    (hemit : emit (allocate (.analyze code) registers).find? resolve code = .error f) :
    Course norm registers resolve nodes (frontPassages registers code ++ [{ name := "emit" }])
      (.error (.emitting f))
  | completed {c : Compilation} (hc : compile norm registers resolve nodes = .ok c) :
    Course norm registers resolve nodes
      (frontPassages registers c.code ++
        [{ name := "emit", note := some (toString c.program.instrs.length ++ " instrs") }]) (.ok c)

namespace Passage

def stage (p : Passage) : Stage :=
  { name := p.name, note := p.note.getD "", closed := p.note.isSome }

/-- The span of the stage with the position `k`. The first span is that of the run. -/
def span (number : Nat → UInt64) (k : Nat) (p : Passage) : Span :=
  { live := true, id := number (k + 2), parent := number 1, scope := Scope.stage, name := p.name,
    extra := p.extra }

end Passage

section

variable (o : Options) (resolve : Resolver) (number : Nat → UInt64)

def rootSpan : Span :=
  { live := true, id := number 1, scope := Scope.pipeline, name := "compile",
    extra := [("run", o.run)] }

def instrEvent (parent : UInt64) (i : Code.Instr) : Event :=
  { time := o.time, kind := .point, scope := Scope.statement, parent := parent, name := "instr",
    detail := i.text resolve }

/-- The events of a stage: it begins, its instructions are recorded, and it ends if it is finished. -/
def Passage.events (k : Nat) (p : Passage) : List Event :=
  (p.span number k).beginEvent o.time :: p.points.map (instrEvent o resolve (number (k + 2))) ++
    p.note.toList.map ((p.span number k).endEvent o.time)

def eventsUpTo (ps : List Passage) : List Event :=
  (rootSpan o number).beginEvent o.time :: (ps.mapIdx (Passage.events o resolve number)).flatten

/-- The events of a run. It ends if all its stages do. -/
def recording (ps : List Passage) : List Event :=
  eventsUpTo o resolve number ps ++
    if ps.all (·.note.isSome) then [(rootSpan o number).endEvent o.time ""] else []

end

/-- Only the last stage is finished. -/
theorem finish_concat (ss : List Stage) {s : Stage} (hopen : s.closed = false) (note : String) :
    Timing.finish ⟨ss ++ [s]⟩ (ss.length : Nat) note =
      ⟨ss ++ [{ s with note := note, closed := true }]⟩ := by
  have hinit : (ss.mapIdx fun i s =>
      if i = ss.length && !s.closed then { s with note := note, closed := true } else s) = ss := by
    refine List.ext_getElem (List.length_mapIdx) fun i _ hi => ?_
    rw [List.getElem_mapIdx, if_neg (by simp; omega)]
  rw [Timing.finish, if_neg (by omega), Int.toNat_natCast, List.mapIdx_concat, hinit]
  simp [hopen]

/-! ## Lookers-on -/

namespace Observers

variable (o : Options) (resolve : Resolver) (s : Observers)

/-- The lookers-on inside or behind the last of some stages of a run. -/
def passed (ps : List Passage) : Observers :=
  { tracer := s.tracer.follow (eventsUpTo o resolve s.tracer.spanNumber ps)
    timing := s.timing.map fun t => ⟨t.stages ++ ps.map Passage.stage⟩ }

def seen (ps : List Passage) : Observers :=
  { tracer := s.tracer.follow (recording o resolve s.tracer.spanNumber ps)
    timing := s.timing.map fun t => ⟨t.stages ++ ps.map Passage.stage⟩ }

/-- The stage with the position `k`, as it is handed to the run. -/
def opened (k : Nat) (p : Passage) : OpenStage :=
  { span := (p.span s.tracer.spanNumber k).seenAt s.tracer.level
    number := s.timing.elim 0 fun t => t.stages.length + k }

end Observers

section

variable {o : Options} {resolve : Resolver} {s : Observers} {ps : List Passage} {p : Passage}

theorem eventsUpTo_concat (number : Nat → UInt64) (ps : List Passage) (p : Passage) :
    eventsUpTo o resolve number (ps ++ [p]) =
      eventsUpTo o resolve number ps ++ p.events o resolve number ps.length := by
  simp only [eventsUpTo, List.mapIdx_concat, List.flatten_append, List.flatten_cons,
    List.flatten_nil, List.append_nil, List.cons_append]

/-- Where a stage begins, there is one event more. -/
theorem eventsUpTo_begin (number : Nat → UInt64) (ps : List Passage) (name : String) :
    eventsUpTo o resolve number (ps ++ [{ name := name }]) =
      eventsUpTo o resolve number ps ++
        [(Passage.span number ps.length { name := name }).beginEvent o.time] := by
  rw [eventsUpTo_concat]
  rfl

/-- An instruction in an open stage is one event more. -/
theorem eventsUpTo_point (number : Nat → UInt64) (hopen : p.note = none) (i : Code.Instr) :
    eventsUpTo o resolve number (ps ++ [{ p with points := p.points ++ [i] }]) =
      eventsUpTo o resolve number (ps ++ [p]) ++
        [instrEvent o resolve (number (ps.length + 2)) i] := by
  simp [eventsUpTo_concat, Passage.events, hopen, Passage.span]

/-- Where a stage ends, there is one event more. -/
theorem eventsUpTo_end (number : Nat → UInt64) (hopen : p.note = none) (extra : Extra)
    (note : String) :
    eventsUpTo o resolve number (ps ++ [{ p with extra := extra, note := some note }]) =
      eventsUpTo o resolve number (ps ++ [p]) ++
        [(Passage.span number ps.length { p with extra := extra }).endEvent o.time note] := by
  simp [eventsUpTo_concat, Passage.events, hopen, Passage.span, Span.beginEvent, Span.endEvent]

theorem Passage.begins_events (number : Nat → UInt64) (k : Nat) (p : Passage) :
    (p.events o resolve number k).countP Event.begins = 1 := by
  have hpoints : (p.points.map (instrEvent o resolve (number (k + 2)))).countP Event.begins = 0 := by
    simp [List.countP_eq_zero, instrEvent, Event.begins]
  have hend : (p.note.toList.map ((p.span number k).endEvent o.time)).countP Event.begins = 0 := by
    simp [List.countP_eq_zero, Span.endEvent, Event.begins]
  rw [Passage.events, List.countP_append, List.countP_cons, hpoints, hend]
  rfl

/-- The run and each of its stages begin a span. -/
theorem begins_eventsUpTo (number : Nat → UInt64) (ps : List Passage) :
    (eventsUpTo o resolve number ps).countP Event.begins = ps.length + 1 := by
  induction ps using List.reverseRecOn with
  | nil => rfl
  | append_singleton ps p ih =>
    rw [eventsUpTo_concat, List.countP_append, ih, p.begins_events, List.length_append,
      List.length_singleton]

/-- Events have scopes above zero, and no span that begins is narrower than a stage. -/
theorem scope_eventsUpTo (number : Nat → UInt64) (ps : List Passage) :
    ∀ e ∈ eventsUpTo o resolve number ps,
      e.scope ≠ 0 ∧ (e.begins = true → e.scope ≤ Scope.stage) := by
  induction ps using List.reverseRecOn with
  | nil =>
    intro e he
    obtain rfl := List.mem_singleton.mp he
    exact ⟨(by decide : Scope.pipeline ≠ 0), fun _ => (by decide : Scope.pipeline ≤ Scope.stage)⟩
  | append_singleton ps p ih =>
    intro e he
    rw [eventsUpTo_concat, List.mem_append] at he
    obtain he | he := he
    · exact ih e he
    · simp only [Passage.events, List.cons_append, List.mem_cons, List.mem_append,
        List.mem_map] at he
      obtain rfl | ⟨i, -, rfl⟩ | ⟨note, -, rfl⟩ := he
      · exact ⟨(by decide : Scope.stage ≠ 0), fun _ => UInt8.le_refl _⟩
      · exact ⟨(by decide : Scope.statement ≠ 0), nofun⟩
      · exact ⟨(by decide : Scope.stage ≠ 0), nofun⟩

theorem beginRun_eq (o : Options) (resolve : Resolver) (s : Observers) :
    beginRun o s =
      .ok ((rootSpan o s.tracer.spanNumber).seenAt s.tracer.level) (s.passed o resolve []) := by
  obtain ⟨hspan, htracer⟩ := Tracer.beginSpan_follow s.tracer [] o.time Scope.pipeline "compile"
    nofun fun _ => (rfl : (0 : UInt64) = 0)
  have hfollow : s.tracer.follow [] = s.tracer := rfl
  have htiming : (s.timing.map fun t => ⟨t.stages ++ []⟩) = s.timing := by
    cases s.timing <;> simp
  rw [hfollow] at hspan htracer
  simp only [beginRun, hspan, htracer, Observers.passed, Span.withExtra_seenAt, List.map_nil, htiming]
  rfl

/-- A stage begins: its span goes under the run's, which has a number if the stage is seen. -/
theorem beginStage_passed {root : UInt64} (name : String)
    (hroot : s.tracer.level.emits Scope.stage = true → root = s.tracer.spanNumber 1) :
    beginStage o root name (s.passed o resolve ps) =
      .ok (s.opened ps.length { name := name }) (s.passed o resolve (ps ++ [{ name := name }])) := by
  obtain ⟨hspan, htracer⟩ := Tracer.beginSpan_follow s.tracer
    (eventsUpTo o resolve s.tracer.spanNumber ps) o.time Scope.stage name
    (fun e he => (scope_eventsUpTo s.tracer.spanNumber ps e he).2) hroot
  rw [begins_eventsUpTo] at hspan htracer
  simp only [beginStage, Observers.passed, hspan, htracer, eventsUpTo_begin]
  cases ht : s.timing with
  | none => simp [Observers.opened, Passage.span, ht]
  | some t => simp [Observers.opened, Passage.span, Passage.stage, ht, Timing.begin]

/-- An instruction is recorded in the stage that is open. -/
theorem pointInstr_passed {parent : UInt64} (hopen : p.note = none)
    (hparent : s.tracer.level.emits Scope.statement = true →
      parent = s.tracer.spanNumber (ps.length + 2)) (i : Code.Instr) :
    pointInstr o resolve parent i (s.passed o resolve (ps ++ [p])) =
      .ok () (s.passed o resolve (ps ++ [{ p with points := p.points ++ [i] }])) := by
  have htracer := Tracer.point_follow s.tracer
    (eventsUpTo o resolve s.tracer.spanNumber (ps ++ [p])) o.time Scope.statement "instr" hparent
    (i.text resolve) []
  simp only [pointInstr, Observers.passed, eventsUpTo_point _ hopen]
  rw [htracer]
  simp [Passage.stage, instrEvent]

/-- The open stage ends, with texts that it has got meanwhile. -/
theorem endStage_passed (ps : List Passage) (hopen : p.note = none) (extra : Extra) (note : String) :
    endStage o (s.opened ps.length { p with extra := extra }) note (s.passed o resolve (ps ++ [p])) =
      .ok () (s.passed o resolve (ps ++ [{ p with extra := extra, note := some note }])) := by
  have htracer := Tracer.endSpan_follow s.tracer
    (eventsUpTo o resolve s.tracer.spanNumber (ps ++ [p])) o.time
    (s := Passage.span s.tracer.spanNumber ps.length { p with extra := extra }) rfl note
  simp only [endStage, Observers.passed, Observers.opened, htracer, eventsUpTo_end _ hopen]
  congr 2
  cases s.timing with
  | none => rfl
  | some t =>
    have hunfinished : p.stage.closed = false := by rw [Passage.stage, hopen, Option.isSome_none]
    have hfinish := finish_concat (t.stages ++ ps.map Passage.stage) hunfinished note
    simpa [Passage.stage] using hfinish

/-- The run ends behind its last stage. -/
theorem endRun_passed (hps : ps.all (·.note.isSome) = true) :
    endRun o ((rootSpan o s.tracer.spanNumber).seenAt s.tracer.level) (s.passed o resolve ps) =
      .ok () (s.seen o resolve ps) := by
  have htracer := Tracer.endSpan_follow s.tracer (eventsUpTo o resolve s.tracer.spanNumber ps) o.time
    (s := rootSpan o s.tracer.spanNumber) rfl ""
  simp only [endRun, Observers.passed, htracer, Observers.seen, recording, hps, if_true]

/-- A run that breaks off has no further events. -/
theorem passed_eq_seen (hps : ps.all (·.note.isSome) = false) :
    s.passed o resolve ps = s.seen o resolve ps := by
  rw [Observers.passed, Observers.seen, recording, hps, if_neg Bool.false_ne_true, List.append_nil]

/-! ## Lowering under observation -/

theorem bind_of_ok {α β : Type} {x : Step α} {g : α → Step β} {s t : Observers} {a : α}
    (h : x s = .ok a t) : (x >>= g) s = g a t := by
  simp only [Bind.bind, EStateM.bind, h]

theorem bind_of_error {α β : Type} {x : Step α} {g : α → Step β} {s t : Observers} {f : Fault}
    (h : x s = .error f t) : (x >>= g) s = .error f t := by
  simp only [Bind.bind, EStateM.bind, h]

theorem forM_pointInstr_passed {parent : UInt64} (hopen : p.note = none)
    (hparent : s.tracer.level.emits Scope.statement = true →
      parent = s.tracer.spanNumber (ps.length + 2)) (is : List Code.Instr) :
    is.forM (pointInstr o resolve parent) (s.passed o resolve (ps ++ [p])) =
      .ok () (s.passed o resolve (ps ++ [{ p with points := p.points ++ is }])) := by
  induction is generalizing p with
  | nil =>
    rw [List.append_nil]
    rfl
  | cons i is ih =>
    have hrest := ih (p := { p with points := p.points ++ [i] }) hopen
    simp only [List.append_assoc, List.singleton_append] at hrest
    exact (bind_of_ok (pointInstr_passed hopen hparent i)).trans hrest

theorem lowerTraced_of_done {session : Session} (hdone : session.done = true) (parent : UInt64)
    (fuel : Nat) (s : Observers) : lowerTraced o resolve parent fuel session s = .ok [] s := by
  cases fuel with
  | zero => rfl
  | succ fuel =>
    rw [lowerTraced, if_pos hdone]
    rfl

/-- A statement that cannot be lowered ends the run. -/
theorem lowerTraced_of_error {session t : Session} {f : LoweringFault}
    (hs : session.done = false) (hnext : lowerNext (keyBy o.norm resolve) session = .error f t)
    (parent : UInt64) (fuel : Nat) (s : Observers) :
    lowerTraced o resolve parent (fuel + 1) session s = .error (.lowering f) s := by
  rw [lowerTraced, hs, if_neg Bool.false_ne_true, hnext]
  rfl

/-- The result of a step with code in front of its own. -/
def behind (is : List Code.Instr) :
    EStateM.Result Fault Observers (List Code.Instr) →
      EStateM.Result Fault Observers (List Code.Instr)
  | .ok code s => .ok (is ++ code) s
  | .error f s => .error f s

/-- Calls one after the other, with their instructions recorded, and then the rest of the stream. -/
theorem lowerTraced_calls (ps : List Passage) (p : Passage) {parent : UInt64} {session t : Session}
    {iss : List (List Code.Instr)} (hcalls : Calls (keyBy o.norm resolve) session iss t)
    (hopen : p.note = none)
    (hparent : s.tracer.level.emits Scope.statement = true →
      parent = s.tracer.spanNumber (ps.length + 2)) (fuel : Nat) :
    lowerTraced o resolve parent (iss.length + fuel) session (s.passed o resolve (ps ++ [p])) =
      behind iss.flatten (lowerTraced o resolve parent fuel t
        (s.passed o resolve (ps ++ [{ p with points := p.points ++ iss.flatten }]))) := by
  induction hcalls generalizing p with
  | nil session =>
    rw [List.length_nil, Nat.zero_add, List.flatten_nil, List.append_nil]
    cases lowerTraced o resolve parent fuel session (s.passed o resolve (ps ++ [p])) <;> rfl
  | @cons session u t is iss hs hnext hrest ih =>
    have ih := ih { p with points := p.points ++ is } hopen
    simp only [List.append_assoc] at ih
    rw [List.length_cons, Nat.add_right_comm, lowerTraced, hs, if_neg Bool.false_ne_true, hnext]
    simp only
    rw [bind_of_ok (forM_pointInstr_passed hopen hparent is), List.flatten_cons]
    cases hlast : lowerTraced o resolve parent fuel t
        (s.passed o resolve (ps ++ [{ p with points := p.points ++ (is ++ iss.flatten) }])) with
    | ok code s' =>
      rw [hlast] at ih
      rw [bind_of_ok ih, behind, List.append_assoc]
      rfl
    | error f s' =>
      rw [hlast] at ih
      exact bind_of_error ih

/-! ## Whole runs -/

/-- The span of the run has its number wherever a stage is seen. -/
theorem id_rootSpan (number : Nat → UInt64) {l : Level} (h : l.emits Scope.stage = true) :
    ((rootSpan o number).seenAt l).id = number 1 := by
  have hle : Scope.pipeline ≤ Scope.stage := by decide
  have hroot : l.emits (rootSpan o number).scope = true := Level.emits_of_le hle h
  rw [Span.seenAt_of_emits hroot]
  rfl

/-- The span of a stage has its number wherever a statement is seen. -/
theorem id_opened (k : Nat) (p : Passage) (h : s.tracer.level.emits Scope.statement = true) :
    (s.opened k p).span.id = s.tracer.spanNumber (k + 2) := by
  have hle : Scope.stage ≤ Scope.statement := by decide
  have hstage : s.tracer.level.emits (p.span s.tracer.spanNumber k).scope = true :=
    Level.emits_of_le hle h
  rw [Observers.opened, Span.seenAt_of_emits hstage]
  rfl

/-- Texts that an open stage gets show at its end. -/
theorem opened_withExtra (k : Nat) (p : Passage) (key value : String) :
    { s.opened k p with span := (s.opened k p).span.withExtra key value } =
      s.opened k { p with extra := p.extra.put key value } := by
  simp only [Observers.opened, Span.withExtra_seenAt _ (show (p.span _ k).live = true from rfl)]
  rfl

section

variable {α : Type} {g : Unit → Step α} {root : UInt64}

/-- A stage from its beginning to its end. -/
theorem stage_passed (name note : String)
    (hroot : s.tracer.level.emits Scope.stage = true → root = s.tracer.spanNumber 1) :
    (beginStage o root name >>= fun st => endStage o st note >>= g) (s.passed o resolve ps) =
      g () (s.passed o resolve (ps ++ [{ name := name, note := some note }])) :=
  (bind_of_ok (beginStage_passed name hroot)).trans
    (bind_of_ok (endStage_passed _ (p := { name := name }) rfl [] note))

/-- A stage that gets a text meanwhile. -/
theorem stage_passed_withExtra (name note key value : String)
    (hroot : s.tracer.level.emits Scope.stage = true → root = s.tracer.spanNumber 1) :
    (beginStage o root name >>= fun st =>
        endStage o { st with span := st.span.withExtra key value } note >>= g)
          (s.passed o resolve ps) =
      g () (s.passed o resolve
        (ps ++ [{ name := name, extra := [(key, value)], note := some note }])) := by
  rw [bind_of_ok (beginStage_passed name hroot), opened_withExtra]
  exact bind_of_ok (endStage_passed _ (p := { name := name }) rfl [(key, value)] note)

end

variable {nodes : List Node}

/-- The first stage up to the end of some calls. The fuel that is left is enough for the rest. -/
theorem lowerTraced_start {iss : List (List Code.Instr)} {session : Session}
    (hcalls : Calls (keyBy o.norm resolve) (.start (strip nodes)) iss session) :
    ∃ fuel, session.rest.length ≤ fuel ∧
      lowerTraced o resolve (s.opened 0 { name := "ssa" }).span.id (strip nodes).length
          (.start (strip nodes)) (s.passed o resolve [{ name := "ssa" }]) =
        behind iss.flatten (lowerTraced o resolve (s.opened 0 { name := "ssa" }).span.id fuel session
          (s.passed o resolve [{ name := "ssa", points := iss.flatten }])) := by
  have hle : iss.length + session.rest.length ≤ (strip nodes).length := hcalls.length_add_le
  obtain ⟨fuel, hfuel⟩ : ∃ fuel, (strip nodes).length = iss.length + fuel :=
    ⟨(strip nodes).length - iss.length, by omega⟩
  refine ⟨fuel, by omega, ?_⟩
  rw [hfuel]
  exact lowerTraced_calls [] { name := "ssa" } hcalls rfl (id_opened 0 { name := "ssa" }) fuel

/-- A run that stops in the first stage. -/
theorem run_of_calls {iss : List (List Code.Instr)} {session t : Session} {f : LoweringFault}
    (hcalls : Calls (keyBy o.norm resolve) (.start (strip nodes)) iss session)
    (hs : session.done = false) (hnext : lowerNext (keyBy o.norm resolve) session = .error f t) :
    run o resolve nodes s =
      .error (.lowering f) (s.seen o resolve [{ name := "ssa", points := iss.flatten }]) := by
  obtain ⟨fuel, hfuel, hlower⟩ := lowerTraced_start (s := s) (o := o) hcalls
  have hpos := Session.length_rest_pos hs
  obtain ⟨k, rfl⟩ : ∃ k, fuel = k + 1 := ⟨fuel - 1, by omega⟩
  rw [lowerTraced_of_error hs hnext, behind] at hlower
  rw [run, bind_of_ok (beginRun_eq o resolve s), ← passed_eq_seen rfl]
  exact (bind_of_ok (beginStage_passed "ssa" (id_rootSpan _))).trans (bind_of_error hlower)

/-- A run on a stream that has code goes on to its last stage. -/
theorem run_of_lowered {code : List Code.Instr} {session : Session}
    (hlower : lowerAll (keyBy o.norm resolve) (.start (strip nodes)) = .ok code session) :
    run o resolve nodes s =
      match emit (allocate (.analyze code) o.registers).find? resolve code with
      | .error f => .error (.emitting f)
          (s.seen o resolve (frontPassages o.registers code ++ [{ name := "emit" }]))
      | .ok program =>
        .ok ⟨code, .analyze code, .build (Ranges.analyze code).entries,
            allocate (.analyze code) o.registers, program⟩
          (s.seen o resolve (frontPassages o.registers code ++
            [{ name := "emit", note := some (toString program.instrs.length ++ " instrs") }])) := by
  obtain ⟨iss, hcalls, hdone, rfl⟩ := exists_calls_of_lowerAll hlower
  obtain ⟨fuel, -, hlower⟩ := lowerTraced_start (s := s) (o := o) hcalls
  rw [lowerTraced_of_done hdone, behind, List.append_nil] at hlower
  rw [run, bind_of_ok (beginRun_eq o resolve s)]
  refine (bind_of_ok (beginStage_passed "ssa" (id_rootSpan _))).trans ?_
  refine (bind_of_ok hlower).trans ?_
  refine (bind_of_ok (endStage_passed [] (p := { name := "ssa", points := iss.flatten }) rfl []
    _)).trans ?_
  refine (stage_passed "liveness" _ (id_rootSpan _)).trans ?_
  refine (stage_passed "interference" _ (id_rootSpan _)).trans ?_
  refine (stage_passed_withExtra "regalloc" _ _ _ (id_rootSpan _)).trans ?_
  refine (bind_of_ok (beginStage_passed "emit" (id_rootSpan _))).trans ?_
  cases emit (allocate (.analyze iss.flatten) o.registers).find? resolve iss.flatten with
  | error f =>
    simp only
    rw [← passed_eq_seen rfl]
    rfl
  | ok program =>
    refine (bind_of_ok (endStage_passed _ (p := { name := "emit" }) rfl [] _)).trans ?_
    exact bind_of_ok (endRun_passed rfl)

end

/-- What the lookers-on have seen when a step is over, whether it went well or not. -/
def lookersOn {α : Type} : EStateM.Result Fault Observers α → Observers
  | .ok _ s => s
  | .error _ s => s

section

variable (o : Options) (resolve : Resolver) (nodes : List Node)

/-- All lookers-on see one course, which ends in the outcome of the compilation. -/
theorem exists_course :
    ∃ ps, Course o.norm o.registers resolve nodes ps (compile o.norm o.registers resolve nodes) ∧
      ∀ s, lookersOn (run o resolve nodes s) = s.seen o resolve ps := by
  cases hlower : lowerAll (keyBy o.norm resolve) (.start (strip nodes)) with
  | error f t =>
    obtain ⟨iss, session, hcalls, hs, hnext⟩ := exists_calls_of_lowerAll_error hlower
    have hcompile : compile o.norm o.registers resolve nodes = .error (.lowering f) := by
      rw [compile_eq_stages, stages, hlower]
      rfl
    rw [hcompile]
    refine ⟨_, .lowering hcalls hs hnext, fun s => ?_⟩
    rw [run_of_calls hcalls hs hnext]
    rfl
  | ok code session =>
    cases hemit : emit (allocate (.analyze code) o.registers).find? resolve code with
    | error f =>
      have hcompile : compile o.norm o.registers resolve nodes = .error (.emitting f) := by
        rw [compile_eq_stages, stages, hlower]
        simp only [lowered, hemit]
      rw [hcompile]
      refine ⟨_, .emitting hlower hemit, fun s => ?_⟩
      rw [run_of_lowered hlower, hemit]
      rfl
    | ok program =>
      have hcompile := compile_eq hlower hemit
      rw [hcompile]
      refine ⟨_, .completed hcompile, fun s => ?_⟩
      rw [run_of_lowered hlower, hemit]
      rfl

end

/-- The scopes of a run are above zero, so that all its events can be rendered. -/
theorem scope_recording (o : Options) (resolve : Resolver) (number : Nat → UInt64)
    (ps : List Passage) : ∀ e ∈ recording o resolve number ps, e.scope ≠ 0 := by
  intro e he
  rw [recording, List.mem_append] at he
  obtain he | he := he
  · exact (scope_eventsUpTo number ps e he).1
  · split at he
    · obtain rfl := List.mem_singleton.mp he
      exact (by decide : Scope.pipeline ≠ 0)
    · cases he

section

variable (o : Options) (resolve : Resolver) (ps : List Passage) (level : Level)

/-- A fresh ring with room enough holds the events that its level lets through. -/
theorem ring_seen (capacity : Int) (timing : Option Timing)
    (hcap : (recording o resolve UInt64.ofNat ps).length ≤ (Ring.new capacity level).capacity) :
    ∃ r : Ring, (Observers.seen o resolve ⟨.ring (.new capacity level), timing⟩ ps).tracer = .ring r ∧
      r.snapshot =
        numbered ((recording o resolve UInt64.ofNat ps).filter fun e => level.emits e.scope) := by
  have hnumber : (Tracer.ring (.new capacity level)).spanNumber = UInt64.ofNat := by
    funext n
    exact congrArg UInt64.ofNat (Nat.zero_add n)
  obtain ⟨r, hr, hcapacity, hholds⟩ := Ring.holds_foldl_record (Ring.holds_new capacity level)
    fun e he => (List.mem_filter.mp he).2
  refine ⟨r, ?_, hholds.snapshot_eq.trans (rtake_of_length_le ?_)⟩
  · rw [Observers.seen, hnumber]
    exact hr
  · rw [length_numbered, hcapacity]
    exact (List.length_filter_le _ _).trans hcap

/-- A fresh stream to a writer that takes everything has a line for each event that its level lets
through. -/
theorem stream_seen (format : Format) (flush close : Action) (timing : Option Timing) :
    let sink : Sink := { outlet := .writer true flush close }
    ∃ st : Stream,
      (Observers.seen o resolve ⟨.stream { sink, level, format }, timing⟩ ps).tracer = .stream st ∧
      (numbered ((recording o resolve UInt64.ofNat ps).filter fun e => level.emits e.scope)).mapM
        (Event.render format) = .ok st.sink.chunks := by
  intro sink
  have hnumber : (Tracer.stream { sink, level, format }).spanNumber = UInt64.ofNat := by
    funext n
    exact congrArg UInt64.ofNat (Nat.zero_add n)
  obtain ⟨st, hst, hformat, hwrote⟩ := Stream.wrote_foldl_record (s := { sink, level, format })
    ⟨⟨rfl, rfl⟩, rfl, rfl⟩ (fun e he => (List.mem_filter.mp he).2)
    fun e he => scope_recording o resolve _ ps e (List.mem_filter.mp he).1
  refine ⟨st, ?_, by rw [← hwrote.lines, hformat]⟩
  rw [Observers.seen, hnumber]
  exact hst

end

/-- Tracing and timing observe without interfering. A run has one course, which depends on the program
and the registers alone: five finished stages, or stages up to the one in which the run broke off.
Whoever looks on, the outcome is that of the compilation, and a timing lists the stages of the course.
A fresh ring with room enough holds all events of the course if it debugs, and at any other level those
of them that the level lets through, under new numbers; a fresh stream has written the same events. -/
theorem observers_do_not_interfere (o : Options) (resolve : Resolver) (nodes : List Node) :
    ∃ ps, Course o.norm o.registers resolve nodes ps (compile o.norm o.registers resolve nodes) ∧
      (∀ s, outcome (run o resolve nodes s) = compile o.norm o.registers resolve nodes ∧
        (lookersOn (run o resolve nodes s)).timing =
          s.timing.map fun t => ⟨t.stages ++ ps.map Passage.stage⟩) ∧
      (∀ capacity level timing timing',
        (recording o resolve UInt64.ofNat ps).length ≤ (Ring.new capacity level).capacity →
        ∃ full r : Ring,
          (lookersOn (run o resolve nodes ⟨.ring (.new capacity .debug), timing'⟩)).tracer =
            .ring full ∧
          full.snapshot = numbered (recording o resolve UInt64.ofNat ps) ∧
          (lookersOn (run o resolve nodes ⟨.ring (.new capacity level), timing⟩)).tracer = .ring r ∧
          r.snapshot = numbered (full.snapshot.filter fun e => level.emits e.scope)) ∧
      ∀ level format flush close timing, ∃ st : Stream,
        (lookersOn (run o resolve nodes
          ⟨.stream { sink := { outlet := .writer true flush close }, level, format }, timing⟩)).tracer =
            .stream st ∧
        (numbered ((recording o resolve UInt64.ofNat ps).filter fun e => level.emits e.scope)).mapM
          (Event.render format) = .ok st.sink.chunks := by
  obtain ⟨ps, hcourse, hseen⟩ := exists_course o resolve nodes
  refine ⟨ps, hcourse, fun s => ⟨?_, ?_⟩, ?_, ?_⟩
  · rw [ends_run, compile_eq_stages]
  · rw [hseen]
    rfl
  · intro capacity level timing timing' hcap
    obtain ⟨full, hfull, hall⟩ := ring_seen o resolve ps .debug capacity timing' hcap
    obtain ⟨r, hr, hevents⟩ := ring_seen o resolve ps level capacity timing hcap
    have hdebug : ((recording o resolve UInt64.ofNat ps).filter fun e => Level.debug.emits e.scope) =
        recording o resolve UInt64.ofNat ps := List.filter_eq_self.mpr fun _ _ => rfl
    rw [hdebug] at hall
    refine ⟨full, r, by rw [hseen, hfull], hall, by rw [hseen, hr], ?_⟩
    rw [hall, numbered_filter_numbered, hevents]
  · intro level format flush close timing
    rw [hseen]
    exact stream_seen o resolve ps level format flush close timing

/-- A number that cannot be read: the run breaks off in its last stage. -/
theorem observers_do_not_interfere_unreadable :
    let o : Options := { registers := [4] }
    let resolve : Resolver := fun h => if h = 0 then "x" else "?"
    let nodes : List Node := [.assignment, .identifier 0, .number 1]
    ∃ f ps, compile o.norm o.registers resolve nodes = .error (.emitting f) ∧
      ps.map (fun p => (p.name, p.note.isSome)) = [("ssa", true), ("liveness", true),
        ("interference", true), ("regalloc", true), ("emit", false)] ∧
      (recording o resolve UInt64.ofNat ps).length = 11 ∧ 11 ≤ (Ring.new 64 .detail).capacity ∧
      ∃ full r : Ring,
        (lookersOn (run o resolve nodes ⟨.ring (.new 64 .debug), none⟩)).tracer = .ring full ∧
        full.snapshot = numbered (recording o resolve UInt64.ofNat ps) ∧
        (lookersOn (run o resolve nodes ⟨.ring (.new 64 .detail), none⟩)).tracer = .ring r ∧
        r.snapshot = numbered (full.snapshot.filter fun e => Level.detail.emits e.scope) := by
  intro o resolve nodes
  have hfault : ∃ f, compile o.norm o.registers resolve nodes = .error (.emitting f) := ⟨_, by cbv⟩
  obtain ⟨f, hf⟩ := hfault
  obtain ⟨ps, hcourse, -, hring, -⟩ := observers_do_not_interfere o resolve nodes
  rw [hf] at hcourse
  cases hcourse with
  | @emitting code session _ hlower hemit =>
    have hcode : lowerAll (nameKey resolve) (.start (strip nodes)) =
        .ok _ _ := lowerAll_spell (nameKey resolve) [.assign 0 0 (.number 1)]
    obtain ⟨rfl, -⟩ := EStateM.Result.ok.inj (hlower.symm.trans hcode)
    exact ⟨f, _, hf, rfl, rfl, by decide, hring 64 .detail none none (by decide)⟩

end StraightLine.Compile
