import StraightLine.Alloc.LinearScan
import StraightLine.Code.Session
import StraightLine.Program.Emit
import StraightLine.Range.Conflict
import StraightLine.Text.Normal
import StraightLine.Timing
import StraightLine.Trace.Span

/-! A whole compilation: declarations are stripped, the stream is lowered to three-address code, ranges,
conflicts and locations are found, and machine code is emitted. A tracer and a timing look on; they
keep what they have seen when a stage fails, and nothing depends on them. -/

namespace StraightLine

open StraightLine.Source StraightLine.Code StraightLine.Range StraightLine.Alloc
open StraightLine.Trace

structure Compilation where
  code : List Code.Instr
  ranges : Ranges
  graph : ConflictGraph
  allocation : Allocation
  program : Program
  deriving Repr

namespace Compile

inductive Fault
  | lowering (f : LoweringFault)
  | emitting (f : Program.EmitFault)
  deriving DecidableEq, Repr

namespace Fault

/-- The internal error that a fault is, if it is one. -/
def internal? (resolve : Resolver) : Fault → Option InternalError
  | lowering f => some f.internal
  | emitting f => f.internal? resolve

def message (resolve : Resolver) (f : Fault) : String :=
  match f.internal? resolve, f with
  | some e, _ => e.message
  | none, lowering f => f.message
  | none, emitting f => f.message resolve

end Fault

/-- The lookers-on: a tracer and, if wanted, a timing. -/
structure Observers where
  tracer : Tracer := .nop
  timing : Option Timing := none
  deriving Repr

/-- What a compilation is given besides its program. -/
structure Options where
  registers : List Reg
  /-- The normal form by which names are told apart. -/
  norm : String → String := Text.normalize
  /-- The name of the run. -/
  run : String := ""
  /-- The time that all events carry. -/
  time : Timestamp := {}

/-- A step of a compilation, which may fail and then keeps what the lookers-on have seen. -/
abbrev Step := EStateM Fault Observers

structure OpenStage where
  span : Span
  /-- The number of the stage in the timing. -/
  number : Nat := 0

/-- Begins a stage under the span of the whole run. The scopes of a compilation are all above zero, so
that its events can always be written. -/
def beginStage (o : Options) (root : UInt64) (name : String) : Step OpenStage := fun s =>
  let (span, tracer, _) := s.tracer.beginSpan o.time Scope.stage name root
  match s.timing with
  | none => .ok { span := span } { s with tracer := tracer }
  | some t =>
    let (number, t) := t.begin name
    .ok { span := span, number := number } { tracer := tracer, timing := some t }

def endStage (o : Options) (st : OpenStage) (note : String) : Step Unit := fun s =>
  let (tracer, _) := s.tracer.endSpan o.time st.span note
  .ok () { tracer := tracer, timing := s.timing.map fun t => t.finish st.number note }

def beginRun (o : Options) : Step Span := fun s =>
  let (span, tracer, _) := s.tracer.beginSpan o.time Scope.pipeline "compile" 0
  .ok (span.withExtra "run" o.run) { s with tracer := tracer }

def endRun (o : Options) (span : Span) : Step Unit := fun s =>
  let (tracer, _) := s.tracer.endSpan o.time span ""
  .ok () { s with tracer := tracer }

/-- Records an instruction as a point of the span of the first stage. -/
def pointInstr (o : Options) (resolve : Resolver) (parent : UInt64) (i : Code.Instr) : Step Unit :=
  fun s =>
    let (tracer, _) := s.tracer.point o.time Scope.statement "instr" parent (i.text resolve) []
    .ok () { s with tracer := tracer }

/-- The key of a name: the normal form of the text behind its handle. -/
def keyBy (norm : String → String) (resolve : Resolver) (h : Handle) : String := norm (resolve h)

/-- Names are told apart by their composed forms. -/
def nameKey : Resolver → Handle → String := keyBy Text.normalize

/-- Lowers the stream statement by statement and records each instruction. A statement consumes a node
at least, so the length of the stream is fuel enough. -/
def lowerTraced (o : Options) (resolve : Resolver) (parent : UInt64) :
    Nat → Session → Step (List Code.Instr)
  | 0, _ => return []
  | fuel + 1, session =>
    if session.done then return []
    else
      match lowerNext (keyBy o.norm resolve) session with
      | .error f _ => throw (.lowering f)
      | .ok is session => do
        is.forM (pointInstr o resolve parent)
        let rest ← lowerTraced o resolve parent fuel session
        return is ++ rest

def run (o : Options) (resolve : Resolver) (nodes : List Node) : Step Compilation := do
  let root ← beginRun o
  let stage ← beginStage o root.id "ssa"
  let stream := strip nodes
  let code ← lowerTraced o resolve stage.span.id stream.length (Session.start stream)
  endStage o stage (toString code.length ++ " instrs")
  let stage ← beginStage o root.id "liveness"
  let ranges := Ranges.analyze code
  endStage o stage (toString ranges.size ++ " ranges")
  let stage ← beginStage o root.id "interference"
  let graph := ConflictGraph.build ranges.entries
  endStage o stage (toString graph.edgeCount ++ " edges")
  let stage ← beginStage o root.id "regalloc"
  let allocation := allocate ranges o.registers
  let span := stage.span.withExtra "registers" (toString o.registers.length)
  endStage o { stage with span := span } (toString allocation.spillSlots ++ " spilled")
  let stage ← beginStage o root.id "emit"
  match Program.emit allocation.find? resolve code with
  | .error f => throw (.emitting f)
  | .ok program => do
    endStage o stage (toString program.instrs.length ++ " instrs")
    endRun o root
    return { code, ranges, graph, allocation, program }

end Compile

/-- Compiles a node stream without anybody looking on. -/
def compile (norm : String → String) (registers : List Reg) (resolve : Resolver)
    (nodes : List Node) : Except Compile.Fault Compilation :=
  match Compile.run { registers, norm } resolve nodes {} with
  | .ok c _ => .ok c
  | .error f _ => .error f

end StraightLine
