import StraightLine.Trace.Ring
import StraightLine.Trace.Sink

/-! Tracers record events: to a sink as they come, in a ring, or in several places at once. Recording
gives a tracer with the event in it. An event that cannot be written leaves its number used, and the
places behind the one that failed without it. -/

namespace StraightLine.Trace

/-- A tracer that writes each event to a sink as it comes. -/
structure Stream where
  sink : Sink
  level : Level
  format : Format
  /-- The number of events let through. -/
  count : Nat := 0
  /-- The number of span numbers handed out. -/
  spans : Nat := 0
  deriving Repr

inductive Tracer
  /-- Records nothing. -/
  | nop
  | stream (s : Stream)
  | ring (r : Ring)
  /-- A ring that does not number spans: every span is number one. -/
  | plain (r : Ring)
  /-- Passes events on to all its parts, whatever its own level. -/
  | multi (level : Level) (spans : Nat) (parts : List Tracer)
  deriving Repr

structure Recorded where
  tracer : Tracer
  /-- The number that the recorder gave to the caller's event. -/
  seq : UInt64
  fault : Option RenderFault := none
  deriving Repr

namespace Stream

/-- Writes an event to the sink, under the next number. The number is the event's from then on. -/
def emit (s : Stream) (e : Event) : Stream × UInt64 × Option RenderFault :=
  if s.level.emits e.scope then
    let seq := UInt64.ofNat (s.count + 1)
    let s := { s with count := s.count + 1 }
    match Event.render s.format { e with seq := seq } with
    | .ok line => ({ s with sink := s.sink.write line }, seq, none)
    | .error f => (s, seq, some f)
  else (s, e.seq, none)

end Stream

namespace Tracer

def kindName : Tracer → String
  | nop => "nop"
  | stream _ => "stream"
  | ring _ => "ring"
  | plain _ => "plain"
  | multi .. => "multi"

def level : Tracer → Level
  | nop => .off
  | stream s => s.level
  | ring r | plain r => r.level
  | multi l _ _ => l

def enabled (t : Tracer) : Bool := t.level.enabled

mutual

def emit (e : Event) : Tracer → Recorded
  | nop => ⟨nop, e.seq, none⟩
  | stream s =>
    let (s, seq, fault) := s.emit e
    ⟨stream s, seq, fault⟩
  | ring r => ⟨ring (r.emit e), e.seq, none⟩
  | plain r => ⟨plain (r.emit e), e.seq, none⟩
  | multi l n parts =>
    let (parts, fault) := emitAll e parts
    ⟨multi l n parts, e.seq, fault⟩

/-- Records an event in several tracers, up to the first that fails. -/
def emitAll (e : Event) : List Tracer → List Tracer × Option RenderFault
  | [] => ([], none)
  | t :: ts =>
    let r := emit e t
    match r.fault with
    | some f => (r.tracer :: ts, some f)
    | none =>
      let (ts, fault) := emitAll e ts
      (r.tracer :: ts, fault)

end

def nextSpan : Tracer → UInt64 × Tracer
  | nop => (1, nop)
  | plain r => (1, plain r)
  | stream s => (UInt64.ofNat (s.spans + 1), stream { s with spans := s.spans + 1 })
  | ring r => (UInt64.ofNat (r.spans + 1), ring { r with spans := r.spans + 1 })
  | multi l n parts => (UInt64.ofNat (n + 1), multi l (n + 1) parts)

mutual

def sinks : Tracer → List Sink
  | stream s => [s.sink]
  | multi _ _ parts => allSinks parts
  | nop => []
  | ring _ => []
  | plain _ => []

def allSinks : List Tracer → List Sink
  | [] => []
  | t :: ts => sinks t ++ allSinks ts

end

mutual

/-- Makes a call on every sink of the tracer, one after the other, and gives the first failure. The
state `a` goes from one sink to the next. -/
def onSinks {α : Type} (f : α → Sink → α × Sink × Option String) (a : α) :
    Tracer → α × Tracer × Option String
  | stream s =>
    let (a, sink, m) := f a s.sink
    (a, stream { s with sink := sink }, m)
  | multi l n parts =>
    let (a, parts, m) := onAllSinks f a parts
    (a, multi l n parts, m)
  | nop => (a, nop, none)
  | ring r => (a, ring r, none)
  | plain r => (a, plain r, none)

/-- Makes a call on every sink of several tracers and gives the first failure. -/
def onAllSinks {α : Type} (f : α → Sink → α × Sink × Option String) (a : α) :
    List Tracer → α × List Tracer × Option String
  | [] => (a, [], none)
  | t :: ts =>
    let (a, t, m) := onSinks f a t
    let (a, ts, m') := onAllSinks f a ts
    (a, t :: ts, m.or m')

end

def flush (t : Tracer) : Tracer × Option String := (t.onSinks (fun a s => (a, s.flush)) ()).2

def close (t : Tracer) : Tracer × Option String :=
  let close (gone : Bool) (s : Sink) : Bool × Sink × Option String :=
    let (s, m) := s.close gone
    (gone || s.endsErrorChannel, s, m)
  (t.onSinks close (t.sinks.any Sink.endsErrorChannel)).2

mutual

def rings : Tracer → List Ring
  | ring r => [r]
  | plain r => [r]
  | multi _ _ parts => allRings parts
  | nop => []
  | stream _ => []

def allRings : List Tracer → List Ring
  | [] => []
  | t :: ts => rings t ++ allRings ts

end

/-- Brings the files up to date after a step that made `after` out of `before`: each sink writes where
it stopped. -/
def save (before after : Tracer) (d : Folder) : Folder :=
  (before.sinks.zip after.sinks).foldl (fun d e =>
    match e.2.outlet with
    | .file _ l =>
      let new := String.join (e.2.chunks.drop e.1.chunks.length)
      if new.isEmpty then d else d.writeAt l e.1.position new.toUTF8.toList
    | .writer .. | .errorChannel => d) d

end Tracer

/-! ## Tracers from settings -/

inductive Output
  | sink (outlet : Outlet)
  /-- A file; the empty path and a dash stand for the error channel. -/
  | path (path : String)
  deriving DecidableEq, Repr

structure TracerSettings where
  level : Level := .off
  mode : Mode := .stream
  format : Format := .text
  output : Output := .path ""
  /-- The capacity of the ring; the default if it is not positive. -/
  capacity : Int := 0
  deriving Repr

inductive TracerFault
  | unknownMode (mode : Mode)
  | output (fault : FileFault)
  deriving DecidableEq, Repr

def TracerFault.message : TracerFault → String
  | unknownMode m => "unknown storage mode: " ++ m.name
  | output f => "failed to open trace output: " ++ f.message

def Output.outlet (d : Folder) : Output → Except TracerFault (Outlet × Folder)
  | sink o => .ok (o, d)
  | path p =>
    if p = "" || p = "-" then .ok (.errorChannel, d)
    else
      match d.create p with
      | .ok (l, d) => .ok (.file p l, d)
      | .error f => .error (.output f)

/-- The tracer that some settings ask for, and the folder with its file. -/
def TracerSettings.tracer (d : Folder) (s : TracerSettings) :
    Except TracerFault (Tracer × Folder) :=
  let stream (o : Outlet) : Tracer :=
    .stream { sink := { outlet := o }, level := s.level, format := s.format }
  let ring : Tracer := .ring (.new s.capacity s.level)
  if s.level = .off then .ok (.nop, d)
  else
    match s.mode with
    | .stream => do
      let (o, d) ← s.output.outlet d
      return (stream o, d)
    | .ring => .ok (ring, d)
    | .both => do
      let (o, d) ← s.output.outlet d
      return (.multi s.level 0 [stream o, ring], d)
    | m => .error (.unknownMode m)

end StraightLine.Trace
