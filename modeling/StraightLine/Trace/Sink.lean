import StraightLine.Folder

/-! Sinks: what a stream of events is written to. A sink keeps what was written to it and which calls it
received, so that a session can be looked at from outside. -/

namespace StraightLine.Trace

/-- What a call on a sink comes to. -/
inductive Action
  /-- The sink does not offer the call. -/
  | absent
  | works
  | fails (message : String)
  deriving DecidableEq, Repr

/-- What a sink is. -/
inductive Outlet
  /-- A writer that accepts writes or refuses them all, and may offer to flush and to close. -/
  | writer (accepts : Bool) (flush close : Action)
  /-- A file that was opened by its path, and its place. It can be closed once. -/
  | file (path : String) (place : Place)
  /-- The error channel, which takes everything and shows nothing here. All its sinks are closed with
  the first. -/
  | errorChannel
  deriving DecidableEq, Repr

inductive Call
  | flush
  | close
  deriving DecidableEq, Repr

def Call.name : Call → String
  | flush => "flush"
  | close => "close"

structure Sink where
  outlet : Outlet
  /-- What was written, one piece per write. -/
  chunks : List String := []
  /-- The calls received. -/
  calls : List Call := []
  /-- A file or the error channel was closed through this sink. -/
  closed : Bool := false
  deriving DecidableEq, Repr

namespace Sink

def contents (s : Sink) : String := String.join s.chunks

def position (s : Sink) : Nat := (s.chunks.map String.utf8ByteSize).foldl (· + ·) 0

/-- Writes a piece. A refused write is lost without a trace. -/
def write (s : Sink) (chunk : String) : Sink :=
  match s.outlet with
  | .writer accepts _ _ => if accepts then { s with chunks := s.chunks ++ [chunk] } else s
  | .file .. | .errorChannel => if s.closed then s else { s with chunks := s.chunks ++ [chunk] }

/-- Makes a call that the sink may offer. -/
def call (s : Sink) (c : Call) : Action → Sink × Option String
  | .absent => (s, none)
  | .works => ({ s with calls := s.calls ++ [c] }, none)
  | .fails m => ({ s with calls := s.calls ++ [c] }, some m)

def flush (s : Sink) : Sink × Option String :=
  match s.outlet with
  | .writer _ f _ => s.call .flush f
  | .file .. | .errorChannel => (s, none)

/-- The error channel was closed through this sink. -/
def endsErrorChannel (s : Sink) : Bool := s.outlet = .errorChannel && s.closed

/-- Closes what can be closed once. -/
def closeOnce (s : Sink) (path : String) (already : Bool) : Sink × Option String :=
  if already then (s, some (FileFault.alreadyClosed path).message)
  else ({ s with closed := true }, none)

/-- Releases the sink if it can be released. `gone` says that the error channel is closed. -/
def release (s : Sink) (gone : Bool) : Sink × Option String :=
  match s.outlet with
  | .writer _ _ c => s.call .close c
  | .file path _ => s.closeOnce path s.closed
  | .errorChannel => s.closeOnce "/dev/stderr" gone

/-- Flushes the sink and, if that works, releases it. -/
def close (s : Sink) (gone : Bool) : Sink × Option String :=
  match s.flush with
  | (s, some m) => (s, some m)
  | (s, none) => s.release gone

end Sink

end StraightLine.Trace
