import StraightLine.Trace.Tracer

/-! Spans: stretches of work with a beginning and an end. A span that its tracer did not let through is
idle, and nothing done with it shows. -/

namespace StraightLine.Trace

structure Span where
  /-- The tracer let the span through. -/
  live : Bool
  id : UInt64 := 0
  parent : UInt64 := 0
  scope : Scope := 0
  name : String := ""
  /-- The texts that the end of the span will carry. -/
  extra : Extra := []
  deriving DecidableEq, Repr

namespace Span

def idle : Span := { live := false }

def withExtra (s : Span) (key value : String) : Span :=
  if s.live then { s with extra := s.extra.put key value } else s

end Span

namespace Tracer

def passes (t : Tracer) (scope : Scope) : Bool := t.enabled && t.level.emits scope

def beginSpan (t : Tracer) (time : Timestamp) (scope : Scope) (name : String) (parent : UInt64) :
    Span × Tracer × Option RenderFault :=
  if t.passes scope then
    let (id, t) := t.nextSpan
    let r := t.emit
      { time := time, kind := .spanBegin, scope := scope, span := id, parent := parent, name := name }
    ({ live := true, id := id, parent := parent, scope := scope, name := name }, r.tracer, r.fault)
  else (.idle, t, none)

/-- Ends a span. A span can be ended again, and then has another end. -/
def endSpan (t : Tracer) (time : Timestamp) (s : Span) (detail : String) :
    Tracer × Option RenderFault :=
  if s.live then
    let r := t.emit
      { time := time, kind := .spanEnd, scope := s.scope, span := s.id, parent := s.parent,
        name := s.name, detail := detail, extra := s.extra }
    (r.tracer, r.fault)
  else (t, none)

def point (t : Tracer) (time : Timestamp) (scope : Scope) (name : String) (parent : UInt64)
    (detail : String) (extra : Extra) : Tracer × Option RenderFault :=
  if t.passes scope then
    let r := t.emit
      { time := time, kind := .point, scope := scope, parent := parent, name := name,
        detail := detail, extra := extra }
    (r.tracer, r.fault)
  else (t, none)

end Tracer

end StraightLine.Trace
