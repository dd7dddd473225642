import StraightLine.Proofs.RingContents
import StraightLine.Trace.Span

/-! What a tracer holds after events one after the other. A tracer that follows a sequence of events
records those that its level lets through, and takes a number for each span that begins among them. A
fresh ring holds the last of them under the numbers 1, 2 and so on, and a fresh stream has written a
line for each. Spans and points come down to following one more event. -/

namespace StraightLine.Trace

def Event.begins (e : Event) : Bool := e.kind = .spanBegin

/-- Numbers that events had before leave no trace. -/
theorem numbered_filter_numbered (p : Scope → Bool) (es : List Event) :
    numbered ((numbered es).filter fun e => p e.scope) = numbered (es.filter fun e => p e.scope) := by
  induction es using List.reverseRecOn with
  | nil => rfl
  | append_singleton es e ih =>
    have hlen : ((numbered es).filter fun e => p e.scope).length =
        (es.filter fun e => p e.scope).length := by
      rw [← length_numbered, ih, length_numbered]
    rw [numbered_concat, List.filter_append, List.filter_append]
    cases hp : p e.scope with
    | false =>
      rw [List.filter_cons_of_neg (by simp [hp]), List.filter_cons_of_neg (by simp [hp]),
        List.filter_nil, List.append_nil, List.append_nil, ih]
    | true =>
      rw [List.filter_cons_of_pos (by simp [hp]), List.filter_cons_of_pos (by simp [hp]),
        List.filter_nil, numbered_concat, numbered_concat, ih, hlen]

/-! ## Levels and the numbers of spans -/

/-- A level that lets a scope through lets the wider ones through. -/
theorem Level.emits_of_le {l : Level} {s s' : Scope} (hle : s ≤ s') (h : l.emits s' = true) :
    l.emits s = true := by
  cases l with
  | phase =>
    simp only [emits, decide_eq_true_eq] at h ⊢
    exact UInt8.le_trans hle h
  | detail =>
    simp only [emits, decide_eq_true_eq] at h ⊢
    exact UInt8.le_trans hle h
  | debug => rfl
  | off => cases h
  | error => cases h
  | other code => cases h

namespace Span

def seenAt (l : Level) (s : Span) : Span := if l.emits s.scope then s else .idle

theorem seenAt_of_emits {l : Level} {s : Span} (h : l.emits s.scope = true) : s.seenAt l = s :=
  if_pos h

/-- Texts are put on a span that is seen, and on others without effect. -/
theorem withExtra_seenAt (l : Level) {s : Span} (hlive : s.live = true) (key value : String) :
    (s.seenAt l).withExtra key value = seenAt l { s with extra := s.extra.put key value } := by
  cases h : l.emits s.scope with
  | false => simp [seenAt, h, withExtra, idle]
  | true => simp [seenAt, h, withExtra, hlive]

def beginEvent (s : Span) (time : Timestamp) : Event :=
  { time := time, kind := .spanBegin, scope := s.scope, span := s.id, parent := s.parent,
    name := s.name }

def endEvent (s : Span) (time : Timestamp) (detail : String) : Event :=
  { time := time, kind := .spanEnd, scope := s.scope, span := s.id, parent := s.parent,
    name := s.name, detail := detail, extra := s.extra }

end Span

namespace Tracer

/-- A level that is off lets nothing through, so that it need not be asked whether it is on. -/
theorem passes_eq (t : Tracer) (scope : Scope) : t.passes scope = t.level.emits scope := by
  rw [passes, enabled]
  cases t.level <;> rfl

/-- The number of the `n`th span that begins from here on. -/
def spanNumber (t : Tracer) (n : Nat) : UInt64 :=
  match t with
  | nop | plain _ => 1
  | stream s => UInt64.ofNat (s.spans + n)
  | ring r => UInt64.ofNat (r.spans + n)
  | multi _ k _ => UInt64.ofNat (k + n)

theorem nextSpan_fst (t : Tracer) : t.nextSpan.1 = t.spanNumber 1 := by
  cases t <;> rfl

theorem spanNumber_nextSpan (t : Tracer) (n : Nat) :
    t.nextSpan.2.spanNumber n = t.spanNumber (n + 1) := by
  cases t <;> simp only [nextSpan, spanNumber, Nat.add_assoc, Nat.add_comm 1 n]

theorem level_nextSpan (t : Tracer) : t.nextSpan.2.level = t.level := by
  cases t <;> rfl

theorem spanNumber_emit (e : Event) (t : Tracer) (n : Nat) :
    (emit e t).tracer.spanNumber n = t.spanNumber n := by
  cases t with
  | nop => rfl
  | plain r => rfl
  | multi l k parts => rfl
  | stream s =>
    simp only [emit, spanNumber, Stream.emit]
    split
    · split <;> rfl
    · rfl
  | ring r =>
    simp only [emit, spanNumber, Ring.emit]
    split <;> rfl

theorem level_emit (e : Event) (t : Tracer) : (emit e t).tracer.level = t.level := by
  cases t with
  | nop => rfl
  | multi l k parts => rfl
  | stream s =>
    simp only [emit, level, Stream.emit]
    split
    · split <;> rfl
    · rfl
  | plain r =>
    simp only [emit, level, Ring.emit]
    split <;> rfl
  | ring r =>
    simp only [emit, level, Ring.emit]
    split <;> rfl

/-! ## Events, spans and points -/

/-- The tracer with an event recorded. If a span begins there, its number is taken. -/
def record (t : Tracer) (e : Event) : Tracer :=
  (emit e (if e.begins then t.nextSpan.2 else t)).tracer

/-- The tracer after a sequence of events, of which it records those that its level lets through. -/
def follow (t : Tracer) (es : List Event) : Tracer :=
  (es.filter fun e => t.level.emits e.scope).foldl record t

theorem level_record (t : Tracer) (e : Event) : (t.record e).level = t.level := by
  rw [record, level_emit]
  split
  · exact level_nextSpan t
  · rfl

theorem spanNumber_record (t : Tracer) (e : Event) (n : Nat) :
    (t.record e).spanNumber n = t.spanNumber (n + if e.begins then 1 else 0) := by
  rw [record, spanNumber_emit]
  split
  · exact spanNumber_nextSpan t n
  · rfl

theorem level_foldl_record (t : Tracer) (es : List Event) :
    (es.foldl record t).level = t.level := by
  induction es generalizing t with
  | nil => rfl
  | cons e es ih => rw [List.foldl_cons, ih, level_record]

theorem spanNumber_foldl_record (t : Tracer) (es : List Event) (n : Nat) :
    (es.foldl record t).spanNumber n = t.spanNumber (n + es.countP Event.begins) := by
  induction es generalizing t with
  | nil => rfl
  | cons e es ih =>
    rw [List.foldl_cons, ih, spanNumber_record, List.countP_cons, Nat.add_assoc]

theorem level_follow (t : Tracer) (es : List Event) : (t.follow es).level = t.level :=
  level_foldl_record t _

section

variable {t : Tracer} {es : List Event} {e : Event}

theorem follow_concat (h : t.level.emits e.scope = true) :
    t.follow (es ++ [e]) = (t.follow es).record e := by
  rw [follow, List.filter_append, List.filter_cons_of_pos (by simp [h]), List.filter_nil,
    List.foldl_append, List.foldl_cons, List.foldl_nil, follow]

theorem follow_concat_of_hidden (h : t.level.emits e.scope = false) :
    t.follow (es ++ [e]) = t.follow es := by
  rw [follow, List.filter_append, List.filter_cons_of_neg (by simp [h]), List.filter_nil,
    List.append_nil, follow]

/-- Where a scope is let through and no span of a narrower scope began, every span has its number. -/
theorem spanNumber_follow {scope : Scope} (h : t.level.emits scope = true)
    (hes : ∀ e ∈ es, e.begins = true → e.scope ≤ scope) (n : Nat) :
    (t.follow es).spanNumber n = t.spanNumber (n + es.countP Event.begins) := by
  rw [follow, spanNumber_foldl_record, List.countP_filter]
  congr 2
  refine List.countP_congr fun e he => ?_
  simp only [Bool.and_eq_true, and_iff_left_iff_imp]
  exact fun hb => Level.emits_of_le (hes e he hb) h

end

section

variable (t : Tracer) (es : List Event) (time : Timestamp) (scope : Scope) (name : String)
  {parent above : UInt64}

/-- The parent matters only if the span is let through. -/
theorem beginSpan_follow (hes : ∀ e ∈ es, e.begins = true → e.scope ≤ scope)
    (hparent : t.level.emits scope = true → parent = above) :
    let s : Span := { live := true, id := t.spanNumber (es.countP Event.begins + 1), parent := above,
                      scope := scope, name := name }
    let r := (t.follow es).beginSpan time scope name parent
    r.1 = s.seenAt t.level ∧ r.2.1 = t.follow (es ++ [s.beginEvent time]) := by
  intro s r
  cases h : t.level.emits scope with
  | false =>
    rw [follow_concat_of_hidden h]
    simp [r, s, beginSpan, passes_eq, level_follow, Span.seenAt, h]
  | true =>
    have hid : (t.follow es).nextSpan.1 = s.id := by
      rw [nextSpan_fst, spanNumber_follow h hes, Nat.add_comm 1]
    rw [follow_concat h, record]
    simp [r, s, beginSpan, passes_eq, level_follow, Span.seenAt, h, hid, hparent h, Event.begins,
      Span.beginEvent]

theorem endSpan_follow {s : Span} (hlive : s.live = true) (detail : String) :
    ((t.follow es).endSpan time (s.seenAt t.level) detail).1 =
      t.follow (es ++ [s.endEvent time detail]) := by
  cases h : t.level.emits s.scope with
  | false =>
    rw [follow_concat_of_hidden h]
    simp [endSpan, Span.seenAt, h, Span.idle]
  | true =>
    rw [follow_concat h, record]
    simp [endSpan, Span.seenAt, h, hlive, Event.begins, Span.endEvent]

theorem point_follow (hparent : t.level.emits scope = true → parent = above) (detail : String)
    (extra : Extra) :
    let e : Event := { time := time, kind := .point, scope := scope, parent := above, name := name,
                       detail := detail, extra := extra }
    ((t.follow es).point time scope name parent detail extra).1 = t.follow (es ++ [e]) := by
  intro e
  cases h : t.level.emits scope with
  | false =>
    rw [follow_concat_of_hidden h]
    simp [point, passes_eq, level_follow, h]
  | true =>
    rw [follow_concat h, record]
    simp [e, point, passes_eq, level_follow, h, hparent h, Event.begins]

end

end Tracer

/-! ## Streams -/

/-- The outlet takes what is written to it. -/
def Outlet.accepts : Outlet → Bool
  | .writer accepts _ _ => accepts
  | .file .. | .errorChannel => true

/-- The sink keeps what is written to it. -/
def Sink.Takes (s : Sink) : Prop := s.outlet.accepts = true ∧ s.closed = false

theorem Sink.Takes.write_eq {s : Sink} (h : s.Takes) (chunk : String) :
    s.write chunk = { s with chunks := s.chunks ++ [chunk] } := by
  obtain ⟨haccepts, hopen⟩ := h
  cases houtlet : s.outlet with
  | writer accepts flush close =>
    rw [houtlet] at haccepts
    simp only [write, houtlet, show accepts = true from haccepts, if_true]
  | file path place => simp only [write, houtlet, hopen, Bool.false_eq_true, if_false]
  | errorChannel => simp only [write, houtlet, hopen, Bool.false_eq_true, if_false]

/-- An event with a scope can be rendered. -/
theorem Event.exists_render (f : Format) {e : Event} (h : e.scope ≠ 0) :
    ∃ line, e.render f = .ok line := by
  cases f with
  | ndjson => exact ⟨_, rfl⟩
  | text => exact ⟨_, by rw [render, textLine, if_neg h]⟩

namespace Stream

def write (s : Stream) (e : Event) : Stream := (s.emit e).1

def withSpans (s : Stream) (n : Nat) : Stream := { s with spans := n }

/-- The stream has written a line for each of the events, under its number, to a sink that keeps what it
gets. -/
structure Wrote (s : Stream) (es : List Event) : Prop where
  takes : s.sink.Takes
  count : s.count = es.length
  lines : (numbered es).mapM (Event.render s.format) = .ok s.sink.chunks

section

variable {s : Stream} {es : List Event} {e : Event}

theorem emit_of_hidden (he : s.level.emits e.scope = false) : s.emit e = (s, e.seq, none) := by
  rw [emit, he, if_neg Bool.false_ne_true]

/-- An event that is let through and can be rendered is written without a fault. -/
theorem emit_of_render {line : String} (he : s.level.emits e.scope = true)
    (hline : Event.render s.format { e with seq := UInt64.ofNat (s.count + 1) } = .ok line) :
    s.emit e = ({ s with count := s.count + 1, sink := s.sink.write line },
      UInt64.ofNat (s.count + 1), none) := by
  rw [emit, if_pos he]
  simp only [hline]

theorem fault_emit (hscope : e.scope ≠ 0) : (s.emit e).2.2 = none := by
  cases he : s.level.emits e.scope with
  | false => rw [emit_of_hidden he]
  | true =>
    obtain ⟨line, hline⟩ := Event.exists_render s.format
      (e := { e with seq := UInt64.ofNat (s.count + 1) }) hscope
    rw [emit_of_render he hline]

theorem level_write (s : Stream) (e : Event) : (s.write e).level = s.level := by
  simp only [write, emit]
  split
  · split <;> rfl
  · rfl

theorem format_write (s : Stream) (e : Event) : (s.write e).format = s.format := by
  simp only [write, emit]
  split
  · split <;> rfl
  · rfl

theorem spans_write (s : Stream) (e : Event) : (s.write e).spans = s.spans := by
  simp only [write, emit]
  split
  · split <;> rfl
  · rfl

theorem Wrote.withSpans (h : s.Wrote es) (n : Nat) : (s.withSpans n).Wrote es :=
  ⟨h.takes, h.count, h.lines⟩

/-- An event that is let through is one line more. -/
theorem Wrote.write (h : s.Wrote es) (he : s.level.emits e.scope = true) (hscope : e.scope ≠ 0) :
    (s.write e).Wrote (es ++ [e]) := by
  obtain ⟨line, hline⟩ := Event.exists_render s.format
    (e := { e with seq := UInt64.ofNat (s.count + 1) }) hscope
  rw [Stream.write, emit_of_render he hline, h.takes.write_eq]
  refine ⟨h.takes, ?_, ?_⟩
  · simp only [h.count, List.length_append, List.length_singleton]
  · rw [h.count] at hline
    rw [numbered_concat, List.mapM_append, h.lines]
    simp only [List.mapM_cons, List.mapM_nil, hline, bind, Except.bind, pure, Except.pure]

end

/-- A stream that has written nothing yet has, after any events with scopes, a line for each of those that
its level lets through. -/
theorem wrote_foldl_write {s : Stream} (h : s.Wrote []) {es : List Event}
    (hscopes : ∀ e ∈ es, e.scope ≠ 0) :
    (es.foldl write s).level = s.level ∧ (es.foldl write s).format = s.format ∧
      (es.foldl write s).Wrote (es.filter fun e => s.level.emits e.scope) := by
  induction es using List.reverseRecOn with
  | nil => exact ⟨rfl, rfl, h⟩
  | append_singleton es e ih =>
    obtain ⟨hlevel, hformat, hwrote⟩ := ih fun e he => hscopes e (List.mem_append_left _ he)
    rw [List.foldl_append, List.foldl_cons, List.foldl_nil, level_write, format_write,
      List.filter_append]
    refine ⟨hlevel, hformat, ?_⟩
    cases he : s.level.emits e.scope with
    | false =>
      rw [List.filter_cons_of_neg (by simp [he]), List.filter_nil, List.append_nil, write,
        emit_of_hidden (hlevel ▸ he)]
      exact hwrote
    | true =>
      rw [List.filter_cons_of_pos (by simp [he]), List.filter_nil]
      exact hwrote.write (hlevel ▸ he)
        (hscopes e (List.mem_append_right _ (List.mem_singleton_self e)))

end Stream

/-! ## Rings and streams that number spans -/

theorem Ring.emit_withSpans (r : Ring) (n : Nat) (e : Event) :
    (r.withSpans n).emit e = (r.emit e).withSpans n := by
  cases he : r.level.emits e.scope with
  | false => rw [emit_of_hidden he, emit_of_hidden (r := r.withSpans n) he]
  | true =>
    have he' : (r.withSpans n).level.emits e.scope = true := he
    rw [emit, emit, if_pos he, if_pos he']
    rfl

/-- A ring that follows events records them, and hands out numbers besides. -/
theorem Ring.foldl_record (r : Ring) (es : List Event) :
    ∃ n, es.foldl Tracer.record (.ring r) = .ring ((es.foldl emit r).withSpans n) := by
  induction es using List.reverseRecOn with
  | nil => exact ⟨r.spans, rfl⟩
  | append_singleton es e ih =>
    obtain ⟨n, hn⟩ := ih
    rw [List.foldl_append, List.foldl_append, hn, List.foldl_cons, List.foldl_cons, List.foldl_nil,
      List.foldl_nil, Tracer.record]
    split
    · exact ⟨n + 1, congrArg Tracer.ring (emit_withSpans (es.foldl emit r) (n + 1) e)⟩
    · exact ⟨n, congrArg Tracer.ring (emit_withSpans (es.foldl emit r) n e)⟩

/-- A ring that holds nothing yet holds the events that it follows, under their numbers. -/
theorem Ring.holds_foldl_record {r : Ring} (h : r.Holds []) {es : List Event}
    (hes : ∀ e ∈ es, r.level.emits e.scope = true) :
    ∃ q : Ring, es.foldl Tracer.record (.ring r) = .ring q ∧ q.capacity = r.capacity ∧
      q.Holds (numbered es) := by
  obtain ⟨n, hn⟩ := r.foldl_record es
  obtain ⟨-, hcapacity, hholds⟩ := holds_foldl_emit h es
  rw [List.filter_eq_self.mpr hes] at hholds
  exact ⟨_, hn, hcapacity, hholds.withSpans n⟩

theorem Stream.write_withSpans (s : Stream) (n : Nat) (e : Event) :
    (s.withSpans n).write e = (s.write e).withSpans n := by
  cases he : s.level.emits e.scope with
  | false => simp only [write, withSpans, emit, he, Bool.false_eq_true, if_false]
  | true =>
    simp only [write, withSpans, emit, he, if_true]
    cases Event.render s.format { e with seq := UInt64.ofNat (s.count + 1) } <;> rfl

/-- A stream that follows events records them, and hands out numbers besides. -/
theorem Stream.foldl_record (s : Stream) (es : List Event) :
    ∃ n, es.foldl Tracer.record (.stream s) = .stream ((es.foldl write s).withSpans n) := by
  induction es using List.reverseRecOn with
  | nil => exact ⟨s.spans, rfl⟩
  | append_singleton es e ih =>
    obtain ⟨n, hn⟩ := ih
    rw [List.foldl_append, List.foldl_append, hn, List.foldl_cons, List.foldl_cons, List.foldl_nil,
      List.foldl_nil, Tracer.record]
    split
    · exact ⟨n + 1, congrArg Tracer.stream (write_withSpans (es.foldl write s) (n + 1) e)⟩
    · exact ⟨n, congrArg Tracer.stream (write_withSpans (es.foldl write s) n e)⟩

/-- A stream that has written nothing yet writes a line for each event that it follows. -/
theorem Stream.wrote_foldl_record {s : Stream} (h : s.Wrote []) {es : List Event}
    (hes : ∀ e ∈ es, s.level.emits e.scope = true) (hscopes : ∀ e ∈ es, e.scope ≠ 0) :
    ∃ q : Stream, es.foldl Tracer.record (.stream s) = .stream q ∧ q.format = s.format ∧
      q.Wrote es := by
  obtain ⟨n, hn⟩ := s.foldl_record es
  obtain ⟨-, hformat, hwrote⟩ := wrote_foldl_write h hscopes
  rw [List.filter_eq_self.mpr hes] at hwrote
  exact ⟨_, hn, hformat, hwrote.withSpans n⟩

end StraightLine.Trace
