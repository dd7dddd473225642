import StraightLine.Proofs.Fallible
import StraightLine.Proofs.Recording

/-! A stream and a ring that record together. Their tracer passes each event to both and hands out the
numbers of the spans itself; each part numbers the events on its own. Whatever is called, both have
recorded the same events under the same numbers, so the dump of the ring is the end of what the stream has
written. -/

namespace StraightLine.Trace

/-- A call of someone who records spans and points. Spans are meant by their positions among those begun
so far; a position behind the last one means no span, and nothing comes of it. -/
inductive SpanCall
  | begin (time : Timestamp) (scope : Scope) (name : String) (parent : UInt64)
  | extra (span : Nat) (key value : String)
  | finish (time : Timestamp) (span : Nat) (detail : String)
  | point (time : Timestamp) (scope : Scope) (name : String) (parent : UInt64) (detail : String)
      (extra : Extra)

/-- The scope of the call, if it has one, is above zero. -/
def SpanCall.Scoped : SpanCall → Prop
  | .begin _ scope _ _ | .point _ scope .. => scope ≠ 0
  | .extra .. | .finish .. => True

/-- Someone who records, with the spans begun so far. -/
structure Client where
  tracer : Tracer
  spans : List Span := []

namespace Client

def spanAt (spans : List Span) (i : Nat) : Span := spans[i]?.getD .idle

/-- Makes a call. An event that cannot be rendered is a failure. -/
def perform (c : Client) : SpanCall → Except RenderFault Client
  | .begin time scope name parent =>
    match c.tracer.beginSpan time scope name parent with
    | (_, _, some f) => .error f
    | (span, tracer, none) => .ok ⟨tracer, c.spans ++ [span]⟩
  | .extra i key value => .ok { c with spans := c.spans.modify i (·.withExtra key value) }
  | .finish time i detail =>
    match c.tracer.endSpan time (spanAt c.spans i) detail with
    | (_, some f) => .error f
    | (tracer, none) => .ok { c with tracer := tracer }
  | .point time scope name parent detail extra =>
    match c.tracer.point time scope name parent detail extra with
    | (_, some f) => .error f
    | (tracer, none) => .ok { c with tracer := tracer }

def performAll (c : Client) (calls : List SpanCall) : Except RenderFault Client :=
  calls.foldlM perform c

end Client

/-! ## What the calls mean -/

/-- The spans and events that some calls stand for. -/
structure Account where
  /-- The spans begun. -/
  spans : List Span := []
  /-- The events let through. -/
  events : List Event := []

namespace Account

def live (a : Account) : Nat := a.spans.countP (·.live)

/-- The numbers of the spans let through, in the order in which they began. -/
def ids (a : Account) : List UInt64 := (a.spans.filter (·.live)).map (·.id)

/-- Takes a call into account, at a level. A span that is let through gets the next number. -/
def add (level : Level) (a : Account) : SpanCall → Account
  | .begin time scope name parent =>
    let s : Span := { live := true, id := UInt64.ofNat (a.live + 1), parent, scope, name }
    if level.emits scope then ⟨a.spans ++ [s], a.events ++ [s.beginEvent time]⟩
    else { a with spans := a.spans ++ [.idle] }
  | .extra i key value => { a with spans := a.spans.modify i (·.withExtra key value) }
  | .finish time i detail =>
    let s := Client.spanAt a.spans i
    if s.live then { a with events := a.events ++ [s.endEvent time detail] } else a
  | .point time scope name parent detail extra =>
    if level.emits scope then
      { a with events := a.events ++ [{ time, kind := .point, scope, parent, name, detail, extra }] }
    else a

def after (level : Level) (calls : List SpanCall) : Account := calls.foldl (add level) {}

end Account

/-! ## An account adds up -/

theorem map_modify_of_eq {α β : Type} {f : α → α} {g : α → β} (h : ∀ x, g (f x) = g x) (xs : List α)
    (i : Nat) : (xs.modify i f).map g = xs.map g := by
  refine List.ext_getElem? fun j => ?_
  rw [List.getElem?_map, List.getElem?_modify, List.getElem?_map]
  cases xs[j]? with
  | none => rfl
  | some x =>
    by_cases hij : i = j
    · simp [hij, h]
    · simp [hij]

def Span.bare (s : Span) : Span := { s with extra := [] }

theorem Span.bare_withExtra (s : Span) (key value : String) :
    (s.withExtra key value).bare = s.bare := by
  rw [withExtra]
  split <;> rfl

namespace Account

/-- Spans and events are let through only if they have scopes that the level lets through; spans are
numbered in order; and where a span begins or ends, the event has the number of one of them. -/
structure Sound (level : Level) (a : Account) : Prop where
  spans_pass : ∀ s ∈ a.spans, s.live = true → s.scope ≠ 0 ∧ level.emits s.scope = true
  events_pass : ∀ e ∈ a.events, e.scope ≠ 0 ∧ level.emits e.scope = true
  in_order : a.ids = (List.range' 1 a.live).map UInt64.ofNat
  owned : ∀ e ∈ a.events, e.kind ≠ .point → e.span ∈ a.ids

theorem live_eq (a : Account) : a.live = (a.spans.map Span.bare).countP (·.live) := by
  rw [live, List.countP_map]
  rfl

theorem ids_eq (a : Account) : a.ids = ((a.spans.map Span.bare).filter (·.live)).map (·.id) := by
  rw [ids, List.filter_map, List.map_map]
  rfl

/-- One span more, which counts if it was let through. -/
theorem live_concat (a : Account) (s : Span) (es : List Event) :
    live ⟨a.spans ++ [s], es⟩ = a.live + if s.live then 1 else 0 := by
  simp [live, List.countP_append, List.countP_cons]

section

variable {level : Level} {a : Account}

theorem sound_empty (level : Level) : Sound level {} :=
  ⟨nofun, nofun, rfl, nofun⟩

/-- The texts of spans have no part in it. -/
theorem Sound.congr (h : a.Sound level) {spans : List Span}
    (hbare : spans.map Span.bare = a.spans.map Span.bare) : Sound level { a with spans := spans } := by
  have hlive : live { a with spans := spans } = a.live := by rw [live_eq, live_eq, hbare]
  have hids : ids { a with spans := spans } = a.ids := by rw [ids_eq, ids_eq, hbare]
  refine ⟨fun s hs hl => ?_, h.events_pass, ?_, fun e he hk => ?_⟩
  · have hmem : s.bare ∈ a.spans.map Span.bare := hbare ▸ List.mem_map_of_mem hs
    obtain ⟨t, ht, heq⟩ := List.mem_map.mp hmem
    have htl : t.live = true := (congrArg Span.live heq).trans hl
    exact congrArg Span.scope heq ▸ h.spans_pass t ht htl
  · rw [hids, hlive, h.in_order]
  · rw [hids]
    exact h.owned e he hk

theorem Sound.add_event (h : a.Sound level) {e : Event}
    (hpass : e.scope ≠ 0 ∧ level.emits e.scope = true) (howned : e.kind ≠ .point → e.span ∈ a.ids) :
    Sound level { a with events := a.events ++ [e] } where
  spans_pass := h.spans_pass
  events_pass f hf := by
    obtain hf | hf := List.mem_append.mp hf
    · exact h.events_pass f hf
    · exact List.mem_singleton.mp hf ▸ hpass
  in_order := h.in_order
  owned f hf hk := by
    obtain hf | hf := List.mem_append.mp hf
    · exact h.owned f hf hk
    · obtain rfl := List.mem_singleton.mp hf
      exact howned hk

theorem Sound.add_idle (h : a.Sound level) : Sound level { a with spans := a.spans ++ [.idle] } := by
  have hlive : live { a with spans := a.spans ++ [.idle] } = a.live := live_concat a .idle a.events
  have hids : ids { a with spans := a.spans ++ [.idle] } = a.ids := by
    simp [ids, List.filter_append, Span.idle]
  refine ⟨fun s hs hl => ?_, h.events_pass, ?_, fun e he hk => ?_⟩
  · obtain hs | hs := List.mem_append.mp hs
    · exact h.spans_pass s hs hl
    · obtain rfl := List.mem_singleton.mp hs
      cases hl
  · rw [hids, hlive, h.in_order]
  · rw [hids]
    exact h.owned e he hk

theorem Sound.add_span (h : a.Sound level) {s : Span} (hl : s.live = true)
    (hid : s.id = UInt64.ofNat (a.live + 1)) (hpass : s.scope ≠ 0 ∧ level.emits s.scope = true) :
    Sound level { a with spans := a.spans ++ [s] } := by
  have hlive : live { a with spans := a.spans ++ [s] } = a.live + 1 := by
    rw [live_concat, if_pos hl]
  have hids : ids { a with spans := a.spans ++ [s] } = a.ids ++ [s.id] := by
    simp [ids, List.filter_append, hl]
  refine ⟨fun t ht htl => ?_, h.events_pass, ?_, fun e he hk => ?_⟩
  · obtain ht | ht := List.mem_append.mp ht
    · exact h.spans_pass t ht htl
    · exact List.mem_singleton.mp ht ▸ hpass
  · rw [hids, hlive, h.in_order, List.range'_concat, List.map_append, List.map_singleton, hid,
      Nat.one_mul, Nat.add_comm 1]
  · rw [hids]
    exact List.mem_append_left _ (h.owned e he hk)

theorem mem_ids {s : Span} (hs : s ∈ a.spans) (hl : s.live = true) : s.id ∈ a.ids :=
  List.mem_map_of_mem (List.mem_filter.mpr ⟨hs, hl⟩)

/-- A position that means a live span is that of a span begun. -/
theorem mem_of_live_spanAt {spans : List Span} {i : Nat} (hl : (Client.spanAt spans i).live = true) :
    Client.spanAt spans i ∈ spans := by
  unfold Client.spanAt at hl ⊢
  cases hi : spans[i]? with
  | none => rw [hi] at hl; cases hl
  | some s => exact List.mem_of_getElem? hi

theorem Sound.add (h : a.Sound level) {c : SpanCall} (hc : c.Scoped) : (a.add level c).Sound level := by
  cases c with
  | begin time scope name parent =>
    simp only [Account.add]
    split
    · rename_i hemits
      have hpass : scope ≠ 0 ∧ level.emits scope = true := ⟨hc, hemits⟩
      let s : Span := { live := true, id := UInt64.ofNat (a.live + 1), parent, scope, name }
      have hmem : s ∈ a.spans ++ [s] := List.mem_append_right _ (List.mem_singleton_self s)
      exact (h.add_span (s := s) rfl rfl hpass).add_event (e := s.beginEvent time) hpass fun _ =>
        mem_ids (a := { a with spans := a.spans ++ [s] }) hmem rfl
    · exact h.add_idle
  | extra i key value =>
    exact h.congr (map_modify_of_eq (fun s => s.bare_withExtra key value) a.spans i)
  | finish time i detail =>
    simp only [Account.add]
    split
    · rename_i hl
      have hmem := mem_of_live_spanAt hl
      exact h.add_event (h.spans_pass _ hmem hl) fun _ => mem_ids hmem hl
    · exact h
  | point time scope name parent detail extra =>
    simp only [Account.add]
    split
    · rename_i hemits
      exact h.add_event ⟨hc, hemits⟩ fun hk => absurd rfl hk
    · exact h

theorem sound_foldl_add (h : a.Sound level) {calls : List SpanCall} (hc : ∀ c ∈ calls, c.Scoped) :
    (calls.foldl (Account.add level) a).Sound level := by
  induction calls generalizing a with
  | nil => exact h
  | cons c calls ih =>
    exact ih (h.add (hc c List.mem_cons_self)) fun d hd => hc d (List.mem_cons_of_mem _ hd)

end

end Account

/-! ## Both parts follow the account -/

/-- An event with a scope goes to both parts. -/
theorem Tracer.emit_both {level : Level} {n : Nat} {s : Stream} {r : Ring} {e : Event}
    (hscope : e.scope ≠ 0) : emit e (.multi level n [.stream s, .ring r]) =
      ⟨.multi level n [.stream (s.write e), .ring (r.emit e)], e.seq, none⟩ := by
  have hfault : (s.emit e).2.2 = none := Stream.fault_emit hscope
  simp only [emit, emitAll, hfault, Stream.write]

namespace Account

/-- The tracer over a stream and a ring that have recorded the events of the account. -/
def tracer (level : Level) (s : Stream) (r : Ring) (a : Account) : Tracer :=
  .multi level a.live [.stream (a.events.foldl Stream.write s), .ring (a.events.foldl Ring.emit r)]

section

variable {level : Level} {s : Stream} {r : Ring} {a : Account}

theorem emit_tracer {e : Event} (hscope : e.scope ≠ 0) (n : Nat) :
    Tracer.emit e (.multi level n [.stream (a.events.foldl Stream.write s),
        .ring (a.events.foldl Ring.emit r)]) =
      ⟨.multi level n [.stream ((a.events ++ [e]).foldl Stream.write s),
        .ring ((a.events ++ [e]).foldl Ring.emit r)], e.seq, none⟩ := by
  rw [Tracer.emit_both hscope, List.foldl_append, List.foldl_append]
  rfl

/-- Whatever is called, both parts record the events that the account has for it. -/
theorem perform_tracer (h : a.Sound level) {c : SpanCall} (hc : c.Scoped) :
    Client.perform ⟨a.tracer level s r, a.spans⟩ c =
      .ok ⟨(a.add level c).tracer level s r, (a.add level c).spans⟩ := by
  have hpasses (scope : Scope) : (a.tracer level s r).passes scope = level.emits scope :=
    Tracer.passes_eq _ scope
  cases c with
  | begin time scope name parent =>
    have hscope : scope ≠ 0 := hc
    simp only [Client.perform, Tracer.beginSpan, hpasses, Account.add]
    cases level.emits scope with
    | false => simp only [Bool.false_eq_true, if_false, tracer, live_concat, Span.idle, Nat.add_zero]
    | true =>
      simp only [if_true, tracer, Tracer.nextSpan, live_concat]
      rw [emit_tracer hscope]
      rfl
  | extra i key value =>
    have hbare := map_modify_of_eq (fun s => Span.bare_withExtra s key value) a.spans i
    have hlive : live { a with spans := a.spans.modify i (·.withExtra key value) } = a.live := by
      rw [live_eq, live_eq, hbare]
    simp only [Client.perform, Account.add, tracer, hlive]
  | finish time i detail =>
    simp only [Client.perform, Tracer.endSpan, Account.add]
    cases hl : (Client.spanAt a.spans i).live with
    | false => rfl
    | true =>
      have hscope := (h.spans_pass _ (mem_of_live_spanAt hl) hl).1
      simp only [if_true, tracer]
      rw [emit_tracer hscope]
      rfl
  | point time scope name parent detail extra =>
    have hscope : scope ≠ 0 := hc
    simp only [Client.perform, Tracer.point, hpasses, Account.add]
    cases level.emits scope with
    | false => rfl
    | true =>
      simp only [if_true, tracer]
      rw [emit_tracer hscope]
      rfl

theorem performAll_tracer (h : a.Sound level) {calls : List SpanCall} (hc : ∀ c ∈ calls, c.Scoped) :
    Client.performAll ⟨a.tracer level s r, a.spans⟩ calls =
      .ok ⟨(calls.foldl (add level) a).tracer level s r, (calls.foldl (add level) a).spans⟩ := by
  induction calls generalizing a with
  | nil => rfl
  | cons c calls ih =>
    have hfirst := hc c List.mem_cons_self
    have hrest := ih (h.add hfirst) fun d hd => hc d (List.mem_cons_of_mem _ hd)
    rw [Client.performAll, List.foldlM_cons, perform_tracer h hfirst]
    exact hrest

end

/-- A stream and a ring have recorded the events of an account: the stream has a line for each of them,
and the ring, of `size` places, shows the last of them and dumps the last of the lines. The numbers of
spans in them are 1, 2 and so on in the order in which spans began, and the parts have handed out none. -/
structure SharedBy (format : Format) (size : Nat) (a : Account) (s : Stream) (r : Ring) : Prop where
  lines : (numbered a.events).mapM (Event.render format) = .ok s.sink.chunks
  shown : r.snapshot = (numbered a.events).rtake size
  dump : r.dump format = .ok (s.sink.chunks.rtake (min size s.sink.chunks.length))
  whole : s.sink.chunks.length ≤ size → (r.dump format).map String.join = .ok s.sink.contents
  ids : a.ids = (List.range' 1 a.live).map UInt64.ofNat
  owned : ∀ e ∈ a.events, e.kind ≠ .point → e.span ∈ a.ids
  no_ids : s.spans = 0 ∧ r.spans = 0

end Account

theorem mapM_rtake {ε α β : Type} {f : α → Except ε β} {xs : List α} {ys : List β}
    (h : xs.mapM f = .ok ys) (n : Nat) : (xs.rtake n).mapM f = .ok (ys.rtake n) := by
  have hall := mapM_eq_ok_iff.mp h
  rw [mapM_eq_ok_iff, List.rtake, List.rtake, hall.length_eq]
  exact List.forall₂_drop _ hall

theorem Stream.spans_foldl_write (s : Stream) (es : List Event) :
    (es.foldl write s).spans = s.spans := by
  induction es generalizing s with
  | nil => rfl
  | cons e es ih => rw [List.foldl_cons, ih, spans_write]

theorem Ring.spans_foldl_emit (r : Ring) (es : List Event) : (es.foldl emit r).spans = r.spans := by
  induction es generalizing r with
  | nil => rfl
  | cons e es ih => rw [List.foldl_cons, ih, spans_emit]

namespace Account

/-- A new stream and a new ring share the events that they both let through. -/
theorem Sound.sharedBy {level : Level} {a : Account} (h : a.Sound level) (format : Format)
    (capacity : Int) {sink : Sink} (htakes : sink.Takes) (hchunks : sink.chunks = []) :
    a.SharedBy format (Ring.capacityOf capacity)
      (a.events.foldl Stream.write { sink, level, format })
      (a.events.foldl Ring.emit (.new capacity level)) := by
  have hall : (a.events.filter fun e => level.emits e.scope) = a.events :=
    List.filter_eq_self.mpr fun e he => (h.events_pass e he).2
  obtain ⟨-, hformat, hwrote⟩ := Stream.wrote_foldl_write (s := { sink, level, format })
    ⟨htakes, rfl, by rw [hchunks]; rfl⟩ fun e he => (h.events_pass e he).1
  obtain ⟨-, hcapacity, hholds⟩ := Ring.holds_foldl_emit (Ring.holds_new capacity level) a.events
  rw [hall] at hwrote
  rw [show (Ring.new capacity level).level = level from rfl, hall] at hholds
  have hlines := hwrote.lines
  rw [hformat] at hlines
  have hshown := hholds.snapshot_eq
  rw [hcapacity, show (Ring.new capacity level).capacity = Ring.capacityOf capacity from rfl] at hshown
  have hdump : Ring.dump _ format = .ok _ :=
    (congrArg (List.mapM (Event.render format)) hshown).trans (mapM_rtake hlines _)
  refine ⟨hlines, hshown, ?_, fun hroom => ?_, h.in_order, h.owned, ?_, ?_⟩
  · rw [hdump, rtake_min_length]
  · rw [hdump, rtake_of_length_le hroom]
    rfl
  · rw [Stream.spans_foldl_write]
  · rw [Ring.spans_foldl_emit]
    rfl

end Account

/-- A tracer that records in both ways has its outputs agree. For every level that is on, every output
that can be opened and takes what is written, and whatever spans and points with scopes are called, no call
fails, and stream and ring have recorded the same events: the dump of the ring is the end of what the
stream has written, as many lines as the ring has places, and all of it as long as that is no more. The
numbers of the spans are those that the common tracer has handed out. -/
theorem both_outputs_agree {level : Level} (hon : level ≠ .off) (format : Format) (capacity : Int)
    {output : Output} {d d' : Folder} {outlet : Outlet} (hopen : output.outlet d = .ok (outlet, d'))
    (haccepts : outlet.accepts = true) {calls : List SpanCall} (hscopes : ∀ c ∈ calls, c.Scoped) :
    let a := Account.after level calls
    ∃ t : Tracer,
      TracerSettings.tracer d { level, mode := .both, format, output, capacity } = .ok (t, d') ∧
      ∃ (s : Stream) (r : Ring),
        Client.performAll { tracer := t } calls =
          .ok { tracer := .multi level a.live [.stream s, .ring r], spans := a.spans } ∧
        a.SharedBy format (Ring.capacityOf capacity) s r := by
  intro a
  let s : Stream := { sink := { outlet }, level, format }
  let r : Ring := .new capacity level
  have hsound := Account.sound_empty level
  have htracer : TracerSettings.tracer d { level, mode := .both, format, output, capacity } =
      .ok (Account.tracer level s r {}, d') := by
    simp only [TracerSettings.tracer, if_neg hon, hopen]
    rfl
  exact ⟨_, htracer, _, _, Account.performAll_tracer hsound hscopes,
    (Account.sound_foldl_add hsound hscopes).sharedBy format capacity ⟨haccepts, rfl⟩ rfl⟩

/-- The level holds a statement back. Two places are not enough for the three events: the beginning of the
run is gone from the ring, and the end of the run carries the text that the client has put on it. -/
theorem both_outputs_agree_overtaken :
    let outlet : Outlet := .writer true .works .absent
    let calls : List SpanCall := [.begin {} 1 "compile" 0, .point {} 3 "instr" 1 "a1 = 3" [],
      .extra 0 "run" "7", .point {} 2 "ssa" 1 "1 instrs" [], .finish {} 0 "ok"]
    Level.detail ≠ .off ∧ Output.outlet .empty (.sink outlet) = .ok (outlet, .empty) ∧
      outlet.accepts = true ∧ (∀ c ∈ calls, c.Scoped) ∧
      ∃ (t : Tracer) (s : Stream) (r : Ring),
        TracerSettings.tracer .empty
          { level := .detail, mode := .both, output := .sink outlet, capacity := 2 } = .ok (t, .empty) ∧
        Client.performAll { tracer := t } calls =
          .ok ⟨.multi .detail 1 [.stream s, .ring r], (Account.after .detail calls).spans⟩ ∧
        r.snapshot.map (fun e => (e.seq.toNat, e.name, e.extra)) =
          [(2, "ssa", []), (3, "compile", [("run", "7")])] ∧
        r.dump .text = .ok (s.sink.chunks.rtake 2) := by
  intro outlet calls
  have hon : Level.detail ≠ .off := by decide
  have hopen : Output.outlet .empty (.sink outlet) = .ok (outlet, .empty) := rfl
  have haccepts : outlet.accepts = true := rfl
  have hscopes : ∀ c ∈ calls, c.Scoped := by simp [calls, SpanCall.Scoped]
  obtain ⟨t, ht, s, r, hrun, hshared⟩ := both_outputs_agree hon .text 2 hopen haccepts hscopes
  have hwritten : s.sink.chunks.length = 3 := (mapM_eq_ok_iff.mp hshared.lines).length_eq.symm
  refine ⟨hon, hopen, haccepts, hscopes, t, s, r, ht, hrun, ?_, ?_⟩
  · rw [hshared.shown]
    decide
  · rw [hshared.dump, hwritten]
    rfl

end StraightLine.Trace
