import StraightLine.Trace.Level
import StraightLine.Trace.Timestamp

/-! Trace events and their text. A span has an event where it begins and one where it ends; a point has
one event. -/

namespace StraightLine.Trace

/-- What an event marks. A code without a meaning is kept as it came. -/
inductive EventKind
  | spanBegin
  | spanEnd
  | point
  | other (code : UInt8)
  deriving DecidableEq, Repr

namespace EventKind

def ofCode (code : UInt8) : EventKind :=
  match code with
  | 1 => spanBegin
  | 2 => spanEnd
  | 3 => point
  | n => other n

def name : EventKind → String
  | spanBegin => "begin"
  | spanEnd => "end"
  | point => "point"
  | other _ => "unknown"

def sign : EventKind → String
  | spanBegin => "→ "
  | spanEnd => "← "
  | point => "• "
  | other _ => ""

end EventKind

/-- Texts under keys, each key once. -/
abbrev Extra := List (String × String)

namespace Extra

/-- Puts a text under a key; an earlier one is replaced. -/
def put (x : Extra) (key value : String) : Extra := (x.filter fun e => e.1 ≠ key) ++ [(key, value)]

def sorted (x : Extra) : Extra := x.mergeSort fun a b => a.1 ≤ b.1

end Extra

structure Event where
  /-- Read off a clock by the caller. -/
  time : Timestamp
  /-- The rank of the event among those of its tracer; zero before it is recorded. -/
  seq : UInt64 := 0
  kind : EventKind
  scope : Scope
  /-- The span that begins or ends; zero for points. -/
  span : UInt64 := 0
  /-- The span around the event; zero if there is none. -/
  parent : UInt64 := 0
  name : String
  detail : String := ""
  extra : Extra := []
  deriving DecidableEq, Repr

inductive RenderFault
  /-- Scope zero would be indented by less than nothing. -/
  | negativeIndent
  deriving DecidableEq, Repr

def RenderFault.message : RenderFault → String
  | negativeIndent => "strings: negative Repeat count"

namespace Event

/-- The texts of an event in braces, if there are any. -/
def extraText (x : Extra) : String :=
  if x.isEmpty then ""
  else " \x7b" ++ ", ".intercalate (x.sorted.map fun e => e.1 ++ "=" ++ e.2) ++ "\x7d"

/-- The line of an event, indented by its scope. -/
def textLine (e : Event) : Except RenderFault String :=
  if e.scope = 0 then .error .negativeIndent
  else .ok ("#" ++ Timestamp.padded 4 e.seq.toNat ++ " "
    ++ String.join (List.replicate (e.scope.toNat - 1) "  ") ++ e.kind.sign ++ e.name
    ++ (if e.detail.isEmpty then "" else " (" ++ e.detail ++ ")")
    ++ extraText e.extra ++ "\n")

/-- A character of a JSON string. Signs that mean something in markup, and the two line separators, are
escaped as well. -/
def jsonChar (c : Char) : String :=
  match c with
  | '"' => "\\\""
  | '\\' => "\\\\"
  | '\n' => "\\n"
  | '\r' => "\\r"
  | '\t' => "\\t"
  | c =>
    let n := c.toNat
    if n = 0x08 then "\\b"
    else if n = 0x0C then "\\f"
    else if n < 0x20 || c = '<' || c = '>' || c = '&' || n = 0x2028 || n = 0x2029 then
      "\\u" ++ Text.Quoted.hex 4 n
    else c.toString

def jsonString (s : String) : String :=
  "\"" ++ s.toList.foldl (fun out c => out ++ jsonChar c) "" ++ "\""

/-- A JSON object with the members that are present, in the given order. -/
def jsonObject (members : List (String × Option String)) : String :=
  "\x7b" ++ ",".intercalate (members.filterMap fun m =>
    m.2.map fun value => jsonString m.1 ++ ":" ++ value) ++ "\x7d"

/-- A number that is left out when it is zero. -/
def jsonId (n : UInt64) : Option String := if n = 0 then none else some (toString n.toNat)

/-- The event as a JSON object on a line. Members that say nothing are left out. -/
def jsonLine (e : Event) : String :=
  jsonObject [
    ("time", some (jsonString e.time.text)),
    ("seq", some (toString e.seq.toNat)),
    ("kind", some (jsonString e.kind.name)),
    ("scope", some (jsonString (Scope.name e.scope))),
    ("span_id", jsonId e.span),
    ("parent_id", jsonId e.parent),
    ("name", some (jsonString e.name)),
    ("detail", if e.detail.isEmpty then none else some (jsonString e.detail)),
    ("extra",
      if e.extra.isEmpty then none
      else some (jsonObject (e.extra.sorted.map fun x => (x.1, some (jsonString x.2)))))] ++ "\n"

def render (f : Format) (e : Event) : Except RenderFault String :=
  match f with
  | .text => e.textLine
  | .ndjson => .ok e.jsonLine

end Event

end StraightLine.Trace
