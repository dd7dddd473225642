import StraightLine.Code.Instr
import StraightLine.InternalError

/-! A lowering session turns a node stream into three-address code, one statement at a time.

Each name has a version. Reading a name marks its version as read; writing a name gives it a new
version only if the last one was read, so that a version which nobody looked at is used again. Names
are told apart by a key, the normal form of the text behind a handle. Temporaries are numbered
through the session; when an assignment takes over the last one, its number is free again.

A step that fails leaves the session as far as it came: what it has consumed, read and numbered stays,
and the code of the failed statement is lost. -/

namespace StraightLine.Code

open StraightLine.Source

/-- Why a stream is not a sequence of statements. -/
inductive LoweringFault
  | unexpectedStart (kind : Kind) (position : Nat)
  | badTarget (found : Option Node)
  | missingExpression
  | notAnExpression (kind : Kind) (position : Nat)
  deriving DecidableEq, Repr

def LoweringFault.message : LoweringFault → String
  | unexpectedStart k p =>
    "unexpected " ++ k.name ++ " at statement start (node " ++ toString p ++ ")"
  | badTarget found =>
    "assignment target must be an identifier, got "
      ++ (match found with
        | some n => n.describe
        | none => "end of stream")
  | missingExpression => "expression expected, found end of stream"
  | notAnExpression k p =>
    k.name ++ " is not valid in expression position (node " ++ toString p ++ ")"

/-- A stream that is no sequence of statements is an internal error of the first stage. -/
def LoweringFault.internal (f : LoweringFault) : InternalError :=
  ⟨.structuralMismatch, "ssa", f.message⟩

/-- What the session knows about a name. -/
structure NameState where
  /-- The first handle that spelled the name. -/
  handle : Handle
  version : Nat := 0
  /-- The version has been read since it was written. -/
  read : Bool := false
  deriving DecidableEq, Repr

/-- The variable that a name stands for at present. -/
def NameState.var (s : NameState) : Var := .named s.handle (Int64.ofNat s.version)

structure Session where
  /-- The nodes that are not yet consumed. -/
  rest : List Node
  /-- The number of nodes consumed. -/
  cursor : Nat := 0
  /-- The names seen so far, by key, in the order of their appearance. -/
  names : List (String × NameState) := []
  /-- The number of temporaries in use. -/
  temps : Nat := 0
  deriving Repr

/-- A step of a session, which may fail and then keeps the session it came to. -/
abbrev Lowering := EStateM LoweringFault Session

namespace Session

def start (nodes : List Node) : Session := { rest := nodes }

def done (s : Session) : Bool := s.rest.isEmpty

def find? (s : Session) (key : String) : Option NameState :=
  (s.names.find? fun e => e.1 == key).map (·.2)

/-- Records the state of a name, behind all others if it is new. -/
def put (s : Session) (key : String) (st : NameState) : Session :=
  if (s.find? key).isSome then
    { s with names := s.names.map fun e => if e.1 == key then (key, st) else e }
  else { s with names := s.names ++ [(key, st)] }

/-- The version of the name with a given key, if the name was seen. -/
def version? (s : Session) (key : String) : Option Nat := (s.find? key).map (·.version)

end Session

def nextNode : Lowering (Option Node) := fun s =>
  match s.rest with
  | [] => .ok none s
  | n :: rest => .ok (some n) { s with rest := rest, cursor := s.cursor + 1 }

def nextTemp : Lowering Var := fun s =>
  .ok (.temp (Int64.ofNat (s.temps + 1))) { s with temps := s.temps + 1 }

/-- Gives the number of the last temporary back. -/
def releaseTemp : Lowering Unit := fun s => .ok () { s with temps := s.temps - 1 }

/-- Reads the name behind a handle: its present version, which counts as read from now on. -/
def readName (key : Handle → String) (h : Handle) : Lowering Var := fun s =>
  let st := (s.find? (key h)).getD { handle := h }
  .ok st.var (s.put (key h) { st with read := true })

/-- Writes the name behind a handle: the version that its new value gets. A version which was never
read is used again. -/
def writeName (key : Handle → String) (h : Handle) : Lowering Var := fun s =>
  let st : NameState :=
    match s.find? (key h) with
    | none => { handle := h, version := 1 }
    | some st => { st with version := if st.read then st.version + 1 else st.version, read := false }
  .ok st.var (s.put (key h) st)

/-- What an expression became: a leaf is an operand, anything else is code whose last instruction
holds the value. -/
inductive Lowered
  | leaf (v : Operand)
  | code (body : List Instr) (last : Instr)
  deriving DecidableEq, Repr

namespace Lowered

def instrs : Lowered → List Instr
  | leaf _ => []
  | code body last => body ++ [last]

def operand : Lowered → Operand
  | leaf v => v
  | code _ last => .var last.dst

end Lowered

/-- Lowers one expression. `fuel` bounds the number of nodes that are looked at. -/
def lowerExprWithin (key : Handle → String) : Nat → Lowering Lowered
  | 0 => throw .missingExpression
  | fuel + 1 => do
    match ← nextNode with
    | none => throw .missingExpression
    | some n =>
      match n.kind with
      | .number => return .leaf (.literal n.handle)
      | .identifier => return .leaf (.var (← readName key n.handle))
      | k =>
        match Operator.ofKind? k with
        | some op => do
          let l ← lowerExprWithin key fuel
          let r ← lowerExprWithin key fuel
          let t ← nextTemp
          return .code (l.instrs ++ r.instrs)
            { dst := t, left := l.operand, right := some (op, r.operand) }
        | none => do
          let s ← get
          throw (.notAnExpression k (s.cursor - 1))

/-- Lowers the expression that the stream goes on with. -/
def lowerExpr (key : Handle → String) : Lowering Lowered := do
  let s ← get
  lowerExprWithin key (s.rest.length + 1)

/-- Lowers an assignment behind its first node. The target is written after the right-hand side has
been lowered. -/
def lowerAssignment (key : Handle → String) : Lowering (List Instr) := do
  let target ← nextNode
  match target with
  | some { kind := .identifier, handle := h } =>
    match ← lowerExpr key with
    | .leaf v => do
      let dst ← writeName key h
      return [{ dst := dst, left := v }]
    | .code body last => do
      let dst ← writeName key h
      releaseTemp
      return body ++ [{ last with dst := dst }]
  | found => throw (.badTarget found)

/-- Consumes the scope markers that the stream goes on with. -/
def skipMarkers : Lowering Unit := fun s =>
  let rest := s.rest.dropWhile (·.kind.isScopeMarker)
  .ok () { s with rest := rest, cursor := s.cursor + (s.rest.length - rest.length) }

/-- Lowers the next statement and the scope markers in front of it. A statement that is a leaf has no
code, and at the end of the stream there is nothing to lower. -/
def lowerNext (key : Handle → String) : Lowering (List Instr) := do
  skipMarkers
  let s ← get
  match s.rest with
  | [] => return []
  | n :: _ =>
    if n.kind = .assignment then do
      let _ ← nextNode
      lowerAssignment key
    else if n.kind.isOperator || n.kind.isLeaf then
      return (← lowerExpr key).instrs
    else throw (.unexpectedStart n.kind s.cursor)

/-- Lowers statements until the stream ends. `fuel` bounds their number. -/
def lowerAllWithin (key : Handle → String) : Nat → Lowering (List Instr)
  | 0 => return []
  | fuel + 1 => do
    let s ← get
    if s.done then return []
    else do
      let is ← lowerNext key
      let rest ← lowerAllWithin key fuel
      return is ++ rest

/-- Lowers the rest of the stream. Each step consumes a node at least, so the length of the rest bounds
the number of steps. -/
def lowerAll (key : Handle → String) : Lowering (List Instr) := do
  let s ← get
  lowerAllWithin key s.rest.length

end StraightLine.Code
