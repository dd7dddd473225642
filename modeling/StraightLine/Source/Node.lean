/-! The node stream: a program in Polish notation, one node per position. A node has a kind and, for
leaves, the handle of its text. Declarations may stand anywhere in a stream; they bear on nothing here
and are stripped before anything else looks at the stream. -/

namespace StraightLine.Source

/-- The position of a node's text. -/
abbrev Handle := UInt32

/-- The text behind each handle. -/
abbrev Resolver := Handle → String

/-- What a node is. A code without a meaning is kept as it came. -/
inductive Kind
  | assignment
  | add
  | sub
  | mul
  | div
  | number
  | identifier
  | scopeOpen
  | scopeEnd
  | varDecl
  | structDecl
  | structMemberDecl
  | other (code : UInt8)
  deriving DecidableEq, Repr

namespace Kind

def ofCode (code : UInt8) : Kind :=
  match code with
  | 1 => assignment
  | 2 => add
  | 3 => sub
  | 4 => mul
  | 5 => div
  | 6 => number
  | 7 => identifier
  | 8 => scopeOpen
  | 9 => scopeEnd
  | 10 => varDecl
  | 11 => structDecl
  | 12 => structMemberDecl
  | n => other n

def code : Kind → UInt8
  | assignment => 1
  | add => 2
  | sub => 3
  | mul => 4
  | div => 5
  | number => 6
  | identifier => 7
  | scopeOpen => 8
  | scopeEnd => 9
  | varDecl => 10
  | structDecl => 11
  | structMemberDecl => 12
  | other n => n

theorem code_ofCode (n : UInt8) : (ofCode n).code = n := by
  unfold ofCode
  split <;> rfl

/-- The name of a kind in messages. -/
def name : Kind → String
  | assignment => "assignment"
  | add => "add"
  | sub => "sub"
  | mul => "mul"
  | div => "div"
  | number => "number"
  | identifier => "identifier"
  | scopeOpen => "scope"
  | scopeEnd => "scope-end"
  | varDecl => "var-decl"
  | structDecl => "struct-decl"
  | structMemberDecl => "struct-member-decl"
  | other n => "kind(" ++ toString n.toNat ++ ")"

def isOperator : Kind → Bool
  | add | sub | mul | div => true
  | _ => false

def isLeaf : Kind → Bool
  | number | identifier => true
  | _ => false

def isScopeMarker : Kind → Bool
  | scopeOpen | scopeEnd => true
  | _ => false

/-- How many identifiers a declaration takes with it; `none` if the kind declares nothing. -/
def declared : Kind → Option Nat
  | varDecl | structMemberDecl => some 2
  | structDecl => some 1
  | _ => none

def isDeclaration (k : Kind) : Bool := k.declared.isSome

end Kind

structure Node where
  kind : Kind
  handle : Handle := 0
  deriving DecidableEq, Repr

namespace Node

def assignment : Node := { kind := .assignment }
def number (h : Handle) : Node := { kind := .number, handle := h }
def identifier (h : Handle) : Node := { kind := .identifier, handle := h }
def scopeOpen : Node := { kind := .scopeOpen }
def scopeEnd : Node := { kind := .scopeEnd }

/-- A node in messages: leaves show their handle. -/
def describe (n : Node) : String :=
  if n.kind.isLeaf then n.kind.name ++ "(" ++ toString n.handle.toNat ++ ")" else n.kind.name

end Node

/-- Strips the stream behind a declaration that may still take `due` identifiers with it. -/
def stripFrom (due : Nat) : List Node → List Node
  | [] => []
  | n :: rest =>
    match due, n.kind with
    | left + 1, .identifier => stripFrom left rest
    | _, k =>
      match k.declared with
      | some operands => stripFrom operands rest
      | none => n :: stripFrom 0 rest

/-- The stream without its declarations. A declaration takes the identifiers right behind it along, up
to the number that its kind declares. -/
def strip (nodes : List Node) : List Node := stripFrom 0 nodes

end StraightLine.Source
