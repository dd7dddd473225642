import StraightLine.Source.Node

/-! A program written as a list of words in Polish notation. Each word is one node, and the handle of
a leaf is the position of its word. -/

namespace StraightLine.Source

/-- The text of the word at a position, and the empty text behind the last one. -/
def resolveWords (words : List String) : Resolver := fun h => (words[h.toNat]?).getD ""

/-- The text that a table gives for a handle, and the empty text for a handle it does not have. -/
def resolveTable (table : List (Handle × String)) : Resolver := fun h =>
  ((table.find? fun e => e.1 = h).map (·.2)).getD ""

/-- A word that is a number: it starts with a hash or has only digits. -/
def isNumberWord (w : String) : Bool :=
  match w.toList with
  | [] => false
  | '#' :: _ => true
  | cs => cs.all Char.isDigit

/-- The node of the word at position `h`. -/
def nodeOfWord (h : Handle) (w : String) : Node :=
  if w = "=" then .assignment
  else if w = "+" then { kind := .add }
  else if w = "-" then { kind := .sub }
  else if w = "*" then { kind := .mul }
  else if w = "/" then { kind := .div }
  else if w = "\x7b" then .scopeOpen
  else if w = "\x7d" then .scopeEnd
  else if isNumberWord w then .number h
  else .identifier h

def nodesOfWords (words : List String) : List Node :=
  words.mapIdx fun i w => nodeOfWord (UInt32.ofNat i) w

inductive HandleFault
  | outOfRange
  deriving DecidableEq, Repr

def HandleFault.message : HandleFault → String
  | outOfRange => "source: handle overflow: out of range"

def handleAt (n : Int64) : Except HandleFault Handle :=
  if 0 ≤ n.toInt ∧ n.toInt < UInt32.size then .ok (UInt32.ofNat n.toInt.toNat)
  else .error .outOfRange

end StraightLine.Source
