import StraightLine.Text.Cluster.Table

/-! Grapheme clusters: the pieces of a text that a reader takes for one character. A text is cut
between two characters unless a rule of the standard keeps them together. -/

namespace StraightLine.Text.Cluster

/-- What a character is to the rules. -/
inductive Role
  | cr
  | lf
  | control
  | extend
  | joiner
  | regional
  | prepend
  | spacing
  | leading
  | vowel
  | trailing
  | openSyllable
  | closedSyllable
  | other
  deriving DecidableEq, Repr

def within (ranges : List (Nat × Nat)) (c : Nat) : Bool :=
  ranges.any fun r => r.1 ≤ c && c ≤ r.2

/-- The role of a code point. -/
def role (c : Nat) : Role :=
  if c = 0x0D then .cr
  else if c = 0x0A then .lf
  else if 0x20 ≤ c && c < 0x7F then .other
  else if c = 0x200D then .joiner
  else if 0xAC00 ≤ c && c ≤ 0xD7A3 then
    if (c - 0xAC00) % 28 = 0 then .openSyllable else .closedSyllable
  else if within controls c then .control
  else if within extenders c then .extend
  else if within spacingMarks c then .spacing
  else if within prependers c then .prepend
  else if within leadingJamo c then .leading
  else if within vowelJamo c then .vowel
  else if within trailingJamo c then .trailing
  else if within regionals c then .regional
  else .other

def isPictograph (c : Nat) : Bool := within pictographs c

/-- What of the text in front bears on the next boundary. -/
structure Left where
  role : Role
  /-- The cluster so far is a pictograph with marks behind it. -/
  pictured : Bool
  /-- The cluster so far is a pictograph with marks and a joiner behind it. -/
  joined : Bool
  /-- An odd number of regional indicators stands in front. -/
  oddRegionals : Bool

/-- The left side after a first character. -/
def Left.start (c : Nat) : Left :=
  { role := Cluster.role c, pictured := isPictograph c, joined := false,
    oddRegionals := Cluster.role c = .regional }

/-- Nothing is cut before `c`. -/
def Left.keeps (l : Left) (c : Nat) : Bool :=
  match l.role, Cluster.role c with
  | .cr, .lf => true
  | .control, _ | .cr, _ | .lf, _ => false
  | _, .control | _, .cr | _, .lf => false
  | .leading, .leading | .leading, .vowel | .leading, .openSyllable
  | .leading, .closedSyllable => true
  | .openSyllable, .vowel | .openSyllable, .trailing | .vowel, .vowel | .vowel, .trailing => true
  | .closedSyllable, .trailing | .trailing, .trailing => true
  | _, .extend | _, .joiner | _, .spacing => true
  | .prepend, _ => true
  | .joiner, _ => l.joined && isPictograph c
  | .regional, .regional => l.oddRegionals
  | _, _ => false

/-- The left side after one more character. -/
def Left.next (l : Left) (c : Nat) : Left :=
  let r := Cluster.role c
  { role := r,
    pictured := isPictograph c || (l.pictured && r = .extend),
    joined := l.pictured && r = .joiner,
    oddRegionals := r = .regional && !(l.role = .regional && l.oddRegionals) }

/-- Cuts the rest of a text; `cluster` is the open cluster, backwards. -/
def cutFrom (l : Left) (cluster : List Char) : List Char → List (List Char)
  | [] => [cluster.reverse]
  | c :: cs =>
    if l.keeps c.toNat then cutFrom (l.next c.toNat) (c :: cluster) cs
    else cluster.reverse :: cutFrom (l.next c.toNat) [c] cs

def cut : List Char → List (List Char)
  | [] => []
  | c :: cs => cutFrom (Left.start c.toNat) [c] cs

end StraightLine.Text.Cluster
