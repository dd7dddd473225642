import StraightLine.Text.Normal.CombiningClass
import StraightLine.Text.Normal.Compatibility
import StraightLine.Text.Normal.Decomposition

/-! Canonical composition of text. Two spellings of a text that look the same have one composed form. The
text is cut into segments, a starter with the marks behind it, and long runs of marks are cut by a
grapheme joiner so that none has more than thirty of them. In a segment every character is taken apart,
the marks are put in the order of their classes, and what can be composed is composed again. -/

namespace StraightLine.Text.Normal

def syllableBase : Nat := 0xAC00
def leadingBase : Nat := 0x1100
def vowelBase : Nat := 0x1161
def trailingBase : Nat := 0x11A7
def leadingCount : Nat := 19
def vowelCount : Nat := 21
def trailingCount : Nat := 28
def syllableCount : Nat := leadingCount * vowelCount * trailingCount

def isSyllable (c : Nat) : Bool := syllableBase ≤ c && c < syllableBase + syllableCount

/-- The two or three Jamo of a syllable. -/
def syllableParts (c : Nat) : List Nat :=
  let i := c - syllableBase
  let l := leadingBase + i / (vowelCount * trailingCount)
  let v := vowelBase + i % (vowelCount * trailingCount) / trailingCount
  let t := i % trailingCount
  if t = 0 then [l, v] else [l, v, trailingBase + t]

/-- A leading consonant and a vowel make a syllable, and so do an open syllable and a trailing
consonant. -/
def composeSyllable (a b : Nat) : Option Nat :=
  if leadingBase ≤ a && a < leadingBase + leadingCount
      && vowelBase ≤ b && b < vowelBase + vowelCount then
    some (syllableBase
      + ((a - leadingBase) * vowelCount + (b - vowelBase)) * trailingCount)
  else if isSyllable a && (a - syllableBase) % trailingCount == 0
      && trailingBase < b && b < trailingBase + trailingCount then
    some (a + (b - trailingBase))
  else none

/-! ## Taking apart and composing pairs -/

/-- One step of the listed decompositions. -/
def split? (c : Nat) : Option (List Nat) :=
  if c < 0xC0 then none
  else
    match pairs.find? fun r => r.1 = c with
    | some r => some [r.2.1, r.2.2]
    | none => (singletons.find? fun r => r.1 = c).map fun r => [r.2]

/-- The decomposition of a character after at most `depth` steps. -/
def decomposeWithin : Nat → Nat → List Nat
  | 0, c => [c]
  | depth + 1, c =>
    if isSyllable c then syllableParts c
    else
      match split? c with
      | none => [c]
      | some parts => parts.flatMap (decomposeWithin depth)

/-- The whole decomposition of a character. No listed chain has more than four steps. -/
def decompose (c : Nat) : List Nat := decomposeWithin 4 c

/-- The listed pairs that are composed again: a pair that is excluded, that starts with a mark or whose
composite is a mark is only ever taken apart. -/
def isComposed (r : Nat × Nat × Nat) : Bool :=
  !compositionExclusions.contains r.1 && combiningClass r.1 == 0 && combiningClass r.2.1 == 0

/-- The part of a code point that pairs are looked up by, its last sixteen bits. -/
def lookupBits (c : Nat) : Nat := c % 0x10000

/-- The composite of a listed pair. -/
def compose? (a b : Nat) : Option Nat :=
  (pairs.find? fun r =>
    lookupBits r.2.1 = lookupBits a && lookupBits r.2.2 = lookupBits b && isComposed r).map (·.1)

/-- A character that may be composed with one before it. -/
def combinesBackward (c : Nat) : Bool :=
  (vowelBase ≤ c && c < vowelBase + vowelCount)
    || (trailingBase < c && c < trailingBase + trailingCount)
    || pairs.any fun r => r.2.2 = c && isComposed r

/-- A character that belongs to the one before it: a mark, or the second part of a composite. -/
def joinsBackward (c : Nat) : Bool := combiningClass c != 0 || combinesBackward c

/-! ## Segments and the order of marks -/

/-- How many characters of a decomposition that join backward stand at its start and at its end. -/
def markCounts (c : Nat) : Nat × Nat :=
  if c < 0xA8 then (0, 0)
  else if isSyllable c then (0, (syllableParts c).length - 1)
  else
    match compatibilityCounts.find? fun r => r.1 ≤ c && c ≤ r.2.1 with
    | some r => r.2.2
    | none =>
      let parts := decompose c
      ((parts.takeWhile joinsBackward).length, (parts.reverse.takeWhile joinsBackward).length)

/-- The longest run of marks that is left alone. -/
def maxMarks : Nat := 30

/-- The grapheme joiner, a starter that composes with nothing. -/
def graphemeJoiner : Nat := 0x034F

/-- Cuts a text into segments, which are composed one by one. A segment starts at every character that
does not join the one before it. A run of marks that is too long is cut as well, and a grapheme joiner
is put where it is cut. `count` is the length of the run in front, and `run` has what is in the segment
so far, backwards. -/
def segments (count : Nat) (run : List Nat) : List Nat → List (List Nat)
  | [] => [run.reverse]
  | c :: cs =>
    let (lead, trail) := markCounts c
    if lead = 0 then run.reverse :: segments trail [c] cs
    else if count + lead > maxMarks then (graphemeJoiner :: run).reverse :: segments lead [c] cs
    else segments (count + lead) (c :: run) cs

/-- The parts of a character, each with the mark whether a new group starts at it. Only inside a listed
decomposition does one start: at a part that does not join the one before it. -/
def parts (c : Nat) : List (Bool × Nat) :=
  if isSyllable c then (syllableParts c).map fun p => (false, p)
  else
    match split? c with
    | none => [(false, c)]
    | some _ => (decompose c).map fun p => (!joinsBackward p, p)

/-- Puts a mark behind those of its run whose class is not higher. `run` is the run read backwards, so
that a mark moves forward past the marks of higher class. -/
def insertMark (c : Nat) : List Nat → List Nat
  | [] => [c]
  | m :: run =>
    if combiningClass m > combiningClass c then m :: insertMark c run else c :: m :: run

/-- Puts the next character of a group in its place. A starter stays where it is. -/
def insertPart (c : Nat) (run : List Nat) : List Nat :=
  if combiningClass c = 0 then c :: run else insertMark c run

/-- The groups that parts fall into, each with its marks in the order of their classes. `run` has what is
in the group so far, backwards. -/
def groups (run : List Nat) : List (Bool × Nat) → List (List Nat)
  | [] => [run.reverse]
  | (starts, c) :: ps =>
    if starts && !run.isEmpty then run.reverse :: groups [c] ps else groups (insertPart c run) ps

/-! ## Composing groups -/

/-- A group while it is composed. -/
structure Group where
  /-- What stands before the base, backwards. -/
  before : List Nat
  /-- The character that others are composed with. -/
  base : Nat
  /-- What stands behind the base and could not be composed, backwards. -/
  after : List Nat
  deriving DecidableEq, Repr

namespace Group

def points (g : Group) : List Nat := g.before.reverse ++ g.base :: g.after.reverse

def keep (g : Group) (c : Nat) : Group := { g with after := c :: g.after }

/-- A starter that could not be composed becomes the base when another character wants to join. -/
def rebase (g : Group) : Group :=
  match g.after with
  | m :: ms => if combiningClass m = 0 then ⟨ms ++ g.base :: g.before, m, []⟩ else g
  | [] => g

/-- Something of the class of `c` or a higher one stands between the base and `c`. -/
def blocks (g : Group) (c : Nat) : Bool :=
  match g.after with
  | m :: _ => combiningClass m ≥ combiningClass c
  | [] => false

/-- Composes a character with the base by a rule for pairs, unless it is blocked. -/
def join (rule : Nat → Nat → Option Nat) (g : Group) (c : Nat) : Group :=
  let g := g.rebase
  match if g.blocks c then none else rule g.base c with
  | some composite => { g with base := composite }
  | none => g.keep c

/-- Composes what follows. From the first Jamo on only syllables are composed; before that, only
characters that may be composed with one before them look for the base. -/
def compose (g : Group) : List Nat → Group
  | [] => g
  | c :: cs =>
    if 0x1100 ≤ c && c < 0x1200 then (c :: cs).foldl (join composeSyllable) g
    else (if combinesBackward c then g.join compose? c else g.keep c).compose cs

end Group

def composeGroup : List Nat → List Nat
  | [] => []
  | c :: cs => (Group.compose ⟨[], c, []⟩ cs).points

def composeSegment (cs : List Nat) : List Nat := (groups [] (cs.flatMap parts)).flatMap composeGroup

def normalizePoints (cs : List Nat) : List Nat := (segments 0 [] cs).flatMap composeSegment

end StraightLine.Text.Normal

namespace StraightLine.Text

/-- The composed form of a text. Text without anything above U+00BF is its own composed form. -/
def normalize (s : String) : String :=
  if s.toList.all (fun c => c.toNat < 0xC0) then s
  else String.ofList ((Normal.normalizePoints (s.toList.map Char.toNat)).map Char.ofNat)

end StraightLine.Text
