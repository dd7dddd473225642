import StraightLine.Alloc.Location
import StraightLine.Source.Words

/-! Sample programs from bytes: any bytes spell a program that compiles and runs. The bytes choose the
number of registers and then, one after the other, statements and their parts; where they end, zeros
follow. A name is read only after a statement has assigned it, and a divisor is a digit from one to
nine. -/

namespace StraightLine

open StraightLine.Alloc

namespace Sample

/-- A program in the making. -/
structure Draft where
  /-- The bytes that are left. -/
  bytes : List UInt8
  /-- The names that were assigned, in the order of their first assignment. -/
  defined : List String := []
  words : List String := []

/-- The next byte, or zero. -/
def Draft.next (d : Draft) : Nat × Draft :=
  match d.bytes with
  | [] => (0, d)
  | b :: rest => (b.toNat, { d with bytes := rest })

def Draft.word (d : Draft) (w : String) : Draft := { d with words := d.words ++ [w] }

/-- Writes a leaf: a name that was assigned, or a digit. -/
def leaf (d : Draft) : Draft :=
  let (b, d) := d.next
  if !d.defined.isEmpty && b % 2 = 1 then
    d.word (d.defined.getD (b / 2 % d.defined.length) "")
  else d.word (toString (b % 10))

/-- Writes an expression with at most `depth` operators on top of each other. -/
def expr : Nat → Draft → Draft
  | depth, d =>
    let (b, d) := d.next
    match depth with
    | 0 => leaf d
    | depth + 1 =>
      if b % 3 = 0 then leaf d
      else
        match b / 3 % 4 with
        | 0 => expr depth (expr depth (d.word "+"))
        | 1 => expr depth (expr depth (d.word "-"))
        | 2 => expr depth (expr depth (d.word "*"))
        | _ =>
          let (c, d) := (expr depth (d.word "/")).next
          d.word (toString (c % 9 + 1))

def targets : List String := ["a", "b", "c", "d", "e"]

/-- Writes a statement: a scope marker, an expression, or an assignment. -/
def statement (d : Draft) : Draft :=
  let (b, d) := d.next
  match b % 8 with
  | 0 => d.word "\x7b"
  | 1 => d.word "\x7d"
  | 2 => expr 2 d
  | _ =>
    let target := targets.getD (b / 8 % 5) ""
    let d := expr 3 ((d.word "=").word target)
    if d.defined.contains target then d else { d with defined := d.defined ++ [target] }

/-- Writes statements while there are bytes, at most `n`. -/
def statements : Nat → Draft → Draft
  | 0, d => d
  | n + 1, d => if d.bytes.isEmpty then d else statements n (statement d)

def maxStatements : Nat := 48

end Sample

/-- The registers and the words of the program that some bytes spell. -/
def sample (bytes : List UInt8) : List Reg × List String :=
  let (b, d) := ({ bytes := bytes } : Sample.Draft).next
  ((List.range (b % 5)).map UInt32.ofNat, (Sample.statements Sample.maxStatements d).words)

end StraightLine
