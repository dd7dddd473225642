/-! Decimal text of 64-bit signed numbers. Reading takes an optional sign and ASCII digits and says
why a text is no number; the digits are looked at from left to right and the first fault wins. -/

namespace StraightLine.Text.Decimal

/-- Why a text is not a 64-bit signed number. -/
inductive Fault
  /-- The text is empty or has something other than digits behind its sign. -/
  | malformed
  /-- The number does not fit. -/
  | outOfRange
  deriving DecidableEq, Repr

def Fault.message : Fault → String
  | .malformed => "invalid syntax"
  | .outOfRange => "value out of range"

/-- The value of a run of digits behind `acc`, which has been read already. Passing the largest
unsigned 64-bit number is a fault at once, even if a later character is no digit. -/
def magnitude (acc : Nat) : List Char → Except Fault Nat
  | [] => .ok acc
  | c :: cs =>
    if c.isDigit then
      let n := acc * 10 + (c.toNat - '0'.toNat)
      if n < UInt64.size then magnitude n cs else .error .outOfRange
    else .error .malformed

/-- The digits behind the sign: there is at least one. -/
def unsigned : List Char → Except Fault Nat
  | [] => .error .malformed
  | c :: cs => magnitude 0 (c :: cs)

/-- The magnitude of the least 64-bit signed number, one more than the largest number has. -/
def largestMagnitude : Nat := 9223372036854775808

/-- A magnitude with its sign, if it is a 64-bit signed number. -/
def signed (negative : Bool) (n : Nat) : Except Fault Int64 :=
  if negative then
    if n ≤ largestMagnitude then .ok (Int64.ofInt (-(n : Int))) else .error .outOfRange
  else
    if n < largestMagnitude then .ok (Int64.ofInt n) else .error .outOfRange

/-- The characters of a number: an optional sign and at least one digit. -/
def readChars : List Char → Except Fault Int64
  | '-' :: cs => unsigned cs >>= signed true
  | '+' :: cs => unsigned cs >>= signed false
  | cs => unsigned cs >>= signed false

def read (s : String) : Except Fault Int64 := readChars s.toList

/-- Writes a 64-bit signed number: a minus sign if it is negative, and no leading zeros. -/
def write (n : Int64) : String := toString n.toInt

end StraightLine.Text.Decimal
