/-! Tokens of the packed form: self-describing values in bytes. A token is a scalar, a text, or the head
of an array or a map whose parts follow it. Numbers are big-endian. -/

namespace StraightLine.Program.Packed

abbrev Bytes := List UInt8

/-- `n` in `width` bytes, the highest first. -/
def bigEndian : Nat → Nat → Bytes
  | 0, _ => []
  | width + 1, n => bigEndian width (n / 256) ++ [UInt8.ofNat n]

/-- The number that some bytes stand for, the highest first. -/
def ofBigEndian (bs : Bytes) : Nat := bs.foldl (fun n b => n * 256 + b.toNat) 0

inductive Token
  | null
  | int (n : Int)
  | text (bytes : Bytes)
  | array (length : Nat)
  | map (length : Nat)
  /-- A truth value, a float or an extension: a value that no part of a program is made of. -/
  | foreign
  deriving DecidableEq, Repr

def takeBytes (n : Nat) (bs : Bytes) : Option (Bytes × Bytes) :=
  if n ≤ bs.length then some (bs.take n, bs.drop n) else none

def takeNat (width : Nat) (bs : Bytes) : Option (Nat × Bytes) :=
  (takeBytes width bs).map fun r => (ofBigEndian r.1, r.2)

/-- A number of `width` bytes read as a signed one. -/
def asSigned (width n : Nat) : Int := Int.bmod n (Nat.pow 256 width)

def takeUnsigned (width : Nat) (bs : Bytes) : Option (Token × Bytes) :=
  (takeNat width bs).map fun r => (.int r.1, r.2)

def takeSigned (width : Nat) (bs : Bytes) : Option (Token × Bytes) :=
  (takeNat width bs).map fun r => (.int (asSigned width r.1), r.2)

def takeForeign (n : Nat) (bs : Bytes) : Option (Token × Bytes) :=
  (takeBytes n bs).map fun r => (.foreign, r.2)

def takeText (n : Nat) (bs : Bytes) : Option (Token × Bytes) :=
  (takeBytes n bs).map fun r => (.text r.1, r.2)

/-- A text whose length comes first, in `width` bytes. -/
def takeSizedText (width : Nat) (bs : Bytes) : Option (Token × Bytes) := do
  let (n, bs) ← takeNat width bs
  takeText n bs

/-- An extension whose length comes first, in `width` bytes; its type takes one more byte. -/
def takeSizedForeign (width : Nat) (bs : Bytes) : Option (Token × Bytes) := do
  let (n, bs) ← takeNat width bs
  takeForeign (n + 1) bs

/-- The first token of some bytes. -/
def takeToken : Bytes → Option (Token × Bytes)
  | [] => none
  | b :: bs =>
    let c := b.toNat
    if c < 0x80 then some (.int c, bs)
    else if c < 0x90 then some (.map (c - 0x80), bs)
    else if c < 0xA0 then some (.array (c - 0x90), bs)
    else if c < 0xC0 then takeText (c - 0xA0) bs
    else if 0xE0 ≤ c then some (.int ((c : Int) - 0x100), bs)
    else
      match b with
      | 0xC0 => some (.null, bs)
      | 0xC2 | 0xC3 => some (.foreign, bs)
      | 0xC4 | 0xD9 => takeSizedText 1 bs
      | 0xC5 | 0xDA => takeSizedText 2 bs
      | 0xC6 | 0xDB => takeSizedText 4 bs
      | 0xC7 => takeSizedForeign 1 bs
      | 0xC8 => takeSizedForeign 2 bs
      | 0xC9 => takeSizedForeign 4 bs
      | 0xCA => takeForeign 4 bs
      | 0xCB => takeForeign 8 bs
      | 0xCC => takeUnsigned 1 bs
      | 0xCD => takeUnsigned 2 bs
      | 0xCE => takeUnsigned 4 bs
      | 0xCF => takeUnsigned 8 bs
      | 0xD0 => takeSigned 1 bs
      | 0xD1 => takeSigned 2 bs
      | 0xD2 => takeSigned 4 bs
      | 0xD3 => takeSigned 8 bs
      | 0xD4 => takeForeign 2 bs
      | 0xD5 => takeForeign 3 bs
      | 0xD6 => takeForeign 5 bs
      | 0xD7 => takeForeign 9 bs
      | 0xD8 => takeForeign 17 bs
      | 0xDC => (takeNat 2 bs).map fun r => (.array r.1, r.2)
      | 0xDD => (takeNat 4 bs).map fun r => (.array r.1, r.2)
      | 0xDE => (takeNat 2 bs).map fun r => (.map r.1, r.2)
      | 0xDF => (takeNat 4 bs).map fun r => (.map r.1, r.2)
      | _ => none

/-- The number of values that follow a token as its parts. -/
def Token.parts : Token → Nat
  | array n => n
  | map n => 2 * n
  | _ => 0

/-- Skips `pending` values with all their parts. `fuel` bounds the number of tokens. -/
def skipWithin : Nat → Nat → Bytes → Option Bytes
  | _, 0, bs => some bs
  | 0, _ + 1, _ => none
  | fuel + 1, pending + 1, bs =>
    match takeToken bs with
    | some (t, rest) => skipWithin fuel (pending + t.parts) rest
    | none => none

/-- Skips one value with all its parts. Every token has a byte, so the bytes bound their number. -/
def skipValue (bs : Bytes) : Option Bytes := skipWithin bs.length 1 bs

end StraightLine.Program.Packed
