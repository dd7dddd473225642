import StraightLine.Text.Decimal
import StraightLine.Toml.Value

/-! Numbers and points in time. A scalar is first cut out of the text by its characters and then
checked: the digits may have single underscores between them and no zero in front, an integer has to fit
into 64 bits, and a float must not be too large. -/

namespace StraightLine.Toml

/-- Underscores have a digit on both sides, and the text ends with a digit. -/
def underscoresOk (afterDigit : Bool) : List Char → Bool
  | [] => afterDigit
  | c :: cs => (c != '_' || afterDigit) && underscoresOk (isHexDigit c) cs

def hasLeadingZero : List Char → Bool
  | '0' :: c :: _ => !(c = 'b' || c = 'o' || c = 'x')
  | '-' :: '0' :: _ :: _ => true
  | '+' :: '0' :: _ :: _ => true
  | _ => false

/-- The number that a text stands for, if it has 64 bits with its sign. -/
def integerOf (negative : Bool) (n : Nat) : Option Int64 :=
  (Text.Decimal.signed negative n).toOption

def checkInteger (cs : List Char) : Option Int64 :=
  if !underscoresOk false cs || hasLeadingZero cs then none
  else
    match cs.filter (· != '_') with
    | '0' :: 'x' :: ds => integerOf false (ofDigits 16 ds)
    | '0' :: 'o' :: ds => integerOf false (ofDigits 8 ds)
    | '0' :: 'b' :: ds => integerOf false (ofDigits 2 ds)
    | '-' :: ds => integerOf true (ofDigits 10 ds)
    | '+' :: ds => integerOf false (ofDigits 10 ds)
    | ds => integerOf false (ofDigits 10 ds)

/-! ## Floats -/

/-- The parts of a float between its point and its exponent mark, without empty ones. -/
def floatParts : List Char → List Char → List (List Char)
  | part, [] => if part.isEmpty then [] else [part.reverse]
  | part, c :: cs =>
    if c = '.' || c = 'e' || c = 'E' then
      if part.isEmpty then floatParts [] cs else part.reverse :: floatParts [] cs
    else floatParts (c :: part) cs

/-- A digit follows every point. -/
def pointsOk : List Char → Bool
  | [] => true
  | '.' :: c :: cs => isDigit c && pointsOk (c :: cs)
  | ['.'] => false
  | _ :: cs => pointsOk cs

/-- A float taken apart: its digits, how many of them stand behind the point, and its exponent. -/
structure Scientific where
  digits : List Char
  places : Nat
  exponent : Int

/-- The number that the digits of an exponent stand for. No digit counts any more once the number has
reached ten thousand: it is far out of range then. -/
def exponentDigits (cs : List Char) : Nat :=
  cs.foldl (fun n c => if n < 10000 then n * 10 + digitValue c else n) 0

/-- The digits of an exponent with its sign. -/
def exponentOf : List Char → Option Int
  | [] => some 0
  | e :: cs =>
    if e = 'e' || e = 'E' then
      let (negative, ds) :=
        match cs with
        | '-' :: ds => (true, ds)
        | '+' :: ds => (false, ds)
        | ds => (false, ds)
      if ds.isEmpty || !ds.all isDigit then none
      else some (if negative then -(exponentDigits ds : Int) else exponentDigits ds)
    else none

/-- Takes a float apart: an optional sign, digits, an optional point with digits, an optional
exponent. -/
def floatOf (cs : List Char) : Option Scientific :=
  let cs :=
    match cs with
    | '-' :: ds => ds
    | '+' :: ds => ds
    | ds => ds
  let whole := cs.takeWhile isDigit
  let (fraction, rest) :=
    match cs.dropWhile isDigit with
    | '.' :: ds => (ds.takeWhile isDigit, ds.dropWhile isDigit)
    | ds => ([], ds)
  if whole.isEmpty && fraction.isEmpty then none
  else (exponentOf rest).map fun e => ⟨whole ++ fraction, fraction.length, e⟩

/-- The float is not rounded to infinity: it lies below the middle between the largest double and the
next power of two. -/
def Scientific.inRange (f : Scientific) : Bool :=
  let m := ofDigits 10 f.digits
  let e := f.exponent - f.places
  let limit := Nat.pow 2 1024 - Nat.pow 2 970
  if m = 0 then true
  else if e > 400 then false
  else if 0 ≤ e then m * Nat.pow 10 e.toNat < limit
  else if e < -(f.digits.length : Int) then true
  else m < limit * Nat.pow 10 (-e).toNat

def checkFloat (cs : List Char) : Bool :=
  let parts := floatParts [] cs
  parts.all (underscoresOk false) && !(parts.head?.any hasLeadingZero) && pointsOk cs
    && (floatOf (cs.filter (· != '_'))).any Scientific.inRange

/-! ## Points in time -/

def takeDigits (n : Nat) (cs : List Char) : Option (Nat × List Char) :=
  let ds := cs.take n
  if ds.length = n && ds.all isDigit then some (ofDigits 10 ds, cs.drop n) else none

def takeShort (cs : List Char) : Option (Nat × List Char) := (takeDigits 2 cs).or (takeDigits 1 cs)

def takeChar (c : Char) : List Char → Option (List Char)
  | d :: cs => if c = d then some cs else none
  | [] => none

def isLeapYear (y : Nat) : Bool := y % 4 = 0 && (y % 100 != 0 || y % 400 = 0)

def daysInMonth (y m : Nat) : Nat :=
  match m with
  | 2 => if isLeapYear y then 29 else 28
  | 4 | 6 | 9 | 11 => 30
  | _ => 31

def takeDate (cs : List Char) : Option (List Char) := do
  let (y, cs) ← takeDigits 4 cs
  let cs ← takeChar '-' cs
  let (m, cs) ← takeDigits 2 cs
  let cs ← takeChar '-' cs
  let (d, cs) ← takeDigits 2 cs
  if 1 ≤ m ∧ m ≤ 12 ∧ 1 ≤ d ∧ d ≤ daysInMonth y m then some cs else none

/-- The rest behind a time of day, which may have a fraction of a second. The hour may have a single
digit. -/
def takeTime (cs : List Char) : Option (List Char) := do
  let (h, cs) ← takeShort cs
  let cs ← takeChar ':' cs
  let (m, cs) ← takeDigits 2 cs
  let cs ← takeChar ':' cs
  let (s, cs) ← takeDigits 2 cs
  if h < 24 ∧ m < 60 ∧ s < 60 then
    match cs with
    | '.' :: c :: ds => if isDigit c then some (ds.dropWhile isDigit) else some cs
    | _ => some cs
  else none

/-- The text is a zone: `Z`, or hours and minutes from it. -/
def isZone (cs : List Char) : Bool :=
  match cs with
  | ['Z'] => true
  | sign :: rest =>
    (sign = '+' || sign = '-') &&
      (do
        let (h, rest) ← takeDigits 2 rest
        let rest ← takeChar ':' rest
        let (m, rest) ← takeDigits 2 rest
        if h ≤ 24 ∧ m ≤ 60 ∧ rest.isEmpty then some () else none).isSome
  | [] => false

/-- Checks a date, a time of day, or both with or without a zone. Letters may be small, and a blank may
stand for the `T` between date and time. -/
def checkDatetime (cs : List Char) : Bool :=
  let cs := cs.map fun c => if c = 't' || c = ' ' then 'T' else if c = 'z' then 'Z' else c
  match takeDate cs with
  | some [] => true
  | some ('T' :: rest) =>
    match takeTime rest with
    | some [] => true
    | some zone => isZone zone
    | none => false
  | some _ => false
  | none => takeTime cs == some []

/-! ## Cutting scalars out of the text -/

/-- A scalar that starts with a digit or a sign, and the rest of the text. -/
abbrev Scalar := Option (Value × List Char)

def integerScalar (cs rest : List Char) : Scalar :=
  (checkInteger cs).map fun n => (.integer n, rest)

def floatScalar (cs rest : List Char) : Scalar :=
  if checkFloat cs then some (.float (String.ofList cs), rest) else none

def takeFloat (before rest : List Char) : Scalar :=
  let inFloat (c : Char) : Bool := isDigit c || "_.-+eE".toList.contains c
  floatScalar (before ++ rest.takeWhile inFloat) (rest.dropWhile inFloat)

def takeDecimal (before rest : List Char) : Scalar :=
  let inNumber (c : Char) : Bool := isDigit c || c = '_'
  let before := before ++ rest.takeWhile inNumber
  match rest.dropWhile inNumber with
  | c :: rest =>
    if c = '.' || c = 'e' || c = 'E' then takeFloat (before ++ [c]) rest
    else integerScalar before (c :: rest)
  | [] => integerScalar before []

def trimRight (cs : List Char) : List Char := (cs.reverse.dropWhile isBlank).reverse

/-- Goes on with a point in time behind its first separator. -/
def takeDatetime (before rest : List Char) : Scalar :=
  let inDatetime (c : Char) : Bool := isDigit c || "-:Tt .Zz+".toList.contains c
  let cs := trimRight (before ++ rest.takeWhile inDatetime)
  if checkDatetime cs then some (.datetime (String.ofList cs), rest.dropWhile inDatetime) else none

/-- Takes a number or a point in time behind its leading digits. -/
def takeNumberOrDate (cs : List Char) : Scalar :=
  let before := cs.takeWhile isDigit
  match cs.dropWhile isDigit with
  | c :: rest =>
    if c = '-' || c = ':' then takeDatetime (before ++ [c]) rest
    else takeDecimal before (c :: rest)
  | [] => integerScalar before []

/-- Takes a number in another base: a digit follows the mark of the base at once. -/
def takeBased (mark : Char) (inBase : Char → Bool) (rest : List Char) : Scalar :=
  match rest with
  | c :: _ =>
    if inBase c then
      let inNumber (c : Char) : Bool := inBase c || c = '_'
      integerScalar ('0' :: mark :: rest.takeWhile inNumber) (rest.dropWhile inNumber)
    else none
  | [] => none

/-- Takes a scalar that starts with a digit. A single zero may be followed by the mark of a base. -/
def takeUnsigned (cs : List Char) : Scalar :=
  match cs with
  | '0' :: 'x' :: rest => takeBased 'x' isHexDigit rest
  | '0' :: 'o' :: rest => takeBased 'o' isOctalDigit rest
  | '0' :: 'b' :: rest => takeBased 'b' isBinaryDigit rest
  | '0' :: c :: rest =>
    if isDigit c then takeNumberOrDate ('0' :: c :: rest) else takeDecimal ['0'] (c :: rest)
  | cs => takeNumberOrDate cs

/-- Takes a scalar behind its sign: only decimal numbers and the special floats have one. -/
def takeSigned (sign : Char) (rest : List Char) : Scalar :=
  match rest with
  | 'i' :: 'n' :: 'f' :: rest => some (.float (String.ofList [sign, 'i', 'n', 'f']), rest)
  | 'n' :: 'a' :: 'n' :: rest => some (.float (String.ofList [sign, 'n', 'a', 'n']), rest)
  | c :: rest => if isDigit c then takeDecimal [sign, c] rest else none
  | [] => none

end StraightLine.Toml
