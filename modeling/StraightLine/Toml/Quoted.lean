import StraightLine.Toml.Value

/-! Quoted texts. Between double quotes a backslash starts an escape; between single quotes everything
stands for itself. Tripled quotes let a text go over several lines; a newline right behind them is
dropped, and up to two quotes may stand right before the closing ones. -/

namespace StraightLine.Toml

abbrev QuotedText := Option (String × List Char)

/-- A character given by its number, if the number is that of a character. -/
def charOf (ds : List Char) : Option Char :=
  let n := ofDigits 16 ds
  if n.isValidChar then some (Char.ofNat n) else none

/-- The character of an escape behind its backslash, and the rest. -/
def takeEscape : List Char → Option (Char × List Char)
  | 'b' :: cs => some (Char.ofNat 0x08, cs)
  | 't' :: cs => some ('\t', cs)
  | 'n' :: cs => some ('\n', cs)
  | 'f' :: cs => some (Char.ofNat 0x0C, cs)
  | 'r' :: cs => some ('\r', cs)
  | '"' :: cs => some ('"', cs)
  | '\\' :: cs => some ('\\', cs)
  | 'u' :: cs =>
    let ds := cs.take 4
    if ds.length = 4 && ds.all isHexDigit then (charOf ds).map (·, cs.drop 4) else none
  | 'U' :: cs =>
    let ds := cs.take 8
    if ds.length = 8 && ds.all isHexDigit then (charOf ds).map (·, cs.drop 8) else none
  | _ => none

/-- Takes a text up to its closing double quote. `out` is the text so far, backwards. -/
def takeBasic : Nat → List Char → List Char → QuotedText
  | 0, _, _ => none
  | _ + 1, _, [] => none
  | fuel + 1, out, c :: cs =>
    if c = '"' then some (String.ofList out.reverse, cs)
    else if isNewline c then none
    else if c = '\\' then
      match takeEscape cs with
      | some (d, cs) => takeBasic fuel (d :: out) cs
      | none => none
    else takeBasic fuel (c :: out) cs

/-- Takes a text up to its closing single quote. -/
def takeLiteral (cs : List Char) : QuotedText :=
  let inText (c : Char) : Bool := c != '\'' && !isNewline c
  match cs.dropWhile inText with
  | '\'' :: rest => some (String.ofList (cs.takeWhile inText), rest)
  | _ => none

def dropFirstNewline : List Char → List Char
  | '\n' :: cs => cs
  | '\r' :: '\n' :: cs => cs
  | cs => cs

/-- A run of quotes in a text over several lines. -/
inductive QuoteRun
  /-- The quotes belong to the text. -/
  | inside
  /-- The text is closed, with some quotes before the closing ones. -/
  | closing (extra : Nat)
  /-- There are too many quotes. -/
  | tooMany
  deriving DecidableEq, Repr

/-- What a run of `n` quotes does, when runs from `limit` quotes on are too long. -/
def quoteRun (limit n : Nat) : QuoteRun :=
  if n < 3 then .inside else if n < limit then .closing (n - 3) else .tooMany

/-- Takes a text up to its closing tripled double quotes. `out` is the text so far, backwards, and
`afterSlash` says that an escaped backslash stands right before, which lets one more quote through. -/
def takeMultiBasic : Nat → Bool → List Char → List Char → QuotedText
  | 0, _, _, _ => none
  | _ + 1, _, _, [] => none
  | fuel + 1, afterSlash, out, c :: cs =>
    if c = '"' then
      let n := (cs.takeWhile (· = '"')).length + 1
      let rest := cs.drop (n - 1)
      match quoteRun (if afterSlash then 7 else 6) n with
      | .inside => takeMultiBasic fuel false (List.replicate n '"' ++ out) rest
      | .closing extra => some (String.ofList (out.reverse ++ List.replicate extra '"'), rest)
      | .tooMany => none
    else if c = '\\' then
      let inGap (c : Char) : Bool := isBlank c || isNewline c
      if (cs.takeWhile inGap).contains '\n' then
        takeMultiBasic fuel false out (cs.dropWhile inGap)
      else
        match takeEscape cs with
        | some (d, rest) => takeMultiBasic fuel (cs.head? = some '\\') (d :: out) rest
        | none => none
    else takeMultiBasic fuel false (c :: out) cs

/-- Takes a text up to its closing tripled single quotes. -/
def takeMultiLiteral : Nat → List Char → List Char → QuotedText
  | 0, _, _ => none
  | _ + 1, _, [] => none
  | fuel + 1, out, c :: cs =>
    if c = '\'' then
      let n := (cs.takeWhile (· = '\'')).length + 1
      let rest := cs.drop (n - 1)
      match quoteRun 6 n with
      | .inside => takeMultiLiteral fuel (List.replicate n '\'' ++ out) rest
      | .closing extra => some (String.ofList (out.reverse ++ List.replicate extra '\''), rest)
      | .tooMany => none
    else takeMultiLiteral fuel (c :: out) cs

/-- Takes a text on one line behind its opening quote. -/
def takeLineText (mark : Char) (cs : List Char) : QuotedText :=
  if mark = '"' then takeBasic (cs.length + 1) [] cs else takeLiteral cs

/-- Takes a text behind its first quote, which may be the first of three. -/
def takeText (mark : Char) (cs : List Char) : QuotedText :=
  match cs with
  | c :: d :: rest =>
    if c = mark && d = mark then
      let rest := dropFirstNewline rest
      if mark = '"' then takeMultiBasic (rest.length + 1) false [] rest
      else takeMultiLiteral (rest.length + 1) [] rest
    else takeLineText mark cs
  | _ => takeLineText mark cs

end StraightLine.Toml
