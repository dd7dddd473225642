import StraightLine.Toml.Number
import StraightLine.Toml.Quoted

/-! The lines of a settings file: headers, which open a table, and assignments. -/

namespace StraightLine.Toml

inductive Line
  /-- `[key]`, or `[[key]]` for one more table of an array. -/
  | header (key : Key) (inArray : Bool)
  | assignment (key : Key) (value : Value)
  deriving Repr

/-- A character that may stand in a file: anything but controls, and not the replacement character,
which stands for bytes that are no text. -/
def isAllowed (c : Char) : Bool :=
  c = '\t' || c = '\n' || c = '\r' || (0x20 ≤ c.toNat && c.toNat != 0x7F && c.toNat != 0xFFFD)

/-- Every character may stand in a file, and every carriage return is part of a newline. -/
def allAllowed : List Char → Bool
  | [] => true
  | ['\r'] => false
  | '\r' :: c :: cs => c = '\n' && allAllowed (c :: cs)
  | c :: cs => isAllowed c && allAllowed cs

/-- The characters of a file given by its bytes. A byte order mark is skipped; bytes that are not UTF-8
make no text. -/
def charsOfBytes (bs : List UInt8) : Option (List Char) :=
  let body :=
    match bs with
    | 0xFF :: 0xFE :: rest => rest
    | 0xFE :: 0xFF :: rest => rest
    | 0xEF :: 0xBB :: 0xBF :: rest => rest
    | bs => bs
  (String.fromUTF8? ⟨body.toArray⟩).map String.toList

def skipBlanks (cs : List Char) : List Char := cs.dropWhile isBlank

/-- Takes one part of a key: a quoted text on one line, or a bare word. -/
def takePart (cs : List Char) : Option (String × List Char) :=
  match cs with
  | [] => none
  | c :: rest =>
    if c = '"' || c = '\'' then takeLineText c rest
    else
      let word := cs.takeWhile isBare
      if word.isEmpty then none else some (String.ofList word, cs.dropWhile isBare)

/-- Takes a key up to the character that closes it. -/
def takeKey (close : Char) : Nat → List Char → Option (Key × List Char)
  | 0, _ => none
  | fuel + 1, cs => do
    let (part, rest) ← takePart (skipBlanks cs)
    match skipBlanks rest with
    | c :: rest =>
      if c = '.' then do
        let (key, rest) ← takeKey close fuel rest
        return (part :: key, rest)
      else if c = close then return ([part], rest)
      else none
    | [] => none

def skipComment (cs : List Char) : List Char := cs.dropWhile fun c => !isNewline c

/-- Drops blanks, newlines and comments between the items of an array. -/
def skipGaps : Nat → List Char → List Char
  | 0, cs => cs
  | fuel + 1, cs =>
    match cs.dropWhile (fun c => isBlank c || isNewline c) with
    | '#' :: rest => skipGaps fuel (skipComment rest)
    | rest => rest

def takeWord (cs : List Char) : Option (Value × List Char) :=
  match cs with
  | 't' :: 'r' :: 'u' :: 'e' :: rest => some (.boolean true, rest)
  | 'f' :: 'a' :: 'l' :: 's' :: 'e' :: rest => some (.boolean false, rest)
  | 'i' :: 'n' :: 'f' :: rest => some (.float "inf", rest)
  | 'n' :: 'a' :: 'n' :: rest => some (.float "nan", rest)
  | _ => none

mutual

/-- Takes a value. Blanks may stand before it, newlines may not. -/
def takeValue : Nat → List Char → Option (Value × List Char)
  | 0, _ => none
  | fuel + 1, cs =>
    match skipBlanks cs with
    | [] => none
    | c :: rest =>
      if c = '[' then do
        let (items, rest) ← takeItems fuel rest
        return (.array items, rest)
      else if c = '\x7b' then
        match skipBlanks rest with
        | '\x7d' :: rest => some (.table [], rest)
        | rest => do
          let (entries, rest) ← takeEntries fuel rest
          return (.table entries, rest)
      else if c = '"' || c = '\'' then (takeText c rest).map fun r => (.string r.1, r.2)
      else if isDigit c then takeUnsigned (c :: rest)
      else if c = '+' || c = '-' then takeSigned c rest
      else takeWord (c :: rest)

/-- Takes the items of an array and its closing bracket. A comma may stand behind the last item. -/
def takeItems : Nat → List Char → Option (List Value × List Char)
  | 0, _ => none
  | fuel + 1, cs =>
    match skipGaps cs.length cs with
    | ']' :: rest => some ([], rest)
    | cs => do
      let (v, rest) ← takeValue fuel cs
      match skipGaps rest.length rest with
      | ',' :: rest => do
        let (vs, rest) ← takeItems fuel rest
        return (v :: vs, rest)
      | ']' :: rest => return ([v], rest)
      | _ => none

/-- Takes the entries of an inline table, at least one, and its closing brace. It stands on one line,
and no comma stands behind the last entry. -/
def takeEntries : Nat → List Char → Option (List (Key × Value) × List Char)
  | 0, _ => none
  | fuel + 1, cs => do
    let (key, rest) ← takeKey '=' (cs.length + 1) cs
    let (v, rest) ← takeValue fuel rest
    match skipBlanks rest with
    | ',' :: rest => do
      let (entries, rest) ← takeEntries fuel rest
      return ((key, v) :: entries, rest)
    | '\x7d' :: rest => return ([(key, v)], rest)
    | _ => none

end

/-- Takes the end of a line: a comment may stand before it. -/
def takeLineEnd (cs : List Char) : Option (List Char) :=
  match skipBlanks cs with
  | [] => some []
  | c :: rest =>
    if c = '#' then some (skipComment rest)
    else if isNewline c then some rest
    else none

/-- Takes a header behind its first bracket. -/
def takeHeader (cs : List Char) : Option (Line × List Char) :=
  match cs with
  | '[' :: rest => do
    let (key, rest) ← takeKey ']' (rest.length + 1) rest
    let rest ← takeChar ']' rest
    return (.header key true, rest)
  | _ => do
    let (key, rest) ← takeKey ']' (cs.length + 1) cs
    return (.header key false, rest)

def takeAssignment (cs : List Char) : Option (Line × List Char) := do
  let (key, rest) ← takeKey '=' (cs.length + 1) cs
  let (v, rest) ← takeValue (rest.length + 1) rest
  return (.assignment key v, rest)

def takeLines : Nat → List Char → Option (List Line)
  | 0, _ => none
  | fuel + 1, cs =>
    match skipGaps cs.length cs with
    | [] => some []
    | cs => do
      let (line, rest) ←
        match cs with
        | '[' :: rest => takeHeader rest
        | cs => takeAssignment cs
      let rest ← takeLineEnd rest
      let lines ← takeLines fuel rest
      return line :: lines

def lines (cs : List Char) : Option (List Line) :=
  if allAllowed cs then takeLines (cs.length + 1) cs else none

end StraightLine.Toml
