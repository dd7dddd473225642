/-! Values and keys of settings files written in TOML. -/

namespace StraightLine.Toml

/-- A key with its parts; a dot stands between two parts in the file. -/
abbrev Key := List String

/-- A value as it is written. Floats and points in time are kept as their text: they are checked, but
nothing is computed with them. -/
inductive Value
  | string (s : String)
  | integer (n : Int64)
  | float (text : String)
  | boolean (b : Bool)
  | datetime (text : String)
  | array (items : List Value)
  | table (entries : List (Key × Value))
  deriving Repr

def Value.isArray : Value → Bool
  | array _ => true
  | _ => false

def isDigit (c : Char) : Bool := '0' ≤ c && c ≤ '9'
def isHexDigit (c : Char) : Bool := isDigit c || ('a' ≤ c && c ≤ 'f') || ('A' ≤ c && c ≤ 'F')
def isOctalDigit (c : Char) : Bool := '0' ≤ c && c ≤ '7'
def isBinaryDigit (c : Char) : Bool := c = '0' || c = '1'

def isBare (c : Char) : Bool :=
  ('a' ≤ c && c ≤ 'z') || ('A' ≤ c && c ≤ 'Z') || isDigit c || c = '_' || c = '-'

def isBlank (c : Char) : Bool := c = ' ' || c = '\t'
def isNewline (c : Char) : Bool := c = '\n' || c = '\r'

def digitValue (c : Char) : Nat :=
  if isDigit c then c.toNat - '0'.toNat
  else if 'a' ≤ c && c ≤ 'f' then c.toNat - 'a'.toNat + 10
  else c.toNat - 'A'.toNat + 10

def ofDigits (base : Nat) (cs : List Char) : Nat := cs.foldl (fun n c => n * base + digitValue c) 0

namespace Key

def unicodeEscape (n : Nat) : String :=
  let digits := Nat.toDigits 16 n
  "\\u" ++ String.ofList (List.replicate (4 - digits.length) '0' ++ digits)

/-- A character of a quoted part. -/
def escapeChar (c : Char) : String :=
  match c with
  | '"' => "\\\""
  | '\\' => "\\\\"
  | '\t' => "\\t"
  | '\n' => "\\n"
  | '\r' => "\\r"
  | c =>
    if c.toNat = 0x08 then "\\b"
    else if c.toNat = 0x0C then "\\f"
    else if c.toNat < 0x20 || c.toNat = 0x7F then unicodeEscape c.toNat
    else c.toString

/-- A part of a key, in quotes unless it can stand without. -/
def partText (s : String) : String :=
  if !s.isEmpty && s.toList.all isBare then s
  else "\"" ++ String.join (s.toList.map escapeChar) ++ "\""

def text (k : Key) : String := ".".intercalate (k.map partText)

end Key

end StraightLine.Toml
