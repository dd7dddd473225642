import StraightLine.Text.Printable

/-! Text in double quotes. Printable characters stand for themselves, the quote and the backslash are
escaped, and every other character is an escape of its own. -/

namespace StraightLine.Text.Quoted

/-- `n` in lower-case hexadecimal, with zeros in front up to `width` digits. -/
def hex (width n : Nat) : String :=
  let digits := Nat.toDigits 16 n
  String.ofList (List.replicate (width - digits.length) '0' ++ digits)

/-- The escape of a character that is not shown as itself. -/
def escape (c : Char) : String :=
  match c.toNat with
  | 0x07 => "\\a"
  | 0x08 => "\\b"
  | 0x0C => "\\f"
  | 0x0A => "\\n"
  | 0x0D => "\\r"
  | 0x09 => "\\t"
  | 0x0B => "\\v"
  | n =>
    if n < 0x20 || n == 0x7F then "\\x" ++ hex 2 n
    else if n < 0x10000 then "\\u" ++ hex 4 n
    else "\\U" ++ hex 8 n

def encodeChar (c : Char) : String :=
  if c = '"' then "\\\""
  else if c = '\\' then "\\\\"
  else if isPrintable c then c.toString
  else escape c

end StraightLine.Text.Quoted

namespace StraightLine.Text

def quote (s : String) : String :=
  "\"" ++ s.toList.foldl (fun out c => out ++ Quoted.encodeChar c) "" ++ "\""

end StraightLine.Text
