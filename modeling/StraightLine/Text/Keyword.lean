/-! Keywords are compared without regard to case. Of the letters outside ASCII only two have an ASCII
lower-case form, the dotted capital I and the Kelvin sign, so these and the ASCII capitals decide
whether a text is a keyword. -/

namespace StraightLine.Text

/-- The lower-case form of a character, as far as ASCII is concerned. -/
def lowerChar (c : Char) : Char :=
  if c.toNat = 0x130 then 'i'
  else if c.toNat = 0x212A then 'k'
  else c.toLower

def lower (s : String) : String := s.map lowerChar

end StraightLine.Text
