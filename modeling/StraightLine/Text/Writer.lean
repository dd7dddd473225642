/-! Writing pieces of text to a writer that may fail. -/

namespace StraightLine.Text

/-- What came of writing some pieces one after the other. -/
structure Written where
  /-- What the writer has taken. -/
  text : String
  /-- A piece was refused, and none behind it was written. -/
  failed : Bool
  deriving DecidableEq, Repr

/-- Writes pieces to a writer that takes `limit` of them and refuses the next. -/
def writeUpTo (limit : Nat) (pieces : List String) : Written :=
  ⟨String.join (pieces.take limit), decide (limit < pieces.length)⟩

def lines (ls : List String) : List String := ls.map (· ++ "\n")

end StraightLine.Text
