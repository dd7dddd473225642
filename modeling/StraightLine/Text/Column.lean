import StraightLine.Text.Cluster
import StraightLine.Text.Column.Table

/-! How many terminal columns a text takes. A cluster is as wide as its first character that has a
width at all. -/

namespace StraightLine.Text.Column

/-- The columns of one character: none, one or two. -/
def charWidth (c : Char) : Nat :=
  let n := c.toNat
  if n < 0x20 then 0
  else if (0x7F ≤ n && n ≤ 0x9F) || n = 0xAD then 0
  else if n < 0x300 then 1
  else if Cluster.within invisible n || Cluster.within combining n then 0
  else if Cluster.within wide n then 2
  else 1

def clusterWidth (cs : List Char) : Nat :=
  ((cs.map charWidth).find? (0 < ·)).getD 0

def width (s : String) : Nat := ((Cluster.cut s.toList).map clusterWidth).foldl (· + ·) 0

/-- The text with blanks behind it up to `n` columns. -/
def padRight (s : String) (n : Nat) : String :=
  s ++ String.ofList (List.replicate (n - width s) ' ')

end StraightLine.Text.Column
