import StraightLine.Source.Node
import StraightLine.Text.Decimal

/-! Variables of three-address code. A variable is a version of a source name, known by the first
handle that spelled the name, or a temporary. The kind is a code so that foreign variables can be held
and ordered too. -/

namespace StraightLine.Code

open StraightLine.Source

structure Var where
  /-- 1 for a temporary, 2 for a version of a source name. -/
  kind : UInt8 := 0
  /-- The handle of the name; zero for temporaries. -/
  handle : Handle := 0
  version : Int64 := 0
  deriving DecidableEq, Repr, Inhabited

namespace Var

def temp (version : Int64) : Var := { kind := 1, version := version }

def named (h : Handle) (version : Int64) : Var := { kind := 2, handle := h, version := version }

/-- By kind, then by handle, then by version. -/
def compare (a b : Var) : Ordering :=
  (Ord.compare a.kind b.kind).then <|
    (Ord.compare a.handle b.handle).then (Ord.compare a.version b.version)

def le (a b : Var) : Bool := (a.compare b).isLE

def sort (vs : List Var) : List Var := vs.mergeSort le

/-- The name of a variable: a temporary is `T` and its number, any other variable the text of its
handle and its version. -/
def name (resolve : Resolver) (v : Var) : String :=
  if v.kind = 1 then "T" ++ Text.Decimal.write v.version
  else resolve v.handle ++ Text.Decimal.write v.version

/-- The variable with the names of its parts, for messages about foreign variables. -/
def describe (v : Var) : String :=
  "\x7bKind:" ++ toString v.kind.toNat ++ " Handle:" ++ toString v.handle.toNat
    ++ " Version:" ++ Text.Decimal.write v.version ++ "\x7d"

end Var

end StraightLine.Code
