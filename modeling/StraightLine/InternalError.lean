/-! Internal errors: the stage that met a situation it cannot handle, the kind of situation, and a
message. -/

namespace StraightLine

/-- A kind of internal error. A code without a meaning is kept as it came. -/
inductive InternalKind
  | structuralMismatch
  | unallocatedReference
  | malformedLiteral
  | other (code : UInt8)
  deriving DecidableEq, Repr

namespace InternalKind

def ofCode (code : UInt8) : InternalKind :=
  match code with
  | 1 => structuralMismatch
  | 2 => unallocatedReference
  | 3 => malformedLiteral
  | n => other n

def name : InternalKind → String
  | structuralMismatch => "structural mismatch"
  | unallocatedReference => "unallocated reference"
  | malformedLiteral => "malformed literal"
  | other _ => "unknown"

end InternalKind

structure InternalError where
  kind : InternalKind
  stage : String
  detail : String
  deriving DecidableEq, Repr

def InternalError.message (e : InternalError) : String :=
  e.stage ++ ": internal error (" ++ e.kind.name ++ "): " ++ e.detail

end StraightLine
