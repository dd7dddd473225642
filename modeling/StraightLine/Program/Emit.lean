import StraightLine.Code.Interp
import StraightLine.InternalError
import StraightLine.Program.Instr

/-! From three-address to two-address code: the left operand is moved to the destination, unless it is
there already, and the operation then works on the destination. -/

namespace StraightLine.Program

open StraightLine.Alloc StraightLine.Source

inductive EmitFault
  | unplaced (v : Code.Var)
  | badLiteral (h : Handle) (text : String) (cause : Text.Decimal.Fault)
  | slotOverflow
  | unknownOperator (code : UInt8)
  deriving DecidableEq, Repr

def EmitFault.message (resolve : Resolver) : EmitFault → String
  | unplaced v => v.name resolve ++ " has no register or spill slot"
  | badLiteral h text cause =>
    "literal " ++ Text.quote text ++ " at handle " ++ toString h.toNat ++ ": "
      ++ Code.literalMessage text cause
  | slotOverflow => "emit: spill slot overflow: out of range"
  | unknownOperator code => "emit: unknown operator " ++ toString code.toNat

/-- Variables without a place and literals that are no numbers are internal errors of the last stage.
The other faults are not: only foreign code or a foreign locator brings them up. -/
def EmitFault.internal? (resolve : Resolver) (f : EmitFault) : Option InternalError :=
  match f with
  | unplaced _ => some ⟨.unallocatedReference, "emit", f.message resolve⟩
  | badLiteral .. => some ⟨.malformedLiteral, "emit", f.message resolve⟩
  | slotOverflow | unknownOperator _ => none

/-- Where the variables of the code live. -/
abbrev Locator := Code.Var → Option Location

def slotNumber? (slot : Int64) : Option UInt32 :=
  if 0 ≤ slot.toInt ∧ slot.toInt < UInt32.size then some (UInt32.ofNat slot.toInt.toNat) else none

/-- The target that a variable lives in. -/
def targetOf (locate : Locator) (v : Code.Var) : Except EmitFault Target :=
  match locate v with
  | none => .error (.unplaced v)
  | some (.spilled slot) =>
    match slotNumber? slot with
    | some n => .ok (.memory n)
    | none => .error .slotOverflow
  | some (.register r) | some (.untagged r _) => .ok (.register r)

/-- The source that an operand is read from. -/
def sourceOf (locate : Locator) (resolve : Resolver) : Code.Operand → Except EmitFault Source
  | .literal h =>
    match Text.Decimal.read (resolve h) with
    | .ok n => .ok (.immediate n)
    | .error cause => .error (.badLiteral h (resolve h) cause)
  | .var v | .untagged v _ => (targetOf locate v).map Target.asSource

def opcodeOf : Code.Operator → Except EmitFault UInt8
  | .add => .ok 2
  | .sub => .ok 3
  | .mul => .ok 4
  | .div => .ok 5
  | .other n => .error (.unknownOperator n)

/-- The machine code of one instruction. Its parts are looked at in the order destination, left operand,
operator, right operand. -/
def emitOne (locate : Locator) (resolve : Resolver) (i : Code.Instr) :
    Except EmitFault (List Instr) := do
  let dst ← targetOf locate i.dst
  let left ← sourceOf locate resolve i.left
  let move : Instr := { op := 1, dst := dst, src := left }
  match i.right with
  | none => return [move]
  | some (operator, operand) => do
    let op ← opcodeOf operator
    let right ← sourceOf locate resolve operand
    return (if dst.same left then [] else [move]) ++ [{ op := op, dst := dst, src := right }]

def emit (locate : Locator) (resolve : Resolver) (code : List Code.Instr) :
    Except EmitFault Program := do
  let parts ← code.mapM (emitOne locate resolve)
  return { instrs := parts.flatten }

end StraightLine.Program
