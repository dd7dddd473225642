import StraightLine.Code.Interp
import StraightLine.Program.Emit
import StraightLine.Program.Machine

/-! Three-address code and its machine code side by side: each instruction is stepped by the
interpreter, and the machine runs the code emitted for this one instruction. -/

namespace StraightLine

open StraightLine.Source StraightLine.Code StraightLine.Program

namespace Lockstep

structure State where
  env : Env := .empty
  machine : Machine := .empty

structure Outcome where
  stepped : Except StepFault Int64
  ran : Except RunFault Int64

/-- The word that the machine holds for a variable. One without a place is looked up like a location
without a tag. -/
def held (locate : Locator) (m : Machine) (v : Var) : Int64 :=
  (m.load ((locate v).getD (.untagged 0 0))).toOption.getD 0

/-- The machine code of one instruction; there is none if it cannot be emitted. -/
def codeOf (locate : Locator) (resolve : Resolver) (i : Code.Instr) : List Program.Instr :=
  (emitOne locate resolve i).toOption.getD []

/-- Both sides take one instruction. A side that fails keeps what it had done before. -/
def step (locate : Locator) (resolve : Resolver) (s : State) (i : Code.Instr) : Outcome × State :=
  let (stepped, env) : Except StepFault Int64 × Env :=
    match i.step resolve s.env with
    | .ok (x, env) => (.ok x, env)
    | .error f => (.error f, s.env)
  let (machine, fault) := s.machine.run (codeOf locate resolve i)
  let ran : Except RunFault Int64 :=
    match fault with
    | some f => .error f
    | none => .ok (held locate machine i.dst)
  (⟨stepped, ran⟩, ⟨env, machine⟩)

def run (locate : Locator) (resolve : Resolver) (s : State) : List Code.Instr → List Outcome
  | [] => []
  | i :: is =>
    let (o, s) := step locate resolve s i
    o :: run locate resolve s is

end Lockstep

end StraightLine
