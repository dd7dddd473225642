import StraightLine.Program.Instr

/-! A machine that runs two-address code on 64-bit words that wrap around. A cell that was never
written holds zero. -/

namespace StraightLine.Program

open StraightLine.Alloc

/-- A place that holds a word. -/
inductive Cell
  | reg (r : Reg)
  | mem (slot : UInt32)
  deriving DecidableEq, Repr

/-- The words of the cells that were written, each cell once. -/
structure Machine where
  cells : List (Cell × Int64)
  deriving DecidableEq, Repr

namespace Machine

def empty : Machine := ⟨[]⟩

def get (m : Machine) (c : Cell) : Int64 := ((m.cells.find? fun e => e.1 = c).map (·.2)).getD 0

def set (m : Machine) (c : Cell) (x : Int64) : Machine :=
  ⟨(c, x) :: m.cells.filter fun e => e.1 ≠ c⟩

theorem get_empty (c : Cell) : empty.get c = 0 := rfl

theorem get_set_self (m : Machine) (c : Cell) (x : Int64) : (m.set c x).get c = x := by
  simp [get, set]

theorem get_set_of_ne (m : Machine) {c d : Cell} (x : Int64) (h : d ≠ c) :
    (m.set c x).get d = m.get d := by
  have hc : decide (c = d) = false := by simp [Ne.symm h]
  have hf : (m.cells.filter fun e => e.1 ≠ c).find? (fun e => e.1 = d)
      = m.cells.find? fun e => e.1 = d := by
    rw [List.find?_filter]
    congr 1
    funext e
    by_cases he : e.1 = d
    · simp [he, h]
    · simp [he]
  simp only [get, set, List.find?_cons, hc, hf]

/-- The registers that were written, by number. -/
def registers (m : Machine) : List (Reg × Int64) :=
  (m.cells.filterMap fun e =>
    match e.1 with
    | .reg r => some (r, e.2)
    | .mem _ => none).mergeSort fun a b => a.1 ≤ b.1

/-- The slots that were written, by number. -/
def memory (m : Machine) : List (UInt32 × Int64) :=
  (m.cells.filterMap fun e =>
    match e.1 with
    | .mem s => some (s, e.2)
    | .reg _ => none).mergeSort fun a b => a.1 ≤ b.1

end Machine

/-- The cell that a target stands for. -/
def Target.cell (t : Target) : Cell := if t.kind = 2 then .mem t.slot else .reg t.reg

/-- The word that a source stands for. -/
def Machine.read (m : Machine) (s : Source) : Int64 :=
  if s.kind = 1 then s.imm
  else if s.kind = 3 then m.get (.mem s.slot)
  else m.get (.reg s.reg)

/-- Why a run stops. -/
inductive RunFault
  | divisionByZero (position : Nat) (instr : Instr)
  | unknownOpcode (position : Nat) (code : UInt8)
  deriving DecidableEq, Repr

def RunFault.message : RunFault → String
  | divisionByZero p i => "instr " ++ toString p ++ " (" ++ i.text ++ "): division by zero"
  | unknownOpcode p code => "instr " ++ toString p ++ ": unknown opcode " ++ toString code.toNat

/-- What an instruction does: it puts a word into its target, or it stops the run. -/
inductive Effect
  | put (x : Int64)
  | zeroDivisor
  | undefinedOp

/-- The effect of an operation on the words of target and source. -/
def effect (op : UInt8) (cur src : Int64) : Effect :=
  match op with
  | 1 => .put src
  | 2 => .put (cur + src)
  | 3 => .put (cur - src)
  | 4 => .put (cur * src)
  | 5 => if src = 0 then .zeroDivisor else .put (cur / src)
  | _ => .undefinedOp

namespace Machine

def step (m : Machine) (position : Nat) (i : Instr) : Except RunFault Machine :=
  match effect i.op (m.get i.dst.cell) (m.read i.src) with
  | .put x => .ok (m.set i.dst.cell x)
  | .zeroDivisor => .error (.divisionByZero position i)
  | .undefinedOp => .error (.unknownOpcode position i.op)

/-- Runs code from a position on. A fault stops the run; what was done before stays done. -/
def runFrom (m : Machine) (position : Nat) : List Instr → Machine × Option RunFault
  | [] => (m, none)
  | i :: is =>
    match m.step position i with
    | .ok m' => m'.runFrom (position + 1) is
    | .error f => (m, some f)

def run (m : Machine) (code : List Instr) : Machine × Option RunFault := m.runFrom 0 code

/-- Why a location cannot be looked up. -/
inductive LoadFault
  | slotOutOfRange (slot : Int64)
  deriving DecidableEq, Repr

def LoadFault.message : LoadFault → String
  | slotOutOfRange slot => "testkit: spill slot " ++ Text.Decimal.write slot ++ ": out of range"

def load (m : Machine) : Location → Except LoadFault Int64
  | .register r => .ok (m.get (.reg r))
  | .spilled slot | .untagged _ slot =>
    if 0 ≤ slot.toInt ∧ slot.toInt < UInt32.size then
      .ok (m.get (.mem (UInt32.ofNat slot.toInt.toNat)))
    else .error (.slotOutOfRange slot)

end Machine

end StraightLine.Program
