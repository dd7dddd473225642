import StraightLine.Text.Keyword
import StraightLine.Text.Quoted

/-! What is traced, where to, and how it is written. Each choice has a code and a keyword; keywords are
compared without regard to case, and the empty keyword stands for the first choice. -/

namespace StraightLine.Trace

/-- How wide an event reaches: 1 for a whole run, 2 for a stage of it, 3 for a statement. -/
abbrev Scope := UInt8

def Scope.pipeline : Scope := 1
def Scope.stage : Scope := 2
def Scope.statement : Scope := 3

def Scope.name (s : Scope) : String :=
  match s with
  | 1 => "pipeline"
  | 2 => "stage"
  | 3 => "statement"
  | _ => "unknown"

/-- How much is traced. A code without a meaning is kept as it came. -/
inductive Level
  | off
  | error
  | phase
  | detail
  | debug
  | other (code : UInt8)
  deriving DecidableEq, Repr

namespace Level

def ofCode (code : UInt8) : Level :=
  match code with
  | 0 => off
  | 1 => error
  | 2 => phase
  | 3 => detail
  | 4 => debug
  | n => other n

def name : Level → String
  | off => "off"
  | error => "error"
  | phase => "phase"
  | detail => "detail"
  | debug => "debug"
  | other _ => "unknown"

/-- Anything but `off` is on, even if nothing is then let through. -/
def enabled (l : Level) : Bool := l ≠ off

def emits (l : Level) (s : Scope) : Bool :=
  match l with
  | phase => s ≤ Scope.pipeline
  | detail => s ≤ Scope.stage
  | debug => true
  | _ => false

end Level

/-- Where events go. A code without a meaning is kept as it came. -/
inductive Mode
  | stream
  | ring
  | both
  | other (code : UInt8)
  deriving DecidableEq, Repr

namespace Mode

def ofCode (code : UInt8) : Mode :=
  match code with
  | 1 => stream
  | 2 => ring
  | 3 => both
  | n => other n

def name : Mode → String
  | stream => "stream"
  | ring => "ring"
  | both => "both"
  | other _ => "unknown"

end Mode

/-- How events are written: a line of text, or a line with one JSON object. -/
inductive Format
  | text
  | ndjson
  deriving DecidableEq, Repr

def Format.code : Format → Nat
  | text => 0
  | ndjson => 1

inductive KeywordFault
  | level (word : String)
  | mode (word : String)
  | format (word : String)
  deriving DecidableEq, Repr

def KeywordFault.message : KeywordFault → String
  | level w =>
    "invalid trace level: " ++ Text.quote w ++ " (expected: off|error|phase|detail|debug)"
  | mode w => "invalid storage mode: " ++ Text.quote w ++ " (expected: stream|ring|both)"
  | format w => "invalid trace format: " ++ Text.quote w ++ " (expected: text|ndjson)"

def Level.parse (word : String) : Except KeywordFault Level :=
  match Text.lower word with
  | "off" | "" => .ok .off
  | "error" => .ok .error
  | "phase" => .ok .phase
  | "detail" => .ok .detail
  | "debug" => .ok .debug
  | _ => .error (.level word)

def Mode.parse (word : String) : Except KeywordFault Mode :=
  match Text.lower word with
  | "stream" | "" => .ok .stream
  | "ring" => .ok .ring
  | "both" => .ok .both
  | _ => .error (.mode word)

def Format.parse (word : String) : Except KeywordFault Format :=
  match Text.lower word with
  | "text" | "" => .ok .text
  | "ndjson" => .ok .ndjson
  | _ => .error (.format word)

end StraightLine.Trace
