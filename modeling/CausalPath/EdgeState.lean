/-!
# Edge states

Every edge of an execution graph carries an `EdgeState`: what the worker was doing, or what it was
waiting for, during the edge's interval. Two derived properties steer the search for critical
paths: the `Role` of the state, and whether a wait in that state may be explained by another worker
(`EdgeState.isMatchable`). States are stored as small integer codes.
-/

namespace CausalPath

/-- What an edge means to the search for a critical path. -/
inductive Role
  /-- The edge's own duration explains the elapsed time. -/
  | pass
  /-- The worker was waiting, and another worker may explain the interval. -/
  | block
  /-- Nothing is known. -/
  | unknown
  deriving DecidableEq, Repr

def Role.name : Role → String
  | .pass => "Pass"
  | .block => "Block"
  | .unknown => "Unknown"

/-- The classification of an edge, in the order of the stored codes. -/
inductive EdgeState
  /-- Filler without meaning: closing vertices, and vertices added without a state. -/
  | noEdge
  /-- A hop between vertices at the same time. -/
  | epsilon
  | unknown
  /-- A plain causal link. -/
  | default
  | running
  | blocked
  | interrupted
  | preempted
  | timer
  | network
  | userInput
  | blockDevice
  | ipi
  deriving DecidableEq, Repr

namespace EdgeState

/-- An edge of which nothing is said is a plain causal link. -/
instance : Inhabited EdgeState := ⟨.default⟩

def all : List EdgeState :=
  [.noEdge, .epsilon, .unknown, .default, .running, .blocked, .interrupted, .preempted, .timer,
    .network, .userInput, .blockDevice, .ipi]

/-- The stored code of a state: its place in `all`. -/
def code : EdgeState → Nat
  | .noEdge => 0
  | .epsilon => 1
  | .unknown => 2
  | .default => 3
  | .running => 4
  | .blocked => 5
  | .interrupted => 6
  | .preempted => 7
  | .timer => 8
  | .network => 9
  | .userInput => 10
  | .blockDevice => 11
  | .ipi => 12

/-- The state of a stored code. A code that names no state stands for `unknown`. -/
def ofCode (code : Nat) : EdgeState := all[code]?.getD .unknown

theorem ofCode_code (s : EdgeState) : ofCode s.code = s := by
  cases s <;> rfl

theorem code_lt (s : EdgeState) : s.code < 13 := by
  cases s <;> decide

/-- The role of a state in the search for a critical path. -/
def role : EdgeState → Role
  | .blocked | .network => .block
  | .epsilon | .default => .unknown
  | _ => .pass

/-- A wait in a matchable state may be explained by the worker that ended it. -/
def isMatchable (s : EdgeState) : Bool := s = .blocked ∨ s = .network

theorem isMatchable_iff (s : EdgeState) : s.isMatchable = true ↔ s.role = .block := by
  cases s <;> decide

def isMeaningful (s : EdgeState) : Bool := s ≠ .noEdge

/-- The label of a state in reports. -/
def label : EdgeState → String
  | .noEdge => "NO_EDGE"
  | .epsilon => "EPS"
  | .unknown => "UNKNOWN"
  | .default => "DEFAULT"
  | .running => "RUNNING"
  | .blocked => "BLOCKED"
  | .interrupted => "INTERRUPTED"
  | .preempted => "PREEMPTED"
  | .timer => "TIMER"
  | .network => "NETWORK"
  | .userInput => "USER_INPUT"
  | .blockDevice => "BLOCK_DEVICE"
  | .ipi => "IPI"

instance : ToString EdgeState := ⟨label⟩

/-- The name of a state in written records. -/
def name : EdgeState → String
  | .noEdge => "NoEdge"
  | .epsilon => "Epsilon"
  | .unknown => "Unknown"
  | .default => "Default"
  | .running => "Running"
  | .blocked => "Blocked"
  | .interrupted => "Interrupted"
  | .preempted => "Preempted"
  | .timer => "Timer"
  | .network => "Network"
  | .userInput => "UserInput"
  | .blockDevice => "BlockDevice"
  | .ipi => "Ipi"

def ofName? (name : String) : Option EdgeState := all.find? (·.name = name)

/-- The display colour of a state, as a 24-bit red-green-blue number. -/
def colour : EdgeState → Nat
  | .noEdge => 0xFFFFFF
  | .epsilon => 0xC8C8C8
  | .unknown => 0x404040
  | .default => 0xC8C8C8
  | .running => 0x00C800
  | .blocked => 0xC80000
  | .interrupted => 0xFF8080
  | .preempted => 0xC8C800
  | .timer => 0x006400
  | .network => 0x6464FF
  | .userInput => 0x00FFFF
  | .blockDevice => 0xAA0080
  | .ipi => 0xFF00FF

end EdgeState

end CausalPath
