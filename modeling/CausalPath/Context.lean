import CausalPath.Time

/-!
# Interrupt contexts

A CPU keeps a stack of the handlers that are nested on it: a handler's entry pushes a context and
its exit pops one. The context on top when a thread is woken tells what caused the wakeup. An exit
pops one frame whatever its kind is; what it found is told by `Departure`.
-/

namespace CausalPath

/-! ## § 1. Contexts -/

/-- The kind of handler that runs on a CPU. -/
inductive ContextKind
  | hrTimer
  | irq
  /-- An interrupt that is handled in full by its first handler, such as a local timer vector. -/
  | completeIrq
  | softIrq
  | ipi
  | packetReception
  /-- No handler at all. -/
  | none
  deriving DecidableEq, Repr

namespace ContextKind

def all : List ContextKind :=
  [.hrTimer, .irq, .completeIrq, .softIrq, .ipi, .packetReception, .none]

/-- The words for a kind in messages. -/
def describe : ContextKind → String
  | .hrTimer => "hrtimer"
  | .irq => "irq"
  | .completeIrq => "complete irq"
  | .softIrq => "softirq"
  | .ipi => "ipi"
  | .packetReception => "packet reception"
  | .none => "none"

instance : ToString ContextKind := ⟨describe⟩

/-- The name of a kind in written records. -/
def name : ContextKind → String
  | .hrTimer => "HrTimer"
  | .irq => "Irq"
  | .completeIrq => "CompleteIrq"
  | .softIrq => "SoftIrq"
  | .ipi => "Ipi"
  | .packetReception => "PacketReception"
  | .none => "None"

def ofName? (name : String) : Option ContextKind := all.find? (·.name = name)

end ContextKind

/-- A handler that runs on a CPU. -/
structure Context where
  kind : ContextKind
  time : Time
  /-- The interrupt line or the vector. -/
  vector : Option Int
  /-- The name of the handler. -/
  name : Option String
  deriving DecidableEq, Repr

def Context.idle : Context := ⟨.none, 0, none, none⟩

instance : Inhabited Context := ⟨.idle⟩

/-! ## § 2. Vectors -/

namespace SoftIrq

def timer : Int := 1

def netTransmit : Int := 2

def netReceive : Int := 3

def block : Int := 4

def blockPoll : Int := 5

def sched : Int := 7

def hrTimer : Int := 8

def isNetwork (vector : Int) : Bool := vector = netReceive ∨ vector = netTransmit

end SoftIrq

def timerLine : Int := 0

def localTimerVector : Int := 0xec

/-! ## § 3. Stacks -/

/-- The handlers nested on a CPU, the innermost first. -/
structure ContextStack where
  frames : List Context
  deriving DecidableEq, Repr

instance : Inhabited ContextStack := ⟨⟨[]⟩⟩

/-- What the exit of a handler finds. -/
inductive Departure
  /-- The stack was empty. -/
  | unmatched
  /-- The top was of another kind; it is popped all the same. -/
  | mismatched (top : Context)
  | matched (top : Context)
  deriving DecidableEq, Repr

def Departure.frame? : Departure → Option Context
  | .unmatched => none
  | .mismatched top => some top
  | .matched top => some top

namespace ContextStack

def empty : ContextStack := ⟨[]⟩

def push (s : ContextStack) (c : Context) : ContextStack := ⟨c :: s.frames⟩

def pop (s : ContextStack) : Option Context × ContextStack := (s.frames.head?, ⟨s.frames.tail⟩)

def leave (s : ContextStack) (kind : ContextKind) : Departure × ContextStack :=
  match s.frames with
  | [] => (.unmatched, s)
  | top :: rest => (if top.kind = kind then .matched top else .mismatched top, ⟨rest⟩)

def peek (s : ContextStack) : Context := s.frames.head?.getD .idle

def peekInner (s : ContextStack) : Context := s.frames[1]?.getD .idle

def depth (s : ContextStack) : Nat := s.frames.length

def isEmpty (s : ContextStack) : Bool := s.frames.isEmpty

theorem leave_frame (s : ContextStack) (kind : ContextKind) :
    ((s.leave kind).1.frame?, (s.leave kind).2) = s.pop := by
  unfold leave pop
  match s with
  | ⟨[]⟩ => rfl
  | ⟨top :: rest⟩ => by_cases h : top.kind = kind <;> simp [h, Departure.frame?]

@[simp] theorem pop_push (s : ContextStack) (c : Context) : (s.push c).pop = (some c, s) := rfl

@[simp] theorem peek_push (s : ContextStack) (c : Context) : (s.push c).peek = c := rfl

end ContextStack

end CausalPath
