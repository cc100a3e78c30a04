import CausalPath.Builder.Basic

/-!
# Attribution of wakeups

When a blocked thread is woken, the handler on top of the waking CPU's stack explains why.

| top of the stack | edge of the woken thread | vertical edge from |
|---|---|---|
| high-resolution timer | timer | |
| interrupt | interrupted by the timer, else blocked with the handler's name | |
| soft interrupt | by vector | the sender of the packet, for network vectors |
| inter-processor interrupt | inter-processor interrupt | |
| packet reception | network | the sender of the packet |
| none | blocked | the waking thread |
-/

namespace CausalPath

/-! ## § 1. States by handler -/

/-- The edge of a wakeup from an interrupt: its state and its label. Without a vector nothing is
known; a timer interrupts; any other device blocked the thread. -/
def irqEdge (timerVectors : List Int) (c : Context) : EdgeState × Option String :=
  match c.vector with
  | none => (.unknown, none)
  | some vector =>
    if (c.kind = .completeIrq ∧ vector ∈ timerVectors) ∨ (c.kind = .irq ∧ vector = timerLine) then
      (.interrupted, none)
    else
      (.blocked, c.name)

/-- The edge of a wakeup from a soft interrupt. -/
def softIrqEdge : Option Int → EdgeState
  | none => .unknown
  | some vector =>
    if vector = SoftIrq.hrTimer ∨ vector = SoftIrq.timer then .timer
    else if vector = SoftIrq.block ∨ vector = SoftIrq.blockPoll then .blockDevice
    else if SoftIrq.isNetwork vector then .network
    else if vector = SoftIrq.sched then .interrupted
    else .blocked

namespace Build

/-! ## § 2. Wakeups by handler -/

/-- Wakes a thread from a soft interrupt. One that moves packets hands on the packet that the kernel
worker received. -/
def softIrqWakeup (target : WorkerId) (context : Context) (c : Cpu) (t : Time) : Build Unit := do
  let v ← grow target t (softIrqEdge context.vector) none
  if context.vector.any SoftIrq.isNetwork then
    if let some kernel := (← system).kernelWorker? c then
      redirectLink kernel v

/-- Wakes a thread from the reception of a packet. The packet was received by the kernel worker when
the reception runs inside an interrupt, else by the thread that runs. -/
def receptionWakeup (target : WorkerId) (current : Option WorkerId) (c : Cpu) (t : Time) :
    Build Unit := do
  let inner := ((← system).innerContext c).kind
  if inner = .softIrq ∨ inner = .irq then
    let kernel ← kernelWorker c
    let v ← grow target t .network none
    redirectLink kernel v
  else
    let receiver := current.bind (← get).graph.worker?
    let v ← grow target t .network (receiver.map (·.name))
    if let some w := current then
      redirectLink w v

/-- Wakes a thread from another thread, which is the cause unless the thread wakes itself. -/
def threadWakeup (target : WorkerId) (current : Option WorkerId) (t : Time) : Build Unit := do
  let v ← changeState target t
  if let some waker := current.filter (· ≠ target) then
    let u ← extendState waker t
    let _ ← store (·.linkVertical u v .default none)

/-- Wakes a thread that was blocked. -/
def blockedWakeup (target : WorkerId) (current : Option WorkerId) (c : Cpu) (t : Time) :
    Build Unit := do
  let context := (← system).context c
  match context.kind with
  | .hrTimer =>
    let _ ← grow target t .timer none
  | .irq | .completeIrq =>
    let (state, label) := irqEdge (← get).layout.timerVectors context
    let _ ← grow target t state label
  | .softIrq => softIrqWakeup target context c t
  | .ipi =>
    let _ ← grow target t .ipi none
  | .packetReception => receptionWakeup target current c t
  | .none => threadWakeup target current t

/-- Wakes a thread that was forked: its parent is the thread that runs, and the cause. -/
def forkWakeup (target : WorkerId) (current : Option WorkerId) (t : Time) : Build Unit := do
  match current.filter (· ≠ target) with
  | some parent =>
    let u ← extendState parent t
    let v ← changeState target t
    let _ ← storeSteps (·.link u v .default none)
  | none =>
    let _ ← changeState target t

end Build

end CausalPath
