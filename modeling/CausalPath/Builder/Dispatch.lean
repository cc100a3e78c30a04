import CausalPath.Builder.Wakeup

/-!
# Handling events

What a builder does with each kind of event. An event must not be earlier than the one before it;
an event whose name is not in the layout is ignored; any other event needs a CPU. A rejected event
is counted and otherwise skipped.
-/

namespace CausalPath

namespace Build

/-! ## § 1. Scheduling -/

/-- A CPU goes from one thread to the next. Both thread ids are checked before either thread is
registered. -/
def schedSwitch (f : FieldNames) (e : Event) (c : Cpu) : Build Unit := do
  let _ ← tidOf e (f .prevTid)
  let _ ← tidOf e (f .nextTid)
  let previous ← threadOf e c (f .prevTid) (f .prevComm)
  let next ← threadOf e c (f .nextTid) (f .nextComm)
  let status :=
    if (e.int? (f .prevState)).getD 0 = 0 then ProcessStatus.waitCpu else .waitBlocked
  track (·.setStatus previous status)
  track (·.setStatus next .run)
  track (·.setCurrent c next)
  let _ ← changeState previous e.time
  let _ ← changeState next e.time

/-- A thread is woken. Only a wakeup of a forked or blocked thread shows in the graph. -/
def wakeup (f : FieldNames) (e : Event) (c : Cpu) : Build Unit := do
  let target ← threadOf e c (f .tid) (f .comm)
  track (·.markWoken target)
  let m ← system
  match m.oldStatus target with
  | .waitFork => forkWakeup target (m.current? c) e.time
  | .waitBlocked => blockedWakeup target (m.current? c) c e.time
  | _ => return

def fork (f : FieldNames) (e : Event) (c : Cpu) : Build Unit := do
  let child ← threadOf e c (f .childTid) (f .childComm)
  track (·.setStatus child .waitFork)

def exit (f : FieldNames) (e : Event) (c : Cpu) : Build Unit := do
  let w ← threadOf e c (f .tid) (f .comm)
  track (·.setStatus w .exit)

/-! ## § 2. Handlers -/

/-- A soft interrupt begins. One that moves packets shows on the kernel worker. -/
def softIrqEntry (f : FieldNames) (e : Event) (c : Cpu) : Build Unit := do
  let vector := e.int? (f .softIrqVector)
  enter c ⟨.softIrq, e.time, vector, none⟩
  if vector.any SoftIrq.isNetwork then
    let kernel ← kernelWorker c
    let v ← store (·.createVertex kernel e.time)
    let _ ← store (·.add v)

/-! ## § 3. Packets -/

/-- The handler that moves a packet: packet reception stands for the handler around it. -/
def packetContext (m : SystemModel) (c : Cpu) : Context :=
  let top := m.context c
  if top.kind = .packetReception then m.innerContext c else top

/-- Submits one end of a packet, at a new vertex of its worker. -/
def submitEnd (w : WorkerId) (k : PacketKey) (d : MatchDirection) (t : Time) : Build Unit := do
  let v ← extendState w t
  let (pair, matcher) := (← get).matcher.submit k d t v
  modify fun b => { b with matcher }
  if let some pair := pair then
    keepLink pair

/-- A packet is sent, by the thread that runs or by a soft interrupt. An event without the identity
of a packet, or in another handler, shows nothing. -/
def networkSend (f : FieldNames) (e : Event) (c : Cpu) : Build Unit := do
  if let some k := PacketKey.ofEvent? f e then
    match (packetContext (← system) c).kind with
    | .none => submitEnd (← currentOf e c) k .send e.time
    | .softIrq => submitEnd (← kernelWorker c) k .send e.time
    | _ => return

/-- A packet is received, by an interrupt or by the thread that runs. -/
def networkReceive (f : FieldNames) (e : Event) (c : Cpu) : Build Unit := do
  if let some k := PacketKey.ofEvent? f e then
    match (packetContext (← system) c).kind with
    | .softIrq | .irq => submitEnd (← kernelWorker c) k .receive e.time
    | _ => submitEnd (← currentOf e c) k .receive e.time

/-! ## § 4. Events -/

/-- Handles an event of a kind. -/
def handle (f : FieldNames) (kind : EventKind) (e : Event) (c : Cpu) : Build Unit :=
  match kind with
  | .schedSwitch => schedSwitch f e c
  | .wakeup => wakeup f e c
  | .fork => fork f e c
  | .exit => exit f e c
  | .irqEntry => enter c ⟨.irq, e.time, e.int? (f .irq), e.text? (f .irqName)⟩
  | .irqExit => leave c .irq
  | .softIrqEntry => softIrqEntry f e c
  | .softIrqExit => leave c .softIrq
  | .hrTimerEntry => enter c ⟨.hrTimer, e.time, none, none⟩
  | .hrTimerExit => leave c .hrTimer
  | .ipiEntry => enter c ⟨.ipi, e.time, e.int? (f .vector), none⟩
  | .ipiExit => leave c .ipi
  | .completeIrqEntry => enter c ⟨.completeIrq, e.time, e.int? (f .vector), some e.name⟩
  | .completeIrqExit => leave c .completeIrq
  | .packetReceptionEntry => enter c ⟨.packetReception, e.time, none, none⟩
  | .packetReceptionExit => leave c .packetReception
  | .networkSend => networkSend f e c
  | .networkReceive => networkReceive f e c

/-- Takes note of the time of an event, which must not be earlier than the one before. -/
def inOrder (t : Time) : Build Unit := do
  match (← get).lastTime.filter (t < ·) with
  | some last => throw (.outOfOrder t last)
  | none => modify fun b => { b with lastTime := some t }

/-- The CPU of an event, which must be one of those there are. -/
def cpuOf (e : Event) : Build Cpu := do
  let count := (← get).cpuCount
  match e.cpu.filter fun n => count.all (n < ·) with
  | some n => return ⟨e.host, n⟩
  | none => throw (.unknownCpu e.name)

/-- Handles an event. The answer is whether its name is in the layout. -/
def dispatch (e : Event) : Build Bool := do
  inOrder e.time
  let b ← get
  match b.index.get? e.name with
  | none => return false
  | some kind =>
    let c ← cpuOf e
    handle b.layout.fields kind e c
    return true

end Build

namespace Builder

def process (b : Builder) (e : Event) : Except BuildError Unit × Builder :=
  let (r, b) := ((Build.dispatch e).run).run b
  match r with
  | .ok true => (.ok (), { b with counters.processed := b.counters.processed + 1 })
  | .ok false => (.ok (), { b with counters.ignored := b.counters.ignored + 1 })
  | .error err => (.error err, { b with counters := b.counters.reject err })

/-- Handles events, one after the other, whatever becomes of them. -/
def processAll (b : Builder) (es : List Event) : Builder := es.foldl (fun b e => (b.process e).2) b

def finish (b : Builder) (stop : Time) : Except GraphError BuildStats × Builder :=
  match b.graph.close stop with
  | (.error e, graph) => (.error e, { b with graph })
  | (.ok (), graph) => (.ok b.stats, { b with graph })

end Builder

/-! ## § 5. Whole traces -/

def traceStart (es : List Event) : Time := (es.head?.map (·.time)).getD 0

def traceEnd (es : List Event) : Time := (es.map (·.time)).foldl max (traceStart es)

def buildTrace (c : Config) (es : List Event) :
    Except LayoutClash (Except GraphError BuildStats × Graph) :=
  match Builder.new (.new (traceStart es)) c with
  | .error clash => .error clash
  | .ok b =>
    let (r, b) := (b.processAll es).finish (traceEnd es)
    .ok (r, b.graph)

end CausalPath
