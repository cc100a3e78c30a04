import CausalPath.Config
import CausalPath.Matching
import CausalPath.System

/-!
# Builders

A builder grows a graph from events that come in time order. It keeps the graph, what is known of
the traced systems, the ends of packets that wait for each other, and per worker the packet it
received last, which becomes an edge on that worker's next append. An event that is rejected is
counted by its error; what it did before the error stays.

This module holds the builder, its errors and counters, and the steps that the handlers of events
are made of.
-/

namespace CausalPath

/-! ## § 1. Errors and counters -/

/-- Why an event is rejected. -/
inductive BuildError
  /-- No worker can be told from the event; `field` says where it was looked for. -/
  | unknownWorker (event field : String)
  | unknownCpu (event : String)
  /-- A handler was left that was never entered. -/
  | unmatchedContext (cpu : Nat) (expected : ContextKind)
  | outOfOrder (time last : Time)
  | graph (error : GraphError)
  deriving DecidableEq, Repr

def BuildError.message : BuildError → String
  | .unknownWorker event field => s!"{event}: no resolvable worker for field '{field}'"
  | .unknownCpu event => s!"{event}: event has no usable cpu"
  | .unmatchedContext cpu expected => s!"cpu {cpu}: {expected} exit without matching entry"
  | .outOfOrder time last => s!"event at {time} arrived after {last}"
  | .graph error => error.message

/-- The counters of a builder. -/
structure BuildCounters where
  /-- Events handled without error. -/
  processed : Nat
  /-- Events whose name is not in the layout. -/
  ignored : Nat
  /-- Events rejected. -/
  dropped : Nat
  unknownWorkers : Nat
  unknownCpus : Nat
  unmatchedContexts : Nat
  outOfOrder : Nat
  graphErrors : Nat
  /-- Matched packets that were received before they were sent, or whose edge was refused. -/
  discardedLinks : Nat
  deriving DecidableEq, Repr

namespace BuildCounters

def zero : BuildCounters := ⟨0, 0, 0, 0, 0, 0, 0, 0, 0⟩

instance : Inhabited BuildCounters := ⟨zero⟩

/-- Counts a rejected event by its error. -/
def reject (c : BuildCounters) (e : BuildError) : BuildCounters :=
  let c := { c with dropped := c.dropped + 1 }
  match e with
  | .unknownWorker .. => { c with unknownWorkers := c.unknownWorkers + 1 }
  | .unknownCpu .. => { c with unknownCpus := c.unknownCpus + 1 }
  | .unmatchedContext .. => { c with unmatchedContexts := c.unmatchedContexts + 1 }
  | .outOfOrder .. => { c with outOfOrder := c.outOfOrder + 1 }
  | .graph .. => { c with graphErrors := c.graphErrors + 1 }

end BuildCounters

/-- The counters of a build, those of the matcher included. -/
structure BuildStats where
  counters : BuildCounters
  network : MatcherStats
  deriving DecidableEq, Repr, Inhabited

/-- The counters of a build as a value. -/
def BuildStats.toValue (s : BuildStats) : Value :=
  .record [("events_processed", .nat s.counters.processed),
    ("events_ignored", .nat s.counters.ignored),
    ("events_dropped", .nat s.counters.dropped),
    ("unknown_workers", .nat s.counters.unknownWorkers),
    ("unknown_cpus", .nat s.counters.unknownCpus),
    ("unmatched_contexts", .nat s.counters.unmatchedContexts),
    ("out_of_order", .nat s.counters.outOfOrder),
    ("graph_errors", .nat s.counters.graphErrors),
    ("discarded_links", .nat s.counters.discardedLinks),
    ("network", s.network.toValue)]

/-! ## § 2. Builders -/

/-- A matched packet that waits to become an edge of its receiver. -/
structure NetworkLink where
  /-- The vertex of the event that sent it. -/
  source : VertexId
  /-- The vertex of the event that received it. -/
  destination : VertexId
  deriving DecidableEq, Repr

/-- A graph under construction. -/
structure Builder where
  layout : Layout
  /-- The kind of each event name of the layout. -/
  index : Table String EventKind
  cpuCount : Option Nat
  graph : Graph
  system : SystemModel
  matcher : Matcher VertexId
  /-- The packet that each worker received last, until it becomes an edge. -/
  links : Table WorkerId NetworkLink
  counters : BuildCounters
  /-- The time of the last event that came in order. -/
  lastTime : Option Time

namespace Builder

/-- A builder on a graph, unless the layout of the configuration has a clash. -/
def new (graph : Graph) (c : Config) : Except LayoutClash Builder :=
  match c.layout.index with
  | .error clash => .error clash
  | .ok index => .ok {
      layout := c.layout
      index := index
      cpuCount := c.analysis.cpuCount
      graph := graph
      system := .empty
      matcher := .new c.matching.ttl c.matching.maxPending
      links := .empty
      counters := .zero
      lastTime := none }

def stats (b : Builder) : BuildStats := ⟨b.counters, b.matcher.stats⟩

def pendingLink? (b : Builder) (w : WorkerId) : Option NetworkLink := b.links.get? w

def discardLink (b : Builder) : Builder :=
  { b with counters := { b.counters with discardedLinks := b.counters.discardedLinks + 1 } }

end Builder

/-- A step of a builder: it answers or is rejected, and what it did stays in either case. -/
abbrev Build := ExceptT BuildError (StateM Builder)

namespace Build

/-! ## § 3. Steps on the graph -/

def store {α : Type} (f : Graph → Except GraphError (α × Graph)) : Build α := do
  match f (← get).graph with
  | .error e => throw (.graph e)
  | .ok (a, graph) =>
    modify fun b => { b with graph }
    return a

/-- Changes the graph in several steps, which stay when one is refused. -/
def storeSteps {α : Type} (f : Graph → Except GraphError α × Graph) : Build α := do
  let (r, graph) := f (← get).graph
  modify fun b => { b with graph }
  match r with
  | .error e => throw (.graph e)
  | .ok a => return a

def track (f : SystemModel → SystemModel) : Build Unit :=
  modify fun b => { b with system := f b.system }

def system : Build SystemModel := do return (← get).system

/-! ## § 4. Links -/

/-- Adds the edge of a packet; one that is refused is counted. -/
def networkEdge (source destination : VertexId) : Build Unit :=
  modify fun b =>
    match b.graph.linkVertical source destination .network none with
    | .ok (_, graph) => { b with graph }
    | .error _ => b.discardLink

/-- Takes the packet that waits to become an edge of a worker. -/
def takeLink (w : WorkerId) : Build (Option NetworkLink) := do
  let link := (← get).links.get? w
  modify fun b => { b with links := b.links.erase w }
  return link

/-- Puts a vertex at the end of its worker's chain, after the edge of the packet that waits
there. -/
def appendVertex (w : WorkerId) (v : VertexId) (s : EdgeState) (q : Option String) :
    Build Unit := do
  if let some link ← takeLink w then
    networkEdge link.source link.destination
  let _ ← store (·.append v s q)

/-- Turns the packet that waits to become an edge of a worker into an edge of another vertex. -/
def redirectLink (w : WorkerId) (target : VertexId) : Build Unit := do
  if let some link ← takeLink w then
    networkEdge link.source target

/-- Keeps a matched packet for its receiver. A packet that was received before it was sent is
counted and dropped. -/
def keepLink (p : MatchedPair VertexId) : Build Unit :=
  modify fun b =>
    let link : NetworkLink := ⟨p.source.payload, p.destination.payload⟩
    match b.graph.vertex? link.source, b.graph.vertex? link.destination with
    | some sent, some received =>
      if sent.time ≤ received.time then
        { b with links := b.links.insert received.worker link }
      else
        b.discardLink
    | none, some _ => b.discardLink
    | _, none => b

/-! ## § 5. Growing chains -/

def grow (w : WorkerId) (t : Time) (s : EdgeState) (q : Option String) : Build VertexId := do
  let v ← store (·.createVertex w t)
  appendVertex w v s q
  return v

/-- Adds a vertex whose edge shows the status before the event. -/
def changeState (w : WorkerId) (t : Time) : Build VertexId := do
  grow w t ((← system).oldStatus w).edgeState none

def extendState (w : WorkerId) (t : Time) : Build VertexId := do
  grow w t ((← system).status w).edgeState none

/-! ## § 6. Workers of events -/

def tidOf (e : Event) (field : String) : Build Int :=
  match (e.int? field).filter (0 ≤ ·) with
  | some tid => return tid
  | none => throw (.unknownWorker e.name field)

/-- The worker of the thread id in a field; another field may hold its name. -/
def threadOf (e : Event) (c : Cpu) (field nameField : String) : Build WorkerId := do
  let tid ← tidOf e field
  store (·.resolveThread c tid (e.text? nameField))

def currentOf (e : Event) (c : Cpu) : Build WorkerId := do
  match (← system).current? c with
  | some w => return w
  | none => throw (.unknownWorker e.name s!"current thread of cpu {c.number}")

def kernelWorker (c : Cpu) : Build WorkerId := do
  let b ← get
  match b.system.kernelWorker b.graph c with
  | .error e => throw (.graph e)
  | .ok (w, system, graph) =>
    set { b with system, graph }
    return w

def enter (c : Cpu) (context : Context) : Build Unit :=
  track fun m => m.setContextStack c ((m.contextStack c).push context)

def leave (c : Cpu) (kind : ContextKind) : Build Unit := do
  let (departure, stack) := ((← system).contextStack c).leave kind
  track (·.setContextStack c stack)
  if departure = .unmatched then
    throw (.unmatchedContext c.number kind)

end Build

end CausalPath
