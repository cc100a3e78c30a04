import CausalPath.Graph.Basic

/-!
# Growing a graph

The mutations of an execution graph. A mutation that either happens whole or not at all answers
`Except GraphError (α × Graph)`: an error leaves the caller with the graph it had. Two mutations
are made of several steps and answer `Except GraphError α × Graph`, because the steps before a
refusal stay: `link`, which may append its target first, and `close`, which extends one chain after
the other.

`Mutation` collects the calls as data, and `Mutation.run` is the one place where a call meets a
graph, so that a history of calls is a list.
-/

namespace CausalPath

namespace Graph

/-! ## § 1. Preconditions -/

/-- A graph takes mutations until it is closed or disposed of. -/
def requireOpen (g : Graph) : Except GraphError Unit :=
  match g.phase with
  | .building => .ok ()
  | .closed => .error .closed
  | .disposed => .error .disposed

def record (g : Graph) (v : VertexId) : Except GraphError VertexRecord :=
  match g.vertices[v.index]? with
  | some r => .ok r
  | none => .error (.unknownVertex v)

/-- The record of a vertex that must have joined its worker's chain. -/
def recordInGraph (g : Graph) (v : VertexId) : Except GraphError VertexRecord :=
  match g.record v with
  | .error e => .error e
  | .ok r => if r.inGraph then .ok r else .error (.vertexNotInGraph v)

def requireFree (g : Graph) (v : VertexId) (d : Direction) : Except GraphError Unit :=
  match g.record v with
  | .error e => .error e
  | .ok r => if (r.slots.get d).isSome then .error (.edgeSlotOccupied v d) else .ok ()

/-- The last vertex of a worker that must exist, with its time. -/
def tailOf (g : Graph) (w : WorkerId) : Except GraphError (Option Vertex) :=
  match g.timelines[w.index]? with
  | none => .error (.unknownWorker w)
  | some t => .ok (t.chain.back?.bind g.vertex?)

/-! ## § 2. Writing to the arenas -/

def nextVertex (g : Graph) : VertexId := ⟨g.vertices.size⟩

def nextEdge (g : Graph) : EdgeId := ⟨g.edges.size⟩

def nextWorker (g : Graph) : WorkerId := ⟨g.timelines.size⟩

/-- Adds a worker with an empty chain, under its key. -/
def pushWorker (g : Graph) (x : Worker) : Graph :=
  { g with
    timelines := g.timelines.push ⟨x, #[]⟩
    workerIndex := g.workerIndex.insert x.key g.nextWorker }

def pushVertex (g : Graph) (w : WorkerId) (t : Time) : Graph :=
  { g with vertices := g.vertices.push ⟨w, t, false, .free⟩ }

def setSlot (g : Graph) (v : VertexId) (d : Direction) (e : EdgeId) : Graph :=
  { g with vertices := g.vertices.modify v.index fun r => { r with slots := r.slots.set d e } }

/-- Adds an edge and puts it into the slots of its two ends. -/
def pushEdge (g : Graph) (r : EdgeRecord) : Graph :=
  let filled := (g.setSlot r.origin (.atOrigin r.horizontal) g.nextEdge).setSlot r.target
    (.atTarget r.horizontal) g.nextEdge
  { filled with edges := g.edges.push r }

def pushChain (g : Graph) (w : WorkerId) (v : VertexId) : Graph :=
  { g with
    vertices := g.vertices.modify v.index fun r => { r with inGraph := true }
    timelines := g.timelines.modify w.index fun t => { t with chain := t.chain.push v } }

/-! ## § 3. Steps -/

/-- Adds an edge: its ends differ, their slots are free, and it does not go back in time. -/
def insertEdge (g : Graph) (r : EdgeRecord) : Except GraphError (EdgeId × Graph) := do
  if r.origin = r.target then
    throw (.selfLoop r.origin)
  g.requireFree r.origin (.atOrigin r.horizontal)
  g.requireFree r.target (.atTarget r.horizontal)
  let a ← g.record r.origin
  let b ← g.record r.target
  if b.time < a.time then
    throw (.invalidTimestamp b.worker b.time a.time)
  return (g.nextEdge, g.pushEdge r)

/-- Puts a vertex at the end of its worker's chain, joined to the old tail by a horizontal edge. -/
def extend (g : Graph) (v : VertexId) (s : EdgeState) (q : Option String) :
    Except GraphError (Option EdgeId × Graph) := do
  let r ← g.record v
  if r.inGraph then
    throw (.alreadyInGraph v)
  match ← g.tailOf r.worker with
  | none => return (none, g.pushChain r.worker v)
  | some tail =>
    if r.time < tail.time then
      throw (.invalidTimestamp r.worker r.time tail.time)
    let (e, g') ← g.insertEdge ⟨tail.id, v, s, q, true⟩
    return (some e, g'.pushChain r.worker v)

/-! ## § 4. Mutations that happen whole or not at all -/

/-- Registers a worker. A worker whose key is known keeps the id and the properties it has. -/
def addWorker (g : Graph) (w : Worker) : Except GraphError (WorkerId × Graph) :=
  match g.findWorker? w.key with
  | some id => .ok (id, g)
  | none => do
    g.requireOpen
    return (g.nextWorker, g.pushWorker w)

/-- Adds a vertex for a worker, no earlier than the worker's tail. It joins the chain later. -/
def createVertex (g : Graph) (w : WorkerId) (t : Time) : Except GraphError (VertexId × Graph) := do
  g.requireOpen
  match ← g.tailOf w with
  | some tail =>
    if t < tail.time then
      throw (.invalidTimestamp w t tail.time)
    return (g.nextVertex, g.pushVertex w t)
  | none => return (g.nextVertex, g.pushVertex w t)

/-- Puts a vertex at the end of its worker's chain. The answer is the edge from the old tail, if
there was one. -/
def append (g : Graph) (v : VertexId) (s : EdgeState) (q : Option String) :
    Except GraphError (Option EdgeId × Graph) := do
  g.requireOpen
  g.extend v s q

/-- Puts a vertex at the end of its worker's chain without a meaningful state. -/
def add (g : Graph) (v : VertexId) : Except GraphError (Option EdgeId × Graph) :=
  g.append v .noEdge none

/-- Adds a vertical edge between vertices of chains, also between two of one worker. -/
def linkVertical (g : Graph) (origin target : VertexId) (s : EdgeState) (q : Option String) :
    Except GraphError (EdgeId × Graph) := do
  g.requireOpen
  let _ ← g.recordInGraph origin
  let _ ← g.recordInGraph target
  g.insertEdge ⟨origin, target, s, q, false⟩

def dispose (g : Graph) : Graph := { new g.startTime with phase := .disposed }

/-! ## § 5. Mutations of several steps -/

def orKeep {α : Type} (g : Graph) : Except GraphError (α × Graph) → Except GraphError α × Graph
  | .ok (a, g') => (.ok a, g')
  | .error e => (.error e, g)

/-- Links two vertices, the first of which is in its chain. Within one worker the second is
appended, and the horizontal edge is the answer. Between workers the second joins its own chain if
it has not yet, and then a vertical edge is added; a refusal of that edge leaves the vertex in its
chain. -/
def link (g : Graph) (origin target : VertexId) (s : EdgeState) (q : Option String) :
    Except GraphError EdgeId × Graph :=
  match (do g.requireOpen; return (← g.recordInGraph origin, ← g.record target)) with
  | .error e => (.error e, g)
  | .ok (a, b) =>
    if a.worker = b.worker then
      if b.inGraph then
        (.error (.alreadyInGraph target), g)
      else
        match g.extend target s q with
        | .error e => (.error e, g)
        | .ok (some e, g') => (.ok e, g')
        | .ok (none, g') => (.error (.vertexNotInGraph origin), g')
    else if b.inGraph then
      g.orKeep (g.insertEdge ⟨origin, target, s, q, false⟩)
    else
      match g.extend target .noEdge none with
      | .error e => (.error e, g)
      | .ok (_, g') => g'.orKeep (g'.insertEdge ⟨origin, target, s, q, false⟩)

/-- Extends the chain of a worker to the end of the trace: a chain with an earlier tail gets one
more vertex, by a filler edge. -/
def closeChain (g : Graph) (stop : Time) (w : WorkerId) : Except GraphError Unit × Graph :=
  match g.tailOf w with
  | .error e => (.error e, g)
  | .ok none => (.ok (), g)
  | .ok (some tail) =>
    if stop ≤ tail.time then
      (.ok (), g)
    else
      let grown := g.pushVertex w stop
      match grown.extend g.nextVertex .noEdge none with
      | .error e => (.error e, grown)
      | .ok (_, g') => (.ok (), g')

/-- Extends the chains of workers, one after the other, until one is refused. -/
def closeChains (g : Graph) (stop : Time) : List WorkerId → Except GraphError Unit × Graph
  | [] => (.ok (), g)
  | w :: rest =>
    match g.closeChain stop w with
    | (.error e, g') => (.error e, g')
    | (.ok (), g') => g'.closeChains stop rest

/-- Finishes a graph: extends every chain to the end of the trace and takes no more mutations. -/
def close (g : Graph) (stop : Time) : Except GraphError Unit × Graph :=
  match g.requireOpen with
  | .error e => (.error e, g)
  | .ok () =>
    match g.closeChains stop g.workerIds with
    | (.error e, g') => (.error e, g')
    | (.ok (), g') => (.ok (), { g' with endTime := some stop, phase := .closed })

end Graph

/-! ## § 6. Calls as data -/

/-- A call that may change a graph. -/
inductive Mutation
  | addWorker (worker : Worker)
  | createVertex (worker : WorkerId) (time : Time)
  | append (vertex : VertexId) (state : EdgeState) (qualifier : Option String)
  | add (vertex : VertexId)
  | link (origin target : VertexId) (state : EdgeState) (qualifier : Option String)
  | linkVertical (origin target : VertexId) (state : EdgeState) (qualifier : Option String)
  | close (stop : Time)
  deriving DecidableEq

/-- What a call answers when it is not refused. -/
inductive Mutation.Answer
  | worker (id : WorkerId)
  | vertex (id : VertexId)
  | edge (id : EdgeId)
  /-- The edge that an append drew, if the chain was not empty. -/
  | appended (edge : Option EdgeId)
  | done
  deriving DecidableEq

namespace Mutation

/-- Meets a graph with a call. The graph in the answer is the one the caller goes on with. -/
def run (m : Mutation) (g : Graph) : Except GraphError Answer × Graph :=
  match m with
  | .addWorker w => lift Answer.worker (g.orKeep (g.addWorker w))
  | .createVertex w t => lift Answer.vertex (g.orKeep (g.createVertex w t))
  | .append v s q => lift Answer.appended (g.orKeep (g.append v s q))
  | .add v => lift Answer.appended (g.orKeep (g.add v))
  | .link a b s q => lift Answer.edge (g.link a b s q)
  | .linkVertical a b s q => lift Answer.edge (g.orKeep (g.linkVertical a b s q))
  | .close t => lift (fun _ => Answer.done) (g.close t)
where
  /-- Says what an answer is of. -/
  lift {α : Type} (f : α → Answer) : Except GraphError α × Graph → Except GraphError Answer × Graph
    | (r, g) => (r.map f, g)

/-- The graph after a list of calls, refused ones included. -/
def runAll (ms : List Mutation) (g : Graph) : Graph := ms.foldl (fun g m => (m.run g).2) g

end Mutation

end CausalPath
