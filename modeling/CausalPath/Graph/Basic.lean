import CausalPath.EdgeState
import CausalPath.Table
import CausalPath.Time
import CausalPath.Worker

/-!
# Execution graphs

An execution graph keeps one chain of vertices per worker, in time order. *Horizontal* edges join
consecutive vertices of a chain; *vertical* edges say which vertex of another chain caused one
(wakeups, interrupts, packets).

Vertices and edges live in arenas and are named by their index. A vertex has four slots, one per
`Direction`, each for at most one edge. This module holds the graph, its errors and its queries; a
query that misses answers `none`.
-/

namespace CausalPath

/-! ## § 1. Names of things in a graph -/

/-- A vertex, by its place in the vertex arena. -/
structure VertexId where
  index : Nat
  deriving DecidableEq, Repr

/-- An edge, by its place in the edge arena. -/
structure EdgeId where
  index : Nat
  deriving DecidableEq, Repr

/-- A worker, by its place in the list of registered workers. -/
structure WorkerId where
  index : Nat
  deriving DecidableEq, Repr

instance : ToString VertexId := ⟨fun v => s!"v{v.index}"⟩
instance : ToString EdgeId := ⟨fun e => s!"e{e.index}"⟩
instance : ToString WorkerId := ⟨fun w => s!"w{w.index}"⟩

/-- One of the four edge slots of a vertex. -/
inductive Direction
  | outgoingVertical
  | incomingVertical
  | outgoingHorizontal
  | incomingHorizontal
  deriving DecidableEq, Repr

namespace Direction

def all : List Direction :=
  [.outgoingVertical, .incomingVertical, .outgoingHorizontal, .incomingHorizontal]

def atOrigin (horizontal : Bool) : Direction :=
  if horizontal then .outgoingHorizontal else .outgoingVertical

def atTarget (horizontal : Bool) : Direction :=
  if horizontal then .incomingHorizontal else .incomingVertical

def describe : Direction → String
  | .outgoingVertical => "outgoing vertical"
  | .incomingVertical => "incoming vertical"
  | .outgoingHorizontal => "outgoing horizontal"
  | .incomingHorizontal => "incoming horizontal"

instance : ToString Direction := ⟨describe⟩

def name : Direction → String
  | .outgoingVertical => "OutgoingVertical"
  | .incomingVertical => "IncomingVertical"
  | .outgoingHorizontal => "OutgoingHorizontal"
  | .incomingHorizontal => "IncomingHorizontal"

def ofName? (name : String) : Option Direction := all.find? (·.name = name)

end Direction

/-! ## § 2. Errors of the store -/

/-- Why a graph refuses a request. -/
inductive GraphError
  /-- The vertex or edge would go back in time. -/
  | invalidTimestamp (worker : WorkerId) (timestamp previous : Time)
  /-- The chain of the vertex loops back on itself. -/
  | cycleDetected (vertex : VertexId)
  | unknownVertex (vertex : VertexId)
  | unknownWorker (worker : WorkerId)
  /-- The vertex has not joined its worker's chain. -/
  | vertexNotInGraph (vertex : VertexId)
  /-- The vertex has already joined its worker's chain. -/
  | alreadyInGraph (vertex : VertexId)
  | selfLoop (vertex : VertexId)
  | edgeSlotOccupied (vertex : VertexId) (direction : Direction)
  | closed
  | disposed
  deriving DecidableEq, Repr

/-- The text of a refusal. -/
def GraphError.message : GraphError → String
  | .invalidTimestamp w t p => s!"timestamp {t} on worker {w} precedes {p}"
  | .cycleDetected v => s!"horizontal chain cycle detected at vertex {v}"
  | .unknownVertex v => s!"unknown vertex {v}"
  | .unknownWorker w => s!"unknown worker {w}"
  | .vertexNotInGraph v => s!"vertex {v} has not been added to its worker's chain"
  | .alreadyInGraph v => s!"vertex {v} is already part of its worker's chain"
  | .selfLoop v => s!"cannot link vertex {v} to itself"
  | .edgeSlotOccupied v d => s!"vertex {v} already has an {d} edge"
  | .closed => "graph is closed, no further mutation allowed"
  | .disposed => "graph has been disposed"

/-! ## § 3. The store -/

/-- The edges of a vertex, at most one per direction. -/
structure Slots where
  outgoingVertical : Option EdgeId
  incomingVertical : Option EdgeId
  outgoingHorizontal : Option EdgeId
  incomingHorizontal : Option EdgeId
  deriving DecidableEq, Repr

namespace Slots

def free : Slots := ⟨none, none, none, none⟩

def get (s : Slots) : Direction → Option EdgeId
  | .outgoingVertical => s.outgoingVertical
  | .incomingVertical => s.incomingVertical
  | .outgoingHorizontal => s.outgoingHorizontal
  | .incomingHorizontal => s.incomingHorizontal

def set (s : Slots) (d : Direction) (e : EdgeId) : Slots :=
  match d with
  | .outgoingVertical => { s with outgoingVertical := some e }
  | .incomingVertical => { s with incomingVertical := some e }
  | .outgoingHorizontal => { s with outgoingHorizontal := some e }
  | .incomingHorizontal => { s with incomingHorizontal := some e }

@[simp] theorem get_free (d : Direction) : free.get d = none := by
  cases d <;> rfl

theorem get_set (s : Slots) (d d' : Direction) (e : EdgeId) :
    (s.set d e).get d' = if d = d' then some e else s.get d' := by
  cases d <;> cases d' <;> rfl

end Slots

/-- What the arena keeps of a vertex. -/
structure VertexRecord where
  worker : WorkerId
  time : Time
  /-- Whether the vertex has joined its worker's chain. -/
  inGraph : Bool
  slots : Slots
  deriving DecidableEq, Repr

/-- What the arena keeps of an edge. -/
structure EdgeRecord where
  origin : VertexId
  target : VertexId
  state : EdgeState
  /-- A diagnostic label in free text. -/
  qualifier : Option String
  horizontal : Bool
  deriving DecidableEq, Repr

/-- A registered worker with its chain, in time order. -/
structure Timeline where
  worker : Worker
  chain : Array VertexId
  deriving DecidableEq

/-- A graph is built, then closed, and disposed of at any time. -/
inductive Phase
  | building
  | closed
  | disposed
  deriving DecidableEq, Repr

/-- An execution graph. -/
structure Graph where
  /-- The start of the trace. -/
  startTime : Time
  /-- The end given when the graph was closed. -/
  endTime : Option Time
  phase : Phase
  /-- One timeline per registered worker, in order of registration. -/
  timelines : Array Timeline
  /-- The id of the worker that is registered under a key. -/
  workerIndex : Table WorkerKey WorkerId
  vertices : Array VertexRecord
  edges : Array EdgeRecord
  deriving DecidableEq

/-- A vertex as queries show it. -/
structure Vertex where
  id : VertexId
  worker : WorkerId
  time : Time
  deriving DecidableEq, Repr

/-- An edge as queries show it, with its two ends. -/
structure Edge where
  id : EdgeId
  origin : Vertex
  target : Vertex
  state : EdgeState
  qualifier : Option String
  horizontal : Bool
  deriving DecidableEq, Repr

/-- The time from origin to target: zero for an edge that goes back in time. -/
def Edge.duration (e : Edge) : Time := e.target.time - e.origin.time

/-- The place of the first item of a list, between two places, that fails a test. The search goes by
halves: the items that pass are taken to come before those that fail. -/
def partitionPoint {α : Type} (pass : α → Bool) (items : Array α) (low high : Nat) : Nat :=
  if low < high then
    let middle := low + (high - low) / 2
    if items[middle]?.any pass then
      partitionPoint pass items (middle + 1) high
    else
      partitionPoint pass items low middle
  else
    low
termination_by high - low

namespace Graph

/-- The layout version of graphs, checked when a saved graph is reopened. -/
def version : Nat := 1

/-- An empty graph of a trace that starts at the given time. -/
def new (startTime : Time) : Graph where
  startTime
  endTime := none
  phase := .building
  timelines := #[]
  workerIndex := .empty
  vertices := #[]
  edges := #[]

instance : Inhabited Graph := ⟨new 0⟩

def isDone (g : Graph) : Bool := g.phase ≠ .building

def isDisposed (g : Graph) : Bool := g.phase = .disposed

/-! ## § 4. Workers -/

def worker? (g : Graph) (w : WorkerId) : Option Worker := g.timelines[w.index]?.map (·.worker)

def workers (g : Graph) : List Worker := g.timelines.toList.map (·.worker)

def workerIds (g : Graph) : List WorkerId := (List.range g.timelines.size).map WorkerId.mk

def findWorker? (g : Graph) (k : WorkerKey) : Option WorkerId := g.workerIndex.get? k

/-! ## § 5. Chains -/

def chainOf (g : Graph) (w : WorkerId) : List VertexId :=
  match g.timelines[w.index]? with
  | some t => t.chain.toList
  | none => []

def head? (g : Graph) (w : WorkerId) : Option VertexId := do (← g.timelines[w.index]?).chain[0]?

def tail? (g : Graph) (w : WorkerId) : Option VertexId := do (← g.timelines[w.index]?).chain.back?

def time? (g : Graph) (v : VertexId) : Option Time := g.vertices[v.index]?.map (·.time)

/-- The first vertex of a worker at or after a time. -/
def vertexAt? (g : Graph) (w : WorkerId) (t : Time) : Option VertexId := do
  let chain := (← g.timelines[w.index]?).chain
  chain[partitionPoint (fun v => (g.time? v).any (· < t)) chain 0 chain.size]?

def vertexCount (g : Graph) : Nat := g.timelines.foldl (fun n t => n + t.chain.size) 0

/-! ## § 6. Vertices and edges -/

def vertex? (g : Graph) (v : VertexId) : Option Vertex :=
  g.vertices[v.index]?.map fun r => ⟨v, r.worker, r.time⟩

def contains (g : Graph) (v : VertexId) : Bool := g.vertices[v.index]?.any (·.inGraph)

def parent? (g : Graph) (v : VertexId) : Option WorkerId := g.vertices[v.index]?.map (·.worker)

def edge? (g : Graph) (e : EdgeId) : Option Edge := do
  let r ← g.edges[e.index]?
  let origin ← g.vertex? r.origin
  let target ← g.vertex? r.target
  return ⟨e, origin, target, r.state, r.qualifier, r.horizontal⟩

def edgeAt? (g : Graph) (v : VertexId) (d : Direction) : Option Edge := do
  let r ← g.vertices[v.index]?
  g.edge? (← r.slots.get d)

def vertexIds (g : Graph) : List VertexId := (List.range g.vertices.size).map VertexId.mk

def edgeIds (g : Graph) : List EdgeId := (List.range g.edges.size).map EdgeId.mk

def edgeList (g : Graph) : List Edge := g.edgeIds.filterMap g.edge?

def edgeCount (g : Graph) : Nat := g.edges.size

theorem mem_vertexIds {g : Graph} {v : VertexId} : v ∈ g.vertexIds ↔ v.index < g.vertices.size := by
  simp only [vertexIds, List.mem_map, List.mem_range]
  exact ⟨fun ⟨i, hi, e⟩ => e ▸ hi, fun h => ⟨v.index, h, rfl⟩⟩

theorem mem_vertexIds_of_vertex? {g : Graph} {v : VertexId} {u : Vertex}
    (h : g.vertex? v = some u) : v ∈ g.vertexIds := by
  rw [mem_vertexIds]
  obtain ⟨r, hr, -⟩ := Option.map_eq_some_iff.1 h
  exact (Array.getElem?_eq_some_iff.1 hr).1

theorem mem_edgeIds {g : Graph} {e : EdgeId} : e ∈ g.edgeIds ↔ e.index < g.edges.size := by
  simp only [edgeIds, List.mem_map, List.mem_range]
  exact ⟨fun ⟨i, hi, h⟩ => h ▸ hi, fun h => ⟨e.index, h, rfl⟩⟩

theorem mem_vertexIds_of_edgeAt? {g : Graph} {v : VertexId} {d : Direction} {e : Edge}
    (h : g.edgeAt? v d = some e) : v ∈ g.vertexIds := by
  rw [mem_vertexIds]
  simp only [edgeAt?, Option.bind_eq_bind, Option.bind_eq_some_iff] at h
  obtain ⟨r, hr, -⟩ := h
  exact (Array.getElem?_eq_some_iff.1 hr).1

/-- An edge that a look-up shows carries the id that was looked up, and exists. -/
theorem edge?_id {g : Graph} {i : EdgeId} {e : Edge} (h : g.edge? i = some e) :
    e.id = i ∧ i ∈ g.edgeIds := by
  simp only [edge?, Option.bind_eq_bind, Option.bind_eq_some_iff] at h
  obtain ⟨r, hr, a, -, b, -, he⟩ := h
  simp only [Option.pure_def, Option.some.injEq] at he
  exact ⟨he ▸ rfl, mem_edgeIds.2 (Array.getElem?_eq_some_iff.1 hr).1⟩

theorem mem_edgeIds_of_edgeAt? {g : Graph} {v : VertexId} {d : Direction} {e : Edge}
    (h : g.edgeAt? v d = some e) : e.id ∈ g.edgeIds := by
  simp only [edgeAt?, Option.bind_eq_bind, Option.bind_eq_some_iff] at h
  obtain ⟨r, -, i, -, hi⟩ := h
  obtain ⟨hid, hmem⟩ := edge?_id hi
  exact hid ▸ hmem

end Graph

end CausalPath
