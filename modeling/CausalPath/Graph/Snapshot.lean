import CausalPath.Graph.Basic

/-!
# Snapshots

A `Snapshot` is the image of a graph that is saved: it leaves out what the rest determines, the edge
slots of the vertices and the index of the workers. `Graph.snapshot` takes the image,
`Snapshot.restore` rebuilds the graph after checking the image. Ids are kept, so an id from before
saving is good after restoring.
-/

namespace CausalPath

/-! ## § 1. Images -/

/-- The image of a vertex. -/
structure SnapshotVertex where
  worker : Nat
  time : Time
  inGraph : Bool
  deriving DecidableEq, Repr

/-- The image of an edge. -/
structure SnapshotEdge where
  origin : Nat
  target : Nat
  /-- The code of the edge's state. -/
  code : Nat
  qualifier : Option String
  horizontal : Bool
  deriving DecidableEq, Repr

/-- The image of a graph. -/
structure Snapshot where
  version : Nat
  startTime : Time
  endTime : Option Time
  done : Bool
  workers : List Worker
  vertices : List SnapshotVertex
  /-- The chain of each worker, by vertex index. -/
  timelines : List (List Nat)
  edges : List SnapshotEdge
  deriving DecidableEq

/-- The image of a graph. -/
def Graph.snapshot (g : Graph) : Snapshot where
  version := Graph.version
  startTime := g.startTime
  endTime := g.endTime
  done := g.isDone
  workers := g.workers
  vertices := g.vertices.toList.map fun r => ⟨r.worker.index, r.time, r.inGraph⟩
  timelines := g.timelines.toList.map fun t => t.chain.toList.map (·.index)
  edges := g.edges.toList.map fun r =>
    ⟨r.origin.index, r.target.index, r.state.code, r.qualifier, r.horizontal⟩

/-! ## § 2. Faults of an image -/

/-- What makes an image inconsistent. -/
inductive SnapshotFault
  | workerTwice (worker : Worker)
  | vertexWorker (vertex : Nat)
  | timelineCount (timelines workers : Nat)
  | timelineVertex (vertex : Nat)
  | misplaced (vertex worker : Nat)
  | backInTime (worker vertex : Nat)
  | edgeEnd (edge : Nat)
  | slotTwice (vertex : VertexId) (direction : Direction)
  deriving DecidableEq

/-- The words for a fault. -/
def SnapshotFault.describe : SnapshotFault → String
  | .workerTwice w => s!"worker {w} listed twice"
  | .vertexWorker v => s!"vertex v{v} has unknown worker"
  | .timelineCount t w => s!"{t} timelines for {w} workers"
  | .timelineVertex v => s!"unknown vertex v{v} in timeline"
  | .misplaced v w => s!"vertex v{v} misplaced in timeline w{w}"
  | .backInTime w v => s!"timeline w{w} goes back in time at v{v}"
  | .edgeEnd e => s!"edge e{e} has unknown endpoint"
  | .slotTwice v d => s!"{d} slot of {v} used twice"

/-- Why an image is not restored. -/
inductive RestoreError
  | versionMismatch (found : Nat)
  | invalid (fault : SnapshotFault)
  deriving DecidableEq

def RestoreError.message : RestoreError → String
  | .versionMismatch found => s!"Graph version mismatch: expected {Graph.version}, found {found}"
  | .invalid fault => "Invalid snapshot: " ++ fault.describe

/-! ## § 3. Restoring -/

namespace Snapshot

/-- The index of the workers, from the given id on. No two of them may share a key. -/
def indexWorkers (index : Table WorkerKey WorkerId) (next : Nat) :
    List Worker → Except SnapshotFault (Table WorkerKey WorkerId)
  | [] => .ok index
  | w :: rest =>
    if (index.get? w.key).isSome then .error (.workerTwice w)
    else indexWorkers (index.insert w.key ⟨next⟩) (next + 1) rest

/-- Checks that every vertex, from the given index on, belongs to one of the workers. -/
def checkVertices (workers index : Nat) : List SnapshotVertex → Except SnapshotFault Unit
  | [] => .ok ()
  | v :: rest =>
    if v.worker < workers then checkVertices workers (index + 1) rest
    else .error (.vertexWorker index)

/-- Checks that a timeline lists vertices of its worker that are in the graph, in time order. -/
def checkTimeline (vertices : Array SnapshotVertex) (worker : Nat) (previous : Option Time) :
    List Nat → Except SnapshotFault Unit
  | [] => .ok ()
  | v :: rest =>
    match vertices[v]? with
    | none => .error (.timelineVertex v)
    | some r =>
      if r.worker ≠ worker ∨ r.inGraph = false then
        .error (.misplaced v worker)
      else if previous.any (r.time < ·) then
        .error (.backInTime worker v)
      else
        checkTimeline vertices worker (some r.time) rest

def checkTimelines (vertices : Array SnapshotVertex) (worker : Nat) :
    List (List Nat) → Except SnapshotFault Unit
  | [] => .ok ()
  | t :: rest => do
    checkTimeline vertices worker none t
    checkTimelines vertices (worker + 1) rest

/-- Takes a free slot of a vertex for an edge. -/
def takeSlot (vertices : Array VertexRecord) (v : VertexId) (d : Direction) (e : EdgeId) :
    Except SnapshotFault (Array VertexRecord) :=
  match vertices[v.index]? with
  | some r =>
    if (r.slots.get d).isSome then
      .error (.slotTwice v d)
    else
      .ok (vertices.modify v.index fun r => { r with slots := r.slots.set d e })
  | none => .error (.edgeEnd e.index)

/-- Takes the slots of the edges from the given index on. -/
def takeSlots (vertices : Array VertexRecord) (index : Nat) :
    List SnapshotEdge → Except SnapshotFault (Array VertexRecord)
  | [] => .ok vertices
  | e :: rest => do
    if vertices.size ≤ e.origin ∨ vertices.size ≤ e.target then
      throw (.edgeEnd index)
    let vertices ← takeSlot vertices ⟨e.origin⟩ (.atOrigin e.horizontal) ⟨index⟩
    let vertices ← takeSlot vertices ⟨e.target⟩ (.atTarget e.horizontal) ⟨index⟩
    takeSlots vertices (index + 1) rest

def bareVertices (s : Snapshot) : Array VertexRecord :=
  (s.vertices.map fun v => ⟨⟨v.worker⟩, v.time, v.inGraph, .free⟩).toArray

/-- The edge arena of an image. A code that names no state stands for an unknown state. -/
def edgeArena (s : Snapshot) : Array EdgeRecord :=
  (s.edges.map fun e =>
    ⟨⟨e.origin⟩, ⟨e.target⟩, .ofCode e.code, e.qualifier, e.horizontal⟩).toArray

/-- The timelines of an image: each worker with its chain. -/
def timelineArena (s : Snapshot) : Array Timeline :=
  (List.zipWith (fun w t => ⟨w, (t.map VertexId.mk).toArray⟩) s.workers s.timelines).toArray

/-- What an image leaves out, if the image is consistent: the index of its workers, and the slots in
the vertex arena. -/
def check (s : Snapshot) :
    Except SnapshotFault (Table WorkerKey WorkerId × Array VertexRecord) := do
  let index ← indexWorkers .empty 0 s.workers
  checkVertices s.workers.length 0 s.vertices
  if s.timelines.length ≠ s.workers.length then
    throw (.timelineCount s.timelines.length s.workers.length)
  checkTimelines s.vertices.toArray 0 s.timelines
  return (index, ← takeSlots s.bareVertices 0 s.edges)

/-- The graph of an image, if the image has this layout version and is consistent. -/
def restore (s : Snapshot) : Except RestoreError Graph :=
  if s.version ≠ Graph.version then
    .error (.versionMismatch s.version)
  else
    match s.check with
    | .error fault => .error (.invalid fault)
    | .ok (index, vertices) => .ok {
        startTime := s.startTime
        endTime := s.endTime
        phase := if s.done then .closed else .building
        timelines := s.timelineArena
        workerIndex := index
        vertices := vertices
        edges := s.edgeArena }

end Snapshot

end CausalPath
