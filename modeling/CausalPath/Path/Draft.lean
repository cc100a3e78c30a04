import CausalPath.Graph.Mutation
import CausalPath.Path.Search
import CausalPath.Table

/-!
# Drafts of output graphs

A critical path is written forward in time into a graph of its own, the draft, which has one chain
per worker that the path goes through. An `Anchor` is the place that the writing has reached. Within
a worker the path goes on by a segment; from worker to worker it goes on by a vertical link.
-/

namespace CausalPath

/-- An output graph under way, with the output worker of each source worker written so far. -/
structure Draft where
  graph : Graph
  workers : Table WorkerId WorkerId
  /-- The links that were left out, oldest first. -/
  leftOut : List (Vertex × Vertex)

/-- A place in an output graph, and the source worker that it stands for. -/
structure Anchor where
  worker : WorkerId
  vertex : Vertex
  deriving DecidableEq, Repr

namespace Draft

def new (startTime : Time) : Draft := ⟨Graph.new startTime, .empty, []⟩

def store {α : Type} : Except GraphError α → Except PathError α
  | .ok a => .ok a
  | .error e => .error (.graph e)

/-- The output worker of a source worker, registered on first use. -/
def outWorker (d : Draft) (source : Graph) (w : WorkerId) : Except PathError (WorkerId × Draft) :=
  match d.workers.get? w with
  | some id => .ok (id, d)
  | none =>
    match source.worker? w with
    | none => .error (.graph (.unknownWorker w))
    | some worker => do
      let (id, graph) ← store (d.graph.addWorker worker)
      return (id, { d with graph, workers := d.workers.insert w id })

def tail? (d : Draft) (id : WorkerId) : Option Vertex := (d.graph.tail? id).bind d.graph.vertex?

/-- Puts a new vertex at the end of the chain of an output worker. -/
def put (d : Draft) (id : WorkerId) (t : Time) (s : EdgeState) (q : Option String) :
    Except PathError (Vertex × Draft) := do
  let (v, graph) ← store (d.graph.createVertex id t)
  let (_, graph) ← store (graph.append v s q)
  return (⟨v, id, t⟩, { d with graph })

/-- The tail of a worker if it is at `t` or later, else a new tail at `t`, reached by filler. -/
def ensure (d : Draft) (source : Graph) (w : WorkerId) (t : Time) :
    Except PathError (Vertex × Draft) := do
  let (id, d) ← d.outWorker source w
  match d.tail? id with
  | some tail => if t ≤ tail.time then return (tail, d) else d.put id t .noEdge none
  | none => d.put id t .noEdge none

/-- A new tail of a worker at `t`, or at the old tail's time if that is later, reached by a
segment. -/
def segment (d : Draft) (source : Graph) (w : WorkerId) (t : Time) (s : EdgeState)
    (q : Option String) : Except PathError (Vertex × Draft) := do
  let (id, d) ← d.outWorker source w
  d.put id (((d.tail? id).map (·.time)).elim t (max t)) s q

/-- A vertical link, left out when it would take a slot twice or go back in time. A link that is
left out is noted. -/
def connect (d : Draft) (a b : Vertex) (s : EdgeState) (q : Option String) :
    Except PathError Draft :=
  if a.id ≠ b.id ∧ (d.graph.edgeAt? a.id .outgoingVertical).isNone ∧
      (d.graph.edgeAt? b.id .incomingVertical).isNone ∧ a.time ≤ b.time then do
    let (_, graph) ← store (d.graph.linkVertical a.id b.id s q)
    return { d with graph }
  else
    .ok { d with leftOut := d.leftOut ++ [(a, b)] }

/-- Goes on from an anchor to a worker at a time. -/
def advance (d : Draft) (source : Graph) (anchor : Anchor) (w : WorkerId) (t : Time)
    (s : EdgeState) (q : Option String) : Except PathError (Anchor × Draft) := do
  if w = anchor.worker then
    let (v, d) ← d.segment source w t s q
    return (⟨w, v⟩, d)
  else
    let (v, d) ← d.ensure source w (max t anchor.vertex.time)
    let d ← d.connect anchor.vertex v s q
    return (⟨w, v⟩, d)

/-- Writes a trail from an anchor on. Where an edge does not start where the edge before it ended, a
plain causal piece joins them. -/
def follow (d : Draft) (source : Graph) (anchor : Anchor) (previous : Option Edge) :
    List Edge → Except PathError Draft
  | [] => .ok d
  | e :: rest => do
    let (anchor, d) ←
      match previous with
      | some p =>
        if p.target.id = e.origin.id then
          pure (anchor, d)
        else
          d.advance source anchor e.origin.worker (max p.target.time e.origin.time) .default
            e.qualifier
      | none => pure (anchor, d)
    let (anchor, d) ← d.advance source anchor e.target.worker e.target.time e.state e.qualifier
    d.follow source anchor (some e) rest

/-- The anchor from which the trail of a resolved blocking starts: the start of the blocking, or a
vertex glued to it on the worker where the trail starts. Time there before the trail's first edge is
of unknown use. -/
def enter (d : Draft) (source : Graph) (w : WorkerId) (blocking first : Edge) :
    Except PathError (Anchor × Draft) := do
  let (b, d) ← d.ensure source w blocking.origin.time
  if first.origin.worker = w then
    return (⟨w, b⟩, d)
  else
    let (glue, d) ← d.ensure source first.origin.worker b.time
    let d ← d.connect b glue .default none
    if glue.time < first.origin.time then
      d.advance source ⟨first.origin.worker, glue⟩ first.origin.worker first.origin.time .unknown
        none
    else
      return (⟨first.origin.worker, glue⟩, d)

/-- Writes the trail that explains a blocking of a worker. -/
def explain (d : Draft) (source : Graph) (w : WorkerId) (blocking : Edge) (trail : List Edge) :
    Except PathError Draft :=
  match trail with
  | [] => .ok d
  | first :: _ => do
    let (anchor, d) ← d.enter source w blocking first
    d.follow source anchor none trail

end Draft

end CausalPath
