import CausalPath.Path.Basic
import CausalPath.Path.Draft

/-!
# Computing critical paths

The search walks the chain of a worker backward, one incoming horizontal edge at a time. Filler is
skipped, a wait that another worker may explain is resolved, and every other edge is copied; a wait
whose wakeup is not known is copied too, as an unexplained segment. The steps are then written
forward in time.
-/

namespace CausalPath

/-- What a path does about one edge of the worker's own chain. -/
inductive PathStep
  /-- The edge is kept as it is. -/
  | copy (edge : Edge)
  /-- The blocking is replaced by the trail that explains it, oldest edge first. -/
  | resolved (blocking : Edge) (trail : List Edge)
  deriving DecidableEq

namespace Graph

/-- The step for an edge of the worker's own chain; filler takes none. -/
def stepFor (g : Graph) (e : Edge) : Except PathError (List PathStep) :=
  if e.state = .noEdge then
    .ok []
  else if e.state.isMatchable then
    match g.resolve e.origin.time [] e with
    | .error err => .error err
    | .ok [] => .ok [.copy e]
    | .ok trail => .ok [.resolved e trail]
  else
    .ok [.copy e]

/-- Walks a chain backward from `v` to its head, or to a vertex at or before `bound`. The answer is
where the walk ended and its steps, oldest first. -/
def ownSteps (g : Graph) (bound : Option Time) (seen : List VertexId) (later : List PathStep)
    (v : Vertex) : Except PathError (Vertex × List PathStep) :=
  if v.id ∈ seen then
    .error (.cycleDetected v.id)
  else if bound.any (v.time ≤ ·) then
    .ok (v, later)
  else
    match _h : g.edgeAt? v.id .incomingHorizontal with
    | none => .ok (v, later)
    | some e =>
      match g.stepFor e with
      | .error err => .error err
      | .ok steps => g.ownSteps bound (v.id :: seen) (steps ++ later) e.origin
termination_by unmarked g.vertexIds seen
decreasing_by
  exact unmarked_cons_lt (mem_vertexIds_of_edgeAt? _h) ‹_›

end Graph

namespace Draft

def step (d : Draft) (source : Graph) (w : WorkerId) : PathStep → Except PathError Draft
  | .copy e => do
    let (_, d) ← d.ensure source w e.origin.time
    let (_, d) ← d.segment source w e.target.time e.state e.qualifier
    return d
  | .resolved blocking trail => d.explain source w blocking trail

def steps (d : Draft) (source : Graph) (w : WorkerId) : List PathStep → Except PathError Draft
  | [] => .ok d
  | s :: rest => do
    let d ← d.step source w s
    d.steps source w rest

def finish (d : Draft) : Except PathError CriticalPath :=
  match d.graph.close Time.last with
  | (.ok (), graph) => .ok ⟨graph⟩
  | (.error e, _) => .error (.graph e)

end Draft

namespace Graph

def emptyPath (g : Graph) : Except PathError CriticalPath := (Draft.new g.startTime).finish

/-- The time of the vertex that bounds a search, which must exist. -/
def boundOf (g : Graph) : Option VertexId → Except PathError (Option Time)
  | none => .ok none
  | some v =>
    match g.time? v with
    | some t => .ok (some t)
    | none => .error (.unknownVertex v)

/-- The vertex that a search starts from, which must be in its chain. -/
def startOf (g : Graph) (v : VertexId) : Except PathError Vertex :=
  match g.vertex? v with
  | none => .error (.unknownVertex v)
  | some start => if g.contains v then .ok start else .error (.missingHead v)

/-- Writes the steps of a chain that lead from `oldest` to `start`. The answer is where the path
arrives, with the draft. -/
def draftPath (g : Graph) (start oldest : Vertex) (steps : List PathStep) :
    Except PathError (Vertex × Draft) := do
  let (_, d) ← (Draft.new g.startTime).ensure g start.worker oldest.time
  let d ← d.steps g start.worker steps
  d.ensure g start.worker start.time

/-- The critical path of the worker of `start` up to `start`, walking back to `stop` or to the head
of the chain. A search that was cancelled before it began answers so once its ends are known. -/
def criticalPath (g : Graph) (start : VertexId) (stop : Option VertexId) (cancelled : Bool) :
    Except PathError CriticalPath := do
  let start ← g.startOf start
  let bound ← g.boundOf stop
  if cancelled then
    throw .cancelled
  let (oldest, steps) ← g.ownSteps bound [] [] start
  let (_, d) ← g.draftPath start oldest steps
  d.finish

/-- The critical path of a worker up to its last vertex: empty for a worker without vertices. -/
def workerPath (g : Graph) (w : WorkerId) (cancelled : Bool) : Except PathError CriticalPath :=
  match g.tail? w with
  | some tail => g.criticalPath tail none cancelled
  | none => g.emptyPath

end Graph

end CausalPath
