import CausalPath.Graph.Basic
import CausalPath.Unmarked

/-!
# Explaining waits

The backward search behind critical paths. Time that a worker spent running explains itself; time
that it spent blocked is explained by whatever ended the blocking, possibly on another worker.

`Graph.resolve` explains one blocking edge. It finds the *junction*, the vertex where the blocking
ended and a wakeup arrived, and follows the wakeup backward on the waker, down to the start of the
blocking: its *window*. Blockings met on the way are resolved in turn, each in its own window. A
blocking met again while it is being resolved is a cycle.

Trails are built backward in time, so the first edge of a list is always the oldest.
-/

namespace CausalPath

/-! ## § 1. Errors -/

/-- Why there is no critical path. -/
inductive PathError
  | cycleDetected (vertex : VertexId)
  /-- The vertex is in no chain. -/
  | missingHead (vertex : VertexId)
  | unknownVertex (vertex : VertexId)
  | cancelled
  | graph (error : GraphError)
  /-- The look for a wakeup after the vertex runs around a cycle of instantaneous edges. -/
  | endlessScan (vertex : VertexId)
  deriving DecidableEq, Repr

def PathError.message : PathError → String
  | .cycleDetected v => s!"cycle detected while resolving the critical path at vertex {v}"
  | .missingHead v => s!"no head vertex for the chain of vertex {v}"
  | .unknownVertex v => s!"unknown vertex {v}"
  | .cancelled => "critical path computation was cancelled"
  | .graph e => "graph error: " ++ e.message
  | .endlessScan v => s!"instantaneous edges run in a cycle at vertex {v}"

/-! ## § 2. Junctions -/

namespace Graph

/-- A candidate for the junction: a vertex with the wakeup that arrives there. -/
def laterWakeup (best candidate : Option Edge) : Option Edge :=
  match best, candidate with
  | some b, some c => if b.origin.time < c.origin.time then some c else some b
  | none, c => c
  | b, none => b

/-- An edge that leads on to a vertex at which the same blocking may have ended. -/
def isInstant (e : Edge) : Bool := e.duration = 0 ∨ e.state = .epsilon

/-- The wakeup among those that arrive at `current` and the instantaneous vertices after it that
left latest, the first of them when several left at that time; `best` is the choice so far. -/
def wakeupFrom (g : Graph) (seen : List VertexId) (best : Option Edge) (current : VertexId) :
    Except PathError (Option Edge) :=
  if current ∈ seen then
    .error (.endlessScan current)
  else
    let best := laterWakeup best (g.edgeAt? current .incomingVertical)
    match _h : g.edgeAt? current .outgoingHorizontal with
    | none => .ok best
    | some next =>
      if isInstant next then
        g.wakeupFrom (current :: seen) best next.target.id
      else
        .ok best
termination_by unmarked g.vertexIds seen
decreasing_by
  exact unmarked_cons_lt (mem_vertexIds_of_edgeAt? _h) ‹_›

/-- The wakeup that ended a wait at a vertex, if one is known. It arrives at the junction: the
vertex itself or an instantaneous vertex after it. -/
def wakeup (g : Graph) (v : VertexId) : Except PathError (Option Edge) := g.wakeupFrom [] none v

end Graph

/-! ## § 3. Trails -/

/-- The state of a walk inside one window. -/
structure Trail where
  /-- The explanation so far, oldest edge first. -/
  path : List Edge
  /-- Visited vertices that have a wakeup as a second way in, latest visit first. -/
  forks : List VertexId
  /-- Visited vertices. -/
  explored : List VertexId
  deriving DecidableEq

namespace Trail

def start (wakeup : Edge) : Trail := ⟨[wakeup], [], []⟩

/-- Marks a vertex as visited. It becomes a fork when it has a wakeup and the edge before it, if
any, does not block. -/
def visit (g : Graph) (t : Trail) (v : VertexId) : Trail :=
  let wakes := (g.edgeAt? v .incomingVertical).isSome
  let blocks := (g.edgeAt? v .incomingHorizontal).any (·.state.role = .block)
  { t with
    explored := v :: t.explored
    forks := if wakes && !blocks then v :: t.forks else t.forks }

def push (t : Trail) (older : List Edge) : Trail := { t with path := older ++ t.path }

/-- Leaves a dead end: drops the edges older than the latest fork and takes the fork's wakeup. The
answer has the vertex to go on from, if there was a fork. -/
def backtrack (g : Graph) (t : Trail) : Trail × Option Vertex :=
  match t.forks with
  | [] => (t, none)
  | v :: rest =>
    let kept := t.path.dropWhile (·.origin.id ≠ v)
    match g.edgeAt? v .incomingVertical with
    | none => ({ t with path := kept, forks := rest }, none)
    | some e => ({ t with path := e :: kept, forks := rest }, some e.origin)

/-- How much a walk can still do: vertices to visit, and forks to come back to. -/
def budget (g : Graph) (t : Trail) : Nat := 2 * unmarked g.vertexIds t.explored + t.forks.length

/-- A fork that was come back to is used up. -/
theorem budget_backtrack {g : Graph} {t t' : Trail} {u : Vertex}
    (h : t.backtrack g = (t', some u)) : t'.budget g < t.budget g := by
  unfold backtrack at h
  split at h
  · simp at h
  · rename_i v rest hf
    split at h
    · simp at h
    · simp only [Prod.mk.injEq] at h
      obtain ⟨rfl, -⟩ := h
      simp only [budget, hf, List.length_cons]
      omega

/-- A first visit never adds to what a walk can do: a new fork is paid for by the visit. -/
theorem budget_visit_le (g : Graph) {t : Trail} {v : VertexId} (hv : v ∉ t.explored) :
    (t.visit g v).budget g ≤ t.budget g := by
  simp only [budget, visit]
  split
  · rename_i hw
    simp only [Bool.and_eq_true] at hw
    obtain ⟨e, he⟩ := Option.isSome_iff_exists.1 hw.1
    have hlt := unmarked_cons_lt (Graph.mem_vertexIds_of_edgeAt? he) hv
    simp only [List.length_cons]
    omega
  · have hle := unmarked_cons_le g.vertexIds t.explored v
    omega

/-- A first visit of a vertex that exists leaves less to do. -/
theorem budget_visit_lt {g : Graph} {t : Trail} {v : VertexId} (hv : v ∈ g.vertexIds)
    (he : v ∉ t.explored) : (t.visit g v).budget g < t.budget g := by
  have hlt := unmarked_cons_lt hv he
  simp only [budget, visit]
  split
  · simp only [List.length_cons]
    omega
  · omega

end Trail

/-! ## § 4. Windows -/

namespace Graph

/-- The wakeup to follow for a blocking edge, unless the blocking is being resolved already. -/
def windowWakeup (g : Graph) (resolving : List EdgeId) (blocking : Edge) :
    Except PathError { _w : Option Edge // blocking.id ∉ resolving } :=
  if h : blocking.id ∈ resolving then
    .error (.cycleDetected blocking.target.id)
  else
    match g.wakeup blocking.target.id with
    | .error err => .error err
    | .ok w => .ok ⟨w, h⟩

/-- Walks backward from `v` inside a window. Nothing at or before `bound` is visited; `resolving`
holds the blockings whose windows are open. The answer is the whole trail, oldest edge first. -/
def walk (g : Graph) (bound : Time) (resolving : List EdgeId) (trail : Trail) (v : Vertex) :
    Except PathError (List Edge) :=
  if v.time ≤ bound then
    .ok trail.path
  else
    -- a wakeup from before the window ends the walk
    match (g.edgeAt? v.id .incomingVertical).filter (·.origin.time ≤ bound) with
    | some e => .ok (e :: trail.path)
    | none =>
      if v.id ∈ trail.explored then
        match _hb : trail.backtrack g with
        | (t, none) => .ok t.path
        | (t, some u) => g.walk bound resolving t u
      else
        match _hh : g.edgeAt? v.id .incomingHorizontal with
        | none =>
          match _hb : (trail.visit g v.id).backtrack g with
          | (t, none) => .ok t.path
          | (t, some u) => g.walk bound resolving t u
        | some e =>
          if e.state.isMatchable then
            match g.windowWakeup resolving e with
            | .error err => .error err
            | .ok ⟨none, _⟩ => g.walk bound resolving ((trail.visit g v.id).push [e]) e.origin
            | .ok ⟨some w, _⟩ =>
              match g.walk (max bound e.origin.time) (e.id :: resolving) (.start w) w.origin with
              | .error err => .error err
              | .ok nested => g.walk bound resolving ((trail.visit g v.id).push nested) e.origin
          else
            g.walk bound resolving ((trail.visit g v.id).push [e]) e.origin
termination_by (unmarked g.edgeIds resolving, trail.budget g)
decreasing_by
  · exact Prod.Lex.right _ (Trail.budget_backtrack _hb)
  · exact Prod.Lex.right _ (Nat.lt_of_lt_of_le (Trail.budget_backtrack _hb)
      (Trail.budget_visit_le g ‹_›))
  · exact Prod.Lex.right _ (Trail.budget_visit_lt (mem_vertexIds_of_edgeAt? _hh) ‹_›)
  · exact Prod.Lex.left _ _
      (unmarked_cons_lt (mem_edgeIds_of_edgeAt? _hh) ‹_›)
  all_goals exact Prod.Lex.right _ (Trail.budget_visit_lt (mem_vertexIds_of_edgeAt? _hh) ‹_›)

/-- The edges that explain a blocking edge, oldest first: empty when what ended the blocking is not
known. Nothing at or before `bound`, or before the blocking itself, is visited. -/
def resolve (g : Graph) (bound : Time) (resolving : List EdgeId) (blocking : Edge) :
    Except PathError (List Edge) :=
  match g.windowWakeup resolving blocking with
  | .error err => .error err
  | .ok ⟨none, _⟩ => .ok []
  | .ok ⟨some w, _⟩ =>
    g.walk (max bound blocking.origin.time) (blocking.id :: resolving) (.start w) w.origin

end Graph

end CausalPath
