import CausalPath.Graph.Basic
import CausalPath.Unmarked

/-!
# Scanning the causal neighbourhood of a vertex

`headOf` rewinds a chain from one of its vertices. `scan` starts at a vertex, rewinds to the head of
its chain and walks the chain forward; every vertical edge met on the way queues the chain at its
other end, and each queued chain is walked the same way once. A chain that loops back on itself ends
the scan with an error.
-/

namespace CausalPath

namespace Graph

/-! ## § 1. The head of a chain -/

/-- Follows incoming horizontal edges back from `current` for at most the given number of steps.
Coming back to `start` is a cycle. -/
def rewind (g : Graph) (start current : VertexId) : Nat → Except GraphError VertexId
  | 0 => .error (.cycleDetected start)
  | steps + 1 =>
    match g.edgeAt? current .incomingHorizontal with
    | none => .ok current
    | some e =>
      if e.origin.id = start then
        .error (.cycleDetected start)
      else
        g.rewind start e.origin.id steps

/-- The first vertex of the chain of a vertex. A chain has no more vertices than the arena. -/
def headOf (g : Graph) (v : VertexId) : Except GraphError VertexId :=
  match g.vertices[v.index]? with
  | none => .error (.unknownVertex v)
  | some r =>
    if r.inGraph then
      g.rewind v v (g.vertices.size + 1)
    else
      .error (.vertexNotInGraph v)

/-! ## § 2. The scan -/

/-- One item of a scan. -/
inductive ScanItem
  /-- The head of a chain, before the chain's vertices. -/
  | head (v : Vertex)
  | vertex (v : Vertex)
  /-- An outgoing edge of the vertex before it. -/
  | edge (e : Edge)
  deriving DecidableEq, Repr

def ScanItem.ends (e : Option Edge) (f : Edge → Vertex) : List VertexId :=
  (e.map fun e => (f e).id).toList

/-- What a scan yields: its items, and the error that cut it short. -/
structure Scan where
  items : List ScanItem
  error : Option GraphError
  deriving DecidableEq

def Scan.after (items : List ScanItem) (s : Scan) : Scan := { s with items := items ++ s.items }

/-- Goes on with a scan. `cursor` is the vertex under way in the current chain, `queue` holds
vertices whose chains are still to be walked, last one first. -/
def scanFrom (g : Graph) (seen queue : List VertexId) (cursor : Option VertexId) : Scan :=
  match cursor with
  | some v =>
    if v ∈ seen then
      g.scanFrom seen queue none
    else
      match h : g.vertex? v with
      | none => ⟨[], some (.unknownVertex v)⟩
      | some here =>
        let out := g.edgeAt? v .outgoingVertical
        let into := g.edgeAt? v .incomingVertical
        let next := g.edgeAt? v .outgoingHorizontal
        let queue := ScanItem.ends into (·.origin) ++ (ScanItem.ends out (·.target) ++ queue)
        Scan.after ([.vertex here] ++ out.toList.map .edge ++ next.toList.map .edge)
          (g.scanFrom (v :: seen) queue (next.map (·.target.id)))
  | none =>
    match queue with
    | [] => ⟨[], none⟩
    | v :: rest =>
      if v ∈ seen then
        g.scanFrom seen rest none
      else
        match g.headOf v with
        | .error e => ⟨[], some e⟩
        | .ok head =>
          match g.vertex? head with
          | none => ⟨[], some (.unknownVertex head)⟩
          | some start => Scan.after [.head start] (g.scanFrom seen rest (some head))
termination_by (unmarked g.vertexIds seen, queue.length, if cursor.isSome then 1 else 0)
decreasing_by
  · exact Prod.Lex.right _ (Prod.Lex.right _ (by simp))
  · rename_i hseen
    exact Prod.Lex.left _ _ (unmarked_cons_lt (mem_vertexIds_of_vertex? h) hseen)
  all_goals exact Prod.Lex.right _ (Prod.Lex.left _ _ (by simp))

def scan (g : Graph) (start : VertexId) : Scan := g.scanFrom [] [start] none

end Graph

end CausalPath
