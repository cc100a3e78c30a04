import CausalPath.Proofs.Store.Invariant
import Mathlib.Data.List.Basic

/-!
# Edges in order of creation

`Graph.edgeList` lists the edges of a graph in the order in which they were added. In a sound store
a new edge is one more at the end, and every other write leaves the list as it is.
-/

namespace CausalPath

namespace Graph

variable {g g' : Graph}

/-! ## § 1. Lists of edges -/

theorem edgeList_eq (g : Graph) :
    g.edgeList = (List.range g.edges.size).filterMap fun i => g.edge? ⟨i⟩ := by
  simp only [edgeList, edgeIds, List.filterMap_map]
  rfl

theorem mem_edgeList {e : Edge} : e ∈ g.edgeList ↔ g.edge? e.id = some e := by
  rw [edgeList, List.mem_filterMap]
  constructor
  · rintro ⟨i, -, he⟩
    obtain rfl := (edge?_id he).1
    exact he
  · intro he
    exact ⟨e.id, (edge?_id he).2, he⟩

/-- Stores with the same edges list the same edges. -/
theorem edgeList_congr (hsize : g'.edges.size = g.edges.size)
    (h : ∀ i : EdgeId, i.index < g.edges.size → g'.edge? i = g.edge? i) :
    g'.edgeList = g.edgeList := by
  rw [edgeList_eq, edgeList_eq, hsize]
  apply List.filterMap_congr
  intro i hi
  exact h ⟨i⟩ (List.mem_range.1 hi)

/-- A store with one edge more lists it last. -/
theorem edgeList_concat {e : Edge} (hsize : g'.edges.size = g.edges.size + 1)
    (h : ∀ i : EdgeId, i.index < g.edges.size → g'.edge? i = g.edge? i)
    (hnew : g'.edge? g.nextEdge = some e) : g'.edgeList = g.edgeList ++ [e] := by
  rw [edgeList_eq, edgeList_eq, hsize, List.range_succ, List.filterMap_append]
  congr 1
  · apply List.filterMap_congr
    intro i hi
    exact h ⟨i⟩ (List.mem_range.1 hi)
  · have hlast : g'.edge? ⟨g.edges.size⟩ = some e := hnew
    simp [hlast]

/-! ## § 2. Edges after a write -/

theorem Sound.edge?_pushVertex (h : g.Sound) (w : WorkerId) (t : Time) (i : EdgeId) :
    (g.pushVertex w t).edge? i = g.edge? i := by
  cases hx : g.edgeRecord? i with
  | none =>
    have hx' : (g.pushVertex w t).edges[i.index]? = none := hx
    have hx'' : g.edges[i.index]? = none := hx
    simp [edge?, hx', hx'']
  | some x =>
    obtain ⟨a, b, ha, hb, -, he⟩ := h.edge?_of_record hx
    rw [he]
    exact edge?_eq_some_iff.2
      ⟨x, hx, vertex?_pushVertex_of_some w t ha, vertex?_pushVertex_of_some w t hb, rfl⟩

@[simp] theorem edge?_pushChain (g : Graph) (w : WorkerId) (v : VertexId) (i : EdgeId) :
    (g.pushChain w v).edge? i = g.edge? i := by
  simp only [edge?, vertex?_pushChain]
  rfl

theorem edge?_pushEdge (g : Graph) (x : EdgeRecord) {i : EdgeId} (hi : i ≠ g.nextEdge) :
    (g.pushEdge x).edge? i = g.edge? i := by
  have hx : (g.pushEdge x).edges[i.index]? = g.edges[i.index]? := by
    have heq := edgeRecord?_pushEdge g x i
    rwa [if_neg hi] at heq
  simp only [edge?, hx, vertex?_pushEdge]

theorem edge?_pushEdge_new {x : EdgeRecord} {a b : Vertex} (ha : g.vertex? x.origin = some a)
    (hb : g.vertex? x.target = some b) :
    (g.pushEdge x).edge? g.nextEdge =
      some ⟨g.nextEdge, a, b, x.state, x.qualifier, x.horizontal⟩ := by
  rw [edge?_eq_some_iff]
  refine ⟨x, ?_, ?_, ?_, rfl⟩
  · rw [edgeRecord?_pushEdge, if_pos rfl]
  · rw [vertex?_pushEdge, ha]
  · rw [vertex?_pushEdge, hb]

theorem ne_nextEdge_of_lt {i : EdgeId} (h : i.index < g.edges.size) : i ≠ g.nextEdge := by
  rintro rfl
  exact absurd h (Nat.lt_irrefl _)

theorem Sound.edgeList_pushVertex (h : g.Sound) (w : WorkerId) (t : Time) :
    (g.pushVertex w t).edgeList = g.edgeList :=
  edgeList_congr rfl fun i _ => h.edge?_pushVertex w t i

@[simp] theorem edgeList_pushChain (g : Graph) (w : WorkerId) (v : VertexId) :
    (g.pushChain w v).edgeList = g.edgeList :=
  edgeList_congr rfl fun i _ => edge?_pushChain g w v i

theorem edgeList_pushEdge {x : EdgeRecord} {a b : Vertex} (ha : g.vertex? x.origin = some a)
    (hb : g.vertex? x.target = some b) :
    (g.pushEdge x).edgeList =
      g.edgeList ++ [⟨g.nextEdge, a, b, x.state, x.qualifier, x.horizontal⟩] := by
  refine edgeList_concat ?_ ?_ (edge?_pushEdge_new ha hb)
  · simp [pushEdge]
  · intro i hi
    exact edge?_pushEdge g x (ne_nextEdge_of_lt hi)

/-! ## § 3. Growing the chain of a worker by a vertex -/

/-- The store with one more vertex at the end of a chain, joined to the old tail. -/
def grown (g : Graph) (w : WorkerId) (t : Time) (s : EdgeState) (q : Option String) : Graph :=
  match g.last? w with
  | none => (g.pushVertex w t).pushChain w g.nextVertex
  | some tail =>
    ((g.pushVertex w t).pushEdge ⟨tail.id, g.nextVertex, s, q, true⟩).pushChain w g.nextVertex

/-- The vertex at the end of a chain grown so. -/
def grownVertex (g : Graph) (w : WorkerId) (t : Time) : Vertex := ⟨g.nextVertex, w, t⟩

/-- The edges that a grown chain gains: one, unless it was empty. -/
def grownEdges (g : Graph) (w : WorkerId) (t : Time) (s : EdgeState) (q : Option String) :
    List Edge :=
  ((g.last? w).map fun tail => ⟨g.nextEdge, tail, g.grownVertex w t, s, q, true⟩).toList

theorem last?_eq_some_iff {w : WorkerId} {u : Vertex} :
    g.last? w = some u ↔ (g.chainOf w).getLast? = some u.id ∧ g.vertex? u.id = some u := by
  rw [last?, Option.bind_eq_some_iff]
  constructor
  · rintro ⟨v, hv, hu⟩
    obtain rfl := vertex?_id hu
    exact ⟨hv, hu⟩
  · rintro ⟨hv, hu⟩
    exact ⟨u.id, hv, hu⟩

theorem ne_nextVertex {v : VertexId} {u : Vertex} (hu : g.vertex? v = some u) :
    v ≠ g.nextVertex := by
  rintro rfl
  rw [vertex?_nextVertex] at hu
  exact absurd hu (by simp)

theorem Sound.last?_worker (h : g.Sound) {w : WorkerId} {tail : Vertex}
    (hlast : g.last? w = some tail) : tail.worker = w := by
  obtain ⟨htail, hshown⟩ := last?_eq_some_iff.1 hlast
  have hparent := ((h.mem_chain w tail.id).1 (List.mem_of_getLast? htail)).2
  rw [parent?_eq, hshown] at hparent
  exact Option.some.inj hparent

theorem Sound.isSome_worker?_of_last? (h : g.Sound) {w : WorkerId} {tail : Vertex}
    (hlast : g.last? w = some tail) : (g.worker? w).isSome :=
  h.last?_worker hlast ▸ h.registered _ _ (last?_eq_some_iff.1 hlast).2

section Grown

variable {w : WorkerId} {t : Time} {s : EdgeState} {q : Option String}

theorem vertex?_grown (g : Graph) (w : WorkerId) (t : Time) (s : EdgeState) (q : Option String)
    (v : VertexId) : (g.grown w t s q).vertex? v = (g.pushVertex w t).vertex? v := by
  unfold grown
  split <;> simp

theorem vertex?_grown_new (g : Graph) (w : WorkerId) (t : Time) (s : EdgeState)
    (q : Option String) : (g.grown w t s q).vertex? g.nextVertex = some (g.grownVertex w t) := by
  rw [vertex?_grown, vertex?_pushVertex, if_pos rfl]
  rfl

theorem vertex?_grown_of_some {v : VertexId} {u : Vertex} (hu : g.vertex? v = some u) :
    (g.grown w t s q).vertex? v = some u := by
  rw [vertex?_grown]
  exact vertex?_pushVertex_of_some w t hu

theorem time?_grown_cases {v : VertexId} {r : Time} (hr : (g.grown w t s q).time? v = some r) :
    (v = g.nextVertex ∧ r = t) ∨ g.time? v = some r := by
  rw [time?_eq, vertex?_grown, vertex?_pushVertex] at hr
  split at hr
  · rename_i hv
    exact Or.inl ⟨hv, (Option.some.inj hr).symm⟩
  · exact Or.inr (by rwa [time?_eq])

theorem contains_grown (v : VertexId) :
    (g.grown w t s q).contains v = (decide (v = g.nextVertex) || g.contains v) := by
  have hnew : ((g.pushVertex w t).vertex? g.nextVertex).isSome := by
    rw [vertex?_pushVertex, if_pos rfl]
    rfl
  unfold grown
  split
  · rw [contains_pushChain w hnew, contains_pushVertex]
  · rw [contains_pushChain w (by rwa [vertex?_pushEdge]), contains_pushEdge, contains_pushVertex]

theorem worker?_grown (g : Graph) (w : WorkerId) (t : Time) (s : EdgeState) (q : Option String)
    (i : WorkerId) : (g.grown w t s q).worker? i = g.worker? i := by
  unfold grown
  split <;> simp

theorem chainOf_grown (hw : (g.worker? w).isSome) (i : WorkerId) :
    (g.grown w t s q).chainOf i = if i = w then g.chainOf w ++ [g.nextVertex] else g.chainOf i := by
  unfold grown
  split
  · exact chainOf_pushChain g.nextVertex hw i
  · exact chainOf_pushChain g.nextVertex hw i

theorem last?_grown (h : g.Sound) (hw : (g.worker? w).isSome) (i : WorkerId) :
    (g.grown w t s q).last? i = if i = w then some (g.grownVertex w t) else g.last? i := by
  rw [last?, chainOf_grown hw]
  split
  · simp [vertex?_grown_new]
  · cases htail : (g.chainOf i).getLast? with
    | none => simp [last?, htail]
    | some tail =>
      obtain ⟨u, hu⟩ := vertex?_isSome_of_contains (h.contains_tail htail)
      rw [Option.bind_some, vertex?_grown_of_some hu, last?, htail, Option.bind_some, hu]

theorem edgeList_grown (h : g.Sound) :
    (g.grown w t s q).edgeList = g.edgeList ++ g.grownEdges w t s q := by
  unfold grown grownEdges
  split
  · rename_i hl
    rw [hl, edgeList_pushChain, h.edgeList_pushVertex]
    simp
  · rename_i tail hl
    have htail := (last?_eq_some_iff.1 hl).2
    have hnew : (g.pushVertex w t).vertex? g.nextVertex = some (g.grownVertex w t) := by
      rw [vertex?_pushVertex, if_pos rfl]
      rfl
    rw [edgeList_pushChain, edgeList_pushEdge (vertex?_pushVertex_of_some w t htail) hnew,
      h.edgeList_pushVertex, hl]
    rfl

/-- Creating a vertex and putting it at the end of its chain grows the chain. -/
theorem grown_of_extend (h : g.Sound) (hw : (g.worker? w).isSome) {a : Option EdgeId}
    (hok : (g.pushVertex w t).extend g.nextVertex s q = .ok (a, g')) : g' = g.grown w t s q := by
  obtain ⟨u, hu, -, hcase⟩ := (h.create hw t).inside.extend_eq_ok hok
  rw [vertex?_pushVertex, if_pos rfl] at hu
  obtain rfl := Option.some.inj hu
  rcases hcase with ⟨hempty, -, rfl⟩ | ⟨tail, htail, -, -, rfl⟩
  · have hempty' : g.chainOf w = [] := hempty
    have hlast : g.last? w = none := by simp [last?, hempty']
    rw [grown, hlast]
  · have htail' : (g.chainOf w).getLast? = some tail := htail
    obtain ⟨x, hx⟩ := vertex?_isSome_of_contains (h.contains_tail htail')
    obtain rfl := vertex?_id hx
    have hlast : g.last? w = some x := last?_eq_some_iff.2 ⟨htail', hx⟩
    rw [grown, hlast]

end Grown

end Graph

end CausalPath
