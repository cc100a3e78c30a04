import CausalPath.Proofs.Scan.Heads

/-!
# The items of a scan

A scan yields a vertex together with the edges that leave it, and goes on only to vertices that it
has not seen. So it visits no vertex twice, and reports each edge that leaves one of them once.
-/

namespace CausalPath

namespace Graph

/-! ## § 1. Items -/

namespace ScanItem

def vertexId? : ScanItem → Option VertexId
  | .vertex v => some v.id
  | _ => none

def edge? : ScanItem → Option Edge
  | .edge e => some e
  | _ => none

end ScanItem

namespace Scan

/-- The vertices that a scan visits, in order. -/
def visited (s : Scan) : List VertexId := s.items.filterMap ScanItem.vertexId?

/-- The edges that a scan reports, in order. -/
def edges (s : Scan) : List Edge := s.items.filterMap ScanItem.edge?

/-- What a scan yields to the one who iterates over it: its items, then the error if there is one. -/
def yields (s : Scan) : List (Except GraphError ScanItem) :=
  s.items.map .ok ++ s.error.toList.map .error

theorem visited_after (items : List ScanItem) (s : Scan) :
    (after items s).visited = items.filterMap ScanItem.vertexId? ++ s.visited := by
  simp [visited, after]

theorem edges_after (items : List ScanItem) (s : Scan) :
    (after items s).edges = items.filterMap ScanItem.edge? ++ s.edges := by
  simp [edges, after]

/-- Only the last of what is yielded may be an error. -/
theorem ok_of_mem_dropLast (s : Scan) : ∀ y ∈ s.yields.dropLast, ∃ x, y = .ok x := by
  intro y hy
  have hitem : y ∈ s.items.map Except.ok := by
    cases herr : s.error with
    | none =>
      rw [yields, herr] at hy
      simpa using List.dropLast_subset _ hy
    | some e =>
      rw [yields, herr] at hy
      simpa using hy
  obtain ⟨x, -, rfl⟩ := List.mem_map.1 hitem
  exact ⟨x, rfl⟩

end Scan

variable {g : Graph}

/-- The edges that leave a vertex, the vertical one first. -/
def leaving (g : Graph) (v : VertexId) : List Edge :=
  (g.edgeAt? v .outgoingVertical).toList ++ (g.edgeAt? v .outgoingHorizontal).toList

/-- The items for one vertex. -/
def stopItems (g : Graph) (v : Vertex) : List ScanItem := .vertex v :: (g.leaving v.id).map .edge

/-- The items for one chain. -/
def chainItems (g : Graph) : List Vertex → List ScanItem
  | [] => []
  | head :: rest => .head head :: (head :: rest).flatMap g.stopItems

theorem Wired.mem_leaving (h : g.Wired) {v : VertexId} {e : Edge} :
    e ∈ g.leaving v ↔ g.Has e ∧ e.origin.id = v := by
  have hout : g.edgeAt? v .outgoingVertical = some e ↔
      g.Has e ∧ e.horizontal = false ∧ e.origin.id = v := h.edgeAt?_atOrigin (b := false)
  have hnext : g.edgeAt? v .outgoingHorizontal = some e ↔
      g.Has e ∧ e.horizontal = true ∧ e.origin.id = v := h.edgeAt?_atOrigin (b := true)
  rw [leaving, List.mem_append, Option.mem_toList, Option.mem_toList, hout, hnext]
  cases e.horizontal <;> simp

theorem Wired.nodup_leaving (h : g.Wired) (v : VertexId) : (g.leaving v).Nodup := by
  unfold leaving
  cases hout : g.edgeAt? v .outgoingVertical with
  | none => cases g.edgeAt? v .outgoingHorizontal <;> simp
  | some e =>
    cases hnext : g.edgeAt? v .outgoingHorizontal with
    | none => simp
    | some e' =>
      -- one of the two is horizontal, the other is not
      have hne : e ≠ e' := by
        rintro rfl
        have hfalse := ((h.edgeAt?_atOrigin (b := false)).1 hout).2.1
        rw [((h.edgeAt?_atOrigin (b := true)).1 hnext).2.1] at hfalse
        exact absurd hfalse (by simp)
      simpa using hne

theorem length_stopItems (g : Graph) (v : Vertex) : (g.stopItems v).length ≤ 3 := by
  have hout : ∀ d, (g.edgeAt? v.id d).toList.length ≤ 1 := by
    intro d
    cases g.edgeAt? v.id d <;> simp
  have := hout .outgoingVertical
  have := hout .outgoingHorizontal
  simp only [stopItems, leaving, List.length_cons, List.length_map, List.length_append]
  omega

theorem stopItems_vertices (g : Graph) (v : Vertex) :
    (g.stopItems v).filterMap ScanItem.vertexId? = [v.id] := by
  simp [stopItems, ScanItem.vertexId?, List.filterMap_map, Function.comp_def]

theorem stopItems_edges (g : Graph) (v : Vertex) :
    (g.stopItems v).filterMap ScanItem.edge? = g.leaving v.id := by
  have hedge : ScanItem.edge? ∘ ScanItem.edge = some := rfl
  show ((g.leaving v.id).map .edge).filterMap ScanItem.edge? = _
  rw [List.filterMap_map, hedge, List.filterMap_some]

/-- The items that a scan yields for the vertex under way. -/
theorem stopItems_eq {v : VertexId} {here : Vertex} (hv : g.vertex? v = some here) :
    [.vertex here] ++ (g.edgeAt? v .outgoingVertical).toList.map .edge ++
      (g.edgeAt? v .outgoingHorizontal).toList.map .edge = g.stopItems here := by
  rw [stopItems, leaving, vertex?_id hv]
  simp

/-! ## § 2. Once each -/

/-- A scan visits vertices of the graph. -/
theorem scanFrom_subset (g : Graph) (seen queue : List VertexId) (cursor : Option VertexId) :
    ∀ u ∈ (g.scanFrom seen queue cursor).visited, u ∈ g.vertexIds := by
  fun_induction scanFrom g seen queue cursor with
  | case1 seen queue v hseen ih => exact ih
  | case2 => simp [Scan.visited]
  | case3 seen queue v hseen here hv out into next queue' ih =>
    rw [Scan.visited_after, stopItems_eq hv, stopItems_vertices, vertex?_id hv]
    intro u hu
    rcases List.mem_cons.1 hu with rfl | hu
    · exact mem_vertexIds_of_vertex? hv
    · exact ih u hu
  | case4 => simp [Scan.visited]
  | case5 seen v rest hseen ih => exact ih
  | case6 => simp [Scan.visited]
  | case7 => simp [Scan.visited]
  | case8 seen v rest hseen head hhead start hstart ih => exact ih

/-- A scan visits nothing that was seen, and nothing twice. -/
theorem scanFrom_once (g : Graph) (seen queue : List VertexId) (cursor : Option VertexId) :
    (g.scanFrom seen queue cursor).visited.Nodup ∧
      ∀ v ∈ (g.scanFrom seen queue cursor).visited, v ∉ seen := by
  fun_induction scanFrom g seen queue cursor with
  | case1 seen queue v hseen ih => exact ih
  | case2 => simp [Scan.visited]
  | case3 seen queue v hseen here hv out into next queue' ih =>
    obtain ⟨hnodup, hnew⟩ := ih
    rw [Scan.visited_after, stopItems_eq hv, stopItems_vertices, vertex?_id hv]
    constructor
    · refine List.nodup_cons.2 ⟨?_, hnodup⟩
      intro hmem
      exact hnew v hmem List.mem_cons_self
    · intro u hu
      rcases List.mem_cons.1 hu with rfl | hu
      · exact hseen
      · exact fun hmem => hnew u hu (List.mem_cons_of_mem v hmem)
  | case4 => simp [Scan.visited]
  | case5 seen v rest hseen ih => exact ih
  | case6 => simp [Scan.visited]
  | case7 => simp [Scan.visited]
  | case8 seen v rest hseen head hhead start hstart ih => exact ih

/-- A scan reports the edges that leave what it visits, and none of them twice. -/
theorem Wired.scanFrom_edges (h : g.Wired) (seen queue : List VertexId)
    (cursor : Option VertexId) :
    (g.scanFrom seen queue cursor).edges.Nodup ∧
      ∀ e, e ∈ (g.scanFrom seen queue cursor).edges ↔
        g.Has e ∧ e.origin.id ∈ (g.scanFrom seen queue cursor).visited := by
  fun_induction scanFrom g seen queue cursor with
  | case1 seen queue v hseen ih => exact ih
  | case2 => simp [Scan.visited, Scan.edges]
  | case3 seen queue v hseen here hv out into next queue' ih =>
    obtain ⟨hnodup, hmem⟩ := ih
    have hnew := (g.scanFrom_once (v :: seen) queue' (next.map (·.target.id))).2
    rw [Scan.visited_after, Scan.edges_after, stopItems_eq hv, stopItems_vertices,
      stopItems_edges, vertex?_id hv]
    constructor
    · refine List.nodup_append.2 ⟨h.nodup_leaving v, hnodup, ?_⟩
      -- the rest of the scan does not come back to this vertex
      rintro e he e' he' rfl
      have hv := ((hmem e).1 he').2
      rw [(h.mem_leaving.1 he).2] at hv
      exact hnew v hv List.mem_cons_self
    · intro e
      rw [List.mem_append, h.mem_leaving, hmem, List.mem_append, List.mem_singleton]
      constructor
      · rintro (⟨he, ho⟩ | ⟨he, ho⟩)
        · exact ⟨he, Or.inl ho⟩
        · exact ⟨he, Or.inr ho⟩
      · rintro ⟨he, ho | ho⟩
        · exact Or.inl ⟨he, ho⟩
        · exact Or.inr ⟨he, ho⟩
  | case4 => simp [Scan.visited, Scan.edges]
  | case5 seen v rest hseen ih => exact ih
  | case6 => simp [Scan.visited, Scan.edges]
  | case7 => simp [Scan.visited, Scan.edges]
  | case8 seen v rest hseen head hhead start hstart ih => exact ih

end Graph

end CausalPath
