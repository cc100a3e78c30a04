import CausalPath.Graph.Mutation

/-!
# What a graph shows after a write

A graph is read through seven views: `vertex?`, `contains`, `slot?`, `edgeRecord?`, `chainOf`,
`worker?` and `findWorker?`. Each of the four writes of the store (a vertex, an edge, a place in a
chain, a worker) has one equation per view it changes. A chain is also searched by halves: the
search ends at the first item that fails the test, if the items that pass come first.
-/

namespace CausalPath

/-- The edge takes this slot of this vertex. -/
def EdgeRecord.Meets (x : EdgeRecord) (v : VertexId) (d : Direction) : Prop :=
  (v = x.origin ∧ d = .atOrigin x.horizontal) ∨ (v = x.target ∧ d = .atTarget x.horizontal)

instance (x : EdgeRecord) (v : VertexId) (d : Direction) : Decidable (x.Meets v d) :=
  inferInstanceAs (Decidable (_ ∨ _))

namespace Direction

theorem atOrigin_ne_atTarget (a b : Bool) : atOrigin a ≠ atTarget b := by
  cases a <;> cases b <;> decide

theorem atOrigin_inj {a b : Bool} (h : atOrigin a = atOrigin b) : a = b := by
  cases a <;> cases b <;> first | rfl | exact absurd h (by decide)

theorem atTarget_inj {a b : Bool} (h : atTarget a = atTarget b) : a = b := by
  cases a <;> cases b <;> first | rfl | exact absurd h (by decide)

end Direction

namespace Graph

variable {g : Graph}

/-! ## § 1. Views -/

/-- The edge id in a slot of a vertex. -/
def slot? (g : Graph) (v : VertexId) (d : Direction) : Option EdgeId :=
  g.vertices[v.index]?.bind (·.slots.get d)

/-- The record of an edge. -/
def edgeRecord? (g : Graph) (e : EdgeId) : Option EdgeRecord := g.edges[e.index]?

/-- Both vertices exist, and the first is not later than the second. -/
def NoLater (g : Graph) (a b : VertexId) : Prop :=
  ∃ s t, g.time? a = some s ∧ g.time? b = some t ∧ s ≤ t

theorem time?_eq (g : Graph) (v : VertexId) : g.time? v = (g.vertex? v).map (·.time) := by
  simp [time?, vertex?, Option.map_map, Function.comp_def]

theorem parent?_eq (g : Graph) (v : VertexId) : g.parent? v = (g.vertex? v).map (·.worker) := by
  simp [parent?, vertex?, Option.map_map, Function.comp_def]

theorem vertex?_id {v : VertexId} {u : Vertex} (h : g.vertex? v = some u) : u.id = v := by
  simp only [vertex?, Option.map_eq_some_iff] at h
  obtain ⟨r, -, rfl⟩ := h
  rfl

theorem vertex?_isSome_of_contains {v : VertexId} (h : g.contains v = true) :
    ∃ u, g.vertex? v = some u := by
  simp only [contains, Option.any_eq_true] at h
  obtain ⟨r, hr, -⟩ := h
  exact ⟨⟨v, r.worker, r.time⟩, by simp [vertex?, hr]⟩

theorem vertex?_eq_some_iff {v : VertexId} {u : Vertex} :
    g.vertex? v = some u ↔ ∃ r, g.vertices[v.index]? = some r ∧ u = ⟨v, r.worker, r.time⟩ := by
  simp only [vertex?, Option.map_eq_some_iff]
  exact ⟨fun ⟨r, hr, h⟩ => ⟨r, hr, h.symm⟩, fun ⟨r, hr, h⟩ => ⟨r, hr, h.symm⟩⟩

theorem edge?_eq_some_iff {i : EdgeId} {e : Edge} :
    g.edge? i = some e ↔ ∃ x, g.edgeRecord? i = some x ∧ g.vertex? x.origin = some e.origin ∧
      g.vertex? x.target = some e.target ∧
      e = ⟨i, e.origin, e.target, x.state, x.qualifier, x.horizontal⟩ := by
  simp only [edge?, edgeRecord?, Option.bind_eq_bind, Option.bind_eq_some_iff, Option.pure_def,
    Option.some.injEq]
  constructor
  · rintro ⟨x, hx, a, ha, b, hb, rfl⟩
    exact ⟨x, hx, ha, hb, rfl⟩
  · rintro ⟨x, hx, ha, hb, he⟩
    exact ⟨x, hx, _, ha, _, hb, he.symm⟩

theorem edgeAt?_eq (g : Graph) (v : VertexId) (d : Direction) :
    g.edgeAt? v d = (g.slot? v d).bind g.edge? := by
  simp only [edgeAt?, slot?, Option.bind_eq_bind, Option.bind_assoc]

theorem tail?_eq (g : Graph) (w : WorkerId) : g.tail? w = (g.chainOf w).getLast? := by
  simp only [tail?, chainOf, Option.bind_eq_bind]
  cases g.timelines[w.index]? with
  | none => rfl
  | some t => simp [Array.getLast?_toList]

theorem edgeRecord?_nextEdge (g : Graph) : g.edgeRecord? g.nextEdge = none := by
  simp [edgeRecord?, nextEdge]

theorem vertex?_nextVertex (g : Graph) : g.vertex? g.nextVertex = none := by
  simp [vertex?, nextVertex]

/-! ## § 2. A new vertex -/

theorem vertices_pushVertex (g : Graph) (w : WorkerId) (t : Time) (v : VertexId) :
    (g.pushVertex w t).vertices[v.index]? =
      if v = g.nextVertex then some ⟨w, t, false, .free⟩ else g.vertices[v.index]? := by
  obtain ⟨i⟩ := v
  simp only [pushVertex, nextVertex, Array.getElem?_push, VertexId.mk.injEq]

theorem vertex?_pushVertex (g : Graph) (w : WorkerId) (t : Time) (v : VertexId) :
    (g.pushVertex w t).vertex? v = if v = g.nextVertex then some ⟨v, w, t⟩ else g.vertex? v := by
  simp only [vertex?, vertices_pushVertex]
  split <;> rfl

/-- A vertex that exists is shown as before. -/
theorem vertex?_pushVertex_of_some {v : VertexId} {u : Vertex} (w : WorkerId) (t : Time)
    (h : g.vertex? v = some u) : (g.pushVertex w t).vertex? v = some u := by
  rw [vertex?_pushVertex, if_neg ?_, h]
  rintro rfl
  rw [vertex?_nextVertex] at h
  exact absurd h (by simp)

@[simp] theorem contains_pushVertex (g : Graph) (w : WorkerId) (t : Time) (v : VertexId) :
    (g.pushVertex w t).contains v = g.contains v := by
  simp only [contains, vertices_pushVertex]
  split
  · rename_i h
    subst h
    simp [nextVertex]
  · rfl

@[simp] theorem slot?_pushVertex (g : Graph) (w : WorkerId) (t : Time) (v : VertexId)
    (d : Direction) : (g.pushVertex w t).slot? v d = g.slot? v d := by
  simp only [slot?, vertices_pushVertex]
  split
  · rename_i h
    subst h
    simp [nextVertex]
  · rfl

@[simp] theorem edgeRecord?_pushVertex (g : Graph) (w : WorkerId) (t : Time) (e : EdgeId) :
    (g.pushVertex w t).edgeRecord? e = g.edgeRecord? e := rfl

@[simp] theorem chainOf_pushVertex (g : Graph) (w : WorkerId) (t : Time) (w' : WorkerId) :
    (g.pushVertex w t).chainOf w' = g.chainOf w' := rfl

@[simp] theorem worker?_pushVertex (g : Graph) (w : WorkerId) (t : Time) (w' : WorkerId) :
    (g.pushVertex w t).worker? w' = g.worker? w' := rfl

/-! ## § 3. A new edge -/

theorem vertices_setSlot (g : Graph) (v u : VertexId) (d : Direction) (e : EdgeId) :
    (g.setSlot v d e).vertices[u.index]? =
      (g.vertices[u.index]?).map fun r =>
        if u = v then { r with slots := r.slots.set d e } else r := by
  obtain ⟨i⟩ := v
  obtain ⟨j⟩ := u
  simp only [setSlot, Array.getElem?_modify, VertexId.mk.injEq]
  by_cases h : i = j
  · subst h
    simp
  · have h' : ¬j = i := fun e => h e.symm
    simp [h, h']

@[simp] theorem vertex?_setSlot (g : Graph) (v u : VertexId) (d : Direction) (e : EdgeId) :
    (g.setSlot v d e).vertex? u = g.vertex? u := by
  simp only [vertex?, vertices_setSlot, Option.map_map]
  congr 1
  funext r
  simp only [Function.comp]
  split <;> rfl

@[simp] theorem contains_setSlot (g : Graph) (v u : VertexId) (d : Direction) (e : EdgeId) :
    (g.setSlot v d e).contains u = g.contains u := by
  simp only [contains, vertices_setSlot]
  cases g.vertices[u.index]? with
  | none => rfl
  | some r =>
    simp only [Option.map_some, Option.any_some]
    split <;> rfl

theorem slot?_setSlot (v u : VertexId) (d d' : Direction) (e : EdgeId)
    (h : (g.vertex? v).isSome) :
    (g.setSlot v d e).slot? u d' = if u = v ∧ d' = d then some e else g.slot? u d' := by
  obtain ⟨x, hx⟩ := Option.isSome_iff_exists.1 h
  obtain ⟨r, hr, -⟩ := vertex?_eq_some_iff.1 hx
  simp only [slot?, vertices_setSlot]
  by_cases hu : u = v
  · subst hu
    simp [hr, Slots.get_set, eq_comm]
  · simp [hu]

@[simp] theorem vertex?_pushEdge (g : Graph) (x : EdgeRecord) (v : VertexId) :
    (g.pushEdge x).vertex? v = g.vertex? v := by
  show ((g.setSlot _ _ _).setSlot _ _ _).vertex? v = _
  simp

@[simp] theorem contains_pushEdge (g : Graph) (x : EdgeRecord) (v : VertexId) :
    (g.pushEdge x).contains v = g.contains v := by
  show ((g.setSlot _ _ _).setSlot _ _ _).contains v = _
  simp

/-- A new edge fills the two slots that it meets. -/
theorem slot?_pushEdge {x : EdgeRecord} (ho : (g.vertex? x.origin).isSome)
    (ht : (g.vertex? x.target).isSome) (v : VertexId) (d : Direction) :
    (g.pushEdge x).slot? v d = if x.Meets v d then some g.nextEdge else g.slot? v d := by
  show ((g.setSlot _ _ _).setSlot _ _ _).slot? v d = _
  rw [slot?_setSlot _ _ _ _ _ (by simpa using ht), slot?_setSlot _ _ _ _ _ ho]
  by_cases h₁ : v = x.target ∧ d = .atTarget x.horizontal
  · have hm : x.Meets v d := Or.inr h₁
    rw [if_pos h₁, if_pos hm]
  · by_cases h₂ : v = x.origin ∧ d = .atOrigin x.horizontal
    · have hm : x.Meets v d := Or.inl h₂
      rw [if_neg h₁, if_pos h₂, if_pos hm]
    · have hm : ¬x.Meets v d := fun h => h.elim h₂ h₁
      rw [if_neg h₁, if_neg h₂, if_neg hm]

theorem edgeRecord?_pushEdge (g : Graph) (x : EdgeRecord) (e : EdgeId) :
    (g.pushEdge x).edgeRecord? e = if e = g.nextEdge then some x else g.edgeRecord? e := by
  obtain ⟨i⟩ := e
  simp only [edgeRecord?, pushEdge, nextEdge, Array.getElem?_push, EdgeId.mk.injEq]

/-- An edge that exists keeps its record. -/
theorem edgeRecord?_pushEdge_of_some {x y : EdgeRecord} {e : EdgeId}
    (h : g.edgeRecord? e = some y) : (g.pushEdge x).edgeRecord? e = some y := by
  rw [edgeRecord?_pushEdge, if_neg ?_, h]
  rintro rfl
  rw [edgeRecord?_nextEdge] at h
  exact absurd h (by simp)

@[simp] theorem chainOf_pushEdge (g : Graph) (x : EdgeRecord) (w : WorkerId) :
    (g.pushEdge x).chainOf w = g.chainOf w := rfl

@[simp] theorem worker?_pushEdge (g : Graph) (x : EdgeRecord) (w : WorkerId) :
    (g.pushEdge x).worker? w = g.worker? w := rfl

/-! ## § 4. A new place in a chain -/

theorem vertices_pushChain (g : Graph) (w : WorkerId) (v u : VertexId) :
    (g.pushChain w v).vertices[u.index]? =
      (g.vertices[u.index]?).map fun r => if u = v then { r with inGraph := true } else r := by
  obtain ⟨i⟩ := v
  obtain ⟨j⟩ := u
  simp only [pushChain, Array.getElem?_modify, VertexId.mk.injEq]
  by_cases h : i = j
  · subst h
    simp
  · have h' : ¬j = i := fun e => h e.symm
    simp [h, h']

@[simp] theorem vertex?_pushChain (g : Graph) (w : WorkerId) (v u : VertexId) :
    (g.pushChain w v).vertex? u = g.vertex? u := by
  simp only [vertex?, vertices_pushChain, Option.map_map]
  congr 1
  funext r
  simp only [Function.comp]
  split <;> rfl

@[simp] theorem slot?_pushChain (g : Graph) (w : WorkerId) (v u : VertexId) (d : Direction) :
    (g.pushChain w v).slot? u d = g.slot? u d := by
  simp only [slot?, vertices_pushChain]
  cases g.vertices[u.index]? with
  | none => rfl
  | some r =>
    simp only [Option.map_some, Option.bind_some]
    split <;> rfl

theorem contains_pushChain {v : VertexId} (w : WorkerId) (h : (g.vertex? v).isSome)
    (u : VertexId) : (g.pushChain w v).contains u = (decide (u = v) || g.contains u) := by
  obtain ⟨x, hx⟩ := Option.isSome_iff_exists.1 h
  obtain ⟨r, hr, -⟩ := vertex?_eq_some_iff.1 hx
  simp only [contains, vertices_pushChain]
  by_cases hu : u = v
  · subst hu
    simp [hr]
  · simp [hu]

@[simp] theorem edgeRecord?_pushChain (g : Graph) (w : WorkerId) (v : VertexId) (e : EdgeId) :
    (g.pushChain w v).edgeRecord? e = g.edgeRecord? e := rfl

theorem chainOf_pushChain {w : WorkerId} (v : VertexId) (h : (g.worker? w).isSome)
    (w' : WorkerId) :
    (g.pushChain w v).chainOf w' = if w' = w then g.chainOf w ++ [v] else g.chainOf w' := by
  obtain ⟨i⟩ := w
  obtain ⟨j⟩ := w'
  simp only [worker?, Option.isSome_map] at h
  obtain ⟨t, ht⟩ := Option.isSome_iff_exists.1 h
  simp only [chainOf, pushChain, Array.getElem?_modify, WorkerId.mk.injEq]
  by_cases hij : i = j
  · subst hij
    simp [ht]
  · have hji : ¬j = i := fun e => hij e.symm
    simp [hij, hji]

@[simp] theorem worker?_pushChain (g : Graph) (w : WorkerId) (v : VertexId) (w' : WorkerId) :
    (g.pushChain w v).worker? w' = g.worker? w' := by
  obtain ⟨i⟩ := w
  obtain ⟨j⟩ := w'
  simp only [worker?, pushChain, Array.getElem?_modify]
  by_cases h : i = j
  · subst h
    simp [Option.map_map, Function.comp_def]
  · simp [h]

/-! ## § 5. A new worker -/

theorem worker?_nextWorker (g : Graph) : g.worker? g.nextWorker = none := by
  simp [worker?, nextWorker]

theorem chainOf_nextWorker (g : Graph) : g.chainOf g.nextWorker = [] := by
  simp [chainOf, nextWorker]

theorem worker?_pushWorker (g : Graph) (x : Worker) (i : WorkerId) :
    (g.pushWorker x).worker? i = if i = g.nextWorker then some x else g.worker? i := by
  obtain ⟨i⟩ := i
  simp only [worker?, pushWorker, nextWorker, Array.getElem?_push, WorkerId.mk.injEq]
  split <;> rfl

/-- A worker that is registered stays. -/
theorem worker?_pushWorker_of_some {i : WorkerId} {y : Worker} (x : Worker)
    (h : g.worker? i = some y) : (g.pushWorker x).worker? i = some y := by
  rw [worker?_pushWorker, if_neg ?_, h]
  rintro rfl
  rw [worker?_nextWorker] at h
  exact absurd h (by simp)

theorem findWorker?_pushWorker (g : Graph) (x : Worker) (k : WorkerKey) :
    (g.pushWorker x).findWorker? k = if x.key = k then some g.nextWorker else g.findWorker? k :=
  Table.get?_insert _ _ _ _

@[simp] theorem chainOf_pushWorker (g : Graph) (x : Worker) (i : WorkerId) :
    (g.pushWorker x).chainOf i = g.chainOf i := by
  obtain ⟨i⟩ := i
  simp only [chainOf, pushWorker, Array.getElem?_push]
  by_cases h : i = g.timelines.size
  · subst h
    simp
  · simp [h]

end Graph

/-! ## § 6. Searches by halves -/

section Halves

variable {α β : Type} {pass : α → Bool} {items : Array α} {low high n : Nat}

/-- The search ends between the items that pass and those that fail. -/
theorem partitionPoint_eq (hlow : low ≤ n) (hhigh : n ≤ high)
    (hpass : ∀ i, low ≤ i → i < n → items[i]?.any pass = true)
    (hfail : ∀ i, n ≤ i → i < high → items[i]?.any pass = false) :
    partitionPoint pass items low high = n := by
  fun_induction partitionPoint pass items low high with
  | case1 low high hlt middle hmid ih =>
    have hn : middle < n := by
      refine Nat.lt_of_not_le fun hle => ?_
      have hno := hfail middle hle (by omega)
      exact absurd (hmid.symm.trans hno) (by simp)
    exact ih hn hhigh (fun i hi => hpass i (by omega)) hfail
  | case2 low high hlt middle hmid ih =>
    have hn : n ≤ middle := Nat.le_of_not_lt fun hlate => hmid (hpass middle (by omega) hlate)
    exact ih hlow hn hpass fun i hi hm => hfail i hi (by omega)
  | case3 low high hlt => omega

/-- Searches of items that pass at the same places end at the same place. -/
theorem partitionPoint_congr {pass' : β → Bool} {items' : Array β}
    (h : ∀ i : Nat, items[i]?.any pass = items'[i]?.any pass') (low high : Nat) :
    partitionPoint pass items low high = partitionPoint pass' items' low high := by
  fun_induction partitionPoint pass items low high with
  | case1 low high hlt middle hmid ih =>
    rw [h] at hmid
    rw [partitionPoint.eq_def pass' items' low high, if_pos hlt, if_pos hmid, ih]
  | case2 low high hlt middle hmid ih =>
    rw [h] at hmid
    rw [partitionPoint.eq_def pass' items' low high, if_pos hlt, if_neg hmid, ih]
  | case3 low high hlt => rw [partitionPoint, if_neg hlt]

/-- If the items that pass come first, the search finds the first one that fails. -/
theorem partitionPoint_eq_findIdx
    (h : items.toList.Pairwise fun a b => pass b = true → pass a = true) :
    partitionPoint pass items 0 items.size = items.toList.findIdx fun a => !pass a := by
  refine partitionPoint_eq (Nat.zero_le _) List.findIdx_le_length ?_ ?_
  · intro i _ hi
    have hsize : i < items.size := Nat.lt_of_lt_of_le hi List.findIdx_le_length
    have hyes := List.not_of_lt_findIdx hi
    simpa [Array.getElem?_eq_getElem hsize] using hyes
  · intro i hi hsize
    have hlt : (items.toList.findIdx fun a => !pass a) < items.toList.length :=
      Nat.lt_of_le_of_lt hi hsize
    have hfirst : pass items.toList[items.toList.findIdx fun a => !pass a] = false := by
      simpa using List.findIdx_getElem (w := hlt)
    rw [Array.getElem?_eq_getElem hsize, Option.any_some, ← Array.getElem_toList hsize,
      Bool.eq_false_iff]
    intro hyes
    rcases Nat.eq_or_lt_of_le hi with heq | hlate
    · simp only [← heq, hfirst] at hyes
      exact absurd hyes (by simp)
    · have hboth := List.pairwise_iff_getElem.1 h _ i hlt hsize hlate hyes
      exact absurd (hfirst.symm.trans hboth) (by simp)

end Halves

end CausalPath
