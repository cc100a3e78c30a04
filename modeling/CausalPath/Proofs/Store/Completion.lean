import CausalPath.Proofs.Store.Closing
import Mathlib.Data.List.Nodup

/-!
# Complete chains

When a store is closed, each chain that ends too early gets one vertex more, at the end of the
trace, and nothing else is added. `Completed` says it record by record: the filler of the chains
takes the ids right after those in use, in the order in which the workers were registered, and of
the old records only those of the tails change, by the one slot that leads on to the filler.
-/

namespace CausalPath

namespace Graph

variable {g g' : Graph} {stop : Time} {w : WorkerId} {tail : Vertex}

/-! ## § 1. Chains that end too early -/

/-- The workers whose chains end before `stop`, in order of registration. -/
def shortChains (g : Graph) (stop : Time) : List WorkerId := g.workerIds.filter (g.endsBefore stop)

theorem mem_shortChains :
    w ∈ g.shortChains stop ↔ ∃ tail, g.last? w = some tail ∧ tail.time < stop := by
  rw [shortChains, List.mem_filter, endsBefore_iff, and_iff_right_iff_imp]
  rintro ⟨tail, hlast, -⟩
  -- a worker that is not registered has no chain
  refine List.mem_map.2 ⟨w.index, List.mem_range.2 ?_, rfl⟩
  by_contra hout
  have hempty : g.chainOf w = [] := by simp [chainOf, hout]
  simp [last?, hempty] at hlast

theorem nodup_workerIds (g : Graph) : g.workerIds.Nodup :=
  List.Nodup.map (fun _ _ h => congrArg WorkerId.index h) List.nodup_range

theorem last?_index_lt (hlast : g.last? w = some tail) : tail.id.index < g.vertices.size := by
  obtain ⟨r, hr, -⟩ := vertex?_eq_some_iff.1 (last?_eq_some_iff.1 hlast).2
  exact (Array.getElem?_eq_some_iff.1 hr).1

theorem tail?_of_last? (hlast : g.last? w = some tail) : g.tail? w = some tail.id := by
  rw [tail?_eq, (last?_eq_some_iff.1 hlast).1]

/-- No vertex is the tail of two chains. -/
theorem Sound.tail?_inj (h : g.Sound) {w' : WorkerId} {v : VertexId} (hv : g.tail? w = some v)
    (hv' : g.tail? w' = some v) : w = w' := by
  rw [tail?_eq] at hv hv'
  have hparent := ((h.mem_chain w v).1 (List.mem_of_getLast? hv)).2
  have hparent' := ((h.mem_chain w' v).1 (List.mem_of_getLast? hv')).2
  exact Option.some.inj (hparent.symm.trans hparent')

/-! ## § 2. The records of a grown store -/

/-- A chain that goes on adds the record of its new vertex and fills one slot of the old tail. -/
theorem vertices_grown (hlast : g.last? w = some tail) (t : Time) (s : EdgeState)
    (q : Option String) (v : VertexId) :
    (g.grown w t s q).vertices[v.index]? =
      if v = g.nextVertex then some ⟨w, t, true, Slots.free.set .incomingHorizontal g.nextEdge⟩
      else (g.vertices[v.index]?).map fun r =>
        if v = tail.id then { r with slots := r.slots.set .outgoingHorizontal g.nextEdge }
        else r := by
  have hne : tail.id ≠ g.nextVertex := ne_nextVertex (last?_eq_some_iff.1 hlast).2
  rw [grown, hlast]
  dsimp only
  rw [vertices_pushChain]
  show ((((g.pushVertex w t).setSlot tail.id (.atOrigin true) g.nextEdge).setSlot g.nextVertex
    (.atTarget true) g.nextEdge).vertices[v.index]?).map _ = _
  rw [vertices_setSlot, vertices_setSlot, vertices_pushVertex]
  by_cases hv : v = g.nextVertex
  · simp [hv, hne.symm, Direction.atTarget]
  · simp only [hv, if_false, Option.map_map]
    rfl

theorem edges_grown (hlast : g.last? w = some tail) (t : Time) (s : EdgeState)
    (q : Option String) :
    (g.grown w t s q).edges = g.edges.push ⟨tail.id, g.nextVertex, s, q, true⟩ := by
  rw [grown, hlast]
  rfl

theorem size_vertices_grown (hlast : g.last? w = some tail) (t : Time) (s : EdgeState)
    (q : Option String) : (g.grown w t s q).vertices.size = g.vertices.size + 1 := by
  rw [grown, hlast]
  simp [pushChain, pushEdge, setSlot, pushVertex]

/-! ## § 3. Filler -/

/-- The chain of a worker has one vertex more in the second store, at `stop`, which is the one of
number `i` among the new vertices. A filler edge leads to it from the old tail, whose record is
otherwise as it was. -/
structure Filled (stop : Time) (i : Nat) (w : WorkerId) (tail : Vertex) (g g' : Graph) : Prop where
  chainOf : g'.chainOf w = g.chainOf w ++ [⟨g.vertices.size + i⟩]
  vertex : g'.vertices[g.vertices.size + i]? =
    some ⟨w, stop, true, Slots.free.set .incomingHorizontal ⟨g.edges.size + i⟩⟩
  edge : g'.edges[g.edges.size + i]? =
    some ⟨tail.id, ⟨g.vertices.size + i⟩, .noEdge, none, true⟩
  tail : g'.vertices[tail.id.index]? = (g.vertices[tail.id.index]?).map fun r =>
    { r with slots := r.slots.set .outgoingHorizontal ⟨g.edges.size + i⟩ }

/-- The second store is the first one with filler after the chains of some workers, all of which
end before `stop`, and nothing else. -/
structure Completed (stop : Time) (ws : List WorkerId) (g g' : Graph) : Prop where
  startTime : g'.startTime = g.startTime
  worker? : ∀ w, g'.worker? w = g.worker? w
  vertexCount : g'.vertices.size = g.vertices.size + ws.length
  edgeCount : g'.edges.size = g.edges.size + ws.length
  filler : ∀ i w, ws[i]? = some w →
    ∃ tail, g.last? w = some tail ∧ tail.time < stop ∧ Filled stop i w tail g g'
  chainOf : ∀ w, w ∉ ws → g'.chainOf w = g.chainOf w
  vertices : ∀ v : VertexId, v.index < g.vertices.size → (∀ w ∈ ws, g.tail? w ≠ some v) →
    g'.vertices[v.index]? = g.vertices[v.index]?
  edges : ∀ e : EdgeId, e.index < g.edges.size → g'.edges[e.index]? = g.edges[e.index]?

theorem Completed.refl (g : Graph) : Completed stop [] g g where
  startTime := rfl
  worker? _ := rfl
  vertexCount := rfl
  edgeCount := rfl
  filler _ _ h := absurd h (by simp)
  chainOf _ _ := rfl
  vertices _ _ _ := rfl
  edges _ _ := rfl

variable {ws : List WorkerId}

/-- A vertex that the first store has is shown by the second one as it was. -/
theorem Completed.vertex? (hc : Completed stop ws g g') {v : VertexId} {u : Vertex}
    (hu : g.vertex? v = some u) : g'.vertex? v = some u := by
  obtain ⟨r, hr, rfl⟩ := vertex?_eq_some_iff.1 hu
  have hlt : v.index < g.vertices.size := (Array.getElem?_eq_some_iff.1 hr).1
  by_cases htail : ∀ w ∈ ws, g.tail? w ≠ some v
  · exact vertex?_eq_some_iff.2 ⟨r, (hc.vertices v hlt htail).trans hr, rfl⟩
  · simp only [not_forall, not_not] at htail
    obtain ⟨w, hw, hv⟩ := htail
    obtain ⟨i, hi⟩ := List.getElem?_of_mem hw
    obtain ⟨tail, hlast, -, hfilled⟩ := hc.filler i w hi
    have hrecord := hfilled.tail
    obtain rfl := Option.some.inj ((tail?_of_last? hlast).symm.trans hv)
    rw [hr, Option.map_some] at hrecord
    exact vertex?_eq_some_iff.2 ⟨_, hrecord, rfl⟩

/-- A chain without filler has the tail that it had. -/
theorem Completed.last? (hc : Completed stop ws g g') (h : g.Sound) (hw : w ∉ ws) :
    g'.last? w = g.last? w := by
  rw [Graph.last?, Graph.last?, hc.chainOf w hw]
  cases htail : (g.chainOf w).getLast? with
  | none => rfl
  | some v =>
    obtain ⟨u, hu⟩ := vertex?_isSome_of_contains (h.contains_tail htail)
    rw [Option.bind_some, Option.bind_some, hu, hc.vertex? hu]

section Grown

variable (hc : Completed stop ws g g') (h : g.Sound) (h' : g'.Sound) (hw : w ∉ ws)
  (hlast : g.last? w = some tail)
include hc h hw hlast

/-- When one more chain grows, an old vertex that is not its tail keeps its record. -/
theorem Completed.vertices_grown_of_ne {v : VertexId} (hv : v.index < g.vertices.size + ws.length)
    (hne : v ≠ tail.id) :
    (g'.grown w stop .noEdge none).vertices[v.index]? = g'.vertices[v.index]? := by
  have hold : v ≠ g'.nextVertex := by
    rw [nextVertex, hc.vertexCount]
    rintro rfl
    exact Nat.lt_irrefl _ hv
  rw [vertices_grown ((hc.last? h hw).trans hlast), if_neg hold]
  simp [hne]

include h'

/-- When one more chain grows, the filler of the others stays. -/
theorem Completed.filled_grown {i : Nat} {x : WorkerId} {end₁ : Vertex} (hx : ws[i]? = some x)
    (hend : g.last? x = some end₁) (hfilled : Filled stop i x end₁ g g') :
    Filled stop i x end₁ g (g'.grown w stop .noEdge none) := by
  have hlast' : g'.last? w = some tail := (hc.last? h hw).trans hlast
  have hi : i < ws.length := (List.getElem?_eq_some_iff.1 hx).1
  have hxw : x ≠ w := by
    rintro rfl
    exact hw (List.mem_of_getElem? hx)
  have hin := last?_index_lt hlast
  have hin' := last?_index_lt hend
  refine ⟨?_, ?_, ?_, ?_⟩
  · rw [chainOf_grown (h'.isSome_worker?_of_last? hlast'), if_neg hxw, hfilled.chainOf]
  · rw [hc.vertices_grown_of_ne h hw hlast (v := ⟨g.vertices.size + i⟩)
      (Nat.add_lt_add_left hi _), hfilled.vertex]
    intro heq
    rw [← heq] at hin
    exact absurd hin (Nat.not_lt.2 (Nat.le_add_right _ _))
  · rw [edges_grown hlast', Array.getElem?_push, if_neg, hfilled.edge]
    rw [hc.edgeCount]
    omega
  · rw [hc.vertices_grown_of_ne h hw hlast (Nat.lt_of_lt_of_le hin' (Nat.le_add_right _ _)),
      hfilled.tail]
    intro heq
    exact hxw (h.tail?_inj (heq ▸ tail?_of_last? hend) (tail?_of_last? hlast))

/-- The chain that grows gets filler. -/
theorem Completed.filled_new :
    Filled stop ws.length w tail g (g'.grown w stop .noEdge none) := by
  have hlast' : g'.last? w = some tail := (hc.last? h hw).trans hlast
  have hnext : g'.nextVertex = ⟨g.vertices.size + ws.length⟩ := by rw [nextVertex, hc.vertexCount]
  have hnextEdge : g'.nextEdge = ⟨g.edges.size + ws.length⟩ := by rw [nextEdge, hc.edgeCount]
  refine ⟨?_, ?_, ?_, ?_⟩
  · rw [chainOf_grown (h'.isSome_worker?_of_last? hlast'), if_pos rfl, hc.chainOf w hw, hnext]
  · have hnew := vertices_grown hlast' stop .noEdge none g'.nextVertex
    rwa [if_pos rfl, hnext, hnextEdge] at hnew
  · rw [edges_grown hlast', Array.getElem?_push, hc.edgeCount, if_pos rfl, hnext]
  · have hold := vertices_grown hlast' stop .noEdge none tail.id
    rw [if_neg (ne_nextVertex (last?_eq_some_iff.1 hlast').2), hnextEdge] at hold
    rw [hold, hc.vertices tail.id (last?_index_lt hlast)]
    · simp
    · intro x hx hv
      exact hw (h.tail?_inj hv (tail?_of_last? hlast) ▸ hx)

/-- One more chain gets filler. -/
theorem Completed.grown (hlt : tail.time < stop) :
    Completed stop (ws ++ [w]) g (g'.grown w stop .noEdge none) := by
  have hlast' : g'.last? w = some tail := (hc.last? h hw).trans hlast
  refine ⟨?_, ?_, ?_, ?_, ?_, ?_, ?_, ?_⟩
  · rw [Graph.grown, hlast', ← hc.startTime]
    rfl
  · intro i
    rw [worker?_grown, hc.worker?]
  · rw [size_vertices_grown hlast', hc.vertexCount, List.length_append]
    rfl
  · rw [edges_grown hlast', Array.size_push, hc.edgeCount, List.length_append]
    rfl
  · intro i x hx
    rw [List.getElem?_append] at hx
    split at hx
    · obtain ⟨end₁, hend, hlt', hfilled⟩ := hc.filler i x hx
      exact ⟨end₁, hend, hlt', hc.filled_grown h h' hw hlast hx hend hfilled⟩
    · rename_i hi
      have hbound := (List.getElem?_eq_some_iff.1 hx).1
      have hzero : i - ws.length = 0 := by simpa using hbound
      rw [hzero] at hx
      obtain rfl := Option.some.inj hx
      obtain rfl : i = ws.length := by omega
      exact ⟨tail, hlast, hlt, hc.filled_new h h' hw hlast⟩
  · intro x hx
    rw [List.mem_append, List.mem_singleton, not_or] at hx
    rw [chainOf_grown (h'.isSome_worker?_of_last? hlast'), if_neg hx.2, hc.chainOf x hx.1]
  · intro v hv htails
    rw [hc.vertices_grown_of_ne h hw hlast (Nat.lt_of_lt_of_le hv (Nat.le_add_right _ _)),
      hc.vertices v hv]
    · intro x hx
      exact htails x (List.mem_append_left _ hx)
    · rintro rfl
      exact htails w (List.mem_append_right _ (List.mem_singleton.2 rfl)) (tail?_of_last? hlast)
  · intro e he
    rw [edges_grown hlast', Array.getElem?_push, if_neg, hc.edges e he]
    rw [hc.edgeCount]
    omega

end Grown

/-! ## § 4. Closing -/

/-- To close the chains of workers is granted, and completes those that end before `stop`. -/
theorem Completed.closeChains (h : g.Sound) (todo : List WorkerId) :
    ∀ (done : List WorkerId) {g' : Graph}, g'.Sound → g'.phase = .building →
      Completed stop (done.filter (g.endsBefore stop)) g g' →
      (done ++ todo).Nodup → (∀ w ∈ todo, (g.worker? w).isSome) →
        ∃ g'', g'.closeChains stop todo = (.ok (), g'') ∧
          Completed stop ((done ++ todo).filter (g.endsBefore stop)) g g'' := by
  induction todo with
  | nil =>
    intro done g' _ _ hc _ _
    refine ⟨g', rfl, ?_⟩
    rwa [List.append_nil]
  | cons w rest ih =>
    intro done g' h' hopen hc hnodup hws
    have hfresh : w ∉ done := by
      intro hmem
      exact List.disjoint_of_nodup_append hnodup hmem List.mem_cons_self
    have hw : (g'.worker? w).isSome := by
      rw [hc.worker?]
      exact hws w List.mem_cons_self
    have hlast : g'.last? w = g.last? w := hc.last? h fun hmem => hfresh (List.mem_filter.1 hmem).1
    have hstep : g'.closeChain stop w =
        (.ok (), if g.endsBefore stop w then g'.grown w stop .noEdge none else g') := by
      rw [h'.closeChain_eq stop hw, endsBefore, endsBefore, hlast]
    obtain ⟨hgrows, hphase⟩ := h'.inside.closeChain_grows hopen stop w
    rw [hstep] at hgrows hphase
    rw [Graph.closeChains, hstep]
    dsimp only at hgrows hphase ⊢
    have hlist : done ++ w :: rest = (done ++ [w]) ++ rest := by simp
    rw [hlist] at hnodup ⊢
    refine ih (done ++ [w]) (hgrows.sound h') hphase ?_ hnodup
      fun w' hw' => hws w' (List.mem_cons_of_mem _ hw')
    rw [List.filter_append]
    split
    · rename_i hends
      obtain ⟨tail, htail, hlt⟩ := endsBefore_iff.1 hends
      rw [List.filter_cons_of_pos hends]
      exact hc.grown h h' (fun hmem => hfresh (List.mem_filter.1 hmem).1) htail hlt
    · rename_i hends
      rw [List.filter_cons_of_neg hends]
      simpa using hc

/-- A vertex that has joined no chain keeps its record. -/
theorem Completed.vertices_of_loose (hc : Completed stop ws g g') (h : g.Sound) {v : VertexId}
    (hv : v.index < g.vertices.size) (hout : g.contains v = false) :
    g'.vertices[v.index]? = g.vertices[v.index]? := by
  apply hc.vertices v hv
  intro w _ htail
  rw [tail?_eq] at htail
  rw [h.contains_tail htail] at hout
  exact absurd hout (by simp)

/-- Whatever calls an open store has seen, it can be closed at any time. Exactly the chains that
end before then get filler, one vertex and one edge each, and nothing else is added. The records of
vertices and edges stay, those of vertices in no chain included, but that the tails of these chains
lead on to their filler. The store is done then, its end is the one that was given, and every chain
that is not empty ends no earlier. -/
theorem close_completes (h : g.Built) (hopen : g.phase = .building) (stop : Time) :
    ∃ g', g.close stop = (.ok (), g') ∧ Completed stop (g.shortChains stop) g g' ∧
      (g.shortChains stop).Nodup ∧
      (∀ w, w ∈ g.shortChains stop ↔ ∃ tail, g.last? w = some tail ∧ tail.time < stop) ∧
      (∀ v : VertexId, v.index < g.vertices.size → g.contains v = false →
        g'.vertices[v.index]? = g.vertices[v.index]?) ∧
      g'.endTime = some stop ∧ g'.isDone = true ∧
      ∀ w v, g'.tail? w = some v → ∃ t, g'.time? v = some t ∧ stop ≤ t := by
  have hsound := h.sound
  have hbegin : Completed stop (([] : List WorkerId).filter (g.endsBefore stop)) g g := .refl g
  obtain ⟨g₁, hclose, hc⟩ := Completed.closeChains hsound g.workerIds [] hsound hopen hbegin
    g.nodup_workerIds fun w => isSome_of_mem_workerIds
  have hopened : g.requireOpen = .ok () := requireOpen_eq_ok.2 hopen
  have hdone : g.close stop = (.ok (), { g₁ with endTime := some stop, phase := .closed }) := by
    unfold close
    rw [hopened]
    dsimp only
    rw [hclose]
  have hcompleted : Completed stop (g.shortChains stop) g
      { g₁ with endTime := some stop, phase := .closed } :=
    ⟨hc.startTime, hc.worker?, hc.vertexCount, hc.edgeCount,
      fun i w hw => (hc.filler i w hw).imp fun _ ⟨hlast, hlt, hfilled⟩ =>
        ⟨hlast, hlt, hfilled.chainOf, hfilled.vertex, hfilled.edge, hfilled.tail⟩,
      hc.chainOf, hc.vertices, hc.edges⟩
  have hreaches := hsound.close_reaches hopen stop
  have hgrows := close_grows hsound stop
  rw [hdone] at hreaches hgrows
  refine ⟨_, hdone, hcompleted, g.nodup_workerIds.filter _, fun w => mem_shortChains,
    fun v => hcompleted.vertices_of_loose hsound, rfl, rfl, ?_⟩
  intro w v hv
  rw [tail?_eq] at hv
  obtain ⟨u, hu⟩ := vertex?_isSome_of_contains ((hgrows.sound hsound).contains_tail hv)
  obtain rfl := vertex?_id hu
  refine ⟨u.time, by rw [time?_eq, hu]; rfl, ?_⟩
  exact hreaches w u (last?_eq_some_iff.2 ⟨hv, hu⟩)

/-- A chain that ends at 5, one that ends at 20, and a worker with a vertex in no chain. -/
def uneven : Graph :=
  Mutation.runAll
    [.addWorker (Worker.thread "h" 1 "a"), .addWorker (Worker.thread "h" 2 "b"),
      .addWorker (Worker.thread "h" 3 "c"), .createVertex ⟨0⟩ 0, .add ⟨0⟩, .createVertex ⟨0⟩ 5,
      .append ⟨1⟩ .running none, .createVertex ⟨1⟩ 20, .add ⟨2⟩, .createVertex ⟨2⟩ 3]
    (Graph.new 0)

/-- When `uneven` is closed at 10, only its first chain gets filler. -/
theorem close_completes_of_uneven : uneven.Built ∧ uneven.phase = .building ∧
    ∃ g', uneven.close 10 = (.ok (), g') ∧ g'.vertices.size = 5 ∧
      g'.chainOf ⟨0⟩ = [⟨0⟩, ⟨1⟩, ⟨4⟩] ∧ g'.chainOf ⟨1⟩ = [⟨2⟩] ∧
      g'.vertices[4]? = some ⟨⟨0⟩, 10, true, Slots.free.set .incomingHorizontal ⟨1⟩⟩ ∧
      g'.edges[1]? = some ⟨⟨1⟩, ⟨4⟩, .noEdge, none, true⟩ ∧
      g'.vertices[3]? = some ⟨⟨2⟩, 3, false, .free⟩ ∧ g'.endTime = some 10 := by
  have hbuilt : uneven.Built := ⟨0, _, rfl⟩
  have hopen : uneven.phase = .building := by decide +kernel
  have hshort : uneven.shortChains 10 = [⟨0⟩] := by decide +kernel
  have hlast : uneven.last? ⟨0⟩ = some ⟨⟨1⟩, ⟨0⟩, 5⟩ := by decide +kernel
  have hvertices : uneven.vertices.size = 4 := by decide +kernel
  have hedges : uneven.edges.size = 1 := by decide +kernel
  obtain ⟨g', hclose, hc, -, -, hloose, hend, -⟩ := close_completes hbuilt hopen 10
  rw [hshort] at hc
  obtain ⟨tail, htail, -, hfilled⟩ := hc.filler 0 ⟨0⟩ rfl
  obtain rfl := Option.some.inj (hlast.symm.trans htail)
  have hcount := hc.vertexCount
  have hvertex := hfilled.vertex
  have hedge := hfilled.edge
  rw [hvertices] at hcount
  rw [hvertices, hedges] at hvertex hedge
  exact ⟨hbuilt, hopen, g', hclose, hcount, hfilled.chainOf.trans (by decide +kernel),
    (hc.chainOf ⟨1⟩ (by decide)).trans (by decide +kernel), hvertex, hedge,
    (hloose ⟨3⟩ (by decide +kernel) (by decide +kernel)).trans (by decide +kernel), hend⟩

end Graph

end CausalPath
