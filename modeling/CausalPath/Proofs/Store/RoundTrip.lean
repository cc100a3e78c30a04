import CausalPath.Proofs.Store.Invariant
import CausalPath.Proofs.Store.Restored
import CausalPath.Proofs.Table

/-!
# Saving and restoring

The image of a graph leaves out its edge slots and the index of its workers, and nothing else that a
reader could tell. The slots come back because the edges determine them: in a wired graph a slot
holds the edge that meets it. The index comes back because it lists the workers by key, in the order
in which they were registered. So a graph that calls have led to is its restored image, and an image
that is restored is the image of its graph, but for codes that name no state.
-/

namespace CausalPath

open CausalPath.Graph

/-! ## § 1. Images of records -/

/-- The code of a code's state: a code that names no state becomes that of an unknown state. -/
theorem EdgeState.code_ofCode (c : Nat) :
    (EdgeState.ofCode c).code = if c ≤ 12 then c else EdgeState.unknown.code := by
  split
  · have hall : ∀ c < 13, (EdgeState.ofCode c).code = c := by decide
    exact hall c (by omega)
  · rename_i hc
    have hlong : EdgeState.all[c]? = none := by
      rw [List.getElem?_eq_none_iff]
      simp only [EdgeState.all, List.length_cons, List.length_nil]
      omega
    rw [EdgeState.ofCode, hlong]
    rfl

/-- What an image keeps of a vertex. -/
def VertexRecord.image (r : VertexRecord) : SnapshotVertex := ⟨r.worker.index, r.time, r.inGraph⟩

/-- What an image keeps of an edge. -/
def EdgeRecord.image (x : EdgeRecord) : SnapshotEdge :=
  ⟨x.origin.index, x.target.index, x.state.code, x.qualifier, x.horizontal⟩

/-- The image of an edge with a code that names its state. -/
def SnapshotEdge.settled (e : SnapshotEdge) : SnapshotEdge :=
  { e with code := if e.code ≤ 12 then e.code else EdgeState.unknown.code }

/-- An image with codes that name the states of its edges. -/
def Snapshot.settled (s : Snapshot) : Snapshot := { s with edges := s.edges.map (·.settled) }

@[simp] theorem EdgeRecord.record_image (x : EdgeRecord) : x.image.record = x := by
  simp [EdgeRecord.image, SnapshotEdge.record, EdgeState.ofCode_code]

@[simp] theorem SnapshotEdge.image_record (e : SnapshotEdge) : e.record.image = e.settled := by
  simp [EdgeRecord.image, SnapshotEdge.record, SnapshotEdge.settled, EdgeState.code_ofCode]

variable {g g' : Graph}

namespace Snapshot

/-! ## § 2. What the checks of an image check -/

/-- Workers under their keys, with the ids from a number on. -/
def enlisted (next : Nat) (ws : List Worker) : List (WorkerKey × WorkerId) :=
  (ws.zipIdx next).map fun e => (e.1.key, ⟨e.2⟩)

theorem keys_enlisted (next : Nat) (ws : List Worker) :
    (enlisted next ws).map Prod.fst = ws.map (·.key) := by
  rw [enlisted, List.map_map, ← List.zipIdx_map_fst next ws, List.map_map, List.zipIdx_map_fst]
  rfl

/-- Workers are indexed if no two keys are the same, those that are in the index included. -/
theorem indexWorkers_eq_ok {ws : List Worker} :
    ∀ {index index' : Table WorkerKey WorkerId} {next : Nat},
      indexWorkers index next ws = .ok index' ↔
        (index.entries.map Prod.fst ++ ws.map (·.key)).Nodup ∧
          index'.entries = index.entries ++ enlisted next ws := by
  induction ws with
  | nil =>
    intro index index' next
    simp only [indexWorkers, Except.ok.injEq, List.map_nil, List.append_nil, enlisted,
      List.zipIdx_nil, index.distinct, true_and]
    exact ⟨fun h => h ▸ rfl, fun h => (Table.eq_of_entries h).symm⟩
  | cons w rest ih =>
    intro index index' next
    unfold indexWorkers
    cases hw : index.get? w.key with
    | some i =>
      have hmem : w.key ∈ index.entries.map Prod.fst :=
        List.mem_map.2 ⟨_, Table.get?_eq_some_iff.1 hw, rfl⟩
      rw [if_pos Option.isSome_some]
      constructor
      · intro h
        exact absurd h (by simp)
      · rintro ⟨hnodup, -⟩
        exact absurd List.mem_cons_self (List.disjoint_of_nodup_append hnodup hmem)
    | none =>
      rw [if_neg (by simp), ih, Table.entries_insert_of_none hw]
      simp [enlisted, List.zipIdx_cons]

theorem checkVertices_eq_ok {n : Nat} {vs : List SnapshotVertex} : ∀ {index : Nat},
    checkVertices n index vs = .ok () ↔ ∀ v ∈ vs, v.worker < n := by
  induction vs with
  | nil => simp [checkVertices]
  | cons v rest ih =>
    intro index
    unfold checkVertices
    split
    · rename_i hv
      simp [ih, hv]
    · rename_i hv
      simp [hv]

/-- A chain passes: its vertices are there, in the graph and the worker's, and in time order. -/
theorem checkTimeline_ok {vertices : Array SnapshotVertex} {worker : Nat} {chain : List Nat} :
    ∀ {previous : Option Time},
      (∀ v ∈ chain, ∃ r, vertices[v]? = some r ∧ r.worker = worker ∧ r.inGraph = true ∧
        ∀ t, previous = some t → t ≤ r.time) →
      (chain.Pairwise fun a b => ∀ r s, vertices[a]? = some r → vertices[b]? = some s →
        r.time ≤ s.time) →
      checkTimeline vertices worker previous chain = .ok () := by
  induction chain with
  | nil =>
    intro _ _ _
    rfl
  | cons v rest ih =>
    intro previous hplaced hsorted
    obtain ⟨hfirst, hrest⟩ := List.pairwise_cons.1 hsorted
    obtain ⟨r, hr, hworker, hin, hlate⟩ := hplaced v List.mem_cons_self
    have hforward : ¬previous.any (r.time < ·) = true := by
      rw [Option.any_eq_true]
      rintro ⟨t, ht, hlt⟩
      exact absurd (of_decide_eq_true hlt) (Nat.not_lt.2 (hlate t ht))
    unfold checkTimeline
    rw [hr]
    dsimp only
    rw [if_neg (by simp [hworker, hin]), if_neg hforward]
    refine ih ?_ hrest
    intro u hu
    obtain ⟨s, hs, hworker', hin', -⟩ := hplaced u (List.mem_cons_of_mem _ hu)
    refine ⟨s, hs, hworker', hin', ?_⟩
    intro t ht
    obtain rfl := Option.some.inj ht
    exact hfirst u hu r s hr hs

theorem checkTimelines_ok {vertices : Array SnapshotVertex} {ts : List (List Nat)} :
    ∀ {worker : Nat},
      (∀ i t, ts[i]? = some t → checkTimeline vertices (worker + i) none t = .ok ()) →
      checkTimelines vertices worker ts = .ok () := by
  induction ts with
  | nil =>
    intro _ _
    rfl
  | cons t rest ih =>
    intro worker h
    have hfirst := h 0 t rfl
    unfold checkTimelines
    rw [Nat.add_zero] at hfirst
    rw [hfirst]
    apply ih
    intro i t' ht'
    have hlater := h (i + 1) t' ht'
    rwa [Nat.add_assoc, Nat.add_comm 1]

/-! ## § 3. Taking slots -/

theorem takeSlot_ok {v : VertexId} {d : Direction} (i : EdgeId) (hv : (g.vertex? v).isSome)
    (hfree : g.slot? v d = none) : takeSlot g.vertices v d i = .ok (g.setSlot v d i).vertices := by
  obtain ⟨u, hu⟩ := Option.isSome_iff_exists.1 hv
  obtain ⟨r, hr, -⟩ := vertex?_eq_some_iff.1 hu
  rw [slot?, hr, Option.bind_some] at hfree
  unfold takeSlot
  rw [hr]
  simp only [hfree, Option.isSome_none, Bool.false_eq_true, if_false]
  rfl

/-- Edges between vertices that are there find their slots if no two need the same slot. -/
theorem takeSlots_ok (edges : List SnapshotEdge) :
    ∀ {g : Graph},
      (∀ e ∈ edges, (g.vertex? ⟨e.origin⟩).isSome ∧ (g.vertex? ⟨e.target⟩).isSome) →
      (∀ e ∈ edges, ∀ v d, e.record.Meets v d → g.slot? v d = none) →
      (edges.Pairwise fun e e' => ∀ v d, e.record.Meets v d → ¬e'.record.Meets v d) →
      ∃ vertices, takeSlots g.vertices g.edges.size edges = .ok vertices := by
  induction edges with
  | nil =>
    intro g _ _ _
    exact ⟨g.vertices, rfl⟩
  | cons e rest ih =>
    intro g hends hfree hapart
    obtain ⟨hfirst, hrest⟩ := List.pairwise_cons.1 hapart
    obtain ⟨ho, ht⟩ := hends e List.mem_cons_self
    have hfreeo := hfree e List.mem_cons_self _ _ (Or.inl ⟨rfl, rfl⟩)
    have hfreet := hfree e List.mem_cons_self _ _ (Or.inr ⟨rfl, rfl⟩)
    have hplaced : ¬(g.vertices.size ≤ e.origin ∨ g.vertices.size ≤ e.target) := by
      simpa [vertex?] using And.intro ho ht
    have htarget : (g.setSlot ⟨e.origin⟩ (.atOrigin e.horizontal) g.nextEdge).slot? ⟨e.target⟩
        (.atTarget e.horizontal) = none := by
      rw [slot?_setSlot _ _ _ _ _ ho, if_neg fun hd => Direction.atOrigin_ne_atTarget _ _ hd.2.symm]
      exact hfreet
    obtain ⟨vertices, hok⟩ := ih (g := g.pushEdge e.record)
      (fun e' he' => by
        rw [vertex?_pushEdge, vertex?_pushEdge]
        exact hends e' (List.mem_cons_of_mem _ he'))
      (fun e' he' v d hm => by
        rw [slot?_pushEdge ho ht, if_neg fun hm' => hfirst e' he' v d hm' hm]
        exact hfree e' (List.mem_cons_of_mem _ he') v d hm) hrest
    refine ⟨vertices, ?_⟩
    unfold takeSlots
    rw [if_neg hplaced]
    have horigin := takeSlot_ok g.nextEdge ho hfreeo
    have htarget := takeSlot_ok g.nextEdge (by rwa [vertex?_setSlot]) htarget
    have hsize : (g.pushEdge e.record).edges.size = g.edges.size + 1 := by simp [Graph.pushEdge]
    rw [hsize] at hok
    simp only [bind_eq_ok]
    exact ⟨_, horigin, _, htarget, hok⟩

/-- To take a slot changes nothing that an image keeps of a vertex. -/
theorem takeSlot_keeps {vertices vertices' : Array VertexRecord} {v : VertexId} {d : Direction}
    {i : EdgeId} (hok : takeSlot vertices v d i = .ok vertices') :
    vertices'.map (·.image) = vertices.map (·.image) := by
  unfold takeSlot at hok
  split at hok
  · split at hok
    · exact absurd hok (by simp)
    · obtain rfl := Except.ok.inj hok
      apply Array.ext_getElem?
      intro j
      simp only [Array.getElem?_map, Array.getElem?_modify]
      split
      · rw [Option.map_map]
        rfl
      · rfl
  · exact absurd hok (by simp)

theorem takeSlots_keeps (edges : List SnapshotEdge) :
    ∀ {vertices vertices' : Array VertexRecord} {index : Nat},
      takeSlots vertices index edges = .ok vertices' →
        vertices'.map (·.image) = vertices.map (·.image) := by
  induction edges with
  | nil =>
    intro vertices vertices' index hok
    rw [Except.ok.inj hok]
  | cons e rest ih =>
    intro vertices vertices' index hok
    simp only [takeSlots, guard_eq_ok, bind_eq_ok] at hok
    obtain ⟨-, filled, horigin, filled', htarget, hrest⟩ := hok
    rw [ih hrest, takeSlot_keeps htarget, takeSlot_keeps horigin]

end Snapshot

/-! ## § 4. Edges determine slots -/

theorem Slots.ext_get {a b : Slots} (h : ∀ d, a.get d = b.get d) : a = b := by
  have h₁ := h .outgoingVertical
  have h₂ := h .incomingVertical
  have h₃ := h .outgoingHorizontal
  have h₄ := h .incomingHorizontal
  cases a
  cases b
  simp_all [Slots.get]

/-- Two wired graphs with the same edges and the same images of vertices have the same slots. -/
theorem Graph.Wired.vertices_eq (h : g.Wired) (h' : g'.Wired) (hedges : g'.edges = g.edges)
    (himage : g'.vertices.map (·.image) = g.vertices.map (·.image)) :
    g'.vertices = g.vertices := by
  have hslot : ∀ v d, g'.slot? v d = g.slot? v d := by
    intro v d
    apply Option.ext
    intro i
    rw [h.slot_iff, h'.slot_iff]
    simp only [edgeRecord?, hedges]
  apply Array.ext_getElem?
  intro i
  have hi := congrArg (·[i]?) himage
  simp only [Array.getElem?_map] at hi
  cases hr : g.vertices[i]? with
  | none =>
    rw [hr, Option.map_none, Option.map_eq_none_iff] at hi
    exact hi
  | some r =>
    rw [hr, Option.map_some, Option.map_eq_some_iff] at hi
    obtain ⟨r', hr', heq⟩ := hi
    have hslots : r'.slots = r.slots := by
      apply Slots.ext_get
      intro d
      have hd := hslot ⟨i⟩ d
      rwa [slot?, slot?, hr, hr'] at hd
    rw [hr']
    obtain ⟨⟨w⟩, t, b, slots⟩ := r
    obtain ⟨⟨w'⟩, t', b', slots'⟩ := r'
    simp only [VertexRecord.image, SnapshotVertex.mk.injEq] at heq
    obtain ⟨rfl, rfl, rfl⟩ := heq
    rw [show slots' = slots from hslots]

/-! ## § 5. There and back -/

namespace Graph

/-- A graph without its edges. -/
def bare (g : Graph) : Graph := { g with vertices := g.snapshot.bareVertices, edges := #[] }

theorem bareVertices_snapshot (g : Graph) (i : Nat) :
    g.snapshot.bareVertices[i]? = g.vertices[i]?.map fun r => { r with slots := .free } := by
  simp only [Snapshot.bareVertices, snapshot, List.map_map, List.getElem?_toArray,
    List.getElem?_map, Array.getElem?_toList]
  rfl

theorem vertex?_bare (g : Graph) (v : VertexId) : g.bare.vertex? v = g.vertex? v := by
  simp only [vertex?, bare, bareVertices_snapshot, Option.map_map]
  rfl

theorem slot?_bare (g : Graph) (v : VertexId) (d : Direction) : g.bare.slot? v d = none := by
  simp only [slot?, bare, bareVertices_snapshot]
  cases g.vertices[v.index]? <;> simp

theorem edges_snapshot (g : Graph) : g.snapshot.edges = g.edges.toList.map (·.image) := rfl

theorem getElem?_workers (g : Graph) (i : Nat) : g.workers[i]? = g.worker? ⟨i⟩ := by
  simp [workers, worker?]

theorem workers_pushChain (g : Graph) (w : WorkerId) (v : VertexId) :
    (g.pushChain w v).workers = g.workers := by
  apply List.ext_getElem?
  intro i
  rw [getElem?_workers, getElem?_workers, worker?_pushChain]

/-- The index lists the workers in the order in which they were registered. -/
def Enlisted (g : Graph) : Prop := g.workerIndex.entries = Snapshot.enlisted 0 g.workers

/-- A worker that is registered comes last. -/
theorem Enlisted.register (h : g.Enlisted) {x : Worker} (hnew : g.findWorker? x.key = none) :
    (g.pushWorker x).Enlisted := by
  have hworkers : (g.pushWorker x).workers = g.workers ++ [x] := by simp [workers, pushWorker]
  have hsize : g.timelines.size = g.workers.length := by simp [workers]
  rw [Enlisted, hworkers, Snapshot.enlisted, List.zipIdx_append, List.map_append]
  show (g.workerIndex.insert x.key g.nextWorker).entries = _
  rw [Table.entries_insert_of_none hnew, h, nextWorker, hsize, Nat.zero_add]
  rfl

theorem Step.enlisted (hs : Step g g') (h : g.Enlisted) : g'.Enlisted := by
  cases hs with
  | register x _ hnew => exact h.register hnew
  | enter v u => rwa [Enlisted, workers_pushChain]
  | extend v u tail s q => rwa [Enlisted, workers_pushChain]
  | create w t => exact h
  | join x => exact h
  | finish stop => exact h

theorem Grows.enlisted (hs : Grows g g') (h : g.Enlisted) : g'.Enlisted := by
  induction hs with
  | refl => exact h
  | tail _ hstep ih => exact hstep.enlisted ih

/-- The index of the workers comes back. -/
theorem Enlisted.indexWorkers (h : g.Enlisted) :
    Snapshot.indexWorkers .empty 0 g.workers = .ok g.workerIndex := by
  refine Snapshot.indexWorkers_eq_ok.2 ⟨?_, h⟩
  have hkeys := g.workerIndex.distinct
  rwa [h, Snapshot.keys_enlisted] at hkeys

theorem Sound.checkVertices (h : g.Sound) :
    Snapshot.checkVertices g.workers.length 0 g.snapshot.vertices = .ok () := by
  rw [Snapshot.checkVertices_eq_ok]
  intro v hv
  obtain ⟨r, hr, rfl⟩ := List.mem_map.1 hv
  obtain ⟨i, hi⟩ := List.getElem?_of_mem hr
  have hshown : g.vertex? ⟨i⟩ = some ⟨⟨i⟩, r.worker, r.time⟩ :=
    vertex?_eq_some_iff.2 ⟨r, by simpa using hi, rfl⟩
  have hworker := h.registered _ _ hshown
  rw [← getElem?_workers] at hworker
  simpa using hworker

theorem Sound.checkTimelines (h : g.Sound) :
    Snapshot.checkTimelines g.snapshot.vertices.toArray 0 g.snapshot.timelines = .ok () := by
  have hshown : ∀ v : VertexId, g.snapshot.vertices.toArray[v.index]? =
      g.vertices[v.index]?.map (·.image) := by
    intro v
    simp only [snapshot, List.getElem?_toArray, List.getElem?_map, Array.getElem?_toList]
    rfl
  apply Snapshot.checkTimelines_ok
  intro i t ht
  have hchain : t = (g.chainOf ⟨i⟩).map (·.index) := by
    simp only [snapshot, List.getElem?_map, Array.getElem?_toList, Option.map_eq_some_iff] at ht
    obtain ⟨tl, htl, rfl⟩ := ht
    simp [chainOf, htl]
  rw [hchain, Nat.zero_add]
  apply Snapshot.checkTimeline_ok
  · intro v hv
    obtain ⟨u, hu, rfl⟩ := List.mem_map.1 hv
    obtain ⟨hin, hparent⟩ := (h.mem_chain _ u).1 hu
    rw [contains, Option.any_eq_true] at hin
    obtain ⟨r, hr, hin⟩ := hin
    rw [parent?, hr] at hparent
    refine ⟨r.image, by rw [hshown, hr]; rfl, ?_, hin, by simp⟩
    exact congrArg WorkerId.index (Option.some.inj hparent)
  · rw [List.pairwise_map]
    refine (h.sorted ⟨i⟩).imp ?_
    rintro a b ⟨s, t, hs, ht, hst⟩ x y hx hy
    rw [hshown, Option.map_eq_some_iff] at hx hy
    obtain ⟨ra, hra, rfl⟩ := hx
    obtain ⟨rb, hrb, rfl⟩ := hy
    rw [time?, hra] at hs
    rw [time?, hrb] at ht
    obtain rfl := Option.some.inj hs
    obtain rfl := Option.some.inj ht
    exact hst

theorem wired_bare (g : Graph) : g.bare.Wired where
  slot_iff v d i := by
    rw [slot?_bare]
    simp [edgeRecord?, bare]
  ends i x hx := by simp [edgeRecord?, bare] at hx

/-- The edges of a sound graph find their slots again, and these are the slots of the graph. -/
theorem Sound.takeSlots (h : g.Sound) :
    Snapshot.takeSlots g.snapshot.bareVertices 0 g.snapshot.edges = .ok g.vertices := by
  have hstored : ∀ x ∈ g.edges.toList, ∃ i, g.edgeRecord? i = some x := by
    intro x hx
    obtain ⟨i, hi⟩ := List.getElem?_of_mem hx
    exact ⟨⟨i⟩, by simpa [edgeRecord?] using hi⟩
  obtain ⟨vertices, hok⟩ : ∃ vertices, Snapshot.takeSlots g.bare.vertices g.bare.edges.size
      g.snapshot.edges = .ok vertices := by
    apply Snapshot.takeSlots_ok
    · intro e he
      obtain ⟨x, hx, rfl⟩ := List.mem_map.1 he
      obtain ⟨i, hi⟩ := hstored x hx
      rw [vertex?_bare, vertex?_bare]
      exact h.wired.ends i x hi
    · intro e _ v d _
      exact slot?_bare g v d
    · rw [edges_snapshot, List.pairwise_map, List.pairwise_iff_getElem]
      intro i j hi hj hij v d hm hm'
      rw [EdgeRecord.record_image] at hm hm'
      have hx : g.edgeRecord? ⟨i⟩ = some g.edges.toList[i] := by simp [edgeRecord?]
      have hy : g.edgeRecord? ⟨j⟩ = some g.edges.toList[j] := by simp [edgeRecord?]
      have hsame := h.eq_of_meets hx hy hm hm'
      exact Nat.ne_of_lt hij (congrArg EdgeId.index hsame)
  have hwired := Snapshot.takeSlots_wired g.snapshot.edges g.wired_bare hok
  have hvertices := h.wired.vertices_eq hwired (by
    rw [edges_snapshot, List.map_map]
    simp [bare, Function.comp_def]) (by
    rw [Snapshot.takeSlots_keeps _ hok]
    apply Array.ext_getElem?
    intro i
    simp only [Array.getElem?_map, bare, bareVertices_snapshot, Option.map_map]
    rfl)
  rw [← hvertices]
  exact hok

/-- A sound graph is restored from its image, unless it was disposed of. -/
theorem Sound.restore_snapshot (h : g.Sound) (hi : g.Enlisted) (hphase : g.phase ≠ .disposed) :
    g.snapshot.restore = .ok g := by
  have hcheck : g.snapshot.check = .ok (g.workerIndex, g.vertices) :=
    Snapshot.check_eq_ok.2 ⟨hi.indexWorkers, h.checkVertices, by simp [snapshot, workers],
      h.checkTimelines, h.takeSlots⟩
  have htimelines : g.snapshot.timelineArena = g.timelines := by
    simp [Snapshot.timelineArena, snapshot, workers, List.zipWith_map, List.zipWith_self,
      Function.comp_def]
  have hedges : g.snapshot.edgeArena = g.edges := by
    show (g.snapshot.edges.map (·.record)).toArray = g.edges
    rw [edges_snapshot, List.map_map]
    simp [Function.comp_def]
  have hdone : (if g.snapshot.done then Phase.closed else .building) = g.phase := by
    have hphases : ∀ p : Phase, p ≠ .disposed →
        (if decide (p ≠ .building) = true then Phase.closed else .building) = p := by
      rintro (_ | _ | _) hp
      · rfl
      · rfl
      · exact absurd rfl hp
    exact hphases g.phase hphase
  refine Snapshot.restore_eq_ok.2 ⟨rfl, _, _, hcheck, ?_⟩
  rw [htimelines, hedges, hdone]
  rfl

/-- Calls do not dispose of a graph. -/
theorem Grows.phase_ne (hs : Grows g g') (h : g.phase ≠ .disposed) : g'.phase ≠ .disposed := by
  cases hs with
  | refl => exact h
  | tail _ hstep =>
    rcases hstep.phase with hp | hp <;> simp [hp]

/-- A graph that calls have led to is restored from its image. -/
theorem Built.restore_snapshot (h : g.Built) : g.snapshot.restore = .ok g := by
  have hsound := h.sound
  obtain ⟨start, ms, rfl⟩ := h
  have hgrows : Grows (Graph.new start) (Mutation.runAll ms (Graph.new start)) :=
    Mutation.runAll_grows ms (sound_new start)
  exact hsound.restore_snapshot (hgrows.enlisted rfl) (hgrows.phase_ne (by simp [Graph.new]))

end Graph

namespace Snapshot

variable {s : Snapshot}

theorem workers_timelineArena (h : s.timelines.length = s.workers.length) :
    s.timelineArena.toList.map (·.worker) = s.workers := by
  apply List.ext_getElem
  · simp [timelineArena, h]
  · intro i _ _
    simp [timelineArena]

theorem chains_timelineArena (h : s.timelines.length = s.workers.length) :
    s.timelineArena.toList.map (fun t => t.chain.toList.map (·.index)) = s.timelines := by
  apply List.ext_getElem
  · simp [timelineArena, h]
  · intro i _ _
    simp [timelineArena, Function.comp_def]

/-- An image that is restored is the image of its graph, but for codes that name no state. -/
theorem snapshot_of_restore (hok : s.restore = .ok g) : g.snapshot = s.settled := by
  obtain ⟨hversion, index, vertices, hcheck, rfl⟩ := restore_eq_ok.1 hok
  obtain ⟨-, -, hlength, -, hslots⟩ := check_eq_ok.1 hcheck
  have hvertices : vertices.toList.map (·.image) = s.vertices := by
    have hkeeps := congrArg Array.toList (takeSlots_keeps _ hslots)
    rw [Array.toList_map, Array.toList_map] at hkeeps
    rw [hkeeps]
    simp [bareVertices, VertexRecord.image, Function.comp_def]
  have hedges : s.edgeArena.toList.map (·.image) = s.settled.edges := by
    show (s.edges.map (·.record)).map (·.image) = s.edges.map (·.settled)
    rw [List.map_map]
    exact List.map_congr_left fun e _ => e.image_record
  have hdone : decide ((if s.done then Phase.closed else .building) ≠ .building) = s.done := by
    cases s.done <;> rfl
  show Snapshot.mk Graph.version s.startTime s.endTime
    (decide ((if s.done then Phase.closed else .building) ≠ .building))
    (s.timelineArena.toList.map (·.worker)) (vertices.toList.map (·.image))
    (s.timelineArena.toList.map fun t => t.chain.toList.map (·.index))
    (s.edgeArena.toList.map (·.image)) = s.settled
  rw [← hversion, workers_timelineArena hlength, hvertices, hedges, hdone]
  rw [chains_timelineArena hlength]
  rfl

end Snapshot

/-- Whatever calls a graph has seen, refused ones included, its image is restored to that graph,
slots and ids included. And an image that is restored, whoever wrote it, is the image of its graph
except that a code that names no state becomes that of an unknown state. -/
theorem snapshots_roundTrip :
    (∀ start ms, (Mutation.runAll ms (Graph.new start)).snapshot.restore =
      .ok (Mutation.runAll ms (Graph.new start))) ∧
    ∀ s g, Snapshot.restore s = .ok g → g.snapshot = s.settled := by
  refine ⟨?_, fun _ _ => Snapshot.snapshot_of_restore⟩
  intro start ms
  exact Built.restore_snapshot ⟨start, ms, rfl⟩

/-- A chain of two vertices, and a third vertex outside, with an edge whose code names no state. -/
def Snapshot.unnamed : Snapshot where
  version := 1
  startTime := 0
  endTime := some 9
  done := true
  workers := [.thread "h" 1 "a", .idle "h" 0]
  vertices := [⟨0, 0, true⟩, ⟨0, 5, true⟩, ⟨0, 5, false⟩]
  timelines := [[0, 1], []]
  edges := [⟨0, 1, 40, none, true⟩]

theorem snapshots_roundTrip_of_unnamed : ∃ g, Snapshot.unnamed.restore = .ok g ∧
    g.snapshot = Snapshot.unnamed.settled ∧
    Snapshot.unnamed.settled.edges = [⟨0, 1, 2, none, true⟩] := by
  obtain ⟨g, hok⟩ : ∃ g, Snapshot.unnamed.restore = .ok g := ⟨_, rfl⟩
  exact ⟨g, hok, snapshots_roundTrip.2 _ g hok, rfl⟩

end CausalPath
