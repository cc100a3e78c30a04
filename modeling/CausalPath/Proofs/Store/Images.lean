import CausalPath.Proofs.Store.RoundTrip
import Mathlib

/-!
# Images that are restored

An image is restored if it passes its checks, which look at one worker, vertex, timeline or edge
after the other. So an image is more than what calls draw: its chains may lead back to themselves,
for an edge may go back in time. Such an edge is reported to take no time; every other duration is
exact.
-/

namespace CausalPath

open CausalPath.Graph

namespace Snapshot

variable {s : Snapshot} {g : Graph}

/-! ## § 1. What is checked of an image -/

/-- What an image passes before it is restored. -/
structure Checked (s : Snapshot) : Prop where
  version : s.version = Graph.version
  /-- No two workers share a key. -/
  keys : (s.workers.map (·.key)).Nodup
  /-- A vertex belongs to a worker of the image. -/
  owned : ∀ v ∈ s.vertices, v.worker < s.workers.length
  lengths : s.timelines.length = s.workers.length
  /-- A timeline lists vertices of its worker that are in the graph, and no others. -/
  listed : ∀ w t, s.timelines[w]? = some t →
    ∀ v ∈ t, ∃ r : SnapshotVertex, s.vertices[v]? = some r ∧ r.worker = w ∧ r.inGraph = true
  /-- A timeline is in time order. -/
  sorted : ∀ t ∈ s.timelines, t.Pairwise fun a b =>
    ∀ r r', s.vertices[a]? = some r → s.vertices[b]? = some r' → r.time ≤ r'.time
  /-- An edge joins two vertices of the image. -/
  ends : ∀ e ∈ s.edges, e.origin < s.vertices.length ∧ e.target < s.vertices.length
  /-- No two edges take the same slot of a vertex. -/
  apart : s.edges.Pairwise fun e e' => ∀ v d, e.record.Meets v d → ¬e'.record.Meets v d

/-- The vertices that are in the graph are listed once each, and edges join vertices that are in the
graph. -/
structure Complete (s : Snapshot) : Prop where
  once : ∀ (v : Nat) (r : SnapshotVertex), s.vertices[v]? = some r → r.inGraph = true →
    ∃ t : List Nat, s.timelines[r.worker]? = some t ∧ t.count v = 1
  joined : ∀ e ∈ s.edges, s.vertices[e.origin]?.any (·.inGraph) = true ∧
    s.vertices[e.target]?.any (·.inGraph) = true

theorem of_checkTimeline {vertices : Array SnapshotVertex} {worker : Nat} {chain : List Nat} :
    ∀ {previous : Option Time}, checkTimeline vertices worker previous chain = .ok () →
      (∀ v ∈ chain, ∃ r, vertices[v]? = some r ∧ r.worker = worker ∧ r.inGraph = true ∧
        ∀ t, previous = some t → t ≤ r.time) ∧
      chain.Pairwise fun a b => ∀ r r', vertices[a]? = some r → vertices[b]? = some r' →
        r.time ≤ r'.time := by
  induction chain with
  | nil =>
    intro previous _
    exact ⟨by simp, List.Pairwise.nil⟩
  | cons v rest ih =>
    intro previous hok
    unfold checkTimeline at hok
    split at hok
    · exact absurd hok (by simp)
    · rename_i r hr
      split at hok
      · exact absurd hok (by simp)
      · rename_i hplaced
        split at hok
        · exact absurd hok (by simp)
        · rename_i hforward
          obtain ⟨hworker, hin⟩ : r.worker = worker ∧ r.inGraph = true := by
            simpa [not_or] using hplaced
          have hlate : ∀ t, previous = some t → t ≤ r.time := by
            rintro t rfl
            simpa using hforward
          obtain ⟨hlisted, hsorted⟩ := ih hok
          refine ⟨?_, List.pairwise_cons.2 ⟨?_, hsorted⟩⟩
          · intro u hu
            rcases List.mem_cons.1 hu with rfl | hu
            · exact ⟨r, hr, hworker, hin, hlate⟩
            · obtain ⟨r', hr', hworker', hin', hafter⟩ := hlisted u hu
              exact ⟨r', hr', hworker', hin',
                fun t ht => Nat.le_trans (hlate t ht) (hafter r.time rfl)⟩
          · intro u hu x y hx hy
            obtain ⟨r', hr', -, -, hafter⟩ := hlisted u hu
            obtain rfl := Option.some.inj (hr.symm.trans hx)
            obtain rfl := Option.some.inj (hr'.symm.trans hy)
            exact hafter r.time rfl

theorem of_checkTimelines {vertices : Array SnapshotVertex} {ts : List (List Nat)} :
    ∀ {worker : Nat}, checkTimelines vertices worker ts = .ok () →
      ∀ i t, ts[i]? = some t → checkTimeline vertices (worker + i) none t = .ok () := by
  induction ts with
  | nil =>
    intro worker _ i t ht
    simp at ht
  | cons t rest ih =>
    intro worker hok i t' ht'
    unfold checkTimelines at hok
    rw [bind_eq_ok] at hok
    obtain ⟨_, hfirst, hrest⟩ := hok
    cases i with
    | zero =>
      obtain rfl := Option.some.inj ht'
      exact hfirst
    | succ i =>
      have hlater := ih hrest i t' ht'
      rwa [Nat.add_assoc, Nat.add_comm 1] at hlater

/-! ## § 2. The graph of an image -/

/-- The graph of an image without its edges and without its index. -/
def bare (s : Snapshot) : Graph where
  startTime := s.startTime
  endTime := s.endTime
  phase := if s.done then .closed else .building
  timelines := s.timelineArena
  workerIndex := .empty
  vertices := s.bareVertices
  edges := #[]

theorem vertex?_bare (s : Snapshot) (v : VertexId) :
    s.bare.vertex? v = s.vertices[v.index]?.map fun r => ⟨v, ⟨r.worker⟩, r.time⟩ := by
  simp only [vertex?, bare, bareVertices, List.getElem?_toArray, List.getElem?_map, Option.map_map]
  rfl

theorem isSome_vertex?_bare {v : VertexId} :
    (s.bare.vertex? v).isSome ↔ v.index < s.vertices.length := by
  simp [vertex?_bare]

theorem slot?_bare (s : Snapshot) (v : VertexId) (d : Direction) : s.bare.slot? v d = none := by
  simp only [slot?, bare, bareVertices, List.getElem?_toArray, List.getElem?_map]
  cases s.vertices[v.index]? <;> simp

theorem edgeRecord?_of_restore (hok : s.restore = .ok g) (i : Nat) :
    g.edgeRecord? ⟨i⟩ = s.edges[i]?.map (·.record) := by
  obtain ⟨-, index, vertices, -, rfl⟩ := restore_eq_ok.1 hok
  simp only [edgeRecord?, edgeArena, List.getElem?_toArray, List.getElem?_map]
  rfl

/-- A restored graph shows the vertices of its image. -/
theorem vertex?_of_restore (hok : s.restore = .ok g) (v : VertexId) :
    g.vertex? v = s.vertices[v.index]?.map fun r => ⟨v, ⟨r.worker⟩, r.time⟩ := by
  have himage : g.vertices.toList.map (·.image) = s.vertices :=
    congrArg Snapshot.vertices (snapshot_of_restore hok)
  rw [← himage, List.getElem?_map, Array.getElem?_toList, Option.map_map]
  rfl

theorem timelines_of_restore (hok : s.restore = .ok g) :
    g.timelines.toList.map (fun t => t.chain.toList.map (·.index)) = s.timelines :=
  congrArg Snapshot.timelines (snapshot_of_restore hok)

theorem vertexCount_of_restore (hok : s.restore = .ok g) :
    g.vertexCount = (s.timelines.map List.length).sum := by
  rw [← timelines_of_restore hok, List.map_map, vertexCount, ← Array.foldl_toList,
    List.sum_eq_foldl_nat, List.foldl_map]
  simp

/-! ## § 3. The checks are all there is -/

/-- An image that is restored has passed its checks. -/
theorem checked_of_restore (hok : s.restore = .ok g) : s.Checked := by
  have hwired := wired_of_restore hok
  have hshown : ∀ v : VertexId, (g.vertex? v).isSome → v.index < s.vertices.length := by
    intro v hv
    simpa [vertex?_of_restore hok] using hv
  have hedge : ∀ {i : Nat} {e}, s.edges[i]? = some e → g.edgeRecord? ⟨i⟩ = some e.record := by
    intro i e he
    rw [edgeRecord?_of_restore hok, he]
    rfl
  have hends : ∀ e ∈ s.edges, e.origin < s.vertices.length ∧ e.target < s.vertices.length := by
    intro e he
    obtain ⟨i, hi⟩ := List.getElem?_of_mem he
    obtain ⟨ho, ht⟩ := hwired.ends _ _ (hedge hi)
    exact ⟨hshown _ ho, hshown _ ht⟩
  have hapart : s.edges.Pairwise fun e e' => ∀ v d, e.record.Meets v d → ¬e'.record.Meets v d := by
    rw [List.pairwise_iff_getElem]
    intro i j hi hj hij v d hm hm'
    -- a slot that two edges meet would hold both
    have hfirst := (hwired.slot_iff v d ⟨i⟩).2 ⟨_, hedge (List.getElem?_eq_getElem hi), hm⟩
    have hsecond := (hwired.slot_iff v d ⟨j⟩).2 ⟨_, hedge (List.getElem?_eq_getElem hj), hm'⟩
    have hsame := Option.some.inj (hfirst.symm.trans hsecond)
    exact Nat.ne_of_lt hij (congrArg EdgeId.index hsame)
  obtain ⟨hversion, index, vertices, hcheck, -⟩ := restore_eq_ok.1 hok
  obtain ⟨hworkers, hvertices, hlength, htimelines, -⟩ := check_eq_ok.1 hcheck
  have htimeline : ∀ w t, s.timelines[w]? = some t →
      checkTimeline s.vertices.toArray w none t = .ok () := by
    intro w t ht
    have hone := of_checkTimelines htimelines w t ht
    rwa [Nat.zero_add] at hone
  refine ⟨hversion, (indexWorkers_eq_ok.1 hworkers).1, checkVertices_eq_ok.1 hvertices, hlength, ?_,
    ?_, hends, hapart⟩
  · intro w t ht v hv
    obtain ⟨r, hr, hworker, hin, -⟩ := (of_checkTimeline (htimeline w t ht)).1 v hv
    exact ⟨r, by simpa using hr, hworker, hin⟩
  · intro t ht
    obtain ⟨w, hw⟩ := List.getElem?_of_mem ht
    simpa using (of_checkTimeline (htimeline w t hw)).2

/-- An image that passes its checks is restored. -/
theorem Checked.restore_ok (h : s.Checked) : ∃ g, s.restore = .ok g := by
  have htimelines : checkTimelines s.vertices.toArray 0 s.timelines = .ok () := by
    apply checkTimelines_ok
    intro w t ht
    rw [Nat.zero_add]
    apply checkTimeline_ok
    · intro v hv
      obtain ⟨r, hr, hworker, hin⟩ := h.listed w t ht v hv
      exact ⟨r, by simpa using hr, hworker, hin, by simp⟩
    · simpa using h.sorted t (List.mem_of_getElem? ht)
  obtain ⟨vertices, hslots⟩ : ∃ vertices, takeSlots s.bareVertices 0 s.edges = .ok vertices :=
    takeSlots_ok (g := s.bare) s.edges
      (fun e he => ⟨isSome_vertex?_bare.2 (h.ends e he).1, isSome_vertex?_bare.2 (h.ends e he).2⟩)
      (fun _ _ v d _ => slot?_bare s v d) h.apart
  obtain ⟨index, hindex⟩ : ∃ index, indexWorkers .empty 0 s.workers = .ok index := by
    refine ⟨⟨enlisted 0 s.workers, ?_⟩, indexWorkers_eq_ok.2 ⟨h.keys, rfl⟩⟩
    rw [keys_enlisted]
    exact h.keys
  have hcheck : s.check = .ok (index, vertices) :=
    check_eq_ok.2 ⟨hindex, checkVertices_eq_ok.2 h.owned, h.lengths, htimelines, hslots⟩
  exact ⟨_, restore_eq_ok.2 ⟨h.version, index, vertices, hcheck, rfl⟩⟩

/-! ## § 4. What a restored graph reports -/

/-- The positions of a list at which something holds are as many as the items of which it holds. -/
theorem countP_positions {α : Type} (p : α → Bool) (l : List α) :
    ((List.range l.length).filter fun i => l[i]?.any p).length = l.countP p := by
  rw [← List.countP_eq_length_filter]
  induction l with
  | nil => rfl
  | cons a rest ih =>
    rw [List.length_cons, List.range_succ_eq_map, List.countP_cons, List.countP_map, List.countP_cons]
    simp only [Function.comp_def, List.getElem?_cons_succ, List.getElem?_cons_zero, Option.any_some]
    rw [ih]

/-- If each vertex that is in the graph is listed once, the timelines list as many vertices as are in
the graph. -/
theorem Checked.length_timelines (h : s.Checked) (hc : s.Complete) :
    (s.timelines.map List.length).sum = s.vertices.countP (·.inGraph) := by
  have honce : ∀ (w : Nat) (t : List Nat), s.timelines[w]? = some t → t.Nodup := by
    intro w t ht
    rw [List.nodup_iff_count_eq_one]
    intro v hv
    obtain ⟨r, hr, rfl, hin⟩ := h.listed w t ht v hv
    obtain ⟨t', ht', hcount⟩ := hc.once v r hr hin
    obtain rfl := Option.some.inj (ht.symm.trans ht')
    exact hcount
  have hnodup : s.timelines.flatten.Nodup := by
    rw [List.nodup_flatten]
    refine ⟨?_, ?_⟩
    · intro t ht
      obtain ⟨w, hw⟩ := List.getElem?_of_mem ht
      exact honce w t hw
    · rw [List.pairwise_iff_getElem]
      intro i j hi hj hij v hvi hvj
      -- a vertex has one worker
      obtain ⟨r, hr, hri, -⟩ := h.listed i _ (List.getElem?_eq_getElem hi) v hvi
      obtain ⟨r', hr', hrj, -⟩ := h.listed j _ (List.getElem?_eq_getElem hj) v hvj
      obtain rfl := Option.some.inj (hr.symm.trans hr')
      exact Nat.ne_of_lt hij (hri.symm.trans hrj)
  have hperm : s.timelines.flatten.Perm
      ((List.range s.vertices.length).filter fun i => s.vertices[i]?.any (·.inGraph)) := by
    rw [List.perm_ext_iff_of_nodup hnodup (List.nodup_range.filter _)]
    intro v
    simp only [List.mem_flatten, List.mem_filter, List.mem_range, Option.any_eq_true]
    constructor
    · rintro ⟨t, ht, hv⟩
      obtain ⟨w, hw⟩ := List.getElem?_of_mem ht
      obtain ⟨r, hr, -, hin⟩ := h.listed w t hw v hv
      exact ⟨(List.getElem?_eq_some_iff.1 hr).1, r, hr, hin⟩
    · rintro ⟨-, r, hr, hin⟩
      obtain ⟨t, ht, hcount⟩ := hc.once v r hr hin
      exact ⟨t, List.mem_of_getElem? ht, List.count_pos_iff.1 (by omega)⟩
  rw [← List.length_flatten, hperm.length_eq, countP_positions]

/-- The duration of an edge of an image is exact, unless the edge goes back in time. -/
theorem duration_of_restore (hok : s.restore = .ok g) {i : Nat} {x : SnapshotEdge}
    {a b : SnapshotVertex} (hx : s.edges[i]? = some x) (ha : s.vertices[x.origin]? = some a)
    (hb : s.vertices[x.target]? = some b) :
    ∃ e, g.edge? ⟨i⟩ = some e ∧ e.duration = b.time - a.time := by
  have hrecord : g.edgeRecord? ⟨i⟩ = some x.record := by
    rw [edgeRecord?_of_restore hok, hx]
    rfl
  have horigin : g.vertex? x.record.origin = some ⟨⟨x.origin⟩, ⟨a.worker⟩, a.time⟩ := by
    rw [vertex?_of_restore hok]
    exact congrArg (Option.map _) ha
  have htarget : g.vertex? x.record.target = some ⟨⟨x.target⟩, ⟨b.worker⟩, b.time⟩ := by
    rw [vertex?_of_restore hok]
    exact congrArg (Option.map _) hb
  exact ⟨⟨⟨i⟩, ⟨⟨x.origin⟩, ⟨a.worker⟩, a.time⟩, ⟨⟨x.target⟩, ⟨b.worker⟩, b.time⟩, x.record.state,
    x.record.qualifier, x.record.horizontal⟩,
    edge?_eq_some_iff.2 ⟨_, hrecord, horigin, htarget, rfl⟩, rfl⟩

end Snapshot

/-- An image that is restored has passed its checks: timelines list vertices of their worker that are
in the graph, in time order, and edges join vertices of the image by slots of their own. The duration
of an edge is exact, and zero if the edge goes back in time; the vertices that are counted are those
listed, which are those in the graph if each of these is listed once. And an image that passes the
checks and is complete is restored, whichever way its edges go in time. -/
theorem restored_images (s : Snapshot) :
    (∀ g, s.restore = .ok g →
      s.Checked ∧
      (∀ i x a b, s.edges[i]? = some x → s.vertices[x.origin]? = some a →
        s.vertices[x.target]? = some b → ∃ e, g.edge? ⟨i⟩ = some e ∧
          (a.time ≤ b.time → a.time + e.duration = b.time) ∧ (b.time < a.time → e.duration = 0)) ∧
      g.vertexCount = (s.timelines.map List.length).sum ∧
      (s.Complete → g.vertexCount = s.vertices.countP (·.inGraph))) ∧
    (s.Checked → s.Complete → ∃ g, s.restore = .ok g) := by
  refine ⟨?_, fun h _ => h.restore_ok⟩
  intro g hok
  have h := Snapshot.checked_of_restore hok
  have hcount := Snapshot.vertexCount_of_restore hok
  refine ⟨h, ?_, hcount, fun hc => hcount.trans (h.length_timelines hc)⟩
  intro i x a b hx ha hb
  obtain ⟨e, he, hduration⟩ := Snapshot.duration_of_restore hok hx ha hb
  refine ⟨e, he, ?_, ?_⟩
  · intro hle
    rw [hduration, Nat.add_sub_of_le hle]
  · intro hlt
    rw [hduration, Nat.sub_eq_zero_of_le (Nat.le_of_lt hlt)]

/-- A chain from 0 to 10 with an edge that leads from its end back to its start. -/
def Snapshot.looped : Snapshot where
  version := 1
  startTime := 0
  endTime := none
  done := false
  workers := [.thread "h" 1 "a"]
  vertices := [⟨0, 0, true⟩, ⟨0, 10, true⟩]
  timelines := [[0, 1]]
  edges := [⟨0, 1, 4, none, true⟩, ⟨1, 0, 4, none, true⟩]

/-- The image is restored, and its second edge goes back in time. -/
theorem not_all_restored_forward : ∃ g e, Snapshot.looped.restore = .ok g ∧
    g.edge? ⟨1⟩ = some e ∧ e.target.time < e.origin.time ∧ e.origin.time + e.duration ≠ e.target.time :=
  ⟨_, _, rfl, rfl, by decide, by decide⟩

theorem restored_images_of_looped : Snapshot.looped.Checked ∧ Snapshot.looped.Complete ∧
    ∃ g, Snapshot.looped.restore = .ok g ∧ g.vertexCount = 2 ∧
      ∃ e, g.edge? ⟨1⟩ = some e ∧ e.duration = 0 := by
  have hchecked : Snapshot.looped.Checked := by
    obtain ⟨g, hok⟩ : ∃ g, Snapshot.looped.restore = .ok g := ⟨_, rfl⟩
    exact ((restored_images _).1 g hok).1
  have hcomplete : Snapshot.looped.Complete := by
    refine ⟨?_, by decide⟩
    rintro (_ | _ | v) r hr -
    · obtain rfl := Option.some.inj hr
      exact ⟨_, rfl, by decide⟩
    · obtain rfl := Option.some.inj hr
      exact ⟨_, rfl, by decide⟩
    · exact absurd hr (by simp [Snapshot.looped])
  obtain ⟨g, hok⟩ := (restored_images _).2 hchecked hcomplete
  obtain ⟨-, hedges, -, hcount⟩ := (restored_images _).1 g hok
  obtain ⟨e, he, -, hback⟩ := hedges 1 _ _ _ rfl rfl rfl
  exact ⟨hchecked, hcomplete, g, hok, hcount hcomplete, e, he, hback (by decide)⟩

end CausalPath
