import CausalPath.Graph.Snapshot
import CausalPath.Proofs.Search.Wakeup

/-!
# Restored graphs are wired

The image of a graph leaves its slots out. To restore it is to draw its edges again, one after the
other, each into free slots of two vertices. An image may hold what no call would draw, such as a
chain that leads back to itself, but its slots are always right: `wired_of_restore`.
-/

namespace CausalPath

/-- The edge that an image stands for. A code that names no state stands for an unknown state. -/
def SnapshotEdge.record (e : SnapshotEdge) : EdgeRecord :=
  ⟨⟨e.origin⟩, ⟨e.target⟩, .ofCode e.code, e.qualifier, e.horizontal⟩

open CausalPath.Graph

variable {g : Graph}

/-- An edge drawn into free slots of two vertices keeps a graph wired. -/
theorem Graph.Wired.pushEdge (h : g.Wired) {x : EdgeRecord} (ho : (g.vertex? x.origin).isSome)
    (ht : (g.vertex? x.target).isSome) (hfree : ∀ v d, x.Meets v d → g.slot? v d = none) :
    (g.pushEdge x).Wired where
  slot_iff := slot_iff_pushEdge ho ht hfree h.slot_iff
  ends i y hy := by
    rw [vertex?_pushEdge, vertex?_pushEdge]
    rw [edgeRecord?_pushEdge] at hy
    split at hy
    · obtain rfl := Option.some.inj hy
      exact ⟨ho, ht⟩
    · exact h.ends i y hy

namespace Snapshot

variable {s : Snapshot}

/-! ## § 1. What restoring comes to -/

/-- An image is consistent exactly if it passes every check. -/
theorem check_eq_ok {index : Table WorkerKey WorkerId} {vertices : Array VertexRecord} :
    s.check = .ok (index, vertices) ↔ indexWorkers .empty 0 s.workers = .ok index ∧
      checkVertices s.workers.length 0 s.vertices = .ok () ∧
      s.timelines.length = s.workers.length ∧
      checkTimelines s.vertices.toArray 0 s.timelines = .ok () ∧
      takeSlots s.bareVertices 0 s.edges = .ok vertices := by
  unfold check
  simp only [bind_eq_ok, guard_eq_ok, pure_eq_ok, Prod.mk.injEq, not_not]
  constructor
  · rintro ⟨_, hworkers, _, hvertices, hlength, _, htimelines, _, hslots, rfl, rfl⟩
    exact ⟨hworkers, hvertices, hlength, htimelines, hslots⟩
  · rintro ⟨hworkers, hvertices, hlength, htimelines, hslots⟩
    exact ⟨_, hworkers, (), hvertices, hlength, (), htimelines, _, hslots, rfl, rfl⟩

/-- A graph that is restored is what its image says, with the index and the slots that it leaves
out. -/
theorem restore_eq_ok : s.restore = .ok g ↔ s.version = Graph.version ∧ ∃ index vertices,
    s.check = .ok (index, vertices) ∧
      g = ⟨s.startTime, s.endTime, if s.done then .closed else .building, s.timelineArena, index,
        vertices, s.edgeArena⟩ := by
  unfold restore
  split
  · rename_i hversion
    simp [hversion]
  · rename_i hversion
    cases hcheck : s.check with
    | error fault => simp
    | ok checked =>
      obtain ⟨index, vertices⟩ := checked
      simp only [Except.ok.injEq, not_not.1 hversion, true_and]
      constructor
      · rintro rfl
        exact ⟨index, vertices, rfl, rfl⟩
      · rintro ⟨_, _, heq, rfl⟩
        obtain ⟨rfl, rfl⟩ := Prod.mk.inj heq
        rfl

/-! ## § 2. Slots -/

/-- A slot that is taken was free, and its vertex exists. -/
theorem takeSlot_eq_ok {v : VertexId} {d : Direction} {i : EdgeId} {vertices : Array VertexRecord}
    (hok : takeSlot g.vertices v d i = .ok vertices) :
    (g.vertex? v).isSome ∧ g.slot? v d = none ∧ vertices = (g.setSlot v d i).vertices := by
  unfold takeSlot at hok
  split at hok
  · rename_i r hr
    split at hok
    · exact absurd hok (by simp)
    · rename_i hfree
      refine ⟨by simp [vertex?, hr], by simpa [slot?, hr] using hfree, ?_⟩
      exact (Except.ok.inj hok).symm
  · exact absurd hok (by simp)

/-- The slots that the edges of an image take are those of the edges. -/
theorem takeSlots_wired (edges : List SnapshotEdge) :
    ∀ {g : Graph} {vertices : Array VertexRecord}, g.Wired →
      takeSlots g.vertices g.edges.size edges = .ok vertices →
        ({ g with vertices, edges := g.edges ++ (edges.map (·.record)).toArray } : Graph).Wired := by
  induction edges with
  | nil =>
    intro g vertices h hok
    obtain rfl := Except.ok.inj hok
    simpa using h
  | cons e rest ih =>
    intro g vertices h hok
    simp only [takeSlots, guard_eq_ok, bind_eq_ok] at hok
    obtain ⟨-, filled, horigin, filled', htarget, hrest⟩ := hok
    obtain ⟨ho, hfreeo, rfl⟩ := takeSlot_eq_ok horigin
    obtain ⟨ht, hfreet, rfl⟩ := takeSlot_eq_ok htarget
    rw [vertex?_setSlot] at ht
    -- the slot taken at the origin is not the one that is taken at the target
    rw [slot?_setSlot _ _ _ _ _ ho, if_neg fun hd => Direction.atOrigin_ne_atTarget _ _ hd.2.symm]
      at hfreet
    have hpush : (g.pushEdge e.record).Wired := by
      apply h.pushEdge ho ht
      rintro v d (⟨rfl, rfl⟩ | ⟨rfl, rfl⟩)
      · exact hfreeo
      · exact hfreet
    have hsize : (g.pushEdge e.record).edges.size = g.edges.size + 1 := by simp [Graph.pushEdge]
    rw [← hsize] at hrest
    have hwired := ih hpush hrest
    have hlist : (g.pushEdge e.record).edges ++ (rest.map (·.record)).toArray =
        g.edges ++ ((e :: rest).map (·.record)).toArray := by
      simp [Graph.pushEdge]
    rw [hlist] at hwired
    exact hwired

/-- A graph that an image is restored to is wired. -/
theorem wired_of_restore (hok : s.restore = .ok g) : g.Wired := by
  obtain ⟨-, index, vertices, hcheck, rfl⟩ := restore_eq_ok.1 hok
  obtain ⟨-, -, -, -, hslots⟩ := check_eq_ok.1 hcheck
  have hbare : (⟨s.startTime, s.endTime, if s.done then .closed else .building, s.timelineArena,
      index, s.bareVertices, #[]⟩ : Graph).Wired := by
    constructor
    · intro v d i
      simp only [slot?, edgeRecord?, bareVertices, List.getElem?_toArray, List.getElem?_map]
      cases s.vertices[v.index]? <;> simp
    · intro i x hx
      simp [edgeRecord?] at hx
  have hwired := takeSlots_wired s.edges hbare hslots
  simpa [edgeArena, SnapshotEdge.record] using hwired

end Snapshot

end CausalPath
