import CausalPath.Proofs.Store.RoundTrip
import CausalPath.Proofs.Value.MessagePack
import CausalPath.Proofs.Value.Record

/-!
# Saved graphs are reopened

A file holds all that the image of a graph says: workers of each kind with their aspects, vertices,
chains and edges are read back from their values (`Snapshot.ofValue?_toValue`), and the value of an
image is one that MessagePack can say (`Snapshot.Fits.plain`). So a graph that was built by any calls is
reopened from its file as it was: `saved_reopens`.
-/

namespace CausalPath

open MessagePack (Plain plain_map plain_nat plain_nat32 plain_optional plain_record plain_single)

/-! ## § 1. Workers -/

namespace WorkerKind

/-- The number of a kind is a thread id of 64 bits or a CPU of 32 bits. -/
def Fits : WorkerKind → Prop
  | .thread tid => -0x8000000000000000 ≤ tid ∧ tid < 0x8000000000000000
  | .idle cpu => cpu < 0x100000000
  | .kernel cpu => cpu < 0x100000000

instance : DecidablePred Fits
  | .thread _ => inferInstanceAs (Decidable (_ ∧ _))
  | .idle _ => inferInstanceAs (Decidable (_ < _))
  | .kernel _ => inferInstanceAs (Decidable (_ < _))

variable {k : WorkerKind}

theorem field?_record {α : Type} (name : String) (f : Value → Option α) (v : Value) :
    field? name f (.record [(name, v)]) = f v := by
  have hread : (Value.record [(name, v)]).savedFields? [name] 3 = some [some v] :=
    Value.savedFields?_record rfl (List.nodup_singleton name)
  unfold field?
  rw [Value.record] at hread ⊢
  dsimp only
  rw [hread]
  rfl

theorem ofValue?_toValue (h : k.Fits) : ofValue? k.toValue = some k := by
  cases k with
  | thread tid =>
    have hfield : field? "tid" Value.int64? (.record [("tid", .int tid)]) = some tid := by
      rw [field?_record, Value.int64?_int h.1 h.2]
    show (field? "tid" Value.int64? (.record [("tid", .int tid)])).map thread = _
    rw [hfield, Option.map_some]
  | idle cpu =>
    have hfield : field? "cpu" Value.nat32? (.record [("cpu", .nat cpu)]) = some cpu := by
      rw [field?_record, Value.nat32?, Value.natBelow?_nat h]
    show (field? "cpu" Value.nat32? (.record [("cpu", .nat cpu)])).map idle = _
    rw [hfield, Option.map_some]
  | kernel cpu =>
    have hfield : field? "cpu" Value.nat32? (.record [("cpu", .nat cpu)]) = some cpu := by
      rw [field?_record, Value.nat32?, Value.natBelow?_nat h]
    show (field? "cpu" Value.nat32? (.record [("cpu", .nat cpu)])).map kernel = _
    rw [hfield, Option.map_some]

theorem Fits.plain {levels : Nat} (h : k.Fits) : Plain (levels + 2) k.toValue := by
  cases k with
  | thread tid =>
    have htid : Plain levels (.int tid) := .int h.1 (by have := h.2; omega)
    exact plain_single (by decide) (plain_single (by decide) htid)
  | idle cpu => exact plain_single (by decide) (plain_single (by decide) (plain_nat32 h))
  | kernel cpu => exact plain_single (by decide) (plain_single (by decide) (plain_nat32 h))

end WorkerKind

/-- What a file can say of a worker. -/
structure Worker.Fits (w : Worker) : Prop where
  host : w.host.utf8ByteSize < 0x100000000
  kind : w.kind.Fits
  count : w.aspects.entries.length < 0x100000000
  aspects : ∀ e ∈ w.aspects.entries,
    e.1.utf8ByteSize < 0x100000000 ∧ e.2.utf8ByteSize < 0x100000000

instance : DecidablePred Worker.Fits := fun _ =>
  decidable_of_iff (_ ∧ _ ∧ _ ∧ _)
    ⟨fun h => ⟨h.1, h.2.1, h.2.2.1, h.2.2.2⟩, fun h => ⟨h.host, h.kind, h.count, h.aspects⟩⟩

theorem Aspects.ofValue?_toValue (a : Aspects) : Aspects.ofValue? a.toValue = some a := by
  rw [ofValue?, toValue, Value.entries?_record fun e _ => rfl, Option.map_some, ofList_entries]

theorem Worker.Fits.plain {levels : Nat} {w : Worker} (h : w.Fits) : Plain (levels + 3) w.toValue := by
  have haspects : Plain (levels + 2) w.aspects.toValue := by
    refine .record (by simpa using h.count) ?_ ?_
    · rintro f hf
      obtain ⟨e, he, rfl⟩ := List.mem_map.1 hf
      exact (h.aspects e he).1
    · rintro f hf
      obtain ⟨e, he, rfl⟩ := List.mem_map.1 hf
      exact .text (h.aspects e he).2
  exact plain_record ["host", "kind", "aspects"] rfl (by decide)
    (by simpa using ⟨.text h.host, h.kind.plain, haspects⟩)

theorem Worker.ofValue?_toValue {w : Worker} (h : w.Fits) : ofValue? w.toValue = some w := by
  rw [ofValue?, toValue, Value.savedFields?_record]
  · simp [Value.required, Value.text?, WorkerKind.ofValue?_toValue h.kind,
      Aspects.ofValue?_toValue]
  · rfl
  · decide

/-! ## § 2. Vertices and edges -/

/-- What a file can say of a vertex. -/
structure SnapshotVertex.Fits (x : SnapshotVertex) : Prop where
  worker : x.worker < 0x100000000
  time : x.time < wordCount

theorem SnapshotVertex.Fits.plain {levels : Nat} {x : SnapshotVertex} (h : x.Fits) :
    Plain (levels + 1) x.toValue :=
  plain_record ["worker", "timestamp", "in_graph"] rfl (by decide)
    (by simpa using ⟨plain_nat32 h.worker, plain_nat h.time, .bool⟩)

theorem SnapshotVertex.ofValue?_toValue {x : SnapshotVertex} (h : x.Fits) :
    ofValue? x.toValue = some x := by
  rw [ofValue?, toValue, Value.savedFields?_record]
  · simp [Value.required, Value.nat32?, Value.nat64?, Value.bool?, Value.natBelow?_nat h.worker,
      Value.natBelow?_nat h.time]
  · rfl
  · decide

/-- What a file can say of an edge. -/
structure SnapshotEdge.Fits (x : SnapshotEdge) : Prop where
  origin : x.origin < 0x100000000
  target : x.target < 0x100000000
  code : x.code < 0x100
  qualifier : ∀ q ∈ x.qualifier, q.utf8ByteSize < 0x100000000

theorem SnapshotEdge.Fits.plain {levels : Nat} {x : SnapshotEdge} (h : x.Fits) :
    Plain (levels + 1) x.toValue := by
  have hqualifier : Plain levels (.optional .text x.qualifier) :=
    plain_optional fun q hq => .text (h.qualifier q hq)
  exact plain_record ["from", "to", "code", "qualifier", "horizontal"] rfl (by decide)
    (by simpa using ⟨plain_nat32 h.origin, plain_nat32 h.target,
      plain_nat32 (lt_trans h.code (by decide)), hqualifier, .bool⟩)

theorem SnapshotEdge.ofValue?_toValue {x : SnapshotEdge} (h : x.Fits) :
    ofValue? x.toValue = some x := by
  have hqualifier : Value.absent? Value.text? (some (.optional .text x.qualifier)) =
      some x.qualifier := Value.absent?_optional (by simp) fun q _ => rfl
  rw [ofValue?, toValue, Value.savedFields?_record]
  · simp [Value.required, Value.nat32?, Value.bool?, Value.natBelow?_nat h.origin,
      Value.natBelow?_nat h.target, Value.natBelow?_nat h.code, hqualifier]
  · rfl
  · decide

/-! ## § 3. Images -/

namespace Snapshot

/-- What a file can say of a graph: numbers are words of a machine, and lists and texts have less
than 2^32 items or bytes. -/
structure Fits (s : Snapshot) : Prop where
  version : s.version < 0x100000000
  startTime : s.startTime < wordCount
  endTime : ∀ t ∈ s.endTime, t < wordCount
  workerCount : s.workers.length < 0x100000000
  workers : ∀ w ∈ s.workers, w.Fits
  vertexCount : s.vertices.length < 0x100000000
  vertices : ∀ x ∈ s.vertices, x.Fits
  timelineCount : s.timelines.length < 0x100000000
  timelines : ∀ t ∈ s.timelines, t.length < 0x100000000 ∧ ∀ v ∈ t, v < 0x100000000
  edgeCount : s.edges.length < 0x100000000
  edges : ∀ x ∈ s.edges, x.Fits

variable {s : Snapshot}

theorem Fits.plain {levels : Nat} (h : s.Fits) : Plain (levels + 5) s.toValue := by
  have hend : Plain (levels + 4) (.optional .nat s.endTime) :=
    plain_optional fun t ht => plain_nat (h.endTime t ht)
  have hworkers : Plain (levels + 4) (.list (s.workers.map Worker.toValue)) :=
    plain_map h.workerCount fun w hw => (h.workers w hw).plain
  have hvertices : Plain (levels + 4) (.list (s.vertices.map SnapshotVertex.toValue)) :=
    plain_map h.vertexCount fun x hx => (h.vertices x hx).plain
  have htimelines : Plain (levels + 4) (.list (s.timelines.map fun t => .list (t.map .nat))) :=
    plain_map h.timelineCount fun t ht =>
      plain_map (h.timelines t ht).1 fun v hv => plain_nat32 ((h.timelines t ht).2 v hv)
  have hedges : Plain (levels + 4) (.list (s.edges.map SnapshotEdge.toValue)) :=
    plain_map h.edgeCount fun x hx => (h.edges x hx).plain
  exact plain_record fieldNames rfl (by decide)
    (by simpa using ⟨plain_nat32 h.version, plain_nat h.startTime, hend, .bool, hworkers, hvertices,
      htimelines, hedges⟩)

/-- An image is read back from its value. -/
theorem ofValue?_toValue (h : s.Fits) : ofValue? s.toValue = some s := by
  have hversion : Value.nat32? (.nat s.version) = some s.version := Value.natBelow?_nat h.version
  have hstart : Value.nat64? (.nat s.startTime) = some s.startTime :=
    Value.natBelow?_nat h.startTime
  have hend : Value.absent? Value.nat64? (some (.optional .nat s.endTime)) = some s.endTime :=
    Value.absent?_optional (by simp [Value.nat]) fun t ht => Value.natBelow?_nat (h.endTime t ht)
  have hworkers : Value.list? Worker.ofValue? (.list (s.workers.map Worker.toValue)) =
      some s.workers := Value.list?_map fun w hw => Worker.ofValue?_toValue (h.workers w hw)
  have hvertices : Value.list? SnapshotVertex.ofValue?
      (.list (s.vertices.map SnapshotVertex.toValue)) = some s.vertices :=
    Value.list?_map fun x hx => SnapshotVertex.ofValue?_toValue (h.vertices x hx)
  have htimelines : Value.list? (Value.list? Value.nat32?)
      (.list (s.timelines.map fun t => .list (t.map .nat))) = some s.timelines :=
    Value.list?_map fun t ht => Value.list?_map fun v hv =>
      Value.natBelow?_nat ((h.timelines t ht).2 v hv)
  have hedges : Value.list? SnapshotEdge.ofValue? (.list (s.edges.map SnapshotEdge.toValue)) =
      some s.edges := Value.list?_map fun x hx => SnapshotEdge.ofValue?_toValue (h.edges x hx)
  rw [ofValue?, toValue, Value.savedFields?_record]
  · simp [Value.required, Value.bool?, hversion, hstart, hend, hworkers, hvertices, htimelines,
      hedges]
  · rfl
  · decide

/-- An image is read back from the bytes of its value. -/
theorem parse?_encode (h : s.Fits) :
    (MessagePack.parse? (MessagePack.encode s.toValue)).bind ofValue? = some s := by
  have hplain : Plain (MessagePack.maxLevels + 1) s.toValue := h.plain
  rw [MessagePack.parse?_encode hplain, Option.bind_some, ofValue?_toValue h]

end Snapshot

/-! ## § 4. Graphs -/

namespace Graph

variable {g : Graph}

/-- Times are words of a machine, a worker fits a file, and lists and texts have less than 2^32
items or bytes. -/
structure Fits (g : Graph) : Prop where
  startTime : g.startTime < wordCount
  endTime : ∀ t ∈ g.endTime, t < wordCount
  workerCount : g.timelines.size < 0x100000000
  vertexCount : g.vertices.size < 0x100000000
  edgeCount : g.edges.size < 0x100000000
  workers : ∀ w ∈ g.workers, w.Fits
  chains : ∀ t ∈ g.timelines, t.chain.size < 0x100000000
  times : ∀ r ∈ g.vertices, r.time < wordCount
  qualifiers : ∀ r ∈ g.edges, ∀ q ∈ r.qualifier, q.utf8ByteSize < 0x100000000

theorem index_lt_of_contains {v : VertexId} (h : g.contains v = true) :
    v.index < g.vertices.size := by
  rw [contains, Option.any_eq_true] at h
  obtain ⟨r, hr, -⟩ := h
  exact (Array.getElem?_eq_some_iff.1 hr).1

/-- The ids in a sound graph name its workers and vertices, so they are no larger than its lists. -/
theorem Sound.fits_snapshot (h : g.Sound) (hfits : g.Fits) : g.snapshot.Fits where
  version := show Graph.version < 0x100000000 by decide
  startTime := hfits.startTime
  endTime := hfits.endTime
  workerCount := by simpa [snapshot, workers] using hfits.workerCount
  workers := hfits.workers
  vertexCount := by simpa [snapshot] using hfits.vertexCount
  vertices x hx := by
    have hworker := Snapshot.checkVertices_eq_ok.1 h.checkVertices x hx
    obtain ⟨r, hr, rfl⟩ := List.mem_map.1 hx
    exact ⟨lt_trans hworker (by simpa [workers] using hfits.workerCount),
      hfits.times r (Array.mem_toList_iff.1 hr)⟩
  timelineCount := by simpa [snapshot] using hfits.workerCount
  timelines c hc := by
    obtain ⟨t, ht, rfl⟩ := List.mem_map.1 hc
    refine ⟨by simpa using hfits.chains t (Array.mem_toList_iff.1 ht), ?_⟩
    intro i hi
    obtain ⟨v, hv, rfl⟩ := List.mem_map.1 hi
    obtain ⟨w, hw⟩ := List.getElem?_of_mem ht
    have hchain : v ∈ g.chainOf ⟨w⟩ := by
      rw [Array.getElem?_toList] at hw
      rwa [chainOf, hw]
    exact lt_trans (index_lt_of_contains ((h.mem_chain ⟨w⟩ v).1 hchain).1) hfits.vertexCount
  edgeCount := by simpa [snapshot] using hfits.edgeCount
  edges y hy := by
    obtain ⟨x, hx, rfl⟩ := List.mem_map.1 hy
    obtain ⟨e, he⟩ := List.getElem?_of_mem hx
    have hends := h.ends ⟨e⟩ x (by simpa [edgeRecord?] using he)
    exact {
      origin := lt_trans (index_lt_of_contains hends.2.1) hfits.vertexCount
      target := lt_trans (index_lt_of_contains hends.2.2.1) hfits.vertexCount
      code := lt_trans x.state.code_lt (by decide)
      qualifier := hfits.qualifiers x (Array.mem_toList_iff.1 hx) }

/-- A graph that was built by any calls, refused ones included, and that fits a file is reopened
from its file as it was. If a start of the trace is expected, it is reopened when that is its own
start, and refused with both starts when it is not. -/
theorem saved_reopens (hbuilt : g.Built) (hfits : g.Fits) :
    load (some g.save) none = .ok g ∧
      ∀ t, load (some g.save) (some t) =
        if t = g.startTime then .ok g else .error (.startTimeMismatch t g.startTime) := by
  have hread : (MessagePack.parse? g.save).bind Snapshot.ofValue? = some g.snapshot :=
    Snapshot.parse?_encode (hbuilt.sound.fits_snapshot hfits)
  have hstart : g.snapshot.startTime = g.startTime := rfl
  refine ⟨?_, fun t => ?_⟩
  · simp only [load, hread, Option.filter_none, hbuilt.restore_snapshot]
    rfl
  · simp only [load, hread, hstart, Option.filter_some, hbuilt.restore_snapshot]
    by_cases ht : t = g.startTime
    · simp [ht, Except.mapError]
    · simp [ht]

/-- A worker of each kind: a thread with the least thread id and a name of characters of two, three
and four bytes, an idle task, and the kernel worker of the last CPU. -/
def motleyWorkers : List Worker :=
  [⟨"h", .thread (-0x8000000000000000), ⟨[("name", "é→𝄞")], List.pairwise_singleton _ _⟩⟩,
    ⟨"h", .idle 300, .empty⟩, ⟨"", .kernel 0xffffffff, .empty⟩]

/-- Those workers, with a chain that ends at the last time there is. -/
def motley : Graph :=
  Mutation.runAll
    (motleyWorkers.map .addWorker ++
      [.createVertex ⟨0⟩ 200, .createVertex ⟨0⟩ 70000, .append ⟨0⟩ .running none,
        .append ⟨1⟩ .blocked (some "q"), .link ⟨1⟩ ⟨0⟩ .ipi none, .close Time.last])
    (new 128)

theorem saved_reopens_of_motley : motley.Built ∧ motley.Fits ∧
    load (some motley.save) none = .ok motley ∧
    load (some motley.save) (some 128) = .ok motley ∧
    load (some motley.save) (some 0) = .error (.startTimeMismatch 0 128) := by
  have hbuilt : motley.Built := ⟨_, _, rfl⟩
  have hfits : motley.Fits := {
    startTime := by decide +kernel
    endTime := by decide +kernel
    workerCount := by decide +kernel
    vertexCount := by decide +kernel
    edgeCount := by decide +kernel
    workers := by decide +kernel
    chains := by decide +kernel
    times := by decide +kernel
    qualifiers := by decide +kernel }
  obtain ⟨hany, hexpected⟩ := saved_reopens hbuilt hfits
  have hstart : motley.startTime = 128 := by decide +kernel
  rw [hstart] at hexpected
  exact ⟨hbuilt, hfits, hany, hexpected 128, hexpected 0⟩

end Graph

end CausalPath
