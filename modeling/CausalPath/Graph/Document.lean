import CausalPath.Graph.Snapshot
import CausalPath.Value.MessagePack

/-!
# Saved graphs

A graph is saved as the MessagePack form of its image. This module writes workers and images as
values and reads them back; `Graph.save` gives the bytes of a file, and `Graph.load` reopens them. A
file is first decoded, then held against the start of the trace that is expected, and only then
rebuilt. What a file holds beside the fields of its records is skipped, if it does not nest too
deep.
-/

namespace CausalPath

/-! ## § 1. Workers as values -/

/-- The fields of a record that stands inside a number of containers. Values that are skipped nest
no deeper than a document may, where the map that names a kind counts for nothing. -/
def Value.savedFields? (names : List String) (outer : Nat) (v : Value) :
    Option (List (Option Value)) :=
  if (v.skipped names).all fun x => outer + 1 + x.levels ≤ MessagePack.maxLevels then
    v.fields? names false
  else
    none

namespace WorkerKind

def names : List String := ["Thread", "Idle", "Kernel"]

def toValue : WorkerKind → Value
  | .thread tid => .record [("Thread", .record [("tid", .int tid)])]
  | .idle cpu => .record [("Idle", .record [("cpu", .nat cpu)])]
  | .kernel cpu => .record [("Kernel", .record [("cpu", .nat cpu)])]

/-- Reads the one field of the record of a kind. Bytes are a record that starts with its field. -/
def field? {α : Type} (name : String) (f : Value → Option α) : Value → Option α
  | .bytes b => Value.required f (b.head?.map .byte)
  | v => do
    let [x] ← v.savedFields? [name] 3 | none
    Value.required f x

/-- Reads a kind. -/
def ofValue? : Value → Option WorkerKind
  | .map [(k, v)] =>
    match Value.fieldKey? names k with
    | some (.known 0) => (field? "tid" Value.int64? v).map thread
    | some (.known 1) => (field? "cpu" Value.nat32? v).map idle
    | some (.known 2) => (field? "cpu" Value.nat32? v).map kernel
    | _ => none
  | _ => none

end WorkerKind

def Aspects.toValue (a : Aspects) : Value := .record (a.entries.map fun e => (e.1, .text e.2))

/-- Reads aspects; of several with one name the last counts. -/
def Aspects.ofValue? (v : Value) : Option Aspects := (v.entries? Value.text?).map Aspects.ofList

def WorkerKey.toValue (k : WorkerKey) : Value :=
  .record [("host", .text k.host), ("kind", k.kind.toValue)]

def WorkerKey.ofValue? (v : Value) : Option WorkerKey := do
  let [host, kind] ← v.fields? ["host", "kind"] false | none
  return ⟨← Value.required Value.text? host, ← Value.required WorkerKind.ofValue? kind⟩

def WorkerIdentity.toValue (i : WorkerIdentity) : Value :=
  .record [("host", .text i.host), ("aspects", i.aspects.toValue)]

def Worker.toValue (w : Worker) : Value :=
  .record [("host", .text w.host), ("kind", w.kind.toValue), ("aspects", w.aspects.toValue)]

def Worker.ofValue? (v : Value) : Option Worker := do
  let [host, kind, aspects] ← v.savedFields? ["host", "kind", "aspects"] 2 | none
  return {
    host := ← Value.required Value.text? host
    kind := ← Value.required WorkerKind.ofValue? kind
    aspects := ← Value.required Aspects.ofValue? aspects }

/-! ## § 2. Images as values -/

def SnapshotVertex.toValue (x : SnapshotVertex) : Value :=
  .record [("worker", .nat x.worker), ("timestamp", .nat x.time), ("in_graph", .bool x.inGraph)]

def SnapshotVertex.ofValue? (v : Value) : Option SnapshotVertex := do
  let [worker, time, inGraph] ← v.savedFields? ["worker", "timestamp", "in_graph"] 2 | none
  return {
    worker := ← Value.required Value.nat32? worker
    time := ← Value.required Value.nat64? time
    inGraph := ← Value.required Value.bool? inGraph }

def SnapshotEdge.toValue (x : SnapshotEdge) : Value :=
  .record [("from", .nat x.origin), ("to", .nat x.target), ("code", .nat x.code),
    ("qualifier", .optional .text x.qualifier), ("horizontal", .bool x.horizontal)]

/-- Reads an edge of an image. -/
def SnapshotEdge.ofValue? (v : Value) : Option SnapshotEdge := do
  let [origin, target, code, qualifier, horizontal] ←
    v.savedFields? ["from", "to", "code", "qualifier", "horizontal"] 2 | none
  return {
    origin := ← Value.required Value.nat32? origin
    target := ← Value.required Value.nat32? target
    code := ← Value.required (Value.natBelow? 256) code
    qualifier := ← Value.absent? Value.text? qualifier
    horizontal := ← Value.required Value.bool? horizontal }

namespace Snapshot

def fieldNames : List String :=
  ["version", "start_time", "end_time", "done", "workers", "vertices", "timelines", "edges"]

def toValue (s : Snapshot) : Value :=
  .record [("version", .nat s.version), ("start_time", .nat s.startTime),
    ("end_time", .optional .nat s.endTime), ("done", .bool s.done),
    ("workers", .list (s.workers.map Worker.toValue)),
    ("vertices", .list (s.vertices.map SnapshotVertex.toValue)),
    ("timelines", .list (s.timelines.map fun t => .list (t.map .nat))),
    ("edges", .list (s.edges.map SnapshotEdge.toValue))]

/-- Reads an image. -/
def ofValue? (v : Value) : Option Snapshot := do
  let [version, startTime, endTime, done, workers, vertices, timelines, edges] ←
    v.savedFields? fieldNames 0 | none
  return {
    version := ← Value.required Value.nat32? version
    startTime := ← Value.required Value.nat64? startTime
    endTime := ← Value.absent? Value.nat64? endTime
    done := ← Value.required Value.bool? done
    workers := ← Value.required (Value.list? Worker.ofValue?) workers
    vertices := ← Value.required (Value.list? SnapshotVertex.ofValue?) vertices
    timelines := ← Value.required (Value.list? (Value.list? Value.nat32?)) timelines
    edges := ← Value.required (Value.list? SnapshotEdge.ofValue?) edges }

end Snapshot

/-! ## § 3. Files -/

/-- Why a file is not reopened. -/
inductive LoadError
  /-- There is no file to read. -/
  | io
  /-- The file is not the image of a graph. -/
  | decode
  /-- The graph is of a trace with another start. -/
  | startTimeMismatch (expected found : Time)
  | restore (error : RestoreError)
  deriving DecidableEq

/-- The text of a refusal that is about the image; one that is about the file has none of its
own. -/
def LoadError.message? : LoadError → Option String
  | .startTimeMismatch expected found =>
    some s!"Graph was built from a trace starting at {found}, expected {expected}"
  | .restore error => some error.message
  | _ => none

namespace Graph

def save (g : Graph) : List UInt8 := MessagePack.encode g.snapshot.toValue

/-- Reopens a graph from the content of its file, if there is a file. -/
def load (file : Option (List UInt8)) (expected : Option Time) : Except LoadError Graph :=
  match file with
  | none => .error .io
  | some bytes =>
    match (MessagePack.parse? bytes).bind Snapshot.ofValue? with
    | none => .error .decode
    | some s =>
      match expected.filter (· ≠ s.startTime) with
      | some t => .error (.startTimeMismatch t s.startTime)
      | none => s.restore.mapError .restore

end Graph

end CausalPath
