import CausalPath.Builder.Basic
import CausalPath.Path.Breakdown
import CausalPath.Value.Json

/-!
# Reports as documents

A report for machines is a JSON document: a summary of the graph, the paths that were computed, each
with its segments and links, and the workers whose path could not be computed, with the reason.
-/

namespace CausalPath

/-! ## § 1. Paths -/

/-- A field that is left out when there is nothing to say. -/
def Value.ifSome {α : Type} (name : String) (f : α → Value) (x : Option α) :
    List (String × Value) :=
  (x.map fun a => (name, f a)).toList

def Worker.brief (w : Worker) : Value :=
  .record [("host", .text w.host), ("tid", .int w.tid), ("name", .text w.name)]

def PathSegment.toValue (s : PathSegment) : Value :=
  .record ([("worker", s.worker.brief), ("start", .nat s.start), ("end", .nat s.stop),
    ("duration", .nat s.duration), ("state", .text s.state.label)]
    ++ Value.ifSome "qualifier" .text s.qualifier)

def PathLink.toValue (l : PathLink) : Value :=
  .record ([("from", l.origin.brief), ("to", l.target.brief), ("from_timestamp", .nat l.originTime),
    ("to_timestamp", .nat l.targetTime), ("state", .text l.state.label)]
    ++ Value.ifSome "qualifier" .text l.qualifier)

/-- The time of one state along a path. -/
structure StateTime where
  state : EdgeState
  segments : Nat
  total : Time
  deriving DecidableEq, Repr

def StateTime.toValue (s : StateTime) : Value :=
  .record
    [("state", .text s.state.label), ("segments", .nat s.segments), ("total_ns", .nat s.total)]

/-- The times of the states of a breakdown, by falling total. -/
def Breakdown.stateTimes (b : Breakdown) : List StateTime :=
  b.statesByTime.map fun e => ⟨e.1, e.2.count, e.2.total⟩

/-- A path in a report. -/
structure ReportedPath where
  worker : Worker
  path : CriticalPath
  /-- The interval of which the path covers a share. -/
  interval : Option Time
  breakdown : Option (List StateTime)

def ReportedPath.toValue (p : ReportedPath) : Value :=
  .record ([("worker", p.worker.brief), ("total_duration", .nat p.path.totalDuration)]
    ++ Value.ifSome "coverage_percent" (fun t => .real (p.path.coverage t)) p.interval
    ++ [("segments", .list (p.path.segments.map PathSegment.toValue)),
      ("links", .list (p.path.links.map PathLink.toValue))]
    ++ Value.ifSome "breakdown" (fun l => .list (l.map StateTime.toValue)) p.breakdown)

/-! ## § 2. Documents -/

/-- A worker whose path could not be computed. -/
structure UnavailablePath where
  worker : Worker
  reason : String
  deriving DecidableEq

def UnavailablePath.toValue (u : UnavailablePath) : Value :=
  .record [("worker", u.worker.brief), ("reason", .text u.reason)]

/-- The size of a graph, and the counters of its build if it was built here. -/
structure GraphSummary where
  workers : Nat
  vertices : Nat
  edges : Nat
  stats : Option BuildStats
  deriving DecidableEq

def Graph.summary (g : Graph) (stats : Option BuildStats) : GraphSummary :=
  ⟨g.timelines.size, g.vertexCount, g.edgeCount, stats⟩

def GraphSummary.toValue (s : GraphSummary) : Value :=
  .record ([("workers", .nat s.workers), ("vertices", .nat s.vertices), ("edges", .nat s.edges)]
    ++ Value.ifSome "stats" BuildStats.toValue s.stats)

/-- A report. -/
structure Report where
  summary : GraphSummary
  paths : List ReportedPath
  unavailable : List UnavailablePath

namespace Report

def version : String := "0.1.0"

def format : String := "rastro-json-v1"

/-- A report as a value. Workers without a path are left out when there are none. -/
def toValue (r : Report) : Value :=
  .record ([("version", .text version), ("format", .text format), ("build", r.summary.toValue),
    ("critical_paths", .list (r.paths.map ReportedPath.toValue))]
    ++ (if r.unavailable.isEmpty then [] else
      [("unavailable", .list (r.unavailable.map UnavailablePath.toValue))]))

def render (r : Report) : String := r.toValue.pretty

end Report

end CausalPath
