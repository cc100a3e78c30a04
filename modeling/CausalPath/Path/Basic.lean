import CausalPath.Graph.Mutation

/-!
# Critical paths

A critical path is the chain of causally linked segments that explains why a worker took as long as
it did. It is kept as an output graph: the horizontal edges that are not filler are its segments,
the vertical edges its links.
-/

namespace CausalPath

/-- Time that a worker spent in one state on a path. -/
structure PathSegment where
  worker : Worker
  start : Time
  stop : Time
  state : EdgeState
  qualifier : Option String
  deriving DecidableEq

/-- The length of a segment: zero when it ends before it starts. -/
def PathSegment.duration (s : PathSegment) : Time := s.stop - s.start

/-- A hop of a path from one worker to another. -/
structure PathLink where
  origin : Worker
  target : Worker
  originTime : Time
  targetTime : Time
  state : EdgeState
  qualifier : Option String
  deriving DecidableEq

/-- A critical path, as the output graph of the search. -/
structure CriticalPath where
  graph : Graph
  deriving DecidableEq

namespace CriticalPath

/-- The workers that the path goes through, in order of first appearance. -/
def workers (p : CriticalPath) : List Worker := p.graph.workers

/-- Whether the path goes through a worker of the same identity. -/
def involves (p : CriticalPath) (w : Worker) : Bool := p.workers.any (·.sameIdentity w)

/-- The segment of an edge: a horizontal edge that is not filler. -/
def segment? (p : CriticalPath) (e : Edge) : Option PathSegment :=
  if e.horizontal ∧ e.state ≠ .noEdge then
    (p.graph.worker? e.origin.worker).map
      (⟨·, e.origin.time, e.target.time, e.state, e.qualifier⟩)
  else
    none

def link? (p : CriticalPath) (e : Edge) : Option PathLink :=
  if e.horizontal then
    none
  else do
    let origin ← p.graph.worker? e.origin.worker
    let target ← p.graph.worker? e.target.worker
    return ⟨origin, target, e.origin.time, e.target.time, e.state, e.qualifier⟩

/-- The segments by start time; segments that start together stay in order of creation. -/
def segments (p : CriticalPath) : List PathSegment :=
  (p.graph.edgeList.filterMap p.segment?).mergeSort (fun a b => a.start ≤ b.start)

def links (p : CriticalPath) : List PathLink := p.graph.edgeList.filterMap p.link?

def totalDuration (p : CriticalPath) : Time := Time.total (p.segments.map (·.duration))

def isEmpty (p : CriticalPath) : Bool := p.segments.isEmpty && p.links.isEmpty

/-- The longest segment, the last one of several that are longest. -/
def longestSegment? (p : CriticalPath) : Option PathSegment :=
  p.segments.foldl (fun best s => if best.all (·.duration ≤ s.duration) then some s else best) none

end CriticalPath

def percentOf (part whole : Time) : Float :=
  if whole = 0 then
    0.0
  else
    (UInt64.ofNat part).toFloat / (UInt64.ofNat whole).toFloat * 100.0

/-- The share of an interval that the path covers, in percent. -/
def CriticalPath.coverage (p : CriticalPath) (interval : Time) : Float :=
  percentOf p.totalDuration interval

end CausalPath
