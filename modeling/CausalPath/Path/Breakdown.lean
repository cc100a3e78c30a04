import CausalPath.Decimal
import CausalPath.Path.Basic
import CausalPath.Table
import CausalPath.Text.Align

/-!
# Breakdowns

Where the time of a path went: a `Breakdown` sums its segments by state and by worker. Workers are
told apart by their display text. The sums are words, so they wrap; the lists by time are sorted by
falling total, and states with one total by code, workers by text, so that the order of recording
does not show.
-/

namespace CausalPath

/-! ## § 1. Shares -/

/-- The time of some segments. -/
structure TimeShare where
  /-- The number of segments. -/
  count : Nat
  total : Time
  /-- The length of the longest segment. -/
  longest : Time
  deriving DecidableEq, Repr, Inhabited

namespace TimeShare

def none : TimeShare := ⟨0, 0, 0⟩

def record (s : TimeShare) (duration : Time) : TimeShare where
  count := s.count + 1
  total := (s.total + duration) % wordCount
  longest := max s.longest duration

end TimeShare

/-- The time of a path, by state and by worker. -/
structure Breakdown where
  byState : Table EdgeState TimeShare
  /-- The keys are the display texts of the workers. -/
  byWorker : Table String TimeShare

namespace Breakdown

/-! ## § 2. Recording -/

def empty : Breakdown := ⟨.empty, .empty⟩

def tally {κ : Type} [DecidableEq κ] (shares : Table κ TimeShare) (k : κ) (duration : Time) :
    Table κ TimeShare :=
  shares.insert k (((shares.get? k).getD .none).record duration)

def record (b : Breakdown) (s : PathSegment) : Breakdown where
  byState := tally b.byState s.state s.duration
  byWorker := tally b.byWorker (toString s.worker) s.duration

def ofSegments (segments : List PathSegment) : Breakdown := segments.foldl record empty

end Breakdown

def CriticalPath.breakdown (p : CriticalPath) : Breakdown := .ofSegments p.segments

namespace Breakdown

/-! ## § 3. Totals -/

def total (b : Breakdown) : Time := Time.total (b.byState.entries.map (·.2.total))

def count (b : Breakdown) : Nat := (b.byState.entries.map (·.2.count)).foldl (· + ·) 0

/-- Whether one share is listed before another: by falling total, then by key. -/
def precedes {κ : Type} (keyLe : κ → κ → Bool) (a b : κ × TimeShare) : Bool :=
  decide (b.2.total < a.2.total) || (decide (a.2.total = b.2.total) && keyLe a.1 b.1)

def statesByTime (b : Breakdown) : List (EdgeState × TimeShare) :=
  b.byState.entries.mergeSort (precedes fun x y => x.code ≤ y.code)

def workersByTime (b : Breakdown) : List (String × TimeShare) :=
  b.byWorker.entries.mergeSort (precedes fun x y => (compare x y).isLE)

/-! ## § 4. The table -/

def seconds (t : Time) : String :=
  Text.alignRight 11 (Decimal.fixed ((UInt64.ofNat t).toFloat / 1000000000.0) 6)

def percent (part whole : Time) : String :=
  Text.alignRight 6 (Decimal.fixed (percentOf part whole) 2)

def rule : String := "------ ----------- --------- ------------- ----------------"

def stateLine (whole : Time) (e : EdgeState × TimeShare) : String :=
  " ".intercalate [percent e.2.total whole, seconds e.2.total,
    Text.alignRight 9 (toString e.2.count), Text.alignRight 13 (toString e.2.longest), toString e.1]

def workerLine (whole : Time) (e : String × TimeShare) : String :=
  " ".intercalate [percent e.2.total whole, seconds e.2.total, e.1]

def totalLine (b : Breakdown) : String :=
  " ".intercalate ["100.00", seconds b.total, Text.alignRight 9 (toString b.count), Text.blanks 13,
    "total"]

/-- The breakdown as a table. -/
def summary (b : Breakdown) : String :=
  Text.ofLines <|
    if b.byState.entries.isEmpty then
      ["Empty critical path."]
    else
      ["% time     seconds  segments       max(ns) state", rule]
        ++ b.statesByTime.map (stateLine b.total) ++ [rule, b.totalLine, ""]
        ++ ["% time     seconds worker"] ++ b.workersByTime.map (workerLine b.total)

end Breakdown

end CausalPath
