import CausalPath.Path.Breakdown
import CausalPath.Path.Search

/-!
# Reports as listings

A report for people lists the segments of each path, one per line, and on demand a breakdown.
-/

namespace CausalPath

def PathSegment.line (s : PathSegment) : String :=
  "  [" ++ Text.alignRight 20 (toString s.start) ++ " .. " ++ Text.alignRight 20 (toString s.stop)
    ++ "] " ++ Text.alignRight 12 (toString s.duration) ++ " ns  "
    ++ Text.alignLeft 12 s.state.label ++ " " ++ toString s.worker
    ++ s.qualifier.elim "" (fun q => " (" ++ q ++ ")")

def CriticalPath.listing (p : CriticalPath) (w : Worker) (withBreakdown : Bool) : String :=
  Text.ofLines (s!"Critical path of {w}: {p.totalDuration} ns in {p.segments.length} segments"
      :: p.segments.map PathSegment.line)
    ++ (if withBreakdown then "\n" ++ p.breakdown.summary else "")
    ++ "\n"

def PathError.listing (e : PathError) (w : Worker) : String :=
  s!"Critical path of {w} unavailable: {e.message}\n\n"

def noWorkersListing : String := "No matching workers.\n"

end CausalPath
