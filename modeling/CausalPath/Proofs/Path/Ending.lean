import CausalPath.Graph.Snapshot
import CausalPath.Proofs.Path.Cycle
import CausalPath.Proofs.Search.Endless

/-!
# When the search for a path ends

A graph that was restored from an image need not be sound: its horizontal edges may lead round in
circles. The search for a critical path notices the circles that it walks backward, and it ends
unless it looks for a wakeup along a circle of instantaneous edges. The path of `looped` has no end.
-/

namespace CausalPath

namespace Graph

variable {g : Graph} {start : VertexId} {stop : Option VertexId} {cancelled : Bool}

/-- The walk back from `start` takes a wait whose window stalls. -/
def StallsFrom (g : Graph) (start : VertexId) (stop : Option VertexId) : Prop :=
  ∃ s bound b, g.startOf start = .ok s ∧ g.boundOf stop = .ok bound ∧ g.Behind bound s b ∧
    b.state.isMatchable = true ∧ g.Stalls ⟨b.origin.time, b⟩

/-- The walk back has no end only if the step of an edge has none. -/
theorem ownSteps_endless {bound : Option Time} (seen : List VertexId) (later : List PathStep)
    (v : Vertex) {u : VertexId} (herr : g.ownSteps bound seen later v = .error (.endlessScan u)) :
    ∃ b, g.Behind bound v b ∧ g.stepFor b = .error (.endlessScan u) := by
  fun_induction ownSteps g bound seen later v with
  | case1 => exact absurd herr (by simp)
  | case2 => exact absurd herr (by simp)
  | case3 => exact absurd herr (by simp)
  | case4 seen later v hmem hlow e hinto err hstep =>
    obtain rfl := Except.error.inj herr
    exact ⟨e, .here (by simpa using hlow) hinto, hstep⟩
  | case5 seen later v hmem hlow e hinto s hstep ih =>
    obtain ⟨b, hbehind, hb⟩ := ih herr
    exact ⟨b, .back (by simpa using hlow) hinto hbehind, hb⟩

theorem stallsFrom_of_endless {u : VertexId}
    (herr : g.criticalPath start stop cancelled = .error (.endlessScan u)) :
    g.StallsFrom start stop := by
  obtain ⟨s, bound, hs, hbound, -, hown⟩ := (criticalPath_eq_error ⟨u, Or.inr rfl⟩).1 herr
  obtain ⟨b, hbehind, hstep⟩ := ownSteps_endless _ _ _ hown
  obtain ⟨hmatch, hres⟩ := stepFor_eq_error hstep
  have hstalls := resolve_endless hres
  rw [Window.under_self] at hstalls
  exact ⟨s, bound, b, hs, hbound, hbehind, hmatch, hstalls⟩

/-- A search that stalls finds no path. -/
theorem StallsFrom.no_path (hstalls : g.StallsFrom start stop) (p : CriticalPath) :
    g.criticalPath start stop cancelled ≠ .ok p := by
  intro hok
  obtain ⟨s, bound, b, hs, hbound, hbehind, hmatch, hb⟩ := hstalls
  obtain ⟨s', oldest, steps, v, d, hs', -, hr, -, -⟩ := criticalPath_eq_ok hok
  obtain rfl := Option.some.inj ((startOf_eq_ok hs).1.symm.trans hs')
  obtain rfl := boundOf_eq_ok hbound
  obtain ⟨x, hstep⟩ := hr.stepFor_ok hbehind
  obtain ⟨trail, hres⟩ := stepFor_wait hmatch hstep
  have hno := not_stalls_of_resolve hres
  rw [Window.under_self] at hno
  exact hno hb

end Graph

open CausalPath.Graph

/-- In any graph the search for a critical path ends, unless it comes to a wait from whose end
instantaneous edges run on; then it finds no path. What stands for a search without end is a look
for a wakeup along such edges, and the moves inside a window are bounded. -/
theorem endless_only_if_stalls (g : Graph) (start : VertexId) (stop : Option VertexId) :
    (∀ v, (∃ u, g.wakeup v = .error (.endlessScan u)) ↔ g.RunsOn v) ∧
      (∀ bound n (run : Nat → Trail × Vertex), (run 0).1 = .fresh →
        (∀ k < n, g.hop bound (run k).1 (run k).2 = some (run (k + 1))) →
          n ≤ 2 * g.vertices.size) ∧
      (∀ cancelled u, g.criticalPath start stop cancelled = .error (.endlessScan u) →
        g.StallsFrom start stop) ∧
      (g.StallsFrom start stop → ∀ cancelled p, g.criticalPath start stop cancelled ≠ .ok p) ∧
      ((∀ v, ¬g.RunsOn v) → ∀ cancelled u,
        g.criticalPath start stop cancelled ≠ .error (.endlessScan u)) := by
  refine ⟨fun v => wakeup_endless_iff, fun bound n run hstart hrun => moves_le run hstart n hrun,
    fun cancelled u herr => stallsFrom_of_endless herr, fun hstalls cancelled p => hstalls.no_path p,
    ?_⟩
  intro hnone cancelled u herr
  obtain ⟨s, bound, b, -, -, -, -, V, -, hruns⟩ := stallsFrom_of_endless herr
  exact hnone _ hruns

/-- The image of a worker whose two vertices lead to each other, one way by a wait. -/
def looped : Snapshot where
  version := 1
  startTime := 0
  endTime := none
  done := false
  workers := [Worker.thread "h" 1 "w0"]
  vertices := [⟨0, 0, true⟩, ⟨0, 0, true⟩]
  timelines := [[0, 1]]
  edges := [⟨0, 1, 5, none, true⟩, ⟨1, 0, 4, none, true⟩]

/-- The search has no end. -/
def isEndless : Except PathError CriticalPath → Bool
  | .error (.endlessScan _) => true
  | _ => false

/-- The image `looped` is restored, and the search from its second vertex has no end. -/
theorem not_all_searches_end : ∃ g, looped.restore = .ok g ∧ g.contains ⟨1⟩ = true ∧
    g.StallsFrom ⟨1⟩ none ∧ ∃ u, g.criticalPath ⟨1⟩ none false = .error (.endlessScan u) := by
  have hrestored : looped.restore.isOk = true := by cbv
  have hendless : (looped.restore.toOption.any fun g =>
      g.contains ⟨1⟩ && isEndless (g.criticalPath ⟨1⟩ none false)) = true := by cbv
  obtain ⟨g, hg⟩ := exists_of_isOk hrestored
  rw [hg] at hendless
  obtain ⟨hin, hsearch⟩ := Bool.and_eq_true_iff.1 hendless
  unfold isEndless at hsearch
  split at hsearch
  · rename_i u herr
    exact ⟨g, hg, hin, stallsFrom_of_endless herr, u, herr⟩
  · exact absurd hsearch (by simp)

end CausalPath
