import CausalPath.Proofs.Build.Run

/-!
# Paths in built graphs

When no two events of a trace have the same time, the graph that a builder makes of them is calm,
and closing it adds nothing but filler. So every search in it gives a path, before and after the
graph is closed.
-/

namespace CausalPath

open CausalPath.Graph

namespace Builder

variable {b b₀ : Builder} {es : List Event}

/-- To finish is to close the graph, whether or not that is granted. -/
theorem graph_finish (b : Builder) (stop : Time) :
    (b.finish stop).2.graph = (b.graph.close stop).2 := by
  unfold finish
  split
  · rename_i hclose
    rw [hclose]
  · rename_i hclose
    rw [hclose]

/-- The graph of a builder that has met no two events of one time is sound and calm, and so it is
when it is closed. -/
theorem Steady.calm_finish (h : b.Steady True) (stop : Time) :
    (b.finish stop).2.graph.Sound ∧ (b.finish stop).2.graph.Calm := by
  rw [graph_finish]
  exact ⟨(close_grows h.sound stop).sound h.sound, (h.sound.close_pads stop).calm (h.calm trivial)⟩

/-- In the graph of a trace whose times rise, closed or not, every worker has a path and so has
every vertex of a chain. -/
theorem every_vertex_has_path {start : Time} {c : Config} {g : Graph}
    (hnew : Builder.new (.new start) c = .ok b₀) (hrising : es.Pairwise (·.time < ·.time))
    (hrun : b₀.processAll es = b) (hg : g = b.graph ∨ ∃ stop, g = (b.finish stop).2.graph) :
    (∀ w, ∃ p, g.workerPath w false = .ok p) ∧
      ∀ v, g.contains v = true → ∃ p, g.criticalPath v none false = .ok p := by
  subst hrun
  have hstart : Between True b₀ := between_new hnew
  have hfirst : b₀.Rising es := by
    refine ⟨hrising, fun e _ t ht => ?_⟩
    rw [(new_zero hnew).2.2] at ht
    exact absurd ht (by simp)
  have hran : Ran True b₀ es (b₀.processAll es) := hstart.processAll fun _ => hfirst
  have hcalm : g.Sound ∧ g.Calm := by
    rcases hg with rfl | ⟨stop, rfl⟩
    · exact ⟨hran.sound, hran.calm trivial⟩
    · exact hran.toSteady.calm_finish stop
  exact ⟨fun w => hcalm.1.workerPath_of_calm hcalm.2 w,
    fun v hv => hcalm.1.criticalPath_of_calm hcalm.2 hv⟩

/-- A thread that blocks and is woken by the one that runs after it. -/
def wokenTrace : List Event :=
  [(((Event.new "sched_switch" 1 0).withField "prev_tid" (.int 1)).withField "prev_state" (.int 1)
      ).withField "next_tid" (.int 2),
    (Event.new "sched_waking" 5 0).withField "tid" (.int 1),
    ((Event.new "sched_switch" 7 0).withField "prev_tid" (.int 2)).withField "next_tid" (.int 1)]

/-- In the closed graph both threads have a path, and so has the vertex of the wakeup. -/
theorem wokenTrace_has_paths : ∃ b₀ g, Builder.new (.new 0) .standard = .ok b₀ ∧
    wokenTrace.Pairwise (·.time < ·.time) ∧ g = ((b₀.processAll wokenTrace).finish 7).2.graph ∧
    (∀ w, ∃ p, g.workerPath w false = .ok p) ∧
    g.contains ⟨2⟩ = true ∧ ∃ p, g.criticalPath ⟨2⟩ none false = .ok p := by
  have hrising : wokenTrace.Pairwise (·.time < ·.time) := by decide
  have hin : (Builder.new (.new 0) .standard).map (fun b =>
      ((b.processAll wokenTrace).finish 7).2.graph.contains ⟨2⟩) = .ok true := by cbv
  obtain ⟨b₀, hnew, hin⟩ := map_eq_ok.1 hin
  have hrun : b₀.processAll wokenTrace = b₀.processAll wokenTrace := rfl
  obtain ⟨hworkers, hvertices⟩ := every_vertex_has_path hnew hrising hrun (Or.inr ⟨7, rfl⟩)
  exact ⟨b₀, _, hnew, hrising, rfl, hworkers, hin, hvertices _ hin⟩

end Builder

end CausalPath
