import CausalPath.Proofs.Path.Moves
import CausalPath.Proofs.Search.Precedence

/-!
# Parts of a walk back

A walk back along a chain passes the vertices of the chain one after the other, and from each of
them on it is the walk back from there. So its steps fall into those before a vertex and those
after it. A walk that stops early, at a bound, takes the last of the steps of the whole walk.
-/

namespace CausalPath

namespace Graph

variable {g : Graph} {bound : Option Time} {v o o' m : Vertex} {steps steps' newer : List PathStep}

/-! ## § 1. A vertex on the way -/

/-- The walk back from a vertex is determined by the vertex and the bound. -/
theorem Rewinds.unique (hr : g.Rewinds bound v o steps) (hr' : g.Rewinds bound v o' steps') :
    o = o' ∧ steps = steps' := by
  induction hr generalizing o' steps' with
  | stop hstop =>
    obtain ⟨rfl, rfl⟩ := hr'.of_stop hstop
    exact ⟨rfl, rfl⟩
  | back hlow hinto hstep hrest ih =>
    obtain ⟨older, s, rfl, hstep', holder⟩ := hr'.of_back hlow hinto
    obtain rfl := Except.ok.inj (hstep.symm.trans hstep')
    obtain ⟨rfl, rfl⟩ := ih holder
    exact ⟨rfl, rfl⟩

/-- A walk back to the head goes on from a vertex of the chain as the walk back from there does, and
the steps it took before are about edges that start no earlier. -/
theorem Rewinds.passes (h : g.Sound) (hr : g.Rewinds none v o steps)
    (hv : g.vertex? v.id = some v) (hm : g.vertex? m.id = some m) (hp : g.Precedes m.id v.id) :
    ∃ older newer, steps = older ++ newer ∧ g.Rewinds none m o older ∧
      ∀ x ∈ newer, m.time ≤ x.edge.origin.time := by
  induction hr with
  | @stop v hstop =>
    rcases h.precedes_cases hp with heq | ⟨e, he, -⟩
    · rw [heq, hv] at hm
      obtain rfl := Option.some.inj hm
      exact ⟨[], [], rfl, .stop hstop, by simp⟩
    · rw [hstop.resolve_left (by simp)] at he
      exact absurd he (by simp)
  | @back v e s o steps hlow hinto hstep hrest ih =>
    rcases h.precedes_cases hp with heq | ⟨e', he', hp'⟩
    · rw [heq, hv] at hm
      obtain rfl := Option.some.inj hm
      exact ⟨steps ++ s, [], by simp, .back hlow hinto hstep hrest, by simp⟩
    · obtain rfl := Option.some.inj (hinto.symm.trans he')
      have hd := h.drawn (h.into_iff.1 hinto).1
      obtain ⟨older, newer, rfl, hold, hnew⟩ := ih hd.origin hp'
      refine ⟨older, newer ++ s, by simp, hold, ?_⟩
      intro x hx
      rcases List.mem_append.1 hx with hx | hx
      · exact hnew x hx
      · rw [(takes_of_stepFor hstep x hx).1]
        exact h.precedes_time hp' hm hd.origin

/-- A walk back to the head takes the step of every edge of the chain on its way. -/
theorem Rewinds.passes_edge (h : g.Sound) (hr : g.Rewinds none v o steps)
    (hv : g.vertex? v.id = some v) {e : Edge} (he : g.Has e) (hh : e.horizontal = true)
    (hp : g.Precedes e.target.id v.id) :
    ∃ older s newer, steps = older ++ s ++ newer ∧ g.stepFor e = .ok s ∧
      g.Rewinds none e.origin o older ∧ ∀ x ∈ newer, e.target.time ≤ x.edge.origin.time := by
  have hinto := h.into_iff.2 ⟨he, hh, rfl⟩
  obtain ⟨through, newer, rfl, hthrough, hnew⟩ := hr.passes h hv (h.drawn he).target hp
  obtain ⟨older, s, rfl, hstep, hrest⟩ := hthrough.of_back rfl hinto
  exact ⟨older, s, newer, rfl, hstep, hrest, hnew⟩

/-! ## § 2. A bound on the way -/

/-- From where a bound stops a walk, the walk without a bound goes on. -/
theorem Rewinds.resume {low : Time} (hshort : g.Rewinds (some low) v o' newer)
    (hr : g.Rewinds none v o steps) :
    ∃ older, steps = older ++ newer ∧ g.Rewinds none o' o older := by
  induction hshort generalizing steps with
  | stop => exact ⟨steps, by simp, hr⟩
  | back hlow hinto hstep hrest ih =>
    obtain ⟨through, s, rfl, hstep', hthrough⟩ := hr.of_back rfl hinto
    obtain rfl := Except.ok.inj (hstep.symm.trans hstep')
    obtain ⟨older, rfl, hold⟩ := ih hthrough
    exact ⟨older, by simp, hold⟩

/-- A walk bounded by the time of a vertex of the chain does not go past the vertex. -/
theorem Rewinds.precedes_end (h : g.Sound) (hshort : g.Rewinds (some m.time) v o' newer)
    (hv : g.vertex? v.id = some v) (hm : g.vertex? m.id = some m) (hp : g.Precedes m.id v.id) :
    g.Precedes m.id o'.id := by
  induction hshort with
  | stop => exact hp
  | @back v e s o' newer hlow hinto hstep hrest ih =>
    rcases h.precedes_cases hp with heq | ⟨e', he', hp'⟩
    · -- the bound would have stopped the walk here
      rw [heq, hv] at hm
      obtain rfl := Option.some.inj hm
      simp at hlow
    · obtain rfl := Option.some.inj (hinto.symm.trans he')
      exact ih (h.drawn (h.into_iff.1 hinto).1).origin hp'

/-- Between a vertex and the place where a walk bounded by its time stops, no time passes. -/
theorem Rewinds.end_time (h : g.Sound) (hshort : g.Rewinds (some m.time) v o' newer)
    (hv : g.vertex? v.id = some v) (hm : g.vertex? m.id = some m) (hp : g.Precedes m.id v.id) :
    o'.time = m.time := by
  obtain ⟨w, hmm, hmv⟩ := hp.mem_chain
  obtain ⟨hin, hparent⟩ := (h.mem_chain w v.id).1 hmv
  rw [parent?_eq, hv] at hparent
  obtain rfl := Option.some.inj hparent
  exact hshort.ends_at_bound h hv hin hm hmm (h.precedes_time hp hm hv)

end Graph

end CausalPath
