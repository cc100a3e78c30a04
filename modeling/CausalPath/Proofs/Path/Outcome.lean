import CausalPath.Proofs.Draft.Progress
import CausalPath.Proofs.Path.Cycle

/-!
# Outcomes of critical paths

The steps of a path name workers of the graph only, so the draft of a path is never refused. What is
left to fail is the search, and in a built graph a search fails only at a wait that it comes back
to. `criticalPath_outcome` lists all outcomes.
-/

namespace CausalPath

/-! ## § 1. Workers of movements -/

/-- A movement along a trail is to a worker of one of its edges. -/
theorem trailMoves_worker {trail : List Edge} : ∀ {previous : Option Edge},
    ∀ m ∈ trailMoves previous trail,
      ∃ e ∈ trail, m.worker = e.origin.worker ∨ m.worker = e.target.worker := by
  induction trail with
  | nil =>
    intro previous m hm
    exact absurd hm List.not_mem_nil
  | cons e rest ih =>
    intro previous m hm
    rcases List.mem_append.1 hm with hm | hm
    · refine ⟨e, List.mem_cons_self, Or.inl ?_⟩
      cases previous with
      | none => exact absurd hm List.not_mem_nil
      | some p =>
        simp only [Edge.bridge] at hm
        split at hm
        · exact absurd hm List.not_mem_nil
        · rw [List.mem_singleton.1 hm]
    · rcases List.mem_cons.1 hm with rfl | hm
      · exact ⟨e, List.mem_cons_self, Or.inr rfl⟩
      · obtain ⟨e', he', hm⟩ := ih m hm
        exact ⟨e', List.mem_cons_of_mem _ he', hm⟩

namespace Graph

variable {g : Graph}

/-- All that is read is an edge of the graph. -/
theorem Sound.closed_has (h : g.Sound) : g.Closed g.Has (fun _ => True) where
  into _ he := ⟨(h.into_iff.1 he).1, trivial⟩
  wake _ he := ⟨(h.wake_iff.1 he).1, trivial⟩
  window _ _ _ hw := ⟨h.has_of_wakeup hw, trivial⟩

theorem Sound.resolve_has (h : g.Sound) {bound : Time} {resolving : List EdgeId} {b : Edge}
    {path : List Edge} (hok : g.resolve bound resolving b = .ok path) : ∀ e ∈ path, g.Has e :=
  resolve_within h.closed_has (fun _ hw => ⟨h.has_of_wakeup hw, trivial⟩) hok

/-- The ends of an edge belong to registered workers. -/
theorem Sound.isSome_worker? (h : g.Sound) {e : Edge} (he : g.Has e) :
    (g.worker? e.origin.worker).isSome ∧ (g.worker? e.target.worker).isSome :=
  ⟨h.registered _ _ (h.drawn he).origin, h.registered _ _ (h.drawn he).target⟩

theorem Sound.trail_registered (h : g.Sound) {trail : List Edge} (ht : ∀ e ∈ trail, g.Has e)
    (previous : Option Edge) :
    ∀ m ∈ trailMoves previous trail, (g.worker? m.worker).isSome := by
  intro m hm
  obtain ⟨e, he, hworker⟩ := trailMoves_worker m hm
  obtain ⟨ho, htarget⟩ := h.isSome_worker? (ht e he)
  rcases hworker with hworker | hworker
  · rw [hworker]
    exact ho
  · rw [hworker]
    exact htarget

end Graph

/-! ## § 2. Drafts of paths -/

namespace Draft

variable {source : Graph} {d d' : Draft} {w : WorkerId}

theorem Stands.follow_ok (hs : source.Sound) {a : Anchor} (h : d.Stands source a.vertex)
    {trail : List Edge} (ht : ∀ e ∈ trail, source.Has e) (previous : Option Edge) :
    ∃ d', d.follow source a previous trail = .ok d' ∧ d'.Mirrors source := by
  obtain ⟨a', d', hgo, h'⟩ := h.go_ok hs _ (hs.trail_registered ht previous)
  exact ⟨d', follow_eq_ok.2 ⟨a', hgo⟩, h'.toMirrors⟩

theorem enter_ok (hs : source.Sound) (h : d.Mirrors source) (hw : (source.worker? w).isSome)
    (b : Edge) {first : Edge} (hfirst : source.Has first) :
    ∃ a d', d.enter source w b first = .ok (a, d') ∧ d'.Stands source a.vertex := by
  have hworker := (hs.isSome_worker? hfirst).1
  obtain ⟨v, d₁, hens⟩ := ensure_ok hs h hw b.origin.time
  have hv := ensure_stands hs h hens
  unfold Draft.enter
  rw [hens]
  simp only [bind, Except.bind]
  split
  · exact ⟨⟨w, v⟩, d₁, rfl, hv⟩
  · obtain ⟨glue, d₂, hglue⟩ := ensure_ok hs hv.toMirrors hworker v.time
    have hstands := ensure_stands hs hv.toMirrors hglue
    obtain ⟨d₃, hcon, h₃⟩ :=
      (hv.mono (ensure_extends hs hv.toMirrors hglue) hstands.toMirrors).connect_ok hstands
        .default none
    rw [hglue]
    dsimp only
    rw [hcon]
    dsimp only
    split
    · exact Stands.advance_ok hs (a := ⟨first.origin.worker, glue⟩) h₃ hworker _ _ _
    · exact ⟨⟨first.origin.worker, glue⟩, d₃, rfl, h₃⟩

/-- A step about edges of the source can be written. -/
theorem step_ok (hs : source.Sound) (h : d.Mirrors source) (hw : (source.worker? w).isSome)
    {s : PathStep} (ht : source.Takes s) :
    ∃ d', d.step source w s = .ok d' ∧ d'.Mirrors source := by
  cases s with
  | copy e =>
    obtain ⟨v, d₁, hens⟩ := ensure_ok hs h hw e.origin.time
    have hv := ensure_stands hs h hens
    obtain ⟨v', d₂, hseg⟩ := segment_ok hs hv.toMirrors hw e.target.time e.state e.qualifier
    exact ⟨d₂, bind_eq_ok.2 ⟨(v, d₁), hens, bind_eq_ok.2 ⟨(v', d₂), hseg, rfl⟩⟩,
      (segment_stands hs hv.toMirrors hseg).toMirrors⟩
  | resolved b trail =>
    cases trail with
    | nil => exact absurd rfl ht.1
    | cons first rest =>
      have hhas := hs.resolve_has ht.2.2
      obtain ⟨a, d₁, henter, ha⟩ := enter_ok hs h hw b (hhas first List.mem_cons_self)
      obtain ⟨d₂, hfollow, h₂⟩ := ha.follow_ok hs hhas none
      exact ⟨d₂, bind_eq_ok.2 ⟨(a, d₁), henter, hfollow⟩, h₂⟩

theorem steps_ok (hs : source.Sound) (hw : (source.worker? w).isSome) (steps : List PathStep) :
    ∀ {d : Draft}, d.Mirrors source → (∀ s ∈ steps, source.Takes s) →
      ∃ d', d.steps source w steps = .ok d' ∧ d'.Mirrors source := by
  induction steps with
  | nil =>
    intro d h _
    exact ⟨d, rfl, h⟩
  | cons s rest ih =>
    intro d h ht
    obtain ⟨d₁, hstep, h₁⟩ := step_ok hs h hw (ht s List.mem_cons_self)
    obtain ⟨d', hrest, h'⟩ := ih h₁ fun x hx => ht x (List.mem_cons_of_mem _ hx)
    exact ⟨d', bind_eq_ok.2 ⟨d₁, hstep, hrest⟩, h'⟩

theorem Mirrors.finish_ok (h : d.Mirrors source) : ∃ p, d.finish = .ok p := by
  have hok := h.sound.close_ok h.opened Time.last
  unfold finish
  cases hclose : d.graph.close Time.last with
  | mk r g =>
    rw [hclose] at hok
    subst hok
    exact ⟨⟨g⟩, rfl⟩

end Draft

namespace Graph

variable {g : Graph}

/-- The steps of a walk back along a chain can be written. -/
theorem Rewinds.steps_ok (h : g.Sound) {bound : Option Time} {start oldest : Vertex}
    {steps : List PathStep} (hr : g.Rewinds bound start oldest steps)
    (hv : g.vertex? start.id = some start) :
    ∃ v d d', (Draft.new g.startTime).ensure g start.worker oldest.time = .ok (v, d) ∧
      d.steps g start.worker steps = .ok d' ∧ d'.Mirrors g := by
  have hw := h.registered _ _ hv
  have hnew := Draft.mirrors_new g g.startTime
  obtain ⟨v, d, hens⟩ := Draft.ensure_ok h hnew hw oldest.time
  obtain ⟨d', hsteps, hm⟩ :=
    Draft.steps_ok h hw steps (Draft.ensure_stands h hnew hens).toMirrors hr.takes
  exact ⟨v, d, d', hens, hsteps, hm⟩

/-- The path of a walk back along a chain can be written and closed. -/
theorem Rewinds.draftPath_ok (h : g.Sound) {bound : Option Time} {start oldest : Vertex}
    {steps : List PathStep} (hr : g.Rewinds bound start oldest steps)
    (hv : g.vertex? start.id = some start) :
    ∃ v d p, g.draftPath start oldest steps = .ok (v, d) ∧ d.finish = .ok p := by
  obtain ⟨v₁, d₁, d₂, hens, hsteps, h₂⟩ := hr.steps_ok h hv
  obtain ⟨v, d, hlast⟩ := Draft.ensure_ok h h₂ (h.registered _ _ hv) start.time
  obtain ⟨p, hfinish⟩ := (Draft.ensure_stands h h₂ hlast).toMirrors.finish_ok
  refine ⟨v, d, p, ?_, hfinish⟩
  exact bind_eq_ok.2 ⟨(v₁, d₁), hens, bind_eq_ok.2 ⟨d₂, hsteps, hlast⟩⟩

/-! ## § 3. Outcomes -/

/-- A search whose ends are known gives a path, or comes back to a wait. -/
theorem Sound.criticalPath_ok_or_cycle (h : g.Sound) {start : VertexId} {stop : Option VertexId}
    {s : Vertex} {bound : Option Time} (hs : g.startOf start = .ok s)
    (hbound : g.boundOf stop = .ok bound) :
    (∃ p, g.criticalPath start stop false = .ok p) ∨
      ∃ v, g.criticalPath start stop false = .error (.cycleDetected v) := by
  have hvertex := (startOf_eq_ok hs).1
  obtain rfl := vertex?_id hvertex
  cases hown : g.ownSteps bound [] [] s with
  | error err =>
    obtain ⟨b, hb, hstep⟩ := h.ownSteps_eq_error hvertex (by simp) hown
    obtain ⟨e, rfl, -⟩ := h.resolve_eq_error (h.has_of_behind hb).1 (stepFor_eq_error hstep).2
    exact Or.inr ⟨_, criticalPath_eq_cycle.2 ⟨s, bound, hs, hbound, rfl, hown⟩⟩
  | ok r =>
    obtain ⟨oldest, later⟩ := r
    obtain ⟨steps, rfl, hr⟩ := ownSteps_eq_ok hown
    obtain ⟨v, d, p, hdraft, hfinish⟩ := hr.draftPath_ok h hvertex
    rw [List.append_nil] at hown
    refine Or.inl ⟨p, bind_eq_ok.2 ⟨s, hs, bind_eq_ok.2 ⟨bound, hbound, ?_⟩⟩⟩
    refine guard_eq_ok.2 ⟨by simp, bind_eq_ok.2 ⟨(oldest, steps), hown, ?_⟩⟩
    exact bind_eq_ok.2 ⟨(v, d), hdraft, hfinish⟩

theorem vertex?_eq_none_iff {v : VertexId} : g.vertex? v = none ↔ g.time? v = none := by
  rw [time?_eq, Option.map_eq_none_iff]

end Graph

open CausalPath.Graph in
/-- Whatever calls a graph has seen, a search in it ends. It has no answer for a start that does not
exist or is in no chain, and for an end that does not exist; every other search gives a path or
reports a cycle. -/
theorem criticalPath_outcome (time : Time) (ms : List Mutation) (start : VertexId)
    (stop : Option VertexId) :
    let g := Mutation.runAll ms (Graph.new time)
    (g.vertex? start = none → g.criticalPath start stop false = .error (.unknownVertex start)) ∧
    ((g.vertex? start).isSome → g.contains start = false →
      g.criticalPath start stop false = .error (.missingHead start)) ∧
    (∀ m, g.contains start = true → stop = some m → g.vertex? m = none →
      g.criticalPath start stop false = .error (.unknownVertex m)) ∧
    (g.contains start = true → (∀ m, stop = some m → (g.vertex? m).isSome) →
      (∃ p, g.criticalPath start stop false = .ok p) ∨
        ∃ v, g.criticalPath start stop false = .error (.cycleDetected v)) := by
  intro g
  have h : g.Sound := Built.sound ⟨time, ms, rfl⟩
  have hstart : g.contains start = true → ∃ s, g.startOf start = .ok s := by
    intro hin
    obtain ⟨s, hs⟩ := vertex?_isSome_of_contains hin
    exact ⟨s, by simp [startOf, hs, hin]⟩
  refine ⟨?_, ?_, ?_, ?_⟩
  · intro hnone
    exact bind_eq_error.2 (Or.inl (by simp [startOf, hnone]))
  · intro hsome hout
    obtain ⟨s, hs⟩ := Option.isSome_iff_exists.1 hsome
    exact bind_eq_error.2 (Or.inl (by simp [startOf, hs, hout]))
  · rintro m hin rfl hnone
    obtain ⟨s, hs⟩ := hstart hin
    have htime := vertex?_eq_none_iff.1 hnone
    exact bind_eq_error.2 (Or.inr ⟨s, hs, bind_eq_error.2 (Or.inl (by simp [boundOf, htime]))⟩)
  · intro hin hstop
    obtain ⟨s, hs⟩ := hstart hin
    have hbound : ∃ bound, g.boundOf stop = .ok bound := by
      cases stop with
      | none => exact ⟨none, rfl⟩
      | some m =>
        obtain ⟨u, hu⟩ := Option.isSome_iff_exists.1 (hstop m rfl)
        exact ⟨some u.time, by simp [boundOf, time?_eq, hu]⟩
    obtain ⟨bound, hbound⟩ := hbound
    exact h.criticalPath_ok_or_cycle hs hbound

end CausalPath
