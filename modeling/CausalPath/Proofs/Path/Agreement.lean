import CausalPath.Proofs.Draft.Links
import CausalPath.Proofs.Path.Outcome
import CausalPath.Proofs.Search.Agreement

/-!
# Paths of graphs that agree

Where two graphs agree, the walk back along a chain takes the same steps in both. The draft of these
steps reads nothing of a graph but its workers, and a graph that grows keeps its workers. So as long
as a search does not see the growth, the path is the same.
-/

namespace CausalPath

namespace Graph

variable {g g' : Graph} {Q : VertexId → Prop} {bound : Option Time} {v : Vertex} {e : Edge}

/-! ## § 1. The walk back along a chain -/

theorem Agrees.stepFor (ha : Agrees Q g g') (h : g.Sound) {v : VertexId} (hv : Q v)
    (hinto : g.edgeAt? v .incomingHorizontal = some e) : g'.stepFor e = g.stepFor e := by
  unfold Graph.stepFor
  split
  · rfl
  · split
    · rename_i hmatch
      rw [ha.resolve h hv hinto hmatch]
    · rfl

theorem ownSteps_head {seen : List VertexId} {later : List PathStep} (hseen : v.id ∉ seen)
    (hinto : g.edgeAt? v.id .incomingHorizontal = none) :
    g.ownSteps bound seen later v = .ok (v, later) := by
  rw [ownSteps, if_neg hseen]
  split
  · rfl
  · split
    · rfl
    · rename_i hsome
      rw [hinto] at hsome
      exact absurd hsome (by simp)

theorem ownSteps_back {seen : List VertexId} {later : List PathStep} (hseen : v.id ∉ seen)
    (hlow : ¬bound.any (v.time ≤ ·) = true)
    (hinto : g.edgeAt? v.id .incomingHorizontal = some e) :
    g.ownSteps bound seen later v = g.stepFor e >>= fun s =>
      g.ownSteps bound (v.id :: seen) (s ++ later) e.origin := by
  rw [ownSteps, if_neg hseen, if_neg hlow]
  split
  · rename_i hnone
    rw [hinto] at hnone
    exact absurd hnone (by simp)
  · rename_i hsome
    obtain rfl := Option.some.inj (hinto.symm.trans hsome)
    cases g.stepFor e <;> rfl

theorem Agrees.ownSteps (ha : Agrees Q g g') (h : g.Sound) (bound : Option Time)
    (seen : List VertexId) (later : List PathStep) (v : Vertex) (hv : Q v.id) :
    g'.ownSteps bound seen later v = g.ownSteps bound seen later v := by
  fun_induction Graph.ownSteps g bound seen later v with
  | case1 seen later v hseen => rw [Graph.ownSteps, if_pos hseen]
  | case2 seen later v hseen hlow => rw [Graph.ownSteps, if_neg hseen, if_pos hlow]
  | case3 seen later v hseen hlow hinto => exact ownSteps_head hseen ((ha.into _ hv).trans hinto)
  | case4 seen later v hseen hlow e hinto err hstep =>
    rw [ownSteps_back hseen hlow ((ha.into _ hv).trans hinto), ha.stepFor h hv hinto, hstep]
    rfl
  | case5 seen later v hseen hlow e hinto s hstep ih =>
    rw [ownSteps_back hseen hlow ((ha.into _ hv).trans hinto), ha.stepFor h hv hinto, hstep]
    exact ih (ha.closed.into hv hinto).2

/-- The walk back never comes to what is later in the chain, so it does not matter whether that was
seen. -/
theorem Sound.ownSteps_seen (h : g.Sound) {seen seen' : List VertexId} {later : List PathStep}
    (hv : g.vertex? v.id = some v) (hseen : ∀ u ∈ seen, g.place v.id < g.place u)
    (hseen' : ∀ u ∈ seen', g.place v.id < g.place u) :
    g.ownSteps bound seen' later v = g.ownSteps bound seen later v := by
  have hnot : ∀ {l : List VertexId} {v : Vertex}, (∀ u ∈ l, g.place v.id < g.place u) →
      v.id ∉ l := fun hl hmem => Nat.lt_irrefl _ (hl _ hmem)
  fun_induction Graph.ownSteps g bound seen later v generalizing seen' with
  | case1 seen later v hmem => exact absurd hmem (hnot hseen)
  | case2 seen later v hmem hlow => rw [Graph.ownSteps, if_neg (hnot hseen'), if_pos hlow]
  | case3 seen later v hmem hlow hinto => exact ownSteps_head (hnot hseen') hinto
  | case4 seen later v hmem hlow e hinto err hstep =>
    rw [ownSteps_back (hnot hseen') hlow hinto, hstep]
    rfl
  | case5 seen later v hmem hlow e hinto s hstep ih =>
    obtain ⟨hhas, hh, rfl⟩ := h.into_vertex hv hinto
    have hlt := h.place_lt hhas hh
    have hearlier : ∀ {l : List VertexId}, (∀ u ∈ l, g.place e.target.id < g.place u) →
        ∀ u ∈ e.target.id :: l, g.place e.origin.id < g.place u := by
      intro l hl u hu
      rcases List.mem_cons.1 hu with rfl | hu
      · exact hlt
      · exact Nat.lt_trans hlt (hl u hu)
    rw [ownSteps_back (hnot hseen') hlow hinto, hstep]
    exact ih (h.drawn hhas).origin (hearlier hseen) (hearlier hseen')

end Graph

/-! ## § 2. Drafts -/

namespace Draft

variable {g g' : Graph} {d d' : Draft} {w : WorkerId}

theorem outWorker_keeps (hk : g.Keeps g') (hw : (g.worker? w).isSome) (d : Draft) :
    d.outWorker g' w = d.outWorker g w := by
  obtain ⟨x, hx⟩ := Option.isSome_iff_exists.1 hw
  unfold outWorker
  rw [hx, hk.worker? w x hx]

theorem ensure_keeps (hk : g.Keeps g') (hw : (g.worker? w).isSome) (d : Draft) (t : Time) :
    d.ensure g' w t = d.ensure g w t := by
  unfold ensure
  rw [outWorker_keeps hk hw]

theorem segment_keeps (hk : g.Keeps g') (hw : (g.worker? w).isSome) (d : Draft) (t : Time)
    (s : EdgeState) (q : Option String) : d.segment g' w t s q = d.segment g w t s q := by
  unfold segment
  rw [outWorker_keeps hk hw]

theorem advance_keeps (hk : g.Keeps g') (hw : (g.worker? w).isSome) (d : Draft) (a : Anchor)
    (t : Time) (s : EdgeState) (q : Option String) :
    d.advance g' a w t s q = d.advance g a w t s q := by
  unfold advance
  rw [segment_keeps hk hw, ensure_keeps hk hw]

theorem follow_keeps (hk : g.Keeps g') (h : g.Sound) {trail : List Edge}
    (ht : ∀ e ∈ trail, g.Has e) : ∀ (d : Draft) (a : Anchor) (previous : Option Edge),
      d.follow g' a previous trail = d.follow g a previous trail := by
  induction trail with
  | nil =>
    intro d a previous
    rfl
  | cons e rest ih =>
    intro d a previous
    obtain ⟨ho, htarget⟩ := h.isSome_worker? (ht e List.mem_cons_self)
    have hrest := ih fun e' he' => ht e' (List.mem_cons_of_mem _ he')
    unfold follow
    simp only [advance_keeps hk ho, advance_keeps hk htarget, hrest]

theorem enter_keeps (hk : g.Keeps g') (h : g.Sound) (hw : (g.worker? w).isSome) (d : Draft)
    (b : Edge) {first : Edge} (hfirst : g.Has first) :
    d.enter g' w b first = d.enter g w b first := by
  have ho := (h.isSome_worker? hfirst).1
  unfold enter
  simp only [ensure_keeps hk hw, ensure_keeps hk ho, advance_keeps hk ho]

theorem step_keeps (hk : g.Keeps g') (h : g.Sound) (hw : (g.worker? w).isSome) (d : Draft)
    {s : PathStep} (ht : g.Takes s) : d.step g' w s = d.step g w s := by
  cases s with
  | copy e => simp only [Draft.step, ensure_keeps hk hw, segment_keeps hk hw]
  | resolved b trail =>
    cases trail with
    | nil => rfl
    | cons first rest =>
      have hhas := h.resolve_has ht.2.2
      simp only [Draft.step, Draft.explain, enter_keeps hk h hw d b (hhas first List.mem_cons_self),
        follow_keeps hk h hhas]

theorem steps_keeps (hk : g.Keeps g') (h : g.Sound) (hw : (g.worker? w).isSome)
    (steps : List PathStep) : ∀ d : Draft, (∀ s ∈ steps, g.Takes s) →
      d.steps g' w steps = d.steps g w steps := by
  induction steps with
  | nil =>
    intro d _
    rfl
  | cons s rest ih =>
    intro d ht
    simp only [Draft.steps, step_keeps hk h hw d (ht s List.mem_cons_self)]
    exact bind_congr fun d₁ => ih d₁ fun x hx => ht x (List.mem_cons_of_mem _ hx)

theorem ensure_written (hs : g.Sound) (h : d.Mirrors g) {t : Time} {v : Vertex}
    (hok : d.ensure g w t = .ok (v, d')) : d'.graph.written = d.graph.written := by
  obtain ⟨d₁, i, henl, hm, -, ⟨rfl, -⟩ | ⟨-, hput⟩⟩ := ensure_cases hs h hok
  · exact henl.written h
  · obtain ⟨-, rfl, -⟩ := put_eq_ok hm.sound hput
    exact hm.sound.written_filler.trans (henl.written h)

/-- Where the path of a written draft arrives does not show in its segments and links. -/
theorem Mirrors.arrive (hm : d.Mirrors g) (h : g.Sound) (hw : (g.worker? w).isSome) (t : Time) :
    ∃ v d' p, d.ensure g w t = .ok (v, d') ∧ d'.finish = .ok p ∧
      p.segments = d.graph.written.mergeSort (fun a b => a.start ≤ b.start) ∧
      p.links = d.graph.linked := by
  obtain ⟨v, d', hens⟩ := ensure_ok h hm hw t
  have hm' := (ensure_stands h hm hens).toMirrors
  obtain ⟨p, hfinish⟩ := hm'.finish_ok
  have hfills := finish_fills hm'.sound hfinish
  refine ⟨v, d', p, hens, hfinish, ?_, ?_⟩
  · rw [← ensure_written h hm hens, ← hfills.written]
    rfl
  · rw [← ensure_linked h hm hens, ← hfills.linked hm'.sound]
    rfl

end Draft

namespace Graph

variable {g g' : Graph} {Q : VertexId → Prop} {bound : Option Time} {s s' oldest : Vertex}
  {steps : List PathStep} {start : VertexId} {stop : Option VertexId}

theorem draftPath_keeps (hk : g.Keeps g') (h : g.Sound) (hw : (g.worker? s.worker).isSome)
    (ht : ∀ x ∈ steps, g.Takes x) : g'.draftPath s oldest steps = g.draftPath s oldest steps := by
  unfold draftPath
  rw [hk.startTime]
  simp only [Draft.ensure_keeps hk hw, fun d => Draft.steps_keeps hk h hw steps d ht]

/-! ## § 3. Whole paths -/

/-- The path from a vertex that is known: its steps, and the draft of them. -/
theorem criticalPath_of_ends (hs : g.startOf start = .ok s) (hbound : g.boundOf stop = .ok bound)
    (cancelled : Bool) :
    g.criticalPath start stop cancelled =
      if cancelled then
        .error .cancelled
      else
        g.ownSteps bound [] [] s >>= fun r => g.draftPath s r.1 r.2 >>= fun x => x.2.finish := by
  unfold criticalPath
  rw [hs, hbound]
  cases cancelled <;> rfl

/-- A search that does not see the growth writes the same path. -/
theorem Agrees.criticalPath (ha : Agrees Q g g') (hk : g.Keeps g') (h : g.Sound)
    (hs : g.vertex? start = some s) (hin : g.contains start = true) (hQ : Q s.id)
    (hstop : ∀ m, stop = some m → (g.vertex? m).isSome) (cancelled : Bool) :
    g'.criticalPath start stop cancelled = g.criticalPath start stop cancelled := by
  have hstart : g.startOf start = .ok s := by simp [startOf, hs, hin]
  have hstart' : g'.startOf start = .ok s := by
    simp [startOf, hk.vertex? _ _ hs, hk.contains _ hin]
  have hbound : ∃ bound, g.boundOf stop = .ok bound ∧ g'.boundOf stop = .ok bound := by
    cases stop with
    | none => exact ⟨none, rfl, rfl⟩
    | some m =>
      obtain ⟨u, hu⟩ := Option.isSome_iff_exists.1 (hstop m rfl)
      exact ⟨some u.time, by simp [boundOf, time?_eq, hu],
        by simp [boundOf, time?_eq, hk.vertex? _ _ hu]⟩
  obtain ⟨bound, hbound, hbound'⟩ := hbound
  rw [criticalPath_of_ends hstart hbound, criticalPath_of_ends hstart' hbound',
    ha.ownSteps h bound [] [] s hQ]
  cases hown : g.ownSteps bound [] [] s with
  | error err => rfl
  | ok r =>
    obtain ⟨oldest, later⟩ := r
    obtain ⟨steps, rfl, hr⟩ := ownSteps_eq_ok hown
    obtain rfl := vertex?_id hs
    have hdraft : g'.draftPath s oldest (steps ++ []) = g.draftPath s oldest (steps ++ []) :=
      draftPath_keeps hk h (h.registered _ _ hs) (by simpa using hr.takes)
    simp only [bind, Except.bind, hdraft]

end Graph

end CausalPath
