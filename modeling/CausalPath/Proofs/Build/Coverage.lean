import CausalPath.Proofs.Build.Paths
import CausalPath.Proofs.Path.OwnChain

/-!
# The time that a trace covers

A trace starts at its first event and ends at the latest one. Events that are out of order are
skipped, and every other event makes its vertices at its own time; so no vertex lies outside the
trace, and the chains of the finished graph end where the trace ends. The segments of a path do not
overlap, so a path takes no longer than the trace.
-/

namespace CausalPath

open CausalPath.Graph

/-! ## § 1. Scenes after a time -/

/-- No vertex is earlier than the time, and no edge is a hop. -/
structure Scene.Since (start : Time) (s : Scene) : Prop where
  times : ∀ v r, s.graph.time? v = some r → start ≤ r
  states : ∀ i x, s.graph.edgeRecord? i = some x → x.state ≠ .epsilon

variable {t start : Time} {s s₀ s' : Scene} {pair : Option (MatchedPair VertexId)}

theorem Scene.Since.pushEdge (h : s.Since start) {x : EdgeRecord} (hx : x.state ≠ .epsilon)
    (links : Table WorkerId NetworkLink) :
    Scene.Since start { s with graph := s.graph.pushEdge x, links := links } where
  times v r hr := h.times v r ((time?_pushEdge _ _ _).symm.trans hr)
  states i y hy := by
    have hy : (s.graph.pushEdge x).edgeRecord? i = some y := hy
    rw [edgeRecord?_pushEdge] at hy
    split at hy
    · exact Option.some.inj hy ▸ hx
    · exact h.states i y hy

theorem Scene.Since.grown (h : s.Since start) (ht : start ≤ t) (w : WorkerId) {state : EdgeState}
    (hstate : state ≠ .epsilon) (q : Option String) :
    Scene.Since start { s with graph := s.graph.grown w t state q } where
  times v r hr := by
    rcases time?_grown_cases hr with ⟨-, rfl⟩ | hr
    · exact ht
    · exact h.times v r hr
  states i x hx := by
    rcases edgeRecord?_grown_cases hx with hx | hx
    · exact h.states i x hx
    · exact hx ▸ hstate

theorem Deed.since (h : Deed t s s') (hs : s.Since start) (ht : start ≤ t) : s'.Since start := by
  cases h with
  | track m => exact ⟨hs.times, hs.states⟩
  | register x => exact ⟨hs.times, hs.states⟩
  | grow w state q _ hstate _ => exact hs.grown ht w hstate q
  | deliver hl => exact hs.pushEdge (by simp [NetworkLink.edge]) _
  | join u v => exact hs.pushEdge (by simp) _

theorem Deeds.since (h : Deeds t s₀ s) (hs : s₀.Since start) (ht : start ≤ t) :
    s.Since start := by
  induction h with
  | refl => exact hs
  | tail _ hdeed ih => exact hdeed.since ih ht

theorem Course.since (h : Course t s₀ pair s) (hs : s₀.Since start) (ht : start ≤ t) :
    s.Since start := by
  cases h with
  | pass h _ => exact h.since hs ht
  | mark h _ _ => exact (h.since hs ht).grown ht _ (by decide) none
  | redirect h _ v => exact (h.since hs ht).pushEdge (by simp [NetworkLink.edge]) _
  | park h _ _ _ _ => exact ⟨(h.since hs ht).times, (h.since hs ht).states⟩

/-! ## § 2. Runs after a time -/

namespace Builder

variable {b b₀ : Builder} {es : List Event} {c : Config}

/-- The events so far, or else the first one to come, are not earlier than the time. -/
structure Begun (start : Time) (b : Builder) (es : List Event) : Prop where
  last : ∀ s, b.lastTime = some s → start ≤ s
  first : b.lastTime = none → ∀ e ∈ es.head?, start ≤ e.time

/-- An event that comes in order is not earlier than the time, and any other does nothing. -/
theorem Passed.since {strict : Prop} {e : Event} {b' : Builder} (hp : Passed strict b e b')
    (hb : b.Begun start (e :: es)) (hs : b.scene.Since start) :
    b'.Begun start es ∧ b'.scene.Since start := by
  rcases hp.course with ⟨horder, hlast, hcourse⟩ | ⟨⟨r, hr, -⟩, hlast, -, hsame⟩
  · have hlate : start ≤ e.time := by
      cases hbefore : b.lastTime with
      | none => exact hb.first hbefore e rfl
      | some r => exact Nat.le_trans (hb.last r hbefore) (horder r hbefore)
    refine ⟨⟨?_, ?_⟩, hcourse.since hs hlate⟩
    · intro r hr
      exact Option.some.inj (hlast.symm.trans hr) ▸ hlate
    · intro hnone
      exact absurd (hlast.symm.trans hnone) (by simp)
  · refine ⟨⟨?_, ?_⟩, hsame ▸ hs⟩
    · rw [hlast]
      exact hb.last
    · intro hnone
      exact absurd (hr.symm.trans (hlast.symm.trans hnone)) (by simp)

/-- Whatever events follow the first one, none makes a vertex before it. -/
theorem Between.since (h : Between False b) (hb : b.Begun start es) (hs : b.scene.Since start) :
    (b.processAll es).scene.Since start := by
  induction es generalizing b with
  | nil => exact hs
  | cons e es ih =>
    obtain ⟨-, hpassed⟩ := h.process (e := e) False.elim
    obtain ⟨hb, hs⟩ := hpassed.since hb hs
    exact ih hpassed.toBetween hb hs

/-- The last event that came in order is one of the events. -/
theorem Between.lastTime_mem (h : Between False b) {r : Time}
    (hr : (b.processAll es).lastTime = some r) :
    b.lastTime = some r ∨ ∃ e ∈ es, e.time = r := by
  induction es generalizing b with
  | nil => exact Or.inl hr
  | cons e es ih =>
    obtain ⟨-, hpassed⟩ := h.process (e := e) False.elim
    rcases ih hpassed.toBetween hr with hlast | ⟨e', he', htime⟩
    · rcases hpassed.last with hsame | hnow
      · exact Or.inl (hsame.symm.trans hlast)
      · exact Or.inr ⟨e, List.mem_cons_self, Option.some.inj (hnow.symm.trans hlast)⟩
    · exact Or.inr ⟨e', List.mem_cons_of_mem e he', htime⟩

end Builder

/-! ## § 3. The interval of a trace -/

theorem le_foldl_max {l : List Time} {a x : Time} (hx : x = a ∨ x ∈ l) : x ≤ l.foldl max a := by
  induction l generalizing a x with
  | nil =>
    rcases hx with rfl | hx
    · exact Nat.le_refl _
    · exact absurd hx List.not_mem_nil
  | cons y l ih =>
    -- the accumulator only grows
    have hacc : max a y ≤ l.foldl max (max a y) := ih (Or.inl rfl)
    rcases hx with rfl | hx
    · exact Nat.le_trans (Nat.le_max_left _ _) hacc
    · rcases List.mem_cons.1 hx with rfl | hx
      · exact Nat.le_trans (Nat.le_max_right _ _) hacc
      · exact ih (Or.inr hx)

theorem traceStart_le_traceEnd (es : List Event) : traceStart es ≤ traceEnd es :=
  le_foldl_max (Or.inl rfl)

theorem le_traceEnd {es : List Event} {e : Event} (he : e ∈ es) : e.time ≤ traceEnd es :=
  le_foldl_max (Or.inr (List.mem_map_of_mem he))

/-! ## § 4. The time on a path -/

/-- A graph without hops has none when its chains are padded. -/
theorem Scene.Since.epsilonInstant (h : s.Since start) {stop : Time} {g : Graph}
    (hpads : Pads stop s.graph g) : g.EpsilonInstant := by
  intro e he _ hhop
  rcases hpads.filler e (mem_edgeList.2 he) with hold | ⟨-, hfiller, -⟩
  · obtain ⟨x, hx, -, -, heq⟩ := edge?_eq_some_iff.1 (mem_edgeList.1 hold)
    rw [heq] at hhop
    exact absurd hhop (h.states _ x hx)
  · rw [hfiller] at hhop
    exact absurd hhop (by decide)

/-- When the vertices of a graph lie in an interval, the segments of a worker's path take no longer
than the interval. -/
theorem Graph.Sound.workerPath_sum_le {g : Graph} (h : g.Sound) (heps : g.EpsilonInstant)
    {low high : Time} (htimes : ∀ v r, g.time? v = some r → low ≤ r ∧ r ≤ high) {w : WorkerId}
    {cancelled : Bool} {p : CriticalPath} (hok : g.workerPath w cancelled = .ok p) :
    Time.sum (p.segments.map (·.duration)) ≤ high - low := by
  unfold workerPath at hok
  split at hok
  · rename_i tail htail
    rw [tail?_eq] at htail
    obtain ⟨v, hv⟩ := vertex?_isSome_of_contains (h.contains_tail htail)
    obtain rfl := vertex?_id hv
    obtain ⟨oldest, steps, hr, hperm⟩ := criticalPath_segments h heps hv hok
    obtain ⟨holdest, -, -, -⟩ := hr.within h hv
    have hbound : ∀ {u : Vertex}, g.vertex? u.id = some u → low ≤ u.time ∧ u.time ≤ high := by
      intro u hu
      exact htimes u.id u.time (by rw [time?_eq, hu]; rfl)
    calc Time.sum (p.segments.map (·.duration))
      _ = Time.sum ((g.segmentsOf v.worker steps).map (·.duration)) :=
        Time.sum_perm (hperm.map _)
      _ ≤ v.time - oldest.time := hr.sum_le h heps hv
      _ ≤ high - oldest.time := Nat.sub_le_sub_right (hbound hv).2 _
      _ ≤ high - low := Nat.sub_le_sub_left (hbound holdest).1 _
  · -- the path of a worker without vertices has no segment
    have hwritten := (Draft.finish_fills (sound_new g.startTime) hok).written
    have hnone : p.segments = [] := by
      have hempty : p.graph.edgeList.filterMap p.segment? = [] := hwritten
      rw [CriticalPath.segments, hempty, List.mergeSort_nil]
    rw [hnone]
    exact Nat.zero_le _

/-! ## § 5. The graph of a trace -/

namespace Builder

variable {b b₀ : Builder} {es : List Event} {c : Config}

/-- The graph that a trace has built, before it is closed. -/
theorem built_in_trace (hnew : Builder.new (.new (traceStart es)) c = .ok b₀) :
    (b₀.processAll es).scene.Since (traceStart es) ∧
      ∀ v r, (b₀.processAll es).graph.time? v = some r → r ≤ traceEnd es := by
  have hstart : Between False b₀ := between_new hnew
  have hran : Ran False b₀ es (b₀.processAll es) := hstart.processAll False.elim
  obtain ⟨-, -, hlast⟩ := new_zero hnew
  refine ⟨hstart.since ⟨?_, ?_⟩ ?_, ?_⟩
  · intro r hr
    exact absurd (hlast.symm.trans hr) (by simp)
  · intro _ e he
    have hhead : es.head? = some e := he
    rw [traceStart, hhead]
    exact Nat.le_refl _
  · unfold Builder.new at hnew
    split at hnew
    · exact absurd hnew (by simp)
    · obtain rfl := Except.ok.inj hnew
      refine ⟨?_, ?_⟩
      · intro v r hr
        simp [scene, time?, Graph.new] at hr
      · intro i x hx
        simp [scene, edgeRecord?, Graph.new] at hx
  · intro v r hr
    obtain ⟨s, hs, hrs⟩ := hran.past v r hr
    rcases hstart.lastTime_mem hs with hbefore | ⟨e, he, rfl⟩
    · exact absurd (hlast.symm.trans hbefore) (by simp)
    · exact Nat.le_trans hrs (le_traceEnd he)

/-- A trace is built into the graph after its events, closed at the latest of them. -/
theorem buildTrace_eq_ok (hnew : Builder.new (.new (traceStart es)) c = .ok b₀)
    (hclosed : ((b₀.processAll es).graph.close (traceEnd es)).1 = .ok ()) :
    buildTrace c es = .ok (.ok (b₀.processAll es).stats,
      ((b₀.processAll es).graph.close (traceEnd es)).2) := by
  unfold buildTrace finish
  rw [hnew]
  dsimp only
  generalize (b₀.processAll es).graph.close (traceEnd es) = done at hclosed ⊢
  obtain ⟨r, g⟩ := done
  have hclosed : r = .ok () := hclosed
  subst hclosed
  rfl

/-- Any trace is built and its graph closed, whatever becomes of its events. Then every vertex lies
between the first event of the trace and the latest one, every chain that is not empty ends at the
latest one, and the path of a worker, if it has one, takes no longer than the trace: neither the
exact time on its segments nor the total that it reports. -/
theorem coverage_within_trace (hnew : Builder.new (.new (traceStart es)) c = .ok b₀) :
    ∃ stats g, buildTrace c es = .ok (.ok stats, g) ∧
      (∀ v r, g.time? v = some r → traceStart es ≤ r ∧ r ≤ traceEnd es) ∧
      (∀ w, g.chainOf w ≠ [] → ∃ v, g.tail? w = some v ∧ g.time? v = some (traceEnd es)) ∧
      ∀ w cancelled p, g.workerPath w cancelled = .ok p →
        Time.sum (p.segments.map (·.duration)) ≤ traceEnd es - traceStart es ∧
          p.totalDuration ≤ traceEnd es - traceStart es := by
  have hstart : Between False b₀ := between_new hnew
  have hran : Ran False b₀ es (b₀.processAll es) := hstart.processAll False.elim
  obtain ⟨hsince, hpast⟩ := built_in_trace hnew
  have hclosed := hran.sound.close_ok hran.opened (traceEnd es)
  have hpads : Pads (traceEnd es) (b₀.processAll es).scene.graph _ :=
    hran.sound.close_pads (traceEnd es)
  have hsound := (close_grows hran.sound (traceEnd es)).sound hran.sound
  have hreaches := hran.sound.close_reaches hran.opened (traceEnd es)
  refine ⟨_, _, buildTrace_eq_ok hnew hclosed, ?_⟩
  generalize ((b₀.processAll es).graph.close (traceEnd es)).2 = g at hpads hsound hreaches ⊢
  have htimes : ∀ v r, g.time? v = some r → traceStart es ≤ r ∧ r ≤ traceEnd es := by
    intro v r hr
    rcases hpads.times v r hr with hr | rfl
    · exact ⟨hsince.times v r hr, hpast v r hr⟩
    · exact ⟨traceStart_le_traceEnd es, Nat.le_refl _⟩
  refine ⟨htimes, ?_, ?_⟩
  · intro w hw
    obtain ⟨v, hv⟩ := Option.isSome_iff_exists.1 (List.getLast?_isSome.2 hw)
    obtain ⟨u, hu⟩ := vertex?_isSome_of_contains (hsound.contains_tail hv)
    obtain rfl := vertex?_id hu
    have htime : g.time? u.id = some u.time := by rw [time?_eq, hu]; rfl
    have hend : u.time = traceEnd es :=
      Nat.le_antisymm (htimes _ _ htime).2 (hreaches w u (last?_eq_some_iff.2 ⟨hv, hu⟩))
    exact ⟨u.id, (tail?_eq g w).trans hv, hend ▸ htime⟩
  · intro w cancelled p hok
    have hsum := hsound.workerPath_sum_le (hsince.epsilonInstant hpads) htimes hok
    exact ⟨hsum, Nat.le_trans (Nat.mod_le _ _) hsum⟩

/-- In the trace of a thread that is woken the paths take no longer than from 1 to 7, and the path
of that thread takes all that time. -/
theorem wokenTrace_covered : ∃ stats g, buildTrace .standard wokenTrace = .ok (.ok stats, g) ∧
    (∀ w p, g.workerPath w false = .ok p → p.totalDuration ≤ 6) ∧
    ∃ p, g.workerPath ⟨0⟩ false = .ok p ∧ p.totalDuration = 6 := by
  have hrun : (Builder.new (.new 1) .standard).map (fun _ =>
      (buildTrace .standard wokenTrace).map fun r =>
        (r.2.workerPath ⟨0⟩ false).map (·.totalDuration)) = .ok (.ok (.ok 6)) := by cbv
  obtain ⟨b₀, hnew, hlong⟩ := map_eq_ok.1 hrun
  have hnew : Builder.new (.new (traceStart wokenTrace)) .standard = .ok b₀ := hnew
  obtain ⟨stats, g, hbuilt, -, -, hpaths⟩ := coverage_within_trace hnew
  rw [hbuilt] at hlong
  have hlong : (g.workerPath ⟨0⟩ false).map (·.totalDuration) = .ok 6 := Except.ok.inj hlong
  exact ⟨stats, g, hbuilt, fun w p hok => (hpaths w false p hok).2, map_eq_ok.1 hlong⟩

end Builder

end CausalPath
