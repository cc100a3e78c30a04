import CausalPath.Proofs.Path.Leading
import CausalPath.Proofs.Path.Parts

/-!
# A path along its own chain

The segments of a critical path are the pieces of its steps, and the pieces of a step lie within
its edge. So what a path says about the time of one edge of its chain comes from that edge alone
(`segments_within_edge`), and the path down to the head of the chain is the path from any vertex on
the way, followed by the path down to that vertex (`segments_split`).
-/

namespace CausalPath

/-! ## § 1. Segments that take time -/

/-- The segment takes time. -/
def PathSegment.takesTime (x : PathSegment) : Bool := x.start < x.stop

/-- The segment takes time, some of it strictly between the two times. -/
def PathSegment.meets (low high : Time) (x : PathSegment) : Bool :=
  x.takesTime && (x.start < high && low < x.stop)

theorem PathSegment.meets_iff {low high : Time} {x : PathSegment} :
    x.meets low high = true ↔ x.start < x.stop ∧ x.start < high ∧ low < x.stop := by
  simp [PathSegment.meets, PathSegment.takesTime]

/-- A segment has the times of its piece. -/
theorem Piece.segment?_times {g : Graph} {q : Piece} {x : PathSegment} (h : q.segment? g = some x) :
    x.start = q.start ∧ x.stop = q.stop := by
  unfold Piece.segment? at h
  split at h
  · exact absurd h (by simp)
  · obtain ⟨w, -, rfl⟩ := Option.map_eq_some_iff.1 h
    exact ⟨rfl, rfl⟩

theorem Time.sum_append (a b : List Time) : Time.sum (a ++ b) = Time.sum a + Time.sum b := by
  induction a with
  | nil => exact (Nat.zero_add _).symm
  | cons t rest ih =>
    rw [List.cons_append, Time.sum, ih, Time.sum, Nat.add_assoc]

/-- Segments that take no time add nothing. -/
theorem sum_takesTime (l : List PathSegment) :
    Time.sum ((l.filter (·.takesTime)).map (·.duration)) = Time.sum (l.map (·.duration)) := by
  induction l with
  | nil => rfl
  | cons x rest ih =>
    by_cases hx : x.takesTime = true
    · rw [List.filter_cons_of_pos hx, List.map_cons, List.map_cons, Time.sum, Time.sum, ih]
    · have hzero : x.duration = 0 := by
        simp only [PathSegment.takesTime, decide_eq_true_eq, Nat.not_lt] at hx
        exact Nat.sub_eq_zero_of_le hx
      rw [List.filter_cons_of_neg hx, List.map_cons, Time.sum, ih, hzero, Nat.zero_add]

/-- Paths whose segments that take time are those of two others take as long as the two together. -/
theorem CriticalPath.totalDuration_add {p q r : CriticalPath}
    (hperm : (p.segments.filter (·.takesTime)).Perm
      (q.segments.filter (·.takesTime) ++ r.segments.filter (·.takesTime)))
    (hword : Time.sum (p.segments.map (·.duration)) < wordCount) :
    p.totalDuration = q.totalDuration + r.totalDuration := by
  have hsum : Time.sum (p.segments.map (·.duration)) =
      Time.sum (q.segments.map (·.duration)) + Time.sum (r.segments.map (·.duration)) := by
    rw [← sum_takesTime, Time.sum_perm (hperm.map _), List.map_append, Time.sum_append,
      sum_takesTime, sum_takesTime]
  have hpart : ∀ {a b c : Nat}, c = a + b → c < wordCount → a < wordCount ∧ b < wordCount := by
    omega
  obtain ⟨hq, hr⟩ := hpart hsum hword
  show Time.total _ = Time.total _ + Time.total _
  rw [Time.total_eq_sum hword, Time.total_eq_sum hq, Time.total_eq_sum hr, hsum]

namespace Graph

variable {g : Graph} {bound : Option Time} {v o m : Vertex} {steps : List PathStep}

/-- The segments that the steps of a worker write. -/
def segmentsOf (g : Graph) (w : WorkerId) (steps : List PathStep) : List PathSegment :=
  (steps.flatMap (·.pieces w)).filterMap (Piece.segment? g)

theorem segmentsOf_append (w : WorkerId) (a b : List PathStep) :
    g.segmentsOf w (a ++ b) = g.segmentsOf w a ++ g.segmentsOf w b := by
  simp [segmentsOf]

/-- Each of them is a piece of a step. -/
theorem mem_segmentsOf {w : WorkerId} {x : PathSegment} :
    x ∈ g.segmentsOf w steps ↔ ∃ s ∈ steps, ∃ q ∈ s.pieces w, q.segment? g = some x := by
  simp only [segmentsOf, List.mem_filterMap, List.mem_flatMap]
  constructor
  · rintro ⟨q, ⟨s, hs, hq⟩, hx⟩
    exact ⟨s, hs, q, hq, hx⟩
  · rintro ⟨s, hs, q, hq, hx⟩
    exact ⟨q, ⟨s, hs, hq⟩, hx⟩

/-- The segments of a critical path are those of its steps. -/
theorem criticalPath_segments (h : g.Sound) (heps : g.EpsilonInstant) {start : VertexId}
    {stop : Option VertexId} {s : Vertex} {cancelled : Bool} {p : CriticalPath}
    (hs : g.vertex? start = some s) (hok : g.criticalPath start stop cancelled = .ok p) :
    ∃ oldest steps, g.Rewinds (stop.bind g.time?) s oldest steps ∧
      p.segments.Perm (g.segmentsOf s.worker steps) := by
  obtain ⟨s', oldest, steps, v, d, hs', -, hr, hdraft, hfinish⟩ := criticalPath_eq_ok hok
  obtain rfl := Option.some.inj (hs.symm.trans hs')
  obtain rfl := vertex?_id hs
  obtain ⟨hat, hwritten⟩ := hr.written_of_draftPath h heps hs hdraft
  have hpath : p.graph.written = g.segmentsOf s.worker steps :=
    (Draft.finish_fills hat.sound hfinish).written.trans hwritten
  refine ⟨oldest, steps, hr, ?_⟩
  rw [← hpath]
  exact List.mergeSort_perm _ _

/-- The segments of the steps of a walk lie within the edges of the steps. -/
theorem Rewinds.segments_within (h : g.Sound) (heps : g.EpsilonInstant)
    (hr : g.Rewinds bound v o steps) (hv : g.vertex? v.id = some v) {part : List PathStep}
    (hpart : ∀ s ∈ part, s ∈ steps) {w : WorkerId} :
    ∀ x ∈ g.segmentsOf w part, ∃ s ∈ part, s.edge.origin.time ≤ x.start ∧
      x.stop ≤ s.edge.target.time := by
  intro x hx
  obtain ⟨s, hs, q, hq, hqx⟩ := mem_segmentsOf.1 hx
  obtain ⟨hstart, hstop⟩ := Piece.segment?_times hqx
  obtain ⟨-, -, -, hall⟩ := hr.within h hv
  have hmem := hpart s hs
  obtain ⟨hlow, -, hhigh⟩ := (hr.takes s hmem).pieces_within h heps (hall s hmem).1 w q hq
  exact ⟨s, hs, hstart ▸ hlow, hstop ▸ hhigh⟩

/-- The time on the segments of a walk is at most the time that the walk covers. -/
theorem Rewinds.sum_le (h : g.Sound) (heps : g.EpsilonInstant) (hr : g.Rewinds bound v o steps)
    (hv : g.vertex? v.id = some v) :
    Time.sum ((g.segmentsOf v.worker steps).map (·.duration)) ≤ v.time - o.time := by
  obtain ⟨hsorted, hwithin⟩ := hr.pieces_paced h heps hv v.worker
  refine sum_duration_le (hr.within h hv).2.2.1 ?_ ?_
  · refine List.pairwise_filterMap.2 (hsorted.imp ?_)
    intro q q' hqq x hx y hy
    rw [(Piece.segment?_times hx).2, (Piece.segment?_times hy).1]
    exact hqq
  · intro x hx
    obtain ⟨q, hq, hqx⟩ := List.mem_filterMap.1 hx
    rw [(Piece.segment?_times hqx).1, (Piece.segment?_times hqx).2]
    exact hwithin q hq

/-- Steps of edges that end too early or start too late write nothing between two times. -/
theorem Rewinds.apart (h : g.Sound) (heps : g.EpsilonInstant) (hr : g.Rewinds bound v o steps)
    (hv : g.vertex? v.id = some v) {part : List PathStep} (hpart : ∀ s ∈ part, s ∈ steps)
    {low high : Time}
    (hout : ∀ s ∈ part, s.edge.target.time ≤ low ∨ high ≤ s.edge.origin.time) {w : WorkerId} :
    (g.segmentsOf w part).filter (·.meets low high) = [] := by
  refine List.filter_eq_nil_iff.2 fun x hx hmeet => ?_
  obtain ⟨-, hbefore, hafter⟩ := PathSegment.meets_iff.1 hmeet
  obtain ⟨s, hs, hstart, hstop⟩ := hr.segments_within h heps hv hpart x hx
  rcases hout s hs with hearly | hlate
  · exact absurd hafter (Nat.not_lt.2 (Nat.le_trans hstop hearly))
  · exact absurd hbefore (Nat.not_lt.2 (Nat.le_trans hlate hstart))

/-- Steps of edges that start when the walk is over write nothing that takes time. -/
theorem Rewinds.instant (h : g.Sound) (heps : g.EpsilonInstant) (hr : g.Rewinds bound v o steps)
    (hv : g.vertex? v.id = some v) {part : List PathStep} (hpart : ∀ s ∈ part, s ∈ steps)
    (hlate : ∀ s ∈ part, v.time ≤ s.edge.origin.time) {w : WorkerId} :
    (g.segmentsOf w part).filter (·.takesTime) = [] := by
  refine List.filter_eq_nil_iff.2 fun x hx htakes => ?_
  obtain ⟨s, hs, hstart, hstop⟩ := hr.segments_within h heps hv hpart x hx
  have hend := ((hr.within h hv).2.2.2 s (hpart s hs)).2.2.2.2.2
  have hle : x.stop ≤ x.start :=
    Nat.le_trans hstop (Nat.le_trans hend (Nat.le_trans (hlate s hs) hstart))
  simp only [PathSegment.takesTime, decide_eq_true_eq] at htakes
  exact absurd htakes (Nat.not_lt.2 hle)

/-! ## § 2. One edge of the chain -/

/-- An edge that is neither filler nor explained is copied. -/
theorem stepFor_copy {e : Edge} (hstate : e.state ≠ .noEdge)
    (hwake : e.state.isMatchable = true → g.wakeup e.target.id = .ok none) :
    g.stepFor e = .ok [.copy e] := by
  unfold stepFor
  rw [if_neg hstate]
  cases hmatch : e.state.isMatchable with
  | false => rfl
  | true =>
    have hresolve : g.resolve e.origin.time [] e = .ok [] := by
      simp [resolve, windowWakeup, hwake hmatch]
    simp only [hresolve, if_true]

/-- A copied edge is one segment, with the times of the edge. -/
theorem segmentsOf_copy {w : WorkerId} {e : Edge} {x : Worker} (hx : g.worker? w = some x)
    (hstate : e.state ≠ .noEdge) (hforward : e.origin.time ≤ e.target.time) :
    g.segmentsOf w [.copy e] = [⟨x, e.origin.time, e.target.time, e.state, e.qualifier⟩] := by
  simp [segmentsOf, PathStep.pieces, PathStep.moves, PathStep.cursor, PathStep.edge, Cursor.pieces,
    Cursor.piece, Cursor.after, Piece.segment?, hx, hstate, Nat.max_eq_left hforward]

end Graph

open CausalPath.Graph

variable {g : Graph}

/-- In a graph whose hops take no time, the segments of a critical path that meet the inside of an
edge of its chain lie within the edge. There are none for filler, and an edge that is not explained
by a wakeup is the only one. -/
theorem segments_within_edge (hbuilt : g.Built) (heps : g.EpsilonInstant) {start : VertexId}
    {s : Vertex} {cancelled : Bool} {p : CriticalPath} (hs : g.vertex? start = some s)
    (hok : g.criticalPath start none cancelled = .ok p) {e : Edge} (he : g.Has e)
    (hchain : e.horizontal = true) (hbefore : g.Precedes e.target.id start)
    (hlong : e.origin.time < e.target.time) :
    (e.state ≠ .noEdge → (e.state.isMatchable = true → g.wakeup e.target.id = .ok none) →
      ∃ x, g.worker? s.worker = some x ∧
        p.segments.filter (·.meets e.origin.time e.target.time) =
          [⟨x, e.origin.time, e.target.time, e.state, e.qualifier⟩]) ∧
      (e.state = .noEdge → p.segments.filter (·.meets e.origin.time e.target.time) = []) ∧
      ∀ x ∈ p.segments, x.meets e.origin.time e.target.time = true →
        e.origin.time ≤ x.start ∧ x.stop ≤ e.target.time := by
  have h := hbuilt.sound
  obtain ⟨oldest, steps, hr, hperm⟩ := criticalPath_segments h heps hs hok
  obtain rfl := vertex?_id hs
  obtain ⟨older, here, newer, rfl, hstep, hrest, hnewer⟩ :=
    hr.passes_edge h hs he hchain hbefore
  have hd := h.drawn he
  -- the steps before the edge end too early, those after it start too late
  have holder : (g.segmentsOf s.worker older).filter (·.meets e.origin.time e.target.time) = [] :=
    hrest.apart h heps hd.origin (fun _ h => h) fun t ht =>
      Or.inl ((hrest.within h hd.origin).2.2.2 t ht).2.2.2.2.2
  have hnewer : (g.segmentsOf s.worker newer).filter (·.meets e.origin.time e.target.time) = [] :=
    hr.apart h heps hs (fun _ h => List.mem_append_right _ h) fun t ht => Or.inr (hnewer t ht)
  have hmet := hperm.filter (·.meets e.origin.time e.target.time)
  rw [segmentsOf_append, segmentsOf_append, List.filter_append, List.filter_append, holder, hnewer,
    List.nil_append, List.append_nil] at hmet
  refine ⟨?_, ?_, ?_⟩
  · intro hstate hwake
    obtain ⟨x, hx⟩ := Option.isSome_iff_exists.1 (h.registered _ _ hs)
    obtain rfl := Except.ok.inj (hstep.symm.trans (stepFor_copy hstate hwake))
    refine ⟨x, hx, List.perm_singleton.1 ?_⟩
    rwa [segmentsOf_copy hx hstate hd.forward, List.filter_cons_of_pos, List.filter_nil] at hmet
    exact PathSegment.meets_iff.2 ⟨hlong, hlong, hlong⟩
  · intro hstate
    obtain rfl : here = [] := by
      unfold stepFor at hstep
      rw [if_pos hstate] at hstep
      exact (Except.ok.inj hstep).symm
    exact hmet.eq_nil
  · intro x hx hmeet
    have hmem := (List.mem_filter.1 (hmet.mem_iff.1 (List.mem_filter.2 ⟨hx, hmeet⟩))).1
    obtain ⟨t, ht, hstart, hstop⟩ := hr.segments_within h heps hs
      (fun _ h => List.mem_append_left _ (List.mem_append_right _ h)) x hmem
    rw [(takes_of_stepFor hstep t ht).1] at hstart hstop
    exact ⟨hstart, hstop⟩

open CausalPath.Graph in
/-- The time that the waker of `woken` ran is one segment of its path. -/
theorem segments_within_edge_of_woken : ∃ p, woken.criticalPath ⟨3⟩ none false = .ok p ∧
    p.segments.filter (·.meets 4 10) =
      [⟨Worker.thread "h" 2 "b", 4, 10, .running, none⟩] := by
  have hsome : (woken.criticalPath ⟨3⟩ none false).isOk = true := by cbv
  obtain ⟨p, hok⟩ := exists_of_isOk hsome
  have hbuilt : woken.Built := ⟨0, _, rfl⟩
  have heps : woken.EpsilonInstant := epsilonInstant_iff.2 (by cbv)
  have hs : woken.vertex? ⟨3⟩ = some ⟨⟨3⟩, ⟨1⟩, 10⟩ := by cbv
  have hworker : woken.worker? ⟨1⟩ = some (Worker.thread "h" 2 "b") := by cbv
  let e : Edge := ⟨⟨1⟩, ⟨⟨2⟩, ⟨1⟩, 4⟩, ⟨⟨3⟩, ⟨1⟩, 10⟩, .running, none, true⟩
  have he : woken.Has e := by cbv
  have hbefore : woken.Precedes ⟨3⟩ ⟨3⟩ := ⟨⟨1⟩, [⟨2⟩], [], by cbv, by simp⟩
  obtain ⟨hcopy, -, -⟩ := segments_within_edge hbuilt heps hs hok he rfl hbefore (by decide)
  obtain ⟨x, hx, hmet⟩ := hcopy (by decide) (by decide)
  obtain rfl := Option.some.inj (hworker.symm.trans hx)
  exact ⟨p, hok, hmet⟩

/-! ## § 3. Parts of a path -/

/-- In a graph whose hops take no time, the segments of a critical path that take time are those of
the path down from any vertex of the chain on the way, and those of the path down to that vertex.
So the times of the two paths add up to that of the whole. -/
theorem segments_split (hbuilt : g.Built) (heps : g.EpsilonInstant) {start middle : VertexId}
    {s : Vertex} {c₁ c₂ c₃ : Bool} {whole early late : CriticalPath}
    (hs : g.vertex? start = some s) (hbefore : g.Precedes middle start)
    (hwhole : g.criticalPath start none c₁ = .ok whole)
    (hearly : g.criticalPath middle none c₂ = .ok early)
    (hlate : g.criticalPath start (some middle) c₃ = .ok late) :
    (whole.segments.filter (·.takesTime)).Perm
        (early.segments.filter (·.takesTime) ++ late.segments.filter (·.takesTime)) ∧
      (s.time < wordCount →
        whole.totalDuration = early.totalDuration + late.totalDuration) := by
  have h := hbuilt.sound
  obtain ⟨m, -, -, -, -, hm, -, -, -, -⟩ := criticalPath_eq_ok hearly
  obtain ⟨oldest, steps, hr, hpermWhole⟩ := criticalPath_segments h heps hs hwhole
  obtain ⟨oldest', early', hr', hpermEarly⟩ := criticalPath_segments h heps hm hearly
  obtain ⟨o, newer, hshort, hpermLate⟩ := criticalPath_segments h heps hs hlate
  obtain rfl := vertex?_id hs
  obtain rfl := vertex?_id hm
  have hworker := h.precedes_worker hbefore hm hs
  rw [Option.bind_some, time?_eq, hm, Option.map_some] at hshort
  -- the whole walk is the late one, then what lies between its end and the vertex, then the early
  obtain ⟨through, rfl, hthrough⟩ := hshort.resume hr
  have ho := (hshort.within h hs).1
  obtain ⟨older, between, rfl, holder, hbetween⟩ :=
    hthrough.passes h ho hm (hshort.precedes_end h hs hm hbefore)
  obtain ⟨rfl, rfl⟩ := holder.unique hr'
  have htime := hshort.end_time h hs hm hbefore
  -- no time passes in between
  have hnone : (g.segmentsOf s.worker between).filter (·.takesTime) = [] :=
    hthrough.instant h heps ho (fun _ h => List.mem_append_right _ h) fun t ht =>
      htime ▸ hbetween t ht
  rw [hworker] at hpermEarly
  have hperm : (whole.segments.filter (·.takesTime)).Perm
      (early.segments.filter (·.takesTime) ++ late.segments.filter (·.takesTime)) := by
    refine (hpermWhole.filter _).trans ?_
    rw [segmentsOf_append, segmentsOf_append, List.filter_append, List.filter_append, hnone,
      List.append_nil]
    exact ((hpermEarly.filter _).append (hpermLate.filter _)).symm
  refine ⟨hperm, ?_⟩
  intro hword
  refine CriticalPath.totalDuration_add hperm ?_
  rw [Time.sum_perm (hpermWhole.map _)]
  exact Nat.lt_of_le_of_lt (hr.sum_le h heps hs) (Nat.lt_of_le_of_lt (Nat.sub_le _ _) hword)

open CausalPath.Graph in
/-- The path of the second worker of `severed`, split where its wait ends. -/
theorem segments_split_of_severed : ∃ whole early late,
    severed.criticalPath ⟨5⟩ none false = .ok whole ∧
      severed.criticalPath ⟨4⟩ none false = .ok early ∧
      severed.criticalPath ⟨5⟩ (some ⟨4⟩) false = .ok late ∧
      (whole.segments.filter (·.takesTime)).Perm
        (early.segments.filter (·.takesTime) ++ late.segments.filter (·.takesTime)) ∧
      whole.totalDuration = early.totalDuration + late.totalDuration := by
  have hwhole : (severed.criticalPath ⟨5⟩ none false).isOk = true := by cbv
  have hearly : (severed.criticalPath ⟨4⟩ none false).isOk = true := by cbv
  have hlate : (severed.criticalPath ⟨5⟩ (some ⟨4⟩) false).isOk = true := by cbv
  obtain ⟨whole, hwhole⟩ := exists_of_isOk hwhole
  obtain ⟨early, hearly⟩ := exists_of_isOk hearly
  obtain ⟨late, hlate⟩ := exists_of_isOk hlate
  have hbuilt : severed.Built := ⟨0, _, rfl⟩
  have heps : severed.EpsilonInstant := epsilonInstant_iff.2 (by cbv)
  have hs : severed.vertex? ⟨5⟩ = some ⟨⟨5⟩, ⟨1⟩, 15⟩ := by cbv
  have hbefore : severed.Precedes ⟨4⟩ ⟨5⟩ := ⟨⟨1⟩, [⟨2⟩, ⟨3⟩, ⟨4⟩], [], by cbv, by simp⟩
  obtain ⟨hperm, htotal⟩ := segments_split hbuilt heps hs hbefore hwhole hearly hlate
  exact ⟨whole, early, late, hwhole, hearly, hlate, hperm, htotal (by decide)⟩

end CausalPath
