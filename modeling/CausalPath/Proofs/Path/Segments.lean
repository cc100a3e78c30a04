import CausalPath.Proofs.Draft.Steps
import Mathlib

/-!
# The segments of a critical path

Closing a draft adds filler only, so the segments of a critical path are the pieces of its steps.
They follow each other in time and lie between the bound of the search and its start: no time is
counted twice, on whatever worker it was spent.
-/

namespace CausalPath

namespace Graph

variable {g g' g'' : Graph}

/-! ## § 1. Closing -/

/-- The second store has what the first has, and filler. -/
structure Fills (g g' : Graph) : Prop where
  edgeList : ∃ l, g'.edgeList = g.edgeList ++ l ∧ ∀ e ∈ l, e.horizontal = true ∧ e.state = .noEdge
  worker? : ∀ i, g'.worker? i = g.worker? i
  vertex? : ∀ v u, g.vertex? v = some u → g'.vertex? v = some u

theorem Fills.refl (g : Graph) : g.Fills g :=
  ⟨⟨[], by simp, by simp⟩, fun _ => rfl, fun _ _ h => h⟩

theorem Fills.trans (h : g.Fills g') (h' : g'.Fills g'') : g.Fills g'' := by
  obtain ⟨l, hl, hfill⟩ := h.edgeList
  obtain ⟨l', hl', hfill'⟩ := h'.edgeList
  refine ⟨⟨l ++ l', ?_, ?_⟩, ?_, ?_⟩
  · rw [hl', hl, List.append_assoc]
  · intro e he
    rcases List.mem_append.1 he with he | he
    · exact hfill e he
    · exact hfill' e he
  · intro i
    rw [h'.worker?, h.worker?]
  · intro v u hu
    exact h'.vertex? v u (h.vertex? v u hu)

theorem Sound.grown_fills (h : g.Sound) (w : WorkerId) (t : Time) (q : Option String) :
    g.Fills (g.grown w t .noEdge q) := by
  refine ⟨⟨_, edgeList_grown h, ?_⟩, fun i => worker?_grown g w t _ q i,
    fun v u hu => vertex?_grown_of_some hu⟩
  intro e he
  simp only [grownEdges, Option.mem_toList, Option.map_eq_some_iff] at he
  obtain ⟨tail, -, rfl⟩ := he
  exact ⟨rfl, rfl⟩

theorem Sound.closeChain_fills (h : g.Sound) {stop : Time} {w : WorkerId}
    (hok : g.closeChain stop w = (.ok (), g')) : g.Fills g' := by
  unfold closeChain at hok
  split at hok
  · exact absurd (congrArg Prod.fst hok) (by simp)
  · obtain rfl := congrArg Prod.snd hok
    exact .refl g
  · rename_i tail htail
    split at hok
    · obtain rfl := congrArg Prod.snd hok
      exact .refl g
    · dsimp only at hok
      split at hok
      · exact absurd (congrArg Prod.fst hok) (by simp)
      · rename_i hext
        obtain rfl := congrArg Prod.snd hok
        obtain rfl := grown_of_extend h (tailOf_eq_ok.1 htail).1 hext
        exact h.grown_fills w stop none

theorem Sound.closeChains_fills {stop : Time} (ws : List WorkerId) :
    ∀ {g g' : Graph}, g.Sound → g.phase = .building → g.closeChains stop ws = (.ok (), g') →
      g.Fills g' := by
  induction ws with
  | nil =>
    intro g g' _ _ hok
    obtain rfl := congrArg Prod.snd hok
    exact .refl g
  | cons w rest ih =>
    intro g g' h hopen hok
    unfold closeChains at hok
    split at hok
    · exact absurd (congrArg Prod.fst hok) (by simp)
    · rename_i g₁ hclose
      obtain ⟨hgrows, hphase⟩ := h.inside.closeChain_grows hopen stop w
      rw [hclose] at hgrows hphase
      exact (h.closeChain_fills hclose).trans (ih (hgrows.sound h) hphase hok)

theorem Sound.close_fills (h : g.Sound) {stop : Time} (hok : g.close stop = (.ok (), g')) :
    g.Fills g' := by
  unfold close at hok
  split at hok
  · exact absurd (congrArg Prod.fst hok) (by simp)
  · rename_i hread
    split at hok
    · exact absurd (congrArg Prod.fst hok) (by simp)
    · rename_i g₁ hclose
      obtain rfl := congrArg Prod.snd hok
      have hfill := closeChains_fills _ h (requireOpen_eq_ok.1 hread) hclose
      exact ⟨hfill.edgeList, hfill.worker?, hfill.vertex?⟩

/-- Filler is no segment. -/
theorem Fills.written (h : g.Fills g') : g'.written = g.written := by
  obtain ⟨l, hl, hfill⟩ := h.edgeList
  have hsegment : (CriticalPath.mk g').segment? = (CriticalPath.mk g).segment? := by
    funext e
    simp only [CriticalPath.segment?, h.worker?]
  have hnone : l.filterMap (CriticalPath.mk g).segment? = [] := by
    rw [List.filterMap_eq_nil_iff]
    intro e he
    simp [CriticalPath.segment?, (hfill e he).2]
  rw [Graph.written, hl, hsegment, List.filterMap_append, hnone, List.append_nil]
  rfl

end Graph

theorem Draft.finish_fills {d : Draft} (h : d.graph.Sound) {p : CriticalPath}
    (hok : d.finish = .ok p) : d.graph.Fills p.graph := by
  unfold Draft.finish at hok
  split at hok
  · rename_i hclose
    obtain rfl := Except.ok.inj hok
    exact h.close_fills hclose
  · exact absurd hok (by simp)

/-! ## § 2. Critical paths -/

namespace Graph

variable {g : Graph}

theorem startOf_eq_ok {start : VertexId} {s : Vertex} (hs : g.startOf start = .ok s) :
    g.vertex? start = some s ∧ g.contains start = true := by
  unfold startOf at hs
  split at hs
  · exact absurd hs (by simp)
  · rename_i s' hs'
    split at hs
    · rename_i hin
      obtain rfl := Except.ok.inj hs
      exact ⟨hs', hin⟩
    · exact absurd hs (by simp)

theorem boundOf_eq_ok {stop : Option VertexId} {bound : Option Time}
    (hbound : g.boundOf stop = .ok bound) : bound = stop.bind g.time? := by
  cases stop with
  | none => exact (Except.ok.inj hbound).symm
  | some m =>
    simp only [boundOf] at hbound
    split at hbound
    · rename_i t ht
      rw [Option.bind_some, ht]
      exact (Except.ok.inj hbound).symm
    · exact absurd hbound (by simp)

/-- What a critical path is made of: the steps back along the chain, and the draft of them. -/
theorem criticalPath_eq_ok {start : VertexId} {stop : Option VertexId} {cancelled : Bool}
    {p : CriticalPath} (hok : g.criticalPath start stop cancelled = .ok p) :
    ∃ s oldest steps v d, g.vertex? start = some s ∧ g.contains start = true ∧
      g.Rewinds (stop.bind g.time?) s oldest steps ∧
      g.draftPath s oldest steps = .ok (v, d) ∧ d.finish = .ok p := by
  unfold criticalPath at hok
  obtain ⟨s, hs, hok⟩ := bind_eq_ok.1 hok
  obtain ⟨bound, hbound, hok⟩ := bind_eq_ok.1 hok
  obtain ⟨-, hok⟩ := guard_eq_ok.1 hok
  obtain ⟨⟨oldest, steps⟩, hsteps, hok⟩ := bind_eq_ok.1 hok
  obtain ⟨⟨v, d⟩, hdraft, hfinish⟩ := bind_eq_ok.1 hok
  obtain ⟨steps', rfl, hr⟩ := ownSteps_eq_ok hsteps
  obtain ⟨hs', hin⟩ := startOf_eq_ok hs
  rw [List.append_nil] at hdraft
  exact ⟨s, oldest, steps', v, d, hs', hin, boundOf_eq_ok hbound ▸ hr, hdraft, hfinish⟩

/-- The time down to which a search from a vertex goes: that of the head of the chain, or that of
the vertex of the chain that bounds it. -/
def ReachesDownTo (g : Graph) (s : Vertex) (low : Time) : Option VertexId → Prop
  | none => ∃ head, (g.chainOf s.worker).head? = some head ∧ g.time? head = some low
  | some m => m ∈ g.chainOf s.worker ∧ g.time? m = some low ∧ low ≤ s.time

theorem Rewinds.oldest_time (h : g.Sound) {stop : Option VertexId} {s oldest : Vertex}
    {steps : List PathStep} {low : Time} (hr : g.Rewinds (stop.bind g.time?) s oldest steps)
    (hs : g.vertex? s.id = some s) (hin : g.contains s.id = true)
    (hlow : g.ReachesDownTo s low stop) : oldest.time = low := by
  cases stop with
  | none =>
    obtain ⟨head, hhead, htime⟩ := hlow
    have hold := hr.ends_at_head h hs hin
    obtain rfl := Option.some.inj (hhead.symm.trans hold)
    rw [time?_eq, (hr.within h hs).1] at htime
    exact Option.some.inj htime
  | some m =>
    obtain ⟨hmem, htime, hle⟩ := hlow
    rw [Option.bind_some, htime] at hr
    rw [time?_eq, Option.map_eq_some_iff] at htime
    obtain ⟨u, hu, rfl⟩ := htime
    obtain rfl := vertex?_id hu
    exact hr.ends_at_bound h hs hin hu hmem hle

end Graph

/-! ## § 3. Time is never counted twice -/

/-- Spans that follow each other between two times add up to no more than the time between. -/
theorem sum_duration_le {l : List PathSegment} {high : Time} :
    ∀ {low : Time}, low ≤ high → (l.Pairwise fun a b => a.stop ≤ b.start) →
      (∀ x ∈ l, low ≤ x.start ∧ x.start ≤ x.stop ∧ x.stop ≤ high) →
      Time.sum (l.map (·.duration)) ≤ high - low := by
  induction l with
  | nil =>
    intro low _ _ _
    exact Nat.zero_le _
  | cons x rest ih =>
    intro low _ hsorted hall
    obtain ⟨hlow, hmid, hhigh⟩ := hall x List.mem_cons_self
    obtain ⟨hfirst, hsorted⟩ := List.pairwise_cons.1 hsorted
    have hrest : Time.sum (rest.map (·.duration)) ≤ high - x.stop := by
      apply ih hhigh hsorted
      intro y hy
      obtain ⟨-, h₂, h₃⟩ := hall y (List.mem_cons_of_mem _ hy)
      exact ⟨hfirst y hy, h₂, h₃⟩
    have hadd : ∀ {a b c d n : Nat}, a ≤ b → b ≤ c → c ≤ d → n ≤ d - c → c - b + n ≤ d - a := by
      omega
    exact hadd hlow hmid hhigh hrest

open CausalPath.Graph in
/-- In a graph whose hops take no time, the segments of a critical path from a vertex down to the
head of its chain, or down to a vertex of its chain, are apart from each other and lie between the
two. So the time on the path is at most the time in between, and its sum fits in a word. -/
theorem segments_apart {g : Graph} (hbuilt : g.Built) (heps : g.EpsilonInstant)
    {start : VertexId} {stop : Option VertexId} {s : Vertex} {low : Time} {cancelled : Bool}
    {p : CriticalPath} (hs : g.vertex? start = some s) (hlow : g.ReachesDownTo s low stop)
    (hok : g.criticalPath start stop cancelled = .ok p) :
    (p.segments.Pairwise fun a b => a.stop ≤ b.start ∨ b.stop ≤ a.start) ∧
      (∀ x ∈ p.segments, low ≤ x.start ∧ x.start ≤ x.stop ∧ x.stop ≤ s.time) ∧
      p.totalDuration ≤ s.time - low ∧
      (s.time < wordCount → p.totalDuration = Time.sum (p.segments.map (·.duration))) := by
  have h := hbuilt.sound
  obtain ⟨s', oldest, steps, v, d, hs', hin, hr, hdraft, hfinish⟩ := criticalPath_eq_ok hok
  obtain rfl := Option.some.inj (hs.symm.trans hs')
  obtain rfl := vertex?_id hs
  obtain rfl := hr.oldest_time h hs hin hlow
  obtain ⟨hat, hwritten⟩ := hr.written_of_draftPath h heps hs hdraft
  have hpath : p.graph.written =
      (steps.flatMap (·.pieces s.worker)).filterMap (Piece.segment? g) :=
    (Draft.finish_fills hat.sound hfinish).written.trans hwritten
  obtain ⟨hsorted, hwithin⟩ := hr.pieces_paced h heps hs s.worker
  -- a segment has the times of its piece
  have htimes : ∀ {q : Piece} {x : PathSegment}, q.segment? g = some x →
      x.start = q.start ∧ x.stop = q.stop := by
    intro q x hx
    unfold Piece.segment? at hx
    split at hx
    · exact absurd hx (by simp)
    · obtain ⟨w, -, rfl⟩ := Option.map_eq_some_iff.1 hx
      exact ⟨rfl, rfl⟩
  have hpaced : p.graph.written.Pairwise fun a b => a.stop ≤ b.start := by
    rw [hpath, List.pairwise_filterMap]
    refine hsorted.imp ?_
    intro q q' hqq x hx y hy
    rw [(htimes hx).2, (htimes hy).1]
    exact hqq
  have hbetween : ∀ x ∈ p.graph.written,
      oldest.time ≤ x.start ∧ x.start ≤ x.stop ∧ x.stop ≤ s.time := by
    intro x hx
    rw [hpath] at hx
    obtain ⟨q, hq, hqx⟩ := List.mem_filterMap.1 hx
    rw [(htimes hqx).1, (htimes hqx).2]
    exact hwithin q hq
  have hperm : p.segments.Perm p.graph.written := List.mergeSort_perm _ _
  have hsum : Time.sum (p.segments.map (·.duration)) ≤ s.time - oldest.time := by
    rw [Time.sum_perm (hperm.map _)]
    exact sum_duration_le (hr.within h hs).2.2.1 hpaced hbetween
  refine ⟨?_, ?_, ?_, ?_⟩
  · rw [hperm.pairwise_iff fun hab => hab.symm]
    exact hpaced.imp Or.inl
  · intro x hx
    exact hbetween x (hperm.mem_iff.1 hx)
  · exact Nat.le_trans (Nat.mod_le _ _) hsum
  · intro hword
    exact Time.total_eq_sum (Nat.lt_of_le_of_lt (Nat.le_trans hsum (Nat.sub_le _ _)) hword)

/-- A worker waits for ten units, until one that ran for six of them wakes it. -/
def woken : Graph :=
  Mutation.runAll
    [.addWorker (Worker.thread "h" 1 "a"), .createVertex ⟨0⟩ 0, .add ⟨0⟩, .createVertex ⟨0⟩ 10,
      .append ⟨1⟩ .blocked none, .addWorker (Worker.thread "h" 2 "b"), .createVertex ⟨1⟩ 4, .add ⟨2⟩,
      .createVertex ⟨1⟩ 10, .append ⟨3⟩ .running none, .linkVertical ⟨3⟩ ⟨1⟩ .default none]
    (Graph.new 0)

open CausalPath.Graph in
/-- The wait of `woken` is explained by the other worker, and counted once. -/
theorem segments_apart_of_woken : ∃ p, woken.criticalPath ⟨1⟩ none false = .ok p ∧
    (p.segments.Pairwise fun a b => a.stop ≤ b.start ∨ b.stop ≤ a.start) ∧
      p.totalDuration ≤ 10 := by
  have hsome : (woken.criticalPath ⟨1⟩ none false).isOk = true := by cbv
  obtain ⟨p, hok⟩ := exists_of_isOk hsome
  have hbuilt : woken.Built := ⟨0, _, rfl⟩
  have heps : woken.EpsilonInstant := epsilonInstant_iff.2 (by cbv)
  have hs : woken.vertex? ⟨1⟩ = some ⟨⟨1⟩, ⟨0⟩, 10⟩ := by cbv
  have hlow : woken.ReachesDownTo ⟨⟨1⟩, ⟨0⟩, 10⟩ 0 none := ⟨⟨0⟩, by cbv, by cbv⟩
  obtain ⟨hapart, -, htotal, -⟩ := segments_apart hbuilt heps hs hlow hok
  exact ⟨p, hok, hapart, htotal⟩

end CausalPath
