import CausalPath.Proofs.Draft.Homing
import CausalPath.Proofs.Path.Segments

/-!
# Where a critical path leads

A critical path is meant to be one causal chain that leads to the start vertex. It comes apart in
two ways only: a link is left out since its slots are taken, and an explanation ends on a worker
that it was not asked about. `pieces_lead_home` says that every piece leads to the start vertex, or
to such a break that does not. The path of `rewoken` has a break of the first kind.
-/

namespace CausalPath

namespace Draft

variable {source : Graph} {d d' : Draft} {w i : WorkerId} {own : List PathStep}

/-! ## § 1. Breaks -/

/-- An explanation has ended here, away from the worker it was for. -/
def Cut (w : WorkerId) (own : List PathStep) (d : Draft) (b : VertexId) : Prop :=
  d.graph.contains b = true ∧ ∃ s ∈ own, ((s.cursor w).afterAll (s.moves w)).worker ≠ w ∧
    ∃ u, d.graph.vertex? b = some u ∧
      d.workers.get? ((s.cursor w).afterAll (s.moves w)).worker = some u.worker ∧
      u.time = ((s.cursor w).afterAll (s.moves w)).time

/-- A place where the path of a worker may come apart. -/
def Breaks (w : WorkerId) (own : List PathStep) (d : Draft) (b : VertexId) : Prop :=
  (d.graph.contains b = true ∧ ∃ l ∈ d.leftOut, l.1.id = b ∧
    d.workers.get? w ≠ some l.1.worker ∧ d.Taken l) ∨ d.Cut w own b

theorem Breaks.contains {b : VertexId} (h : d.Breaks w own b) : d.graph.contains b = true := by
  rcases h with ⟨hin, -⟩ | ⟨hin, -⟩
  · exact hin
  · exact hin

theorem Cut.mono {b : VertexId} (he : d.Extends d') (h : d.Cut w own b) : d'.Cut w own b := by
  obtain ⟨hin, s, hs, hne, u, hu, hout, htime⟩ := h
  exact ⟨he.contains b hin, s, hs, hne, u, he.vertex? b u hu, he.workers _ _ hout, htime⟩

/-! ## § 2. Steps -/

theorem Homing.step (hs : source.Sound) {now : Time} (hpaced : d.Paced source now)
    (hw : d.workers.get? w = some i) (h : d.Homing i (d.Cut w own)) {s : PathStep}
    (hmem : s ∈ own) (ht : source.Takes s) (hnow : now ≤ s.edge.origin.time)
    (hok : d.step source w s = .ok d') : d.Extends d' ∧ d'.Homing i (d'.Cut w own) := by
  obtain ⟨v, d₁, a, hens, hgo⟩ := hpaced.step hs ht hnow hok
  have hat := (hpaced.ensure hs hnow hens).1
  have hext := ensure_extends hs hpaced.toMirrors hens
  have h₁ := h.ensure hs hpaced.toMirrors hens
  obtain ⟨hext', h'⟩ := h₁.go hs (s.moves w) hat hgo
  have hat' := (hat.go hs (s.moves w) hgo).1
  have hwhole := hext.trans hext'
  refine ⟨hwhole, h'.redirect ?_⟩
  rintro b (hb | rfl)
  · exact held_of_place (hb.mono hwhole)
  · by_cases hhome : a.worker = w
    · -- the explanation has come home: the anchor is the tail there
      have hout := hat'.output
      rw [hhome, hwhole.workers _ _ hw] at hout
      obtain rfl := Option.some.inj hout
      exact held_of_tail hat'.last
    · have hworker := hat'.worker
      refine held_of_place ⟨hat'.contains, s, hmem, ?_, a.vertex, hat'.vertex?, ?_, hat'.time⟩
      · intro heq
        exact hhome (hworker.trans heq)
      · have hout := hat'.output
        rw [hworker] at hout
        exact hout

theorem Homing.steps (hs : source.Sound) (heps : source.EpsilonInstant) (rest : List PathStep) :
    ∀ {d d' : Draft} {now : Time}, d.Paced source now → d.workers.get? w = some i →
      d.Homing i (d.Cut w own) →
      (∀ s ∈ rest, s ∈ own ∧ source.Takes s ∧ source.Has s.edge ∧ now ≤ s.edge.origin.time) →
      (rest.Pairwise fun x y => x.edge.target.time ≤ y.edge.origin.time) →
      d.steps source w rest = .ok d' → d.Extends d' ∧ d'.Homing i (d'.Cut w own) := by
  induction rest with
  | nil =>
    intro d d' now _ _ h _ _ hok
    obtain rfl := Except.ok.inj hok
    exact ⟨.refl d, h⟩
  | cons s rest ih =>
    intro d d' now hpaced hw h hall hsorted hok
    simp only [Draft.steps, bind_eq_ok] at hok
    obtain ⟨d₁, hstep, hrest⟩ := hok
    obtain ⟨hmem, ht, hhas, hnow⟩ := hall s List.mem_cons_self
    obtain ⟨hfirst, hsorted⟩ := List.pairwise_cons.1 hsorted
    obtain ⟨hext, h₁⟩ := h.step hs hpaced hw hmem ht hnow hstep
    have hpaced₁ := (hpaced.step_written hs ht hnow (hs.drawn hhas).forward
      (ht.moves_upTo hs heps hhas w) hstep).1
    have hall' : ∀ s' ∈ rest, s' ∈ own ∧ source.Takes s' ∧ source.Has s'.edge ∧
        s.edge.target.time ≤ s'.edge.origin.time := by
      intro s' hs'
      obtain ⟨hmem', ht', hhas', -⟩ := hall s' (List.mem_cons_of_mem _ hs')
      exact ⟨hmem', ht', hhas', hfirst s' hs'⟩
    obtain ⟨hext', h'⟩ := ih hpaced₁ (hext.workers _ _ hw) h₁ hall' hsorted hrest
    exact ⟨hext.trans hext', h'⟩

end Draft

open CausalPath.Graph Draft

/-! ## § 3. Whole paths -/

variable {g : Graph}

/-- Every vertex of a draft leads to where the draft arrives, or to a break. -/
theorem Graph.Rewinds.homing (h : g.Sound) (heps : g.EpsilonInstant) {bound : Option Time}
    {start oldest : Vertex} {steps : List PathStep} (hr : g.Rewinds bound start oldest steps)
    (hv : g.vertex? start.id = some start) {home : Vertex} {d : Draft}
    (hok : g.draftPath start oldest steps = .ok (home, d)) :
    d.Homing home.worker (d.Cut start.worker steps) := by
  have hat := (hr.written_of_draftPath h heps hv hok).1
  simp only [draftPath, bind_eq_ok, Prod.exists] at hok
  obtain ⟨v₁, d₁, hens, d₂, hsteps, hlast⟩ := hok
  have hnew := paced_new g g.startTime
  have hnone : (Draft.new g.startTime).Homing v₁.worker fun _ => False := by
    intro v hv
    simp [Draft.new, Graph.new, Graph.contains] at hv
  have hat₁ := (hnew.ensure h (Nat.zero_le _) hens).1
  -- the first vertex is the tail of the home worker
  have h₁ : d₁.Homing v₁.worker (d₁.Cut start.worker steps) := by
    refine (hnone.ensure h hnew.toMirrors hens).redirect ?_
    rintro b (hb | rfl)
    · exact absurd hb id
    · exact held_of_tail hat₁.last
  obtain ⟨-, -, hle, hall⟩ := hr.within h hv
  obtain ⟨hext₂, h₂⟩ := h₁.steps h heps steps hat₁.toPaced hat₁.output
    (fun s hs => ⟨hs, hr.takes s hs, (hall s hs).1, (hall s hs).2.2.2.2.1⟩) (hr.sorted h hv) hsteps
  have hpaced₂ := (hat₁.toPaced.steps_written h heps steps
    (fun s hs => ⟨hr.takes s hs, (hall s hs).1, (hall s hs).2.2.2.2.1⟩) (hr.sorted h hv) hle
    (fun s hs => (hall s hs).2.2.2.2.2) hsteps).1
  have hext₃ := ensure_extends h hpaced₂.toMirrors hlast
  -- the last vertex is on the same output worker as the first
  have hhome : v₁.worker = home.worker := by
    have hout := hat.output
    rw [(hext₂.trans hext₃).workers _ _ hat₁.output] at hout
    exact Option.some.inj hout
  rw [hhome] at h₂
  refine (h₂.ensure h hpaced₂.toMirrors hlast).redirect ?_
  rintro b (hb | rfl)
  · exact held_of_place (hb.mono hext₃)
  · exact held_of_tail hat.last

/-- In a graph whose hops take no time, every segment and every link of a critical path leads to
the vertex of the start worker at the start time, or to a break that does not lead there. The whole
path is one chain exactly if all its breaks lead there. -/
theorem pieces_lead_home (hbuilt : g.Built) (heps : g.EpsilonInstant) {start : VertexId}
    {stop : Option VertexId} {cancelled : Bool} {p : CriticalPath}
    (hok : g.criticalPath start stop cancelled = .ok p) :
    ∃ s oldest steps home d, g.vertex? start = some s ∧
      g.Rewinds (stop.bind g.time?) s oldest steps ∧
      g.draftPath s oldest steps = .ok (home, d) ∧ d.finish = .ok p ∧
      p.graph.vertex? home.id = some home ∧ p.graph.worker? home.worker = g.worker? s.worker ∧
      home.time = s.time ∧
      (∀ e ∈ p.graph.edgeList, (e.horizontal = true → e.state ≠ .noEdge) →
        p.graph.Leads e.target.id home.id ∨
          ∃ b, d.Breaks s.worker steps b ∧ ¬p.graph.Leads b home.id ∧
            p.graph.Leads e.target.id b) ∧
      ((∀ v, d.graph.contains v = true → p.graph.Leads v home.id) ↔
        ∀ b, d.Breaks s.worker steps b → p.graph.Leads b home.id) := by
  have h := hbuilt.sound
  obtain ⟨s, oldest, steps, home, d, hs, -, hr, hdraft, hfinish⟩ := criticalPath_eq_ok hok
  obtain rfl := vertex?_id hs
  obtain ⟨hat, -⟩ := hr.written_of_draftPath h heps hs hdraft
  have hhoming := hr.homing h heps hs hdraft
  have hfill := finish_fills hat.sound hfinish
  have hsame : p.graph.worker? home.worker = g.worker? s.worker := by
    obtain ⟨x, hx, hxi⟩ := hat.named _ _ hat.output
    rw [hfill.worker?, hxi, hx]
  obtain ⟨l, hl, hfiller⟩ := hfill.edgeList
  have hhas : ∀ e, d.graph.Has e → p.graph.Has e := has_of_append hl
  have hvertex : ∀ v, d.graph.contains v = true → p.graph.Leads v home.id ∨
      ∃ b, d.Breaks s.worker steps b ∧ ¬p.graph.Leads b home.id ∧ p.graph.Leads v b := by
    intro v hv
    rcases hhoming v hv with ⟨u, hu, hlead⟩ | ⟨b, hb, hlead⟩
    · obtain rfl := Option.some.inj (hat.last.symm.trans hu)
      exact Or.inl (hlead.mono hhas)
    · have hbreak : d.Breaks s.worker steps b := by
        rcases hb with ⟨hin, x, hx, hxb, hne, htaken⟩ | hcut
        · refine Or.inl ⟨hin, x, hx, hxb, ?_, htaken⟩
          rw [show d.workers.get? s.worker = some home.worker from hat.output]
          intro heq
          exact hne (Option.some.inj heq).symm
        · exact Or.inr hcut
      by_cases hback : p.graph.Leads b home.id
      · exact Or.inl ((hlead.mono hhas).trans hback)
      · exact Or.inr ⟨b, hbreak, hback, hlead.mono hhas⟩
  refine ⟨s, oldest, steps, home, d, hs, hr, hdraft, hfinish, hfill.vertex? _ _ hat.vertex?, hsame,
    hat.time, ?_, ?_⟩
  · intro e he hpiece
    -- a piece is no filler, so the draft has it already
    rw [hl] at he
    have hedge : e ∈ d.graph.edgeList := by
      rcases List.mem_append.1 he with he | he
      · exact he
      · obtain ⟨hh, hstate⟩ := hfiller e he
        exact absurd hstate (hpiece hh)
    exact hvertex e.target.id (hat.sound.drawn (mem_edgeList.1 hedge)).contains_target
  · constructor
    · intro hall b hb
      exact hall b hb.contains
    · intro hall v hv
      rcases hvertex v hv with hlead | ⟨b, hb, hno, -⟩
      · exact hlead
      · exact absurd (hall b hb) hno

/-- The path of `woken` crosses to the waker at 0 and back at 10: all of it leads to the vertex of
the first worker at 10. -/
theorem woken_path : ∃ p, woken.criticalPath ⟨1⟩ none false = .ok p ∧
    (∀ u, p.graph.vertex? u.id = some u → u.time ≤ 10 → p.graph.Leads u.id ⟨4⟩) ∧
    ∀ u, p.graph.vertex? u.id = some u → u.time = 10 →
      p.graph.worker? u.worker = woken.worker? ⟨0⟩ → u.id = ⟨4⟩ := by
  have hshow : (woken.criticalPath ⟨1⟩ none false).map (fun p =>
      (p.graph.vertexIds.filterMap p.graph.vertex?,
        p.graph.edgeList.map fun e => (e.origin.id, e.target.id), p.graph.worker? ⟨1⟩)) =
      .ok ([⟨⟨0⟩, ⟨0⟩, 0⟩, ⟨⟨1⟩, ⟨1⟩, 0⟩, ⟨⟨2⟩, ⟨1⟩, 4⟩, ⟨⟨3⟩, ⟨1⟩, 10⟩, ⟨⟨4⟩, ⟨0⟩, 10⟩,
          ⟨⟨5⟩, ⟨0⟩, Time.last⟩, ⟨⟨6⟩, ⟨1⟩, Time.last⟩],
        [(⟨0⟩, ⟨1⟩), (⟨1⟩, ⟨2⟩), (⟨2⟩, ⟨3⟩), (⟨0⟩, ⟨4⟩), (⟨3⟩, ⟨4⟩), (⟨4⟩, ⟨5⟩), (⟨3⟩, ⟨6⟩)],
        woken.worker? ⟨1⟩) := by cbv
  obtain ⟨p, hok, heq⟩ := map_eq_ok.1 hshow
  simp only [Prod.mk.injEq] at heq
  obtain ⟨hvertices, hedges, hwaker⟩ := heq
  have hlisted : ∀ {u}, p.graph.vertex? u.id = some u →
      u ∈ p.graph.vertexIds.filterMap p.graph.vertex? := by
    intro u hu
    exact List.mem_filterMap.2 ⟨u.id, mem_vertexIds_of_vertex? hu, hu⟩
  have hearly : ∀ u ∈ p.graph.vertexIds.filterMap p.graph.vertex?, u.time ≤ 10 →
      u.id ∈ ([⟨0⟩, ⟨1⟩, ⟨2⟩, ⟨3⟩, ⟨4⟩] : List VertexId) := by
    rw [hvertices]
    decide
  have honly : ∀ u ∈ p.graph.vertexIds.filterMap p.graph.vertex?, u.time = 10 →
      u.worker = ⟨1⟩ ∨ u.id = ⟨4⟩ := by
    rw [hvertices]
    decide
  refine ⟨p, hok, ?_, ?_⟩
  · intro u hu htime
    have h₃ : p.graph.Leads ⟨3⟩ ⟨4⟩ := leads_of_ends (by simp [hedges])
    have h₂ : p.graph.Leads ⟨2⟩ ⟨4⟩ := (leads_of_ends (by simp [hedges])).trans h₃
    have h₁ : p.graph.Leads ⟨1⟩ ⟨4⟩ := (leads_of_ends (by simp [hedges])).trans h₂
    have h₀ : p.graph.Leads ⟨0⟩ ⟨4⟩ := leads_of_ends (by simp [hedges])
    have hall : ∀ v ∈ [⟨0⟩, ⟨1⟩, ⟨2⟩, ⟨3⟩, ⟨4⟩], p.graph.Leads v ⟨4⟩ := by
      simp [h₀, h₁, h₂, h₃, Leads.refl]
    exact hall u.id (hearly u (hlisted hu) htime)
  · intro u hu htime hworker
    rcases honly u (hlisted hu) htime with hw | hid
    · rw [hw, hwaker] at hworker
      exact absurd hworker (by decide)
    · exact hid

/-- So all its pieces lead there, and it has no break that does not. -/
theorem pieces_lead_home_of_woken : ∃ p, woken.criticalPath ⟨1⟩ none false = .ok p ∧
    ∃ (s home : Vertex) (steps : List PathStep) (d : Draft), woken.vertex? ⟨1⟩ = some s ∧
      d.finish = .ok p ∧ home.time = s.time ∧
      (∀ e ∈ p.graph.edgeList, (e.horizontal = true → e.state ≠ .noEdge) →
        p.graph.Leads e.target.id home.id) ∧
      ∀ b, d.Breaks s.worker steps b → p.graph.Leads b home.id := by
  obtain ⟨p, hok, hleads, honly⟩ := woken_path
  have hbuilt : woken.Built := ⟨0, _, rfl⟩
  have heps : woken.EpsilonInstant := epsilonInstant_iff.2 (by cbv)
  obtain ⟨s, oldest, steps, home, d, hs, hr, hdraft, hfinish, hhome, hworker, htime, hall, hiff⟩ :=
    pieces_lead_home hbuilt heps hok
  have hstart : woken.vertex? ⟨1⟩ = some ⟨⟨1⟩, ⟨0⟩, 10⟩ := by cbv
  obtain rfl := Option.some.inj (hstart.symm.trans hs)
  have hid : home.id = ⟨4⟩ := honly home hhome htime hworker
  have hat := (hr.written_of_draftPath hbuilt.sound heps hs hdraft).1
  have hin : ∀ v, d.graph.contains v = true → p.graph.Leads v home.id := by
    intro v hv
    obtain ⟨u, hu⟩ := vertex?_isSome_of_contains hv
    obtain rfl := vertex?_id hu
    rw [hid]
    exact hleads u ((finish_fills hat.sound hfinish).vertex? _ _ hu) (hat.time_le hv hu)
  have hbreaks := hiff.1 hin
  refine ⟨p, hok, _, home, steps, d, hs, hfinish, htime, ?_, hbreaks⟩
  intro e he hpiece
  rcases hall e he hpiece with hlead | ⟨b, hb, hno, -⟩
  · exact hlead
  · exact absurd (hbreaks b hb) hno

/-- Two waits of a worker, the second one of no duration, that one wakeup ended. -/
def rewoken : Graph :=
  Mutation.runAll
    [.addWorker (Worker.thread "h" 1 "a"), .createVertex ⟨0⟩ 2, .add ⟨0⟩,
      .addWorker (Worker.thread "h" 2 "b"), .createVertex ⟨1⟩ 2, .add ⟨1⟩, .createVertex ⟨1⟩ 5,
      .append ⟨2⟩ .blocked none, .createVertex ⟨1⟩ 5, .append ⟨3⟩ .blocked none,
      .linkVertical ⟨0⟩ ⟨3⟩ .default none]
    (Graph.new 0)

/-- A link of the path leads into vertices that no edge leaves, and none of them is the worker's. -/
def strands (w : Option Worker) (S : List VertexId) : Except PathError CriticalPath → Bool
  | .error _ => false
  | .ok p =>
    (p.graph.edgeList.any fun e => !e.horizontal && e.target.id ∈ S) &&
      (p.graph.edgeList.all fun e => e.origin.id ∉ S || e.target.id ∈ S) &&
      S.all fun v => (p.graph.vertex? v).bind (p.graph.worker? ·.worker) ≠ w

theorem leads_nowhere_of_strands {w : Option Worker} {S : List VertexId}
    {r : Except PathError CriticalPath} (h : strands w S r = true) :
    ∃ p, r = .ok p ∧ ∃ e ∈ p.graph.edgeList, e.horizontal = false ∧ ∀ home,
      p.graph.vertex? home.id = some home → p.graph.worker? home.worker = w →
        ¬p.graph.Leads e.target.id home.id := by
  cases r with
  | error err => exact absurd h (by simp [strands])
  | ok p =>
    simp only [strands, Bool.and_eq_true, List.any_eq_true, List.all_eq_true, Bool.not_eq_true',
      Bool.or_eq_true, decide_eq_true_eq] at h
    obtain ⟨⟨⟨e, he, hlink, hin⟩, hclosed⟩, hworkers⟩ := h
    refine ⟨p, rfl, e, he, hlink, ?_⟩
    intro home hhome hworker hlead
    have hmem := hlead.mem (fun e' he' ho => (hclosed e' he').resolve_left fun hno => hno ho) hin
    apply hworkers home.id hmem
    rw [hhome, ← hworker]
    rfl

/-- The path of `rewoken` has a link that does not lead to its worker. The second explanation goes
to the waker and finds the way back taken by the first. -/
theorem not_all_pieces_lead_home : rewoken.Built ∧ rewoken.EpsilonInstant ∧
    rewoken.contains ⟨3⟩ = true ∧ rewoken.parent? ⟨3⟩ = some ⟨1⟩ ∧
    ∃ p, rewoken.criticalPath ⟨3⟩ none false = .ok p ∧
      ∃ e ∈ p.graph.edgeList, e.horizontal = false ∧ ∀ home,
        p.graph.vertex? home.id = some home →
          p.graph.worker? home.worker = rewoken.worker? ⟨1⟩ →
            ¬p.graph.Leads e.target.id home.id := by
  have hstrands : strands (rewoken.worker? ⟨1⟩) [⟨3⟩, ⟨5⟩]
      (rewoken.criticalPath ⟨3⟩ none false) = true := by cbv
  exact ⟨⟨0, _, rfl⟩, epsilonInstant_iff.2 (by cbv), by cbv, by cbv,
    leads_nowhere_of_strands hstrands⟩

/-- The first worker waits from 0 to 20 and is woken by the second one, which was itself blocked
from 5 to 12. Both ways back from there end soon: the third worker, which ended that blocking, and
the fourth one, which woke the second at 5. -/
def severed : Graph :=
  Mutation.runAll
    [.addWorker (Worker.thread "h" 1 "a"), .createVertex ⟨0⟩ 0, .add ⟨0⟩, .createVertex ⟨0⟩ 20,
      .append ⟨1⟩ .blocked none,
      .addWorker (Worker.thread "h" 2 "b"), .createVertex ⟨1⟩ 1, .add ⟨2⟩, .createVertex ⟨1⟩ 5,
      .append ⟨3⟩ .running none, .createVertex ⟨1⟩ 12, .append ⟨4⟩ .blocked none,
      .createVertex ⟨1⟩ 15, .append ⟨5⟩ .running none,
      .addWorker (Worker.thread "h" 3 "c"), .createVertex ⟨2⟩ 8, .add ⟨6⟩,
      .addWorker (Worker.thread "h" 4 "d"), .createVertex ⟨3⟩ 3, .add ⟨7⟩,
      .linkVertical ⟨5⟩ ⟨1⟩ .default none, .linkVertical ⟨6⟩ ⟨4⟩ .default none,
      .linkVertical ⟨7⟩ ⟨3⟩ .default none]
    (Graph.new 0)

-- the explanation of its wait ends on the second worker
example : strands (severed.worker? ⟨0⟩) [⟨3⟩, ⟨7⟩]
    (severed.criticalPath ⟨1⟩ none false) = true := by
  cbv

end CausalPath
