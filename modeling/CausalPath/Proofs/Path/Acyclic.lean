import CausalPath.Proofs.Path.Cycle
import CausalPath.Proofs.Path.Passing

/-!
# Cycles of output graphs

An output graph keeps one vertex for a worker at an instant where it can. A path that leaves a
worker and comes back to it within one instant may therefore come back to the vertex that it left,
and then the links of the path make a cycle. No other cycles occur: `path_cycle_passes`.
-/

namespace CausalPath

namespace Graph

variable {g : Graph} {a b v : VertexId} {t : Time}

/-! ## § 1. Cycles within an instant -/

theorem Sound.joins_noLater (h : g.Sound) (hab : g.Joins a b) : g.NoLater a b := by
  obtain ⟨e, he, rfl, rfl⟩ := hab
  have hd := h.drawn he
  exact ⟨_, _, by rw [time?_eq, hd.origin]; rfl, by rw [time?_eq, hd.target]; rfl, hd.forward⟩

theorem Sound.leads_noLater (h : g.Sound) (hab : Relation.TransGen g.Joins a b) :
    g.NoLater a b := by
  induction hab with
  | single hstep => exact h.joins_noLater hstep
  | tail _ hstep ih => exact ih.trans (h.joins_noLater hstep)

/-- Vertices that lead to each other are in one instant. -/
theorem Sound.time?_of_leads (h : g.Sound) (hab : Relation.TransGen g.Joins a b)
    (hba : Relation.TransGen g.Joins b a) : g.time? a = g.time? b := by
  obtain ⟨s, t, hs, ht, hst⟩ := h.leads_noLater hab
  obtain ⟨t', s', ht', hs', hts⟩ := h.leads_noLater hba
  obtain rfl := Option.some.inj (hs.symm.trans hs')
  obtain rfl := Option.some.inj (ht.symm.trans ht')
  rw [hs, ht, Nat.le_antisymm hst hts]

/-- The worker of a vertex. -/
def workerOf (g : Graph) (v : VertexId) : Option Worker :=
  (g.vertex? v).bind fun u => g.worker? u.worker

/-- Edges that lead from a vertex to another within an instant stay on one chain and go forward in
it, or lead from worker to worker as the links of the instant do. -/
theorem Sound.leads_within (h : g.Sound) {R : Worker → Worker → Prop}
    (hlink : ∀ e, g.Has e → e.horizontal = false → e.origin.time = t → e.target.time = t →
      ∃ x y, g.workerOf e.origin.id = some x ∧ g.workerOf e.target.id = some y ∧ R x y)
    (hab : Relation.TransGen g.Joins a b) (ha : g.time? a = some t) (hb : g.time? b = some t) :
    (g.workerOf a = g.workerOf b ∧ g.place a < g.place b) ∨
      ∃ x y, g.workerOf a = some x ∧ g.workerOf b = some y ∧ Relation.TransGen R x y := by
  have hstep : ∀ {u v}, g.Joins u v → g.time? u = some t → g.time? v = some t →
      (g.workerOf u = g.workerOf v ∧ g.place u < g.place v) ∨
        ∃ x y, g.workerOf u = some x ∧ g.workerOf v = some y ∧ R x y := by
    rintro u v ⟨e, he, rfl, rfl⟩ hu hv
    have hd := h.drawn he
    rw [time?_eq, hd.origin] at hu
    rw [time?_eq, hd.target] at hv
    cases hh : e.horizontal with
    | true =>
      refine Or.inl ⟨?_, h.place_lt he hh⟩
      simp [workerOf, hd.origin, hd.target, hd.worker hh]
    | false => exact Or.inr (hlink e he hh (Option.some.inj hu) (Option.some.inj hv))
  induction hab with
  | single hjoin =>
    rcases hstep hjoin ha hb with hsame | ⟨x, y, hx, hy, hxy⟩
    · exact Or.inl hsame
    · exact Or.inr ⟨x, y, hx, hy, .single hxy⟩
  | @tail c d hac hcd ih =>
    -- what lies between two vertices of an instant is in the instant
    have hc : g.time? c = some t := by
      obtain ⟨s, s', hs, hs', hle⟩ := h.leads_noLater hac
      obtain ⟨r, r', hr, hr', hle'⟩ := h.joins_noLater hcd
      obtain rfl := Option.some.inj (hs.symm.trans ha)
      obtain rfl := Option.some.inj (hr'.symm.trans hb)
      obtain rfl := Option.some.inj (hs'.symm.trans hr)
      rw [hs', Nat.le_antisymm hle' hle]
    rcases ih hc with ⟨hsame, hplace⟩ | ⟨x, y, hx, hy, hxy⟩
    · rcases hstep hcd hc hb with ⟨hsame', hplace'⟩ | ⟨x, y, hx, hy, hxy⟩
      · exact Or.inl ⟨hsame.trans hsame', Nat.lt_trans hplace hplace'⟩
      · exact Or.inr ⟨x, y, hsame.trans hx, hy, .single hxy⟩
    · rcases hstep hcd hc hb with ⟨hsame', -⟩ | ⟨y', z, hy', hz, hyz⟩
      · exact Or.inr ⟨x, y, hx, hsame'.symm.trans hy, hxy⟩
      · obtain rfl := Option.some.inj (hy.symm.trans hy')
        exact Or.inr ⟨x, z, hx, hz, hxy.tail hyz⟩

/-- Passes between workers by name are passes, since no two workers share a name. -/
theorem Sound.transGen_passes (h : g.Sound) {x y : Worker}
    (hxy : Relation.TransGen (fun x y => ∃ i j, g.worker? i = some x ∧ g.worker? j = some y ∧
      g.Passes t i j) x y) :
    ∃ i j, g.worker? i = some x ∧ g.worker? j = some y ∧
      Relation.TransGen (g.Passes t) i j := by
  induction hxy with
  | single hstep =>
    obtain ⟨i, j, hi, hj, hij⟩ := hstep
    exact ⟨i, j, hi, hj, .single hij⟩
  | tail _ hstep ih =>
    obtain ⟨i, j, hi, hj, hij⟩ := ih
    obtain ⟨j', k, hj', hk, hjk⟩ := hstep
    obtain rfl := h.eq_of_key hj hj' rfl
    exact ⟨i, k, hi, hk, hij.tail hjk⟩

end Graph

/-! ## § 2. Cycles of paths -/

open CausalPath.Graph

theorem Draft.finish_sound {d : Draft} (h : d.graph.Sound) {p : CriticalPath}
    (hok : d.finish = .ok p) : p.graph.Sound := by
  unfold Draft.finish at hok
  split at hok
  · rename_i graph hclose
    obtain rfl := Except.ok.inj hok
    have hgrows := close_grows h Time.last
    rw [hclose] at hgrows
    exact hgrows.sound h
  · exact absurd hok (by simp)

theorem Graph.Sound.path_sound {g : Graph} (h : g.Sound) (heps : g.EpsilonInstant)
    {start : VertexId} {stop : Option VertexId} {cancelled : Bool} {p : CriticalPath}
    (hok : g.criticalPath start stop cancelled = .ok p) : p.graph.Sound := by
  obtain ⟨s, oldest, steps, v, d, hs, -, hr, hdraft, hfinish⟩ := criticalPath_eq_ok hok
  obtain rfl := vertex?_id hs
  exact Draft.finish_sound (hr.written_of_draftPath h heps hs hdraft).1.sound hfinish

/-- At an instant without momentary waits, a vertical edge of the output graph within the instant is
a pass between its workers. -/
theorem Graph.Sound.edge_pass {g : Graph} (h : g.Sound) (heps : g.EpsilonInstant) {instant : Time}
    (hno : ∀ b, ¬g.Momentary instant b) {start : VertexId} {stop : Option VertexId}
    {cancelled : Bool} {p : CriticalPath} (hok : g.criticalPath start stop cancelled = .ok p)
    {e : Edge} (he : p.graph.Has e) (hh : e.horizontal = false) (ho : e.origin.time = instant)
    (ht : e.target.time = instant) :
    ∃ x y, p.graph.workerOf e.origin.id = some x ∧ p.graph.workerOf e.target.id = some y ∧
      ∃ i j, g.worker? i = some x ∧ g.worker? j = some y ∧ g.Passes instant i j := by
  have hp := h.path_sound heps hok
  have hd := hp.drawn he
  obtain ⟨x, hx⟩ := Option.isSome_iff_exists.1 (hp.registered _ _ hd.origin)
  obtain ⟨y, hy⟩ := Option.isSome_iff_exists.1 (hp.registered _ _ hd.target)
  have hmem : ⟨x, y, e.origin.time, e.target.time, e.state, e.qualifier⟩ ∈ p.links := by
    refine List.mem_filterMap.2 ⟨e, mem_edgeList.2 he, ?_⟩
    simp [CriticalPath.link?, hh, hx, hy]
  refine ⟨x, y, by simp [workerOf, hd.origin, hx], by simp [workerOf, hd.target, hy], ?_⟩
  exact links_pass h heps hno hok hmem ho ht

/-- A cycle of the output graph of a search lies in one instant. Either a wait starts and ends then,
or a path can pass then from the worker of any vertex of the cycle around and back to it. -/
theorem path_cycle_passes {g : Graph} (hbuilt : g.Built) (heps : g.EpsilonInstant)
    {start : VertexId} {stop : Option VertexId} {cancelled : Bool} {p : CriticalPath}
    (hok : g.criticalPath start stop cancelled = .ok p) :
    (∀ u v, Relation.TransGen p.graph.Joins u v → Relation.TransGen p.graph.Joins v u →
      p.graph.time? u = p.graph.time? v) ∧
    ∀ v, Relation.TransGen p.graph.Joins v v → ∃ t, p.graph.time? v = some t ∧
      ((∃ b, g.Momentary t b) ∨
        ∃ w, g.worker? w = p.graph.workerOf v ∧ Relation.TransGen (g.Passes t) w w) := by
  have h := hbuilt.sound
  have hp := h.path_sound heps hok
  refine ⟨fun u v => hp.time?_of_leads, ?_⟩
  intro v hcycle
  obtain ⟨t, -, ht, -⟩ := hp.leads_noLater hcycle
  refine ⟨t, ht, ?_⟩
  by_cases hmoment : ∃ b, g.Momentary t b
  · exact Or.inl hmoment
  · right
    have hno : ∀ b, ¬g.Momentary t b := not_exists.1 hmoment
    rcases hp.leads_within (fun e => h.edge_pass heps hno hok) hcycle ht ht with
      ⟨-, hplace⟩ | ⟨x, y, hx, hy, hxy⟩
    · exact absurd hplace (Nat.lt_irrefl _)
    · obtain ⟨i, j, hi, hj, hij⟩ := h.transGen_passes hxy
      obtain rfl := Option.some.inj (hx.symm.trans hy)
      obtain rfl := h.eq_of_key hi hj rfl
      exact ⟨i, hi.trans hx.symm, hij⟩

/-- The edges of `woken`: the wait, the run of the other worker, and the wakeup. -/
theorem woken_edges {e : Edge} (he : woken.Has e) :
    e = ⟨⟨0⟩, ⟨⟨0⟩, ⟨0⟩, 0⟩, ⟨⟨1⟩, ⟨0⟩, 10⟩, .blocked, none, true⟩ ∨
      e = ⟨⟨1⟩, ⟨⟨2⟩, ⟨1⟩, 4⟩, ⟨⟨3⟩, ⟨1⟩, 10⟩, .running, none, true⟩ ∨
      e = ⟨⟨2⟩, ⟨⟨3⟩, ⟨1⟩, 10⟩, ⟨⟨1⟩, ⟨0⟩, 10⟩, .default, none, false⟩ := by
  have hlist : woken.edgeList =
      [⟨⟨0⟩, ⟨⟨0⟩, ⟨0⟩, 0⟩, ⟨⟨1⟩, ⟨0⟩, 10⟩, .blocked, none, true⟩,
        ⟨⟨1⟩, ⟨⟨2⟩, ⟨1⟩, 4⟩, ⟨⟨3⟩, ⟨1⟩, 10⟩, .running, none, true⟩,
        ⟨⟨2⟩, ⟨⟨3⟩, ⟨1⟩, 10⟩, ⟨⟨1⟩, ⟨0⟩, 10⟩, .default, none, false⟩] := by cbv
  simpa [hlist] using mem_edgeList.2 he

/-- A path of `woken` can pass to the waking worker when the wait starts, and back when it ends. -/
theorem woken_passes {t : Time} {i j : WorkerId} (hij : woken.Passes t i j) :
    (t = 10 ∧ j.index < i.index) ∨ (t = 0 ∧ i.index < j.index) := by
  have htrail : ∀ {b trail}, woken.Explains b trail → b.origin = ⟨⟨0⟩, ⟨0⟩, 0⟩ ∧
      trail = [⟨⟨1⟩, ⟨⟨2⟩, ⟨1⟩, 4⟩, ⟨⟨3⟩, ⟨1⟩, 10⟩, .running, none, true⟩,
        ⟨⟨2⟩, ⟨⟨3⟩, ⟨1⟩, 10⟩, ⟨⟨1⟩, ⟨0⟩, 10⟩, .default, none, false⟩] := by
    intro b trail hx
    have hres := hx.resolve
    rcases woken_edges hx.has with rfl | rfl | rfl
    · refine ⟨rfl, Except.ok.inj (hres.symm.trans ?_)⟩
      cbv
    · exact absurd hx.wait.2 (by decide)
    · exact absurd hx.wait.1 (by decide)
  cases hij with
  | edge he _ ht haway =>
    rcases woken_edges he with rfl | rfl | rfl
    · exact absurd rfl haway
    · exact absurd rfl haway
    · exact Or.inl ⟨ht.symm, by decide⟩
  | glue hx ht _ =>
    obtain ⟨hstart, hlist⟩ := htrail hx
    obtain ⟨rfl, -⟩ := List.cons.inj hlist
    rw [hstart] at ht ⊢
    exact Or.inr ⟨ht.symm, by decide⟩
  | gap hx hnext hapart =>
    obtain ⟨-, rfl⟩ := htrail hx
    have hpair := hnext.sublist.eq_of_length rfl
    obtain ⟨rfl, hlast⟩ := List.cons.inj hpair
    obtain ⟨rfl, -⟩ := List.cons.inj hlast
    exact absurd rfl hapart

/-- The path of `woken` makes no cycle: at each instant its workers can pass in one direction only. -/
theorem path_cycle_passes_of_woken : ∃ p, woken.criticalPath ⟨1⟩ none false = .ok p ∧
    ∀ v, ¬Relation.TransGen p.graph.Joins v v := by
  have hsome : (woken.criticalPath ⟨1⟩ none false).isOk = true := by cbv
  obtain ⟨p, hok⟩ := exists_of_isOk hsome
  have hbuilt : woken.Built := ⟨0, _, rfl⟩
  have heps : woken.EpsilonInstant := epsilonInstant_iff.2 (by cbv)
  refine ⟨p, hok, ?_⟩
  intro v hcycle
  obtain ⟨t, -, hcases⟩ := (path_cycle_passes hbuilt heps hok).2 v hcycle
  rcases hcases with ⟨b, hb⟩ | ⟨w, -, hw⟩
  · have hinstant := hb.origin.trans hb.target.symm
    rcases woken_edges hb.has with rfl | rfl | rfl
    · exact absurd hinstant (by decide)
    · exact absurd hb.wait.2 (by decide)
    · exact absurd hb.wait.1 (by decide)
  · have hone : ∀ {i j}, Relation.TransGen (woken.Passes t) i j →
        (t = 10 ∧ j.index < i.index) ∨ (t = 0 ∧ i.index < j.index) := by
      intro i j hij
      induction hij with
      | single hstep => exact woken_passes hstep
      | tail _ hstep ih =>
        rcases woken_passes hstep with ⟨rfl, hlt⟩ | ⟨rfl, hlt⟩
        · rcases ih with ⟨-, hlt'⟩ | ⟨hzero, -⟩
          · exact Or.inl ⟨rfl, Nat.lt_trans hlt hlt'⟩
          · exact absurd hzero (by decide)
        · rcases ih with ⟨hten, -⟩ | ⟨-, hlt'⟩
          · exact absurd hten (by decide)
          · exact Or.inr ⟨rfl, Nat.lt_trans hlt' hlt⟩
    rcases hone hw with ⟨-, hlt⟩ | ⟨-, hlt⟩
    · exact absurd hlt (Nat.lt_irrefl _)
    · exact absurd hlt (Nat.lt_irrefl _)

/-- A worker is blocked for no time, by one that wakes it at once. -/
def echoed : Graph :=
  Mutation.runAll
    [.addWorker (Worker.thread "h" 1 "a"), .createVertex ⟨0⟩ 10, .add ⟨0⟩, .createVertex ⟨0⟩ 10,
      .append ⟨1⟩ .blocked none, .addWorker (Worker.thread "h" 2 "b"), .createVertex ⟨1⟩ 10,
      .add ⟨2⟩, .linkVertical ⟨2⟩ ⟨1⟩ .default none]
    (Graph.new 0)

/-- Two edges of the output graph lead there and back. -/
def returns : Except PathError CriticalPath → Bool
  | .error _ => false
  | .ok p => p.graph.edgeList.any fun e => p.graph.edgeList.any fun e' =>
      e'.origin.id = e.target.id && e'.target.id = e.origin.id

theorem cycle_of_returns {r : Except PathError CriticalPath} (h : returns r = true) :
    ∃ p, r = .ok p ∧ ∃ v, Relation.TransGen p.graph.Joins v v := by
  cases r with
  | error err => exact absurd h (by simp [returns])
  | ok p =>
    simp only [returns, List.any_eq_true, Bool.and_eq_true, decide_eq_true_eq] at h
    obtain ⟨e, he, e', he', horigin, htarget⟩ := h
    have hthere : p.graph.Joins e.origin.id e.target.id := ⟨e, mem_edgeList.1 he, rfl, rfl⟩
    have hback : p.graph.Joins e.target.id e.origin.id :=
      ⟨e', mem_edgeList.1 he', horigin, htarget⟩
    exact ⟨p, rfl, e.origin.id, .tail (.single hthere) hback⟩

/-- The edges of `echoed` make no cycle, but those of its path do: glue leads from the blocked
worker to the other one, and the wakeup leads back to the vertex that the glue left. -/
theorem not_all_paths_acyclic : echoed.Built ∧ echoed.EpsilonInstant ∧
    (∀ v, ¬Relation.TransGen echoed.Joins v v) ∧
    ∃ p, echoed.criticalPath ⟨1⟩ none false = .ok p ∧
      ∃ v, Relation.TransGen p.graph.Joins v v := by
  have hreturns : returns (echoed.criticalPath ⟨1⟩ none false) = true := by cbv
  refine ⟨⟨0, _, rfl⟩, epsilonInstant_iff.2 (by cbv), ?_, cycle_of_returns hreturns⟩
  -- both edges lead to the second vertex
  have hranked : (echoed.edgeList.all fun e =>
      decide (e.origin.id.index % 2 < e.target.id.index % 2)) = true := by cbv
  apply acyclic_of_rank fun v => v.index % 2
  intro e he
  simpa using List.all_eq_true.1 hranked e he

/-- The first worker is blocked until the second one wakes it. At one instant before, the second one
went over to a third worker and came back. -/
def detour : Graph :=
  Mutation.runAll
    [.addWorker (Worker.thread "h" 1 "a"), .createVertex ⟨0⟩ 0, .add ⟨0⟩, .createVertex ⟨0⟩ 10,
      .append ⟨1⟩ .blocked none,
      .addWorker (Worker.thread "h" 2 "b"), .createVertex ⟨1⟩ 5, .add ⟨2⟩, .createVertex ⟨1⟩ 5,
      .append ⟨3⟩ .running none, .createVertex ⟨1⟩ 10, .append ⟨4⟩ .running none,
      .addWorker (Worker.thread "h" 3 "c"), .createVertex ⟨2⟩ 5, .add ⟨5⟩,
      .linkVertical ⟨2⟩ ⟨5⟩ .default none, .linkVertical ⟨5⟩ ⟨3⟩ .default none,
      .linkVertical ⟨4⟩ ⟨1⟩ .default none]
    (Graph.new 0)

-- no wait of the graph is momentary, and yet its path comes back to the vertex that it left
example : returns (detour.criticalPath ⟨1⟩ none false) = true := by
  cbv

end CausalPath
