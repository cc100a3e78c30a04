import CausalPath.Proofs.Path.Along
import CausalPath.Proofs.Path.OwnChain
import CausalPath.Proofs.Search.Leaving

/-!
# Where the pieces of a path come from

Apart from glue, a movement of a path follows an edge of the graph, from the worker where the edge
starts and at a time between the edge's start and its end. The explanation of a wait may however
start on the worker that waited, with a wakeup that leaves it when the wait ends. The path then
leaves the worker at the start of the wait, and its link is longer than the wakeup.
-/

namespace CausalPath

/-! ## § 1. Movements along edges -/

namespace Graph

variable {g : Graph} {w : WorkerId} {b e p : Edge} {c : Cursor} {trail rest : List Edge}

/-- The explanation of a wait of the worker starts on the worker itself: with this edge, which
leaves the worker when the wait ends. -/
structure Skips (g : Graph) (w : WorkerId) (b e : Edge) : Prop where
  has : g.Has b
  wait : b.horizontal = true ∧ b.state.isMatchable = true ∧ b.origin.worker = w
  explains : ∃ rest, g.resolve b.origin.time [] b = .ok (e :: rest)
  origin : e.origin.worker = w
  target : e.target.worker ≠ w
  instant : e.origin.time = b.target.time

/-- The movement is along the edge, from a time at which the edge is under way; or it starts with
the wait of the worker that the edge ends. -/
structure Follows (g : Graph) (w : WorkerId) (c : Cursor) (m : Move) (e : Edge) : Prop where
  has : g.Has e
  move : m = e.move
  worker : c.worker = e.origin.worker
  upTo : c.time ≤ e.target.time
  since : e.origin.time ≤ c.time ∨ ∃ b, g.Skips w b e ∧ c.time = b.origin.time

/-- The movement is glue, time of unknown use, or along an edge. -/
def Sourced (g : Graph) (w : WorkerId) (c : Cursor) (m : Move) : Prop :=
  m.state = .default ∨ (m.state = .unknown ∧ m.worker = c.worker) ∨ ∃ e, g.Follows w c m e

/-- From the end of an edge on, a trail is followed edge by edge. -/
theorem Sound.trail_sourced (h : g.Sound) (hhas : ∀ e ∈ p :: rest, g.Has e)
    (hsorted : (p :: rest).Pairwise fun e e' => e.target.time ≤ e'.target.time) :
    (Cursor.mk p.target.worker p.target.time).Along (g.Sourced w) (trailMoves (some p) rest) := by
  apply h.trail_along hhas hsorted _ _ (List.suffix_refl _)
  · intro e he
    have hforward := (h.drawn (hhas e he)).forward
    exact Or.inr (Or.inr ⟨e, hhas e he, rfl, rfl, hforward, Or.inl (Nat.le_refl _)⟩)
  · intro p e hnext _
    have he : g.Has e := hhas e (hnext.subset (by simp))
    have hle : p.target.time ≤ e.target.time := by
      simpa using hsorted.sublist hnext.sublist
    refine ⟨Or.inl rfl, Or.inr (Or.inr ⟨e, he, rfl, rfl, ?_, Or.inl (Nat.le_max_right _ _)⟩)⟩
    exact Nat.max_le.2 ⟨hle, (h.drawn he).forward⟩

/-- The movements of a step are glue or follow edges of the graph. -/
theorem Takes.moves_sourced (h : g.Sound) (heps : g.EpsilonInstant) {s : PathStep}
    (ht : g.Takes s) (hhas : g.Has s.edge) (hchain : s.edge.horizontal = true)
    (hworker : s.edge.origin.worker = w) : (s.cursor w).Along (g.Sourced w) (s.moves w) := by
  have hd := h.drawn hhas
  cases s with
  | copy e =>
    have htarget : e.target.worker = w := (hd.worker hchain).symm.trans hworker
    refine ⟨Or.inr (Or.inr ⟨e, hhas, ?_, hworker.symm, hd.forward, Or.inl (Nat.le_refl _)⟩), trivial⟩
    rw [Edge.move, htarget]
  | resolved b trail =>
    obtain ⟨hne, hmatch, hres⟩ := ht
    cases trail with
    | nil => exact absurd rfl hne
    | cons first rest =>
      obtain ⟨harr, -⟩ := h.resolve_arrivals heps hhas hd.forward hres
      have hfirst : g.Has first := harr.has first List.mem_cons_self
      have hupTo : b.origin.time ≤ first.target.time :=
        Nat.le_trans (Nat.le_max_left _ _) (harr.first first List.mem_cons_self)
      have hfd := h.drawn hfirst
      apply h.explained_along hfirst hupTo _ _ _ _ (h.trail_sourced harr.has harr.sorted)
      · intro hown
        refine Or.inr (Or.inr ⟨first, hfirst, rfl, hown.symm, hupTo, ?_⟩)
        rcases h.resolve_oldest heps hhas hchain hmatch hres (hown.trans hworker.symm) with
          hle | ⟨-, haway, hinstant⟩
        · exact Or.inl hle
        · exact Or.inr ⟨b, ⟨hhas, ⟨hchain, hmatch, hworker⟩, ⟨rest, hres⟩, hown,
            fun heq => haway (heq.trans hworker.symm), hinstant⟩, rfl⟩
      · exact fun _ => Or.inl rfl
      · exact Or.inr (Or.inl ⟨rfl, rfl⟩)
      · exact Or.inr (Or.inr ⟨first, hfirst, rfl, rfl, Nat.max_le.2 ⟨hupTo, hfd.forward⟩,
          Or.inl (Nat.le_max_right _ _)⟩)

end Graph

/-! ## § 2. Segments and links -/

/-- The segment is time on an edge within its worker. -/
structure PathSegment.IsOn (g : Graph) (x : PathSegment) (e : Edge) : Prop where
  has : g.Has e
  state : e.state = x.state
  qualifier : e.qualifier = x.qualifier
  origin : g.worker? e.origin.worker = some x.worker
  target : g.worker? e.target.worker = some x.worker
  start : e.origin.time ≤ x.start
  stop : x.stop ≤ e.target.time

/-- The link arrives as a vertical edge does, between the same workers. -/
structure PathLink.ArrivesBy (g : Graph) (x : PathLink) (e : Edge) : Prop where
  has : g.Has e
  vertical : e.horizontal = false
  state : e.state = x.state
  qualifier : e.qualifier = x.qualifier
  origin : g.worker? e.origin.worker = some x.origin
  target : g.worker? e.target.worker = some x.target
  time : x.targetTime = e.target.time

open CausalPath.Graph

variable {g : Graph}

/-- What is neither glue nor time of unknown use on a piece is on an edge. -/
theorem Graph.Sourced.isOn {w : WorkerId} {c : Cursor} {m : Move} (hm : g.Sourced w c m)
    {q : Piece} (hq : q ∈ c.piece m) {x : PathSegment} (hx : q.segment? g = some x)
    (hunknown : x.state ≠ .unknown) (hdefault : x.state ≠ .default) : ∃ e, x.IsOn g e := by
  obtain ⟨hworker, rfl⟩ := Cursor.mem_piece.1 hq
  simp only [Piece.segment?] at hx
  split at hx
  · exact absurd hx (by simp)
  · obtain ⟨y, hy, rfl⟩ := Option.map_eq_some_iff.1 hx
    rcases hm with hglue | ⟨hfill, -⟩ | ⟨e, he⟩
    · exact absurd hglue hdefault
    · exact absurd hfill hunknown
    · obtain ⟨hhas, rfl, hcw, hupTo, hsince⟩ := he
      have hsame : e.target.worker = e.origin.worker := hworker.trans hcw
      refine ⟨e, hhas, rfl, rfl, hsame ▸ hy, hy, ?_, ?_⟩
      · refine hsince.resolve_right ?_
        rintro ⟨b, hskips, -⟩
        exact hskips.target (hsame.trans hskips.origin)
      · rw [after_move hupTo]

/-- A crossing that is not glue is along a vertical edge. -/
theorem Graph.Sourced.arrivesBy (h : g.Sound) {w : WorkerId} {c : Cursor} {m : Move}
    (hm : g.Sourced w c m) {k : Crossing} (hk : k ∈ c.crossing m) {x : PathLink}
    (hx : k.link? g = some x) (hdefault : x.state ≠ .default) :
    ∃ e, x.ArrivesBy g e ∧
      (e.origin.time ≤ x.originTime ∨ ∃ b, g.Skips w b e ∧ x.originTime = b.origin.time) := by
  unfold Cursor.crossing at hk
  split at hk
  · exact absurd hk List.not_mem_nil
  · rename_i haway
    obtain rfl := List.mem_singleton.1 hk
    simp only [Crossing.link?, Option.bind_eq_bind, Option.bind_eq_some_iff, Option.pure_def,
      Option.some.injEq] at hx
    obtain ⟨y, hy, z, hz, rfl⟩ := hx
    rcases hm with hglue | ⟨-, hsame⟩ | ⟨e, he⟩
    · exact absurd hglue hdefault
    · exact absurd hsame haway
    · obtain ⟨hhas, rfl, hcw, hupTo, hsince⟩ := he
      have hvert : e.horizontal = false := by
        rw [Bool.eq_false_iff]
        intro hh
        exact haway (((h.drawn hhas).worker hh).symm.trans hcw.symm)
      refine ⟨e, ⟨hhas, hvert, rfl, rfl, hcw ▸ hy, hz, ?_⟩, hsince⟩
      rw [after_move hupTo]

/-- Every link of a critical path is a crossing of one of its steps. -/
theorem mem_links (h : g.Sound) (heps : g.EpsilonInstant) {start : VertexId}
    {stop : Option VertexId} {s : Vertex} {cancelled : Bool} {p : CriticalPath}
    (hs : g.vertex? start = some s) (hok : g.criticalPath start stop cancelled = .ok p)
    {x : PathLink} (hx : x ∈ p.links) :
    ∃ t : PathStep, g.Takes t ∧ g.Has t.edge ∧ t.edge.horizontal = true ∧
      t.edge.origin.worker = s.worker ∧ ∃ k ∈ t.crossings s.worker, k.link? g = some x := by
  obtain ⟨s', oldest, steps, v, d, hs', -, hr, hdraft, hfinish⟩ := criticalPath_eq_ok hok
  obtain rfl := Option.some.inj (hs.symm.trans hs')
  obtain rfl := vertex?_id hs
  have hat := (hr.written_of_draftPath h heps hs hdraft).1
  have hlinked := hr.linked_of_draftPath h heps hs hdraft
  rw [← (Draft.finish_fills hat.sound hfinish).linked hat.sound] at hlinked
  obtain ⟨k, hk, hkx⟩ := List.mem_filterMap.1 (hlinked.subset hx)
  obtain ⟨t, ht, hkt⟩ := List.mem_flatMap.1 hk
  obtain ⟨hhas, hh, hworker, -⟩ := (hr.within h hs).2.2.2 t ht
  exact ⟨t, hr.takes t ht, hhas, hh, hworker, k, hkt, hkx⟩

/-- In a graph whose hops take no time, a segment of a critical path that is neither glue nor of
unknown use is time on an edge of the graph within its worker. A link that is not glue arrives as a
vertical edge does, and leaves no earlier, unless it skips a wait of the worker. -/
theorem pieces_sourced (hbuilt : g.Built) (heps : g.EpsilonInstant) {start : VertexId}
    {stop : Option VertexId} {s : Vertex} {cancelled : Bool} {p : CriticalPath}
    (hs : g.vertex? start = some s) (hok : g.criticalPath start stop cancelled = .ok p) :
    (∀ x ∈ p.segments, x.state ≠ .unknown → x.state ≠ .default → ∃ e, x.IsOn g e) ∧
      ∀ x ∈ p.links, x.state ≠ .default → ∃ e, x.ArrivesBy g e ∧
        (e.origin.time ≤ x.originTime ∨
          ∃ b, g.Skips s.worker b e ∧ x.originTime = b.origin.time) := by
  have h := hbuilt.sound
  constructor
  · intro x hx hunknown hdefault
    obtain ⟨oldest, steps, hr, hperm⟩ := criticalPath_segments h heps hs hok
    obtain rfl := vertex?_id hs
    obtain ⟨t, ht, q, hq, hqx⟩ := mem_segmentsOf.1 (hperm.mem_iff.1 hx)
    obtain ⟨hhas, hh, hworker, -⟩ := (hr.within h hs).2.2.2 t ht
    have hsourced := (hr.takes t ht).moves_sourced h heps hhas hh hworker
    obtain ⟨c, m, hm, hqm⟩ := hsourced.of_mem_pieces hq
    exact hm.isOn hqm hqx hunknown hdefault
  · intro x hx hdefault
    obtain ⟨t, ht, hhas, hh, hworker, k, hk, hkx⟩ := mem_links h heps hs hok hx
    obtain ⟨c, m, hm, hkm⟩ := (ht.moves_sourced h heps hhas hh hworker).of_mem_crossings hk
    exact hm.arrivesBy h hkm hkx hdefault

/-- A worker waits for ten units, until a packet reaches it. The sender ran for three of them, and
the packet was three on its way. -/
def delivered : Graph :=
  Mutation.runAll
    [.addWorker (Worker.thread "h" 1 "a"), .createVertex ⟨0⟩ 0, .add ⟨0⟩, .createVertex ⟨0⟩ 10,
      .append ⟨1⟩ .network none, .addWorker (Worker.thread "h" 2 "b"), .createVertex ⟨1⟩ 4,
      .add ⟨2⟩, .createVertex ⟨1⟩ 7, .append ⟨3⟩ .running none,
      .linkVertical ⟨3⟩ ⟨1⟩ .network none]
    (Graph.new 0)

/-- The path of `delivered` has one segment on the edge of the sender, and one link that leaves no
earlier than the packet. -/
theorem pieces_sourced_of_delivered : ∃ p, delivered.criticalPath ⟨1⟩ none false = .ok p ∧
    p.segments.map (·.state) = [.unknown, .running] ∧
    p.links.map (·.state) = [.default, .network] ∧
    (∀ x ∈ p.segments, x.state ≠ .unknown → x.state ≠ .default → ∃ e, x.IsOn delivered e) ∧
    ∀ x ∈ p.links, x.state ≠ .default →
      ∃ e, x.ArrivesBy delivered e ∧ e.origin.time ≤ x.originTime := by
  have hshow : (delivered.criticalPath ⟨1⟩ none false).map (fun p =>
      (p.segments.map (·.state), p.links.map (·.state))) =
      .ok ([.unknown, .running], [.default, .network]) := by cbv
  obtain ⟨p, hok, heq⟩ := map_eq_ok.1 hshow
  obtain ⟨hsegments, hlinks⟩ := Prod.mk.inj heq
  have hbuilt : delivered.Built := ⟨0, _, rfl⟩
  have heps : delivered.EpsilonInstant := epsilonInstant_iff.2 (by cbv)
  have hs : delivered.vertex? ⟨1⟩ = some ⟨⟨1⟩, ⟨0⟩, 10⟩ := by cbv
  -- no link leaves the worker that waits, so none skips its wait
  have hleaves : (delivered.edgeList.all fun e => e.horizontal || e.origin.worker = ⟨1⟩) = true :=
    by cbv
  obtain ⟨hon, harrives⟩ := pieces_sourced hbuilt heps hs hok
  refine ⟨p, hok, hsegments, hlinks, hon, ?_⟩
  intro x hx hdefault
  obtain ⟨e, he, hearly | ⟨b, hskips, -⟩⟩ := harrives x hx hdefault
  · exact ⟨e, he, hearly⟩
  · have hsender := List.all_eq_true.1 hleaves e (mem_edgeList.2 he.has)
    simp [he.vertical, hskips.origin] at hsender

/-- A worker waits for ten units. At the instant at which the wait ends it wakes a worker that waits
for no time and wakes it in turn. -/
def skipped : Graph :=
  Mutation.runAll
    [.addWorker (Worker.thread "h" 1 "a"), .createVertex ⟨0⟩ 0, .add ⟨0⟩, .createVertex ⟨0⟩ 10,
      .append ⟨1⟩ .blocked none, .createVertex ⟨0⟩ 10, .append ⟨2⟩ .running none,
      .addWorker (Worker.thread "h" 2 "b"), .createVertex ⟨1⟩ 10, .add ⟨3⟩, .createVertex ⟨1⟩ 10,
      .append ⟨4⟩ .blocked none, .linkVertical ⟨1⟩ ⟨4⟩ .network none,
      .linkVertical ⟨4⟩ ⟨2⟩ .default none]
    (Graph.new 0)

/-- A link of the path starts before every vertical edge of the graph that has its state. -/
def departsEarly (g : Graph) : Except PathError CriticalPath → Bool
  | .error _ => false
  | .ok p => p.links.any fun x => x.state ≠ .default &&
      g.edgeList.all fun e => e.horizontal || e.state ≠ x.state || x.originTime < e.origin.time

theorem link_early_of_departsEarly {g : Graph} {r : Except PathError CriticalPath}
    (h : departsEarly g r = true) : ∃ p, r = .ok p ∧ ∃ x ∈ p.links, x.state ≠ .default ∧
      ∀ e, x.ArrivesBy g e → x.originTime < e.origin.time := by
  cases r with
  | error err => exact absurd h (by simp [departsEarly])
  | ok p =>
    simp only [departsEarly, List.any_eq_true, List.all_eq_true, Bool.and_eq_true, Bool.or_eq_true,
      decide_eq_true_eq] at h
    obtain ⟨x, hx, hstate, hall⟩ := h
    refine ⟨p, rfl, x, hx, hstate, ?_⟩
    intro e he
    rcases hall e (mem_edgeList.2 he.has) with (hh | hne) | hlt
    · rw [he.vertical] at hh
      exact absurd hh (by simp)
    · exact absurd he.state hne
    · exact hlt

/-- The path of `skipped` leaves the worker when the wait starts, ten units before the wakeup that
it follows. -/
theorem not_all_links_sourced : skipped.Built ∧ skipped.EpsilonInstant ∧
    ∃ p, skipped.criticalPath ⟨1⟩ none false = .ok p ∧ ∃ x ∈ p.links, x.state ≠ .default ∧
      ∀ e, x.ArrivesBy skipped e → x.originTime < e.origin.time := by
  have hearly : departsEarly skipped (skipped.criticalPath ⟨1⟩ none false) = true := by cbv
  exact ⟨⟨0, _, rfl⟩, epsilonInstant_iff.2 (by cbv), link_early_of_departsEarly hearly⟩

end CausalPath
