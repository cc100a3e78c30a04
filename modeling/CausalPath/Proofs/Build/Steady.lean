import CausalPath.Builder.Basic
import CausalPath.Proofs.Build.Matching
import CausalPath.Proofs.Path.Calm

/-!
# What a builder keeps up

A packet has two ends, and each end is a vertex that has kept a vertical slot free for the edge of
the packet. Until that edge is drawn, the end is in the hands of one keeper: the matcher while it
waits for the other end, or the link of the receiver once both ends are known. `Builder.Steady` says
that the slot is still free, that no two keepers have the same vertex, and that links lead forward
in time; so the edge of a link is never refused.

Traces may give one time to several events. What is known in addition when they do not carries the
hypothesis `strict`.
-/

namespace CausalPath

/-! ## § 1. Keepers of packet ends -/

/-- The slot that an end of a packet needs. -/
def MatchDirection.slot : MatchDirection → Direction
  | .send => .outgoingVertical
  | .receive => .incomingVertical

/-- The vertex at an end of a link. -/
def NetworkLink.vertex (l : NetworkLink) : MatchDirection → VertexId
  | .send => l.source
  | .receive => l.destination

/-- The vertex at an end of an edge. -/
def EdgeRecord.vertex (x : EdgeRecord) : MatchDirection → VertexId
  | .send => x.origin
  | .receive => x.target

/-- Who keeps an end of a packet: the link of a worker, or the matcher. -/
inductive Keeper
  | link (receiver : WorkerId)
  | waiting (packet : PacketKey)
  deriving DecidableEq

/-- The vertex that a keeper has in a direction. -/
def Builder.kept? (b : Builder) (d : MatchDirection) : Keeper → Option VertexId
  | .link w => (b.links.get? w).map (·.vertex d)
  | .waiting k => ((b.matcher.waiting d).get? k).map (·.payload)

open CausalPath.Graph

variable {strict : Prop} {g : Graph} {b b' : Builder}

/-- The vertex can take the edge of a packet. -/
structure Graph.Ready (strict : Prop) (g : Graph) (d : MatchDirection) (v : VertexId) : Prop where
  joined : g.contains v = true
  free : g.slot? v d.slot = none
  still : strict → g.Still v

/-- The first vertex is another and no later than the second one. -/
def Graph.Forward (strict : Prop) (g : Graph) (a b : VertexId) : Prop :=
  a ≠ b ∧ g.NoLater a b ∧ (strict → g.time? a ≠ g.time? b)

namespace Builder

/-- The ends of packets that the keepers of a builder have. -/
structure Ends (strict : Prop) (b : Builder) : Prop where
  ready : ∀ d h v, b.kept? d h = some v → b.graph.Ready strict d v
  /-- A vertex has one keeper. -/
  alone : ∀ d h h' v, b.kept? d h = some v → b.kept? d h' = some v → h = h'
  forward : ∀ w l, b.links.get? w = some l → b.graph.Forward strict l.source l.destination
  /-- The time of an end that waits is that of its vertex. -/
  timed : ∀ d k p, (b.matcher.waiting d).get? k = some p → b.graph.time? p.payload = some p.time

end Builder

/-- The workers that a system names are registered. -/
structure SystemModel.Known (m : SystemModel) (g : Graph) : Prop where
  running : ∀ c w, m.current? c = some w → (g.worker? w).isSome
  kernels : ∀ c w, m.kernelWorker? c = some w → (g.worker? w).isSome

theorem SystemModel.Known.of_keeps {m : SystemModel} {g g' : Graph} (h : m.Known g)
    (hk : g.Keeps g') : m.Known g' :=
  ⟨fun c w hw => hk.isSome_worker? (h.running c w hw),
    fun c w hw => hk.isSome_worker? (h.kernels c w hw)⟩

/-- What a builder keeps up at any time. -/
structure Builder.Steady (strict : Prop) (b : Builder) : Prop where
  sound : b.graph.Sound
  opened : b.graph.phase = .building
  calm : strict → b.graph.Calm
  known : b.system.Known b.graph
  ends : b.Ends strict

/-! ## § 2. Edges after a write -/

namespace Graph

theorem has_pushEdge {x : EdgeRecord} {a c : Vertex} (ha : g.vertex? x.origin = some a)
    (hc : g.vertex? x.target = some c) {e : Edge} (he : (g.pushEdge x).Has e) :
    g.Has e ∨ e = ⟨g.nextEdge, a, c, x.state, x.qualifier, x.horizontal⟩ := by
  have hmem := mem_edgeList.2 he
  rw [edgeList_pushEdge ha hc, List.mem_append, List.mem_singleton] at hmem
  exact hmem.imp_left mem_edgeList.1

theorem Sound.has_grown (h : g.Sound) {w : WorkerId} {t : Time} {s : EdgeState}
    {q : Option String} {e : Edge} (he : (g.grown w t s q).Has e) :
    g.Has e ∨ ∃ tail, g.last? w = some tail ∧
      e = ⟨g.nextEdge, tail, g.grownVertex w t, s, q, true⟩ := by
  have hmem := mem_edgeList.2 he
  rw [edgeList_grown h, List.mem_append, grownEdges, Option.mem_toList, Option.map_eq_some_iff]
    at hmem
  refine hmem.imp mem_edgeList.1 ?_
  rintro ⟨tail, hlast, heq⟩
  exact ⟨tail, hlast, heq.symm⟩

/-- To grow a chain takes no vertical slot. -/
theorem slot?_grown_vertical (g : Graph) (w : WorkerId) (t : Time) (s : EdgeState)
    (q : Option String) (v : VertexId) (d : MatchDirection) :
    (g.grown w t s q).slot? v d.slot = g.slot? v d.slot := by
  have hno : ∀ x : EdgeRecord, x.horizontal = true → ¬x.Meets v d.slot := by
    rintro x hx (⟨-, hd⟩ | ⟨-, hd⟩) <;> rw [hx] at hd <;> cases d <;> exact absurd hd (by decide)
  unfold grown
  split
  · rw [slot?_pushChain, slot?_pushVertex]
  · rename_i tail hlast
    have htail := (last?_eq_some_iff.1 hlast).2
    have hnew : ((g.pushVertex w t).vertex? g.nextVertex).isSome := by
      rw [vertex?_pushVertex, if_pos rfl]
      rfl
    have hold : ((g.pushVertex w t).vertex? tail.id).isSome := by
      rw [vertex?_pushVertex_of_some w t htail]
      rfl
    rw [slot?_pushChain, slot?_pushEdge hold hnew, if_neg (hno _ rfl), slot?_pushVertex]

theorem time?_grown_of_some {w : WorkerId} {t : Time} {s : EdgeState} {q : Option String}
    {v : VertexId} {r : Time} (hr : g.time? v = some r) : (g.grown w t s q).time? v = some r := by
  rw [time?_eq, Option.map_eq_some_iff] at hr
  obtain ⟨u, hu, rfl⟩ := hr
  rw [time?_eq, vertex?_grown_of_some hu]
  rfl

/-- Growing a chain is a run of steps of the store. -/
theorem Sound.grown_grows (h : g.Sound) (hopen : g.phase = .building) {w : WorkerId} {t : Time}
    (hw : (g.worker? w).isSome) (hlate : ∀ tail, g.last? w = some tail → tail.time ≤ t)
    (s : EdgeState) (q : Option String) : Grows g (g.grown w t s q) := by
  obtain ⟨a, hok⟩ := h.extend_new_ok hw hlate s q
  have hstep := Step.create w t hopen hw hlate
  exact .tail (.single hstep) ((hstep.sound h).inside.extend_step hopen hok)

/-- The id of the next vertex is new. -/
@[simp] theorem nextVertex_pushEdge (g : Graph) (x : EdgeRecord) :
    (g.pushEdge x).nextVertex = g.nextVertex := by
  simp [nextVertex, pushEdge, setSlot]

theorem Sound.ends_ne_nextVertex (h : g.Sound) {e : Edge} (he : g.Has e) :
    e.origin.id ≠ g.nextVertex ∧ e.target.id ≠ g.nextVertex :=
  ⟨ne_nextVertex (h.drawn he).origin, ne_nextVertex (h.drawn he).target⟩

theorem phase_grown (g : Graph) (w : WorkerId) (t : Time) (s : EdgeState) (q : Option String) :
    (g.grown w t s q).phase = g.phase := by
  unfold grown
  split <;> rfl

/-! ## § 3. Calm after a write -/

/-- An admitted edge that takes no time joins vertices of one time. -/
theorem Admits.time?_eq {x : EdgeRecord} {a c : Vertex} (h : g.Admits x)
    (ha : g.vertex? x.origin = some a) (hc : g.vertex? x.target = some c)
    (hzero : c.time - a.time = 0) : g.time? x.origin = g.time? x.target := by
  obtain ⟨s, t, hs, ht, hst⟩ := h.forward
  rw [Graph.time?_eq, ha] at hs
  rw [Graph.time?_eq, hc] at ht
  obtain rfl := Option.some.inj hs
  obtain rfl := Option.some.inj ht
  rw [Graph.time?_eq, Graph.time?_eq, ha, hc]
  exact congrArg some (Nat.le_antisymm hst (Nat.le_of_sub_eq_zero hzero))

/-- A vertical edge to a still vertex keeps a graph calm, if its origin is still too when it takes
no time. -/
theorem Calm.draw (h : g.Calm) {x : EdgeRecord} {a c : Vertex} (hx : x.horizontal = false)
    (ha : g.vertex? x.origin = some a) (hc : g.vertex? x.target = some c) (hadm : g.Admits x)
    (hstill : g.Still x.target)
    (hslow : g.time? x.origin = g.time? x.target → g.Still x.origin) : (g.pushEdge x).Calm := by
  have haid := vertex?_id ha
  have hcid := vertex?_id hc
  refine h.add (fun _ he => has_pushEdge ha hc he) ?_ ?_ ?_ ?_ ?_
  · rw [haid, hcid]
    exact hadm.distinct.symm
  · intro _
    rw [hcid]
    exact hstill
  · intro hzero
    rw [haid, hcid]
    exact ⟨hslow (hadm.time?_eq ha hc hzero), hstill⟩
  · intro hh
    rw [hx] at hh
    exact absurd hh (by simp)
  · intro hh
    rw [hx] at hh
    exact absurd hh (by simp)

/-- A vertical edge leaves a vertex ready, if the vertex is not its end in that direction, and no
end at all when the edge takes no time. -/
theorem Ready.draw {d : MatchDirection} {v : VertexId} (h : g.Ready strict d v) {x : EdgeRecord}
    {a c : Vertex} (hx : x.horizontal = false) (ha : g.vertex? x.origin = some a)
    (hc : g.vertex? x.target = some c) (hadm : g.Admits x) (hother : v ≠ x.vertex d)
    (hslow : strict → g.time? x.origin = g.time? x.target → v ≠ x.origin ∧ v ≠ x.target) :
    (g.pushEdge x).Ready strict d v where
  joined := by
    rw [contains_pushEdge]
    exact h.joined
  free := by
    rw [slot?_pushEdge (by simp [ha]) (by simp [hc]), if_neg, h.free]
    rintro (⟨hvo, hd⟩ | ⟨hvt, hd⟩) <;> rw [hx] at hd <;> cases d
    · exact hother hvo
    · exact absurd hd (by decide)
    · exact absurd hd (by decide)
    · exact hother hvt
  still hstrict := by
    refine (h.still hstrict).add (fun _ he => has_pushEdge ha hc he) fun hzero => ?_
    rw [vertex?_id ha, vertex?_id hc]
    obtain ⟨ho, ht⟩ := hslow hstrict (hadm.time?_eq ha hc hzero)
    exact ⟨ho.symm, ht.symm⟩

variable {w : WorkerId} {t : Time} {s : EdgeState} {q : Option String}

/-- A vertex stays still when a chain grows, unless it is a tail at the time of the new vertex. -/
theorem Sound.still_grown (h : g.Sound) (hlate : ∀ tail, g.last? w = some tail → tail.time ≤ t)
    {u : Vertex} (hu : g.vertex? u.id = some u) (hstill : g.Still u.id)
    (hoff : ∀ tail, g.last? w = some tail → tail.time = t → tail.id ≠ u.id) :
    (g.grown w t s q).Still u.id := by
  intro e he hat hzero
  rcases h.has_grown he with hold | ⟨tail, hlast, rfl⟩
  · exact hstill e hold hat hzero
  · rcases hat with heq | heq
    · exact hoff tail hlast (Nat.le_antisymm (hlate tail hlast) (Nat.le_of_sub_eq_zero hzero)) heq
    · exact ne_nextVertex hu heq.symm

/-- The new vertex of a chain is still, unless the tail has its time. -/
theorem Sound.still_grownVertex (h : g.Sound)
    (hlate : ∀ tail, g.last? w = some tail → tail.time ≤ t)
    (hslow : ∀ tail, g.last? w = some tail → tail.time ≠ t) :
    (g.grown w t s q).Still (g.grownVertex w t).id := by
  intro e he hat hzero
  rcases h.has_grown he with hold | ⟨tail, hlast, rfl⟩
  · obtain ⟨ho, ht⟩ := h.ends_ne_nextVertex hold
    exact hat.elim ho ht
  · exact hslow tail hlast (Nat.le_antisymm (hlate tail hlast) (Nat.le_of_sub_eq_zero hzero))

/-- A graph stays calm when a chain grows, if a tail at the time of the new vertex is still. -/
theorem Calm.grown (hc : g.Calm) (h : g.Sound)
    (hlate : ∀ tail, g.last? w = some tail → tail.time ≤ t) (hs : s ≠ .epsilon)
    (hslow : ∀ tail, g.last? w = some tail → tail.time = t → g.Still tail.id) :
    (g.grown w t s q).Calm := by
  cases hlast : g.last? w with
  | none =>
    refine hc.of_subset fun e he => ?_
    rcases h.has_grown he with hold | ⟨tail, htail, -⟩
    · exact hold
    · rw [hlast] at htail
      exact absurd htail (by simp)
  | some tail =>
    have hedges : ∀ e, (g.grown w t s q).Has e → g.Has e ∨
        e = ⟨g.nextEdge, tail, g.grownVertex w t, s, q, true⟩ := by
      intro e he
      refine (h.has_grown he).imp id ?_
      rintro ⟨tail', htail, rfl⟩
      rw [Option.some.inj (hlast.symm.trans htail)]
    refine hc.add hedges ?_ ?_ ?_ ?_ ?_
    · exact (ne_nextVertex (last?_eq_some_iff.1 hlast).2).symm
    · intro hh
      exact absurd hh (by simp)
    · intro hzero
      refine ⟨hslow tail hlast
        (Nat.le_antisymm (hlate tail hlast) (Nat.le_of_sub_eq_zero hzero)), ?_⟩
      intro e he hat
      obtain ⟨ho, ht⟩ := h.ends_ne_nextVertex he
      exact (hat.elim ho ht).elim
    · intro _ _ e he
      exact (h.ends_ne_nextVertex he).2
    · intro _
      exact hs

end Graph

/-! ## § 4. Steps that keep a builder steady -/

namespace Builder

theorem kept?_of_subset (hlinks : ∀ w l, b'.links.get? w = some l → b.links.get? w = some l)
    (hwaiting : ∀ d k p, (b'.matcher.waiting d).get? k = some p →
      (b.matcher.waiting d).get? k = some p) {d : MatchDirection} {h : Keeper} {v : VertexId}
    (hv : b'.kept? d h = some v) : b.kept? d h = some v := by
  cases h with
  | link w =>
    obtain ⟨l, hl, rfl⟩ := Option.map_eq_some_iff.1 hv
    simp only [kept?, hlinks w l hl, Option.map_some]
  | waiting k =>
    obtain ⟨p, hp, rfl⟩ := Option.map_eq_some_iff.1 hv
    simp only [kept?, hwaiting d k p hp, Option.map_some]

/-- Keepers that give ends away keep the rest, as long as the graph leaves these ready. -/
theorem Ends.shrink (h : b.Ends strict)
    (hlinks : ∀ w l, b'.links.get? w = some l → b.links.get? w = some l)
    (hwaiting : ∀ d k p, (b'.matcher.waiting d).get? k = some p →
      (b.matcher.waiting d).get? k = some p)
    (htime : ∀ v t, b.graph.time? v = some t → b'.graph.time? v = some t)
    (hready : ∀ d k v, b'.kept? d k = some v → b.graph.Ready strict d v →
      b'.graph.Ready strict d v) : b'.Ends strict where
  ready d k v hv := hready d k v hv (h.ready d k v (kept?_of_subset hlinks hwaiting hv))
  alone d k k' v hv hv' :=
    h.alone d k k' v (kept?_of_subset hlinks hwaiting hv) (kept?_of_subset hlinks hwaiting hv')
  forward w l hl := by
    obtain ⟨hne, ⟨s, t, hs, ht, hst⟩, hapart⟩ := h.forward w l (hlinks w l hl)
    refine ⟨hne, ⟨s, t, htime _ s hs, htime _ t ht, hst⟩, ?_⟩
    intro hstrict
    rw [htime _ s hs, htime _ t ht, ← hs, ← ht]
    exact hapart hstrict
  timed d k p hp := htime _ _ (h.timed d k p (hwaiting d k p hp))

/-- A worker is registered. -/
theorem Steady.register (h : b.Steady strict) {w : Worker}
    (hnew : b.graph.findWorker? w.key = none) :
    Steady strict
      { b with graph := b.graph.pushWorker w } where
  sound := h.sound.register hnew
  opened := h.opened
  calm hstrict := (h.calm hstrict).of_subset fun _ he => he
  known := h.known.of_keeps ((Step.register w h.opened hnew).keeps h.sound)
  ends := h.ends.shrink (fun _ _ hl => hl) (fun _ _ _ hp => hp) (fun _ _ ht => ht)
    (fun _ _ _ _ hr => ⟨hr.joined, hr.free, hr.still⟩)

/-- To be steady is a matter of the graph, the system and the packets. -/
theorem Steady.of_same (h : b.Steady strict) (hgraph : b'.graph = b.graph)
    (hsystem : b'.system = b.system) (hlinks : b'.links = b.links)
    (hmatcher : b'.matcher = b.matcher) : b'.Steady strict where
  sound := hgraph ▸ h.sound
  opened := hgraph ▸ h.opened
  calm := hgraph ▸ h.calm
  known := hsystem ▸ hgraph ▸ h.known
  ends := h.ends.shrink (fun _ _ hl => hlinks ▸ hl) (fun _ _ _ hp => hmatcher ▸ hp)
    (fun _ _ ht => hgraph ▸ ht) (fun _ _ _ _ hr => hgraph ▸ hr)

/-- What is known of the system changes. -/
theorem Steady.track (h : b.Steady strict) {m : SystemModel} (hm : m.Known b.graph) :
    Steady strict { b with system := m } :=
  ⟨h.sound, h.opened, h.calm, hm, h.ends.shrink (fun _ _ hl => hl) (fun _ _ _ hp => hp)
    (fun _ _ ht => ht) (fun _ _ _ _ hr => hr)⟩

/-- A vertical edge is drawn, and links are given up. No keeper that is left has an end of the edge
in its direction. When times differ, the edge arrives at a still vertex and takes time, or it joins
two still vertices that no keeper has. -/
theorem Steady.draw (h : b.Steady strict) {x : EdgeRecord} {links : Table WorkerId NetworkLink}
    (hx : x.horizontal = false) (ho : b.graph.contains x.origin = true)
    (ht : b.graph.contains x.target = true) (hadm : b.graph.Admits x)
    (hlinks : ∀ w l, links.get? w = some l → b.links.get? w = some l)
    (hoff : ∀ d k, { b with links }.kept? d k ≠ some (x.vertex d))
    (hstill : strict → b.graph.Still x.target)
    (hslow : strict → b.graph.time? x.origin = b.graph.time? x.target →
      b.graph.Still x.origin ∧
        ∀ d k, { b with links }.kept? d k ≠ some x.origin ∧
          { b with links }.kept? d k ≠ some x.target) :
    Steady strict { b with graph := b.graph.pushEdge x, links } := by
  obtain ⟨a, ha⟩ := vertex?_isSome_of_contains ho
  obtain ⟨c, hc⟩ := vertex?_isSome_of_contains ht
  have hstep := Step.join x h.opened hx ho ht hadm
  refine ⟨hstep.sound h.sound, h.opened, ?_, h.known.of_keeps (hstep.keeps h.sound), ?_⟩
  · intro hstrict
    exact (h.calm hstrict).draw hx ha hc hadm (hstill hstrict) fun heq => (hslow hstrict heq).1
  · refine h.ends.shrink hlinks (fun _ _ _ hp => hp) ?_ ?_
    · intro v t hv
      rw [time?_pushEdge]
      exact hv
    · intro d k v hv hr
      refine hr.draw hx ha hc hadm ?_ ?_
      · rintro rfl
        exact hoff d k hv
      · intro hstrict heq
        obtain ⟨-, hunkept⟩ := hslow hstrict heq
        refine ⟨?_, ?_⟩
        · rintro rfl
          exact (hunkept d k).1 hv
        · rintro rfl
          exact (hunkept d k).2 hv

/-- A chain grows by a vertex. When times differ, a tail at the time of the new vertex is still and
no keeper has it. -/
theorem Steady.grown (h : b.Steady strict) {w : WorkerId} {t : Time} {s : EdgeState}
    {q : Option String} (hw : (b.graph.worker? w).isSome)
    (hlate : ∀ tail, b.graph.last? w = some tail → tail.time ≤ t) (hs : s ≠ .epsilon)
    (hslow : strict → ∀ tail, b.graph.last? w = some tail → tail.time = t →
      b.graph.Still tail.id ∧ ∀ d k, b.kept? d k ≠ some tail.id) :
    Steady strict { b with graph := b.graph.grown w t s q } := by
  have hgrows := h.sound.grown_grows h.opened hw hlate s q
  have hkeeps := hgrows.keeps h.sound
  refine ⟨hgrows.sound h.sound, (phase_grown _ _ _ _ _).trans h.opened, ?_,
    h.known.of_keeps hkeeps, ?_⟩
  · intro hstrict
    exact (h.calm hstrict).grown h.sound hlate hs fun tail hlast hnow =>
      (hslow hstrict tail hlast hnow).1
  · refine h.ends.shrink (fun _ _ hl => hl) (fun _ _ _ hp => hp)
      (fun _ _ hr => time?_grown_of_some hr) ?_
    intro d k v hv hr
    refine ⟨hkeeps.contains v hr.joined, ?_, ?_⟩
    · rw [slot?_grown_vertical]
      exact hr.free
    · intro hstrict
      obtain ⟨u, hu⟩ := vertex?_isSome_of_contains hr.joined
      obtain rfl := vertex?_id hu
      refine h.sound.still_grown hlate hu (hr.still hstrict) ?_
      rintro tail hlast hnow heq
      exact (hslow hstrict tail hlast hnow).2 d k (heq ▸ hv)

end Builder

end CausalPath
