import CausalPath.Proofs.Build.Run

/-!
# The balance of packets

A matched packet was received before it was sent and is discarded, or it waits for its receiver and
becomes an edge. There is one place per worker to wait in, for the packet that it received last: a
packet that comes to a place that is taken displaces the one that waits there. So the matched
packets are the edges, the links, the discarded and the displaced ones, and nothing else is lost.

A worker that does something has its place emptied. So a packet is displaced only by one whose
sender acts later than its receiver and yet at the same time.
-/

namespace CausalPath

open CausalPath.Graph

/-! ## § 1. Packets of a scene -/

/-- The edge of a packet. -/
def EdgeRecord.ofPacket (x : EdgeRecord) : Bool := !x.horizontal && x.state = .network

namespace Graph

/-- The number of vertical edges that packets have become. -/
def packetEdges (g : Graph) : Nat := g.edges.countP EdgeRecord.ofPacket

instance (g : Graph) (v : VertexId) : Decidable (g.Sends v) :=
  decidable_of_iff (∃ x ∈ g.edges, x.ofPacket = true ∧ x.origin = v) <| by
    constructor
    · rintro ⟨x, hx, hpacket, horigin⟩
      obtain ⟨i, hi⟩ := Array.getElem?_of_mem hx
      simp only [EdgeRecord.ofPacket, Bool.and_eq_true, Bool.not_eq_true', decide_eq_true_eq]
        at hpacket
      exact ⟨⟨i⟩, x, hi, hpacket.1, hpacket.2, horigin⟩
    · rintro ⟨i, x, hi, hhorizontal, hstate, horigin⟩
      exact ⟨x, Array.mem_of_getElem? hi, by simp [EdgeRecord.ofPacket, hhorizontal, hstate],
        horigin⟩

theorem packetEdges_pushEdge (g : Graph) (x : EdgeRecord) :
    (g.pushEdge x).packetEdges = g.packetEdges + if x.ofPacket then 1 else 0 :=
  Array.countP_push

/-- A chain grows by a horizontal edge. -/
theorem packetEdges_grown (g : Graph) (w : WorkerId) (t : Time) (state : EdgeState)
    (q : Option String) : (g.grown w t state q).packetEdges = g.packetEdges := by
  unfold grown
  split
  · rfl
  · exact packetEdges_pushEdge _ _

end Graph

/-- The packets that are edges or wait. -/
def Scene.packets (s : Scene) : Nat := s.graph.packetEdges + s.links.size

variable {t : Time} {s s₀ s' : Scene} {pair : Option (MatchedPair VertexId)}

/-- A packet that waits no more is an edge. -/
theorem Scene.packets_pushEdge {w : WorkerId} {l : NetworkLink} (hl : s.links.get? w = some l)
    (v : VertexId) :
    Scene.packets { s with graph := s.graph.pushEdge (l.edge v), links := s.links.erase w } =
      s.packets := by
  have hsize := Table.size_erase hl
  have hedge : (s.graph.pushEdge (l.edge v)).packetEdges = s.graph.packetEdges + 1 :=
    packetEdges_pushEdge _ _
  show (s.graph.pushEdge (l.edge v)).packetEdges + (s.links.erase w).size =
    s.graph.packetEdges + s.links.size
  omega

theorem Deed.packets (h : Deed t s s') : s'.packets = s.packets := by
  cases h with
  | track m => rfl
  | register x => rfl
  | grow w state q hw hstate htaken =>
    show (s.graph.grown w t state q).packetEdges + s.links.size = _
    rw [packetEdges_grown]
    rfl
  | deliver hl => exact Scene.packets_pushEdge hl _
  | join u v =>
    show (s.graph.pushEdge _).packetEdges + s.links.size = _
    rw [packetEdges_pushEdge]
    rfl

theorem Deeds.packets (h : Deeds t s₀ s) : s.packets = s₀.packets := by
  induction h with
  | refl => rfl
  | tail _ hdeed ih => exact hdeed.packets.trans ih

/-- The packet displaces another one: its receiver had one waiting, which has become no edge. -/
def Scene.Displaces (s₀ : Scene) (w : WorkerId) (l : NetworkLink) (s : Scene) : Prop :=
  s₀.links.get? w = some l ∧ ¬s.graph.Sends l.source

/-- A packet that comes out of the matcher was received before it was sent, or it waits for its
receiver, in a place of its own or in that of a packet that it displaces. -/
theorem Course.packets (h : Course t s₀ pair s) :
    (s.packets = s₀.packets ∧ ∀ p, pair = some p → p.late = true) ∨
      ∃ p w, pair = some p ∧ p.late = false ∧
        s.graph.parent? p.destination.payload = some w ∧
          ((s.packets = s₀.packets + 1 ∧ ∀ l, ¬s₀.Displaces w l s) ∨
            (s.packets = s₀.packets ∧ ∃ l, s₀.Displaces w l s)) := by
  cases h with
  | pass h hlate => exact Or.inl ⟨h.packets, hlate⟩
  | @mark s w h hw hbegins =>
    refine Or.inl ⟨Eq.trans ?_ h.packets, by simp⟩
    show (s.graph.grown w t .noEdge none).packetEdges + s.links.size = _
    rw [packetEdges_grown]
    rfl
  | redirect h hl v => exact Or.inl ⟨(Scene.packets_pushEdge hl v).trans h.packets, by simp⟩
  | @park s p w h hlate hnew hw hunsent =>
    refine Or.inr ⟨p, w, rfl, hlate, hw, ?_⟩
    cases htaken : s.links.get? w with
    | none =>
      refine Or.inl ⟨?_, ?_⟩
      · show s.graph.packetEdges + (s.links.insert w p.link).size = _
        rw [Table.size_insert_of_none htaken, ← h.packets]
        rfl
      · rintro l ⟨hl, hnot⟩
        rcases h.link_cases hl with ⟨hwaits, -⟩ | ⟨-, i, hi⟩
        · exact absurd (hwaits.symm.trans htaken) (by simp)
        · exact hnot ⟨i, _, hi, rfl, rfl, rfl⟩
    | some l =>
      refine Or.inr ⟨?_, l, h.link htaken, hunsent l htaken⟩
      show s.graph.packetEdges + (s.links.insert w p.link).size = _
      rw [Table.size_insert_of_some htaken, ← h.packets]
      rfl

/-! ## § 2. Displaced packets -/

namespace Builder

variable {b b₀ : Builder} {e : Event} {es : List Event} {strict : Prop}

/-- The packet that an event displaces: the one that waited for the receiver of the packet that the
event brings, unless it has become an edge. -/
def displaced? (b : Builder) (e : Event) : Option NetworkLink :=
  let g := (b.process e).2.graph
  ((b.outcome e).1.filter fun p => !p.late).bind fun p =>
    (g.parent? p.destination.payload).bind fun w =>
      (b.pendingLink? w).filter fun l => ¬g.Sends l.source

/-- The packets that are displaced in a trace. -/
def displacedBy (b : Builder) : List Event → List NetworkLink
  | [] => []
  | e :: es => (b.displaced? e).toList ++ (b.process e).2.displacedBy es

/-- What an event displaces waited for the receiver of the packet that the event brings. -/
theorem displaced?_eq_some_iff {l : NetworkLink} :
    b.displaced? e = some l ↔ ∃ p w, (b.outcome e).1 = some p ∧ p.late = false ∧
      (b.process e).2.graph.parent? p.destination.payload = some w ∧
        b.scene.Displaces w l (b.process e).2.scene := by
  simp only [displaced?, Option.bind_eq_some_iff, Option.filter_eq_some_iff, Bool.not_eq_true',
    decide_eq_true_eq]
  constructor
  · rintro ⟨p, ⟨hp, hlate⟩, w, hw, hl, hnot⟩
    exact ⟨p, w, hp, hlate, hw, hl, hnot⟩
  · rintro ⟨p, w, hp, hlate, hw, hl, hnot⟩
    exact ⟨p, ⟨hp, hlate⟩, w, hw, hl, hnot⟩

/-- What comes out of the matcher is late, displaces a packet, or adds to the packets that are edges
or wait. -/
theorem Passed.packets (h : Passed strict b e (b.process e).2) :
    (b.process e).2.scene.packets + (b.outcome e).1.toList.countP (·.late) +
        (b.displaced? e).toList.length =
      b.scene.packets + (b.outcome e).1.toList.length := by
  have hnone : (∀ p, (b.outcome e).1 = some p → p.late = true) → b.displaced? e = none := by
    intro hlate
    rw [Option.eq_none_iff_forall_ne_some]
    intro l hl
    obtain ⟨p, w, hp, hnot, -⟩ := displaced?_eq_some_iff.1 hl
    exact absurd (hnot.symm.trans (hlate p hp)) (by simp)
  rcases h.course with ⟨-, -, hcourse⟩ | ⟨-, -, hpair, hsame⟩
  · rcases hcourse.packets with ⟨hpackets, hlate⟩ | ⟨p, w, hp, hlate, hw, hcase⟩
    · rw [hpackets, hnone hlate]
      cases hpair : (b.outcome e).1 with
      | none => rfl
      | some p => simp [hlate p hpair]
    · have hcount : (b.outcome e).1.toList.countP (·.late) = 0 := by simp [hp, hlate]
      have hlength : (b.outcome e).1.toList.length = 1 := by simp [hp]
      rw [hcount, hlength]
      rcases hcase with ⟨hpackets, hkeeps⟩ | ⟨hpackets, l, hdisplaced⟩
      · have hnot : b.displaced? e = none := by
          rw [Option.eq_none_iff_forall_ne_some]
          intro l hl
          obtain ⟨p', w', hp', -, hw', hdisplaced⟩ := displaced?_eq_some_iff.1 hl
          obtain rfl := Option.some.inj (hp.symm.trans hp')
          obtain rfl := Option.some.inj (hw.symm.trans hw')
          exact hkeeps l hdisplaced
        rw [hpackets, hnot]
        rfl
      · rw [hpackets, displaced?_eq_some_iff.2 ⟨p, w, hp, hlate, hw, hdisplaced⟩]
        rfl
  · rw [hsame, hnone (by simp [hpair]), hpair]
    rfl

/-- A pair that comes out of the matcher has the new vertex of the event at one end, and an end that
waited at the other. -/
theorem outcome_eq_some {p : MatchedPair VertexId} (hp : (b.outcome e).1 = some p) :
    ∃ k d peer, (b.matcher.waiting d.opposite).get? k = some peer ∧
      p = Matcher.pair k d ⟨e.time, b.graph.nextVertex⟩ peer := by
  unfold outcome at hp
  cases hend : b.packetEnd? e with
  | none =>
    rw [hend] at hp
    exact absurd hp (by simp [submitted, quiet])
  | some kd =>
    obtain ⟨k, d⟩ := kd
    rw [hend] at hp
    rcases b.matcher.submit_cases k d e.time b.graph.nextVertex with
      ⟨peer, hpeer, hpair, -⟩ | ⟨hpair, -⟩
    · exact ⟨k, d, peer, hpeer, Option.some.inj (hp.symm.trans hpair)⟩
    · exact absurd (hp.symm.trans hpair) (by simp)

/-- A packet that displaces another one was sent by the event, at the very time at which it was
received. -/
theorem Between.displaced (h : Between strict b) (hp : Passed strict b e (b.process e).2)
    {l : NetworkLink} (hdisplaced : b.displaced? e = some l) :
    ∃ p w, (b.outcome e).1 = some p ∧ b.pendingLink? w = some l ∧
      (b.process e).2.pendingLink? w = some p.link ∧ p.source.payload = b.graph.nextVertex ∧
        p.source.time = e.time ∧ p.destination.time = e.time ∧ b.lastTime = some e.time := by
  obtain ⟨p, w, hpair, hlate, hw, hl, hnot⟩ := displaced?_eq_some_iff.1 hdisplaced
  rcases hp.course with ⟨horder, -, hcourse⟩ | ⟨-, -, hnone, -⟩
  · rw [hpair] at hcourse
    obtain ⟨w', hw', hparked, d', hnew⟩ := hcourse.parked hlate
    obtain rfl := Option.some.inj (hw.symm.trans hw')
    refine ⟨p, w, hpair, hl, hparked, ?_⟩
    rcases hp.delivered w l hl with hkept | hsent | ⟨p', hpair', -, hsource, -⟩
    · -- the packet that waits now has the new vertex of the event
      obtain rfl := Option.some.inj (hkept.symm.trans hparked)
      exact absurd hnew (h.toSteady.vertex_ne_next hl d')
    · exact absurd hsent hnot
    · obtain rfl := Option.some.inj (hpair.symm.trans hpair')
      obtain ⟨k, d, peer, hpeer, rfl⟩ := outcome_eq_some hpair
      have htime := h.ends.timed _ _ _ hpeer
      cases d with
      | receive =>
        rw [time?_eq, Option.map_eq_some_iff] at htime
        obtain ⟨u, hu, -⟩ := htime
        exact absurd hsource (ne_nextVertex hu)
      | send =>
        obtain ⟨r, hlast, hpast⟩ := h.past _ _ htime
        have hforward : e.time ≤ peer.time := MatchedPair.late_eq_false_iff.1 hlate
        have hr : r = e.time :=
          Nat.le_antisymm (horder r hlast) (Nat.le_trans hforward hpast)
        have hpeer : peer.time = e.time := Nat.le_antisymm (hr ▸ hpast) hforward
        exact ⟨hsource, rfl, hpeer, hr ▸ hlast⟩
  · exact absurd (hpair.symm.trans hnone) (by simp)

/-- When times rise nothing is displaced. -/
theorem Between.displacedBy_of_rising (h : Between False b) (hes : b.Rising es) :
    b.displacedBy es = [] := by
  induction es generalizing b with
  | nil => rfl
  | cons e es ih =>
    obtain ⟨-, hpassed⟩ := h.process (e := e) False.elim
    have hnone : b.displaced? e = none := by
      rw [Option.eq_none_iff_forall_ne_some]
      intro l hl
      obtain ⟨-, -, -, -, -, -, -, -, hlast⟩ := h.displaced hpassed hl
      exact absurd (hes.2 e List.mem_cons_self _ hlast) (Nat.lt_irrefl _)
    rw [displacedBy, hnone, ih hpassed.toBetween (hes.tail hpassed)]
    rfl

/-! ## § 3. The balance of a trace -/

/-- What a trace adds to the packets that are edges or wait. -/
theorem Between.balance (h : Between False b) (es : List Event) :
    (b.processAll es).scene.packets + (b.emitted es).countP (·.late) + (b.displacedBy es).length =
      b.scene.packets + (b.emitted es).length := by
  induction es generalizing b with
  | nil => rfl
  | cons e es ih =>
    obtain ⟨-, hpassed⟩ := h.process (e := e) False.elim
    have hevent := hpassed.packets
    have hrest := ih hpassed.toBetween
    have hcons : b.processAll (e :: es) = (b.process e).2.processAll es := rfl
    rw [hcons, emitted, displacedBy, List.countP_append, List.length_append, List.length_append]
    omega

theorem packets_new {start : Time} {c : Config} (hnew : Builder.new (.new start) c = .ok b) :
    b.scene.packets = 0 := by
  unfold Builder.new at hnew
  split at hnew
  · exact absurd hnew (by simp)
  · obtain rfl := Except.ok.inj hnew
    rfl

/-- After any trace the matched packets are the edges of packets, the packets that wait, those that
were discarded and those that were displaced. A packet is displaced only by one that is sent by an
event at the very time at which it was received; so nothing is displaced in a trace whose times
rise. -/
theorem matched_eq_edges_add_pending {start : Time} {c : Config}
    (hnew : Builder.new (.new start) c = .ok b₀) (hrun : b₀.processAll es = b) :
    b.matcher.matched = b.graph.packetEdges + b.links.size + b.counters.discardedLinks +
        (b₀.displacedBy es).length ∧
    (∀ e l, b.displaced? e = some l → ∃ p w, (b.outcome e).1 = some p ∧
      b.pendingLink? w = some l ∧ (b.process e).2.pendingLink? w = some p.link ∧
        p.source.payload = b.graph.nextVertex ∧ p.source.time = e.time ∧
          p.destination.time = e.time ∧ b.lastTime = some e.time) ∧
    (es.Pairwise (·.time < ·.time) → b₀.displacedBy es = []) := by
  subst hrun
  have hstart : Between False b₀ := between_new hnew
  obtain ⟨hcounters, hmatched, hlast⟩ := new_zero hnew
  have hran : Ran False b₀ es (b₀.processAll es) := hstart.processAll False.elim
  refine ⟨?_, ?_, ?_⟩
  · have hbalance := hstart.balance es
    have hdiscarded := hran.discarded
    have hall := hran.matched
    rw [packets_new hnew] at hbalance
    rw [hcounters] at hdiscarded
    rw [hmatched] at hall
    have hzero : BuildCounters.zero.discardedLinks = 0 := rfl
    have hpackets : (b₀.processAll es).scene.packets =
      (b₀.processAll es).graph.packetEdges + (b₀.processAll es).links.size := rfl
    omega
  · intro e l hl
    obtain ⟨-, hpassed⟩ := hran.toBetween.process (e := e) False.elim
    exact hran.toBetween.displaced hpassed hl
  · intro hrising
    refine hstart.displacedBy_of_rising ⟨hrising, fun e _ t ht => ?_⟩
    rw [hlast] at ht
    exact absurd ht (by simp)

/-- A thread receives two packets, and then another thread sends them, all at one time. -/
def crowdedTrace : List Event :=
  let switch (cpu : Nat) (tid : Int) : Event :=
    ((Event.new "sched_switch" 1 cpu).withField "prev_tid" (.int 0)).withField "next_tid" (.int tid)
  let packet (name : String) (cpu : Nat) (seq : Int) : Event :=
    (((Event.new name 5 cpu).withField "seq" (.int seq)).withField "ack_seq" (.int 9)).withField
      "flags" (.int 0)
  [switch 0 1, switch 1 2, packet "inet_sock_local_in" 0 7, packet "inet_sock_local_in" 0 8,
    packet "inet_sock_local_out" 1 7, packet "inet_sock_local_out" 1 8]

/-- Both packets are matched, and one of them waits. -/
theorem crowdedTrace_counts : ∃ b₀, Builder.new (.new 1) .standard = .ok b₀ ∧
    (b₀.processAll crowdedTrace).matcher.matched = 2 ∧
    (b₀.processAll crowdedTrace).graph.packetEdges + (b₀.processAll crowdedTrace).links.size +
      (b₀.processAll crowdedTrace).counters.discardedLinks = 1 := by
  have hrun : (Builder.new (.new 1) .standard).map (fun b =>
      let b := b.processAll crowdedTrace
      (b.matcher.matched, b.graph.packetEdges + b.links.size + b.counters.discardedLinks)) =
      .ok (2, 1) := by cbv
  obtain ⟨b₀, hnew, heq⟩ := map_eq_ok.1 hrun
  exact ⟨b₀, hnew, Prod.mk.inj heq⟩

/-- The other packet was displaced. -/
theorem crowdedTrace_displaces : ∃ b₀, Builder.new (.new 1) .standard = .ok b₀ ∧
    (b₀.displacedBy crowdedTrace).length = 1 := by
  obtain ⟨b₀, hnew, hmatched, hkept⟩ := crowdedTrace_counts
  have hrun : b₀.processAll crowdedTrace = b₀.processAll crowdedTrace := rfl
  obtain ⟨hbalance, -, -⟩ := matched_eq_edges_add_pending hnew hrun
  rw [hmatched, hkept] at hbalance
  exact ⟨b₀, hnew, by omega⟩

/-- Not every matched packet is an edge, waits, or was discarded. -/
theorem not_all_matched_packets_kept : ¬∀ (start : Time) (c : Config) (b₀ : Builder)
    (es : List Event), Builder.new (.new start) c = .ok b₀ →
      (b₀.processAll es).matcher.matched = (b₀.processAll es).graph.packetEdges +
        (b₀.processAll es).links.size + (b₀.processAll es).counters.discardedLinks := by
  intro hall
  obtain ⟨b₀, hnew, hmatched, hkept⟩ := crowdedTrace_counts
  have heq := hall 1 .standard b₀ crowdedTrace hnew
  rw [hmatched, hkept] at heq
  exact absurd heq (by decide)

end Builder

end CausalPath
