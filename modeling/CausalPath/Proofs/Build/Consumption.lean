import CausalPath.Proofs.Build.Run

/-!
# Packets that wait

A packet waits for its receiver until the receiver's chain grows, and becomes an edge then. One
event does not keep to that: the start of a soft interrupt that moves packets is marked in the chain
of the worker that stands for the interrupts of its CPU, and a packet that waits for that worker
goes on waiting. A thread that is woken later may get it.
-/

namespace CausalPath

open CausalPath.Graph

variable {t : Time} {s s₀ : Scene} {pair : Option (MatchedPair VertexId)} {w : WorkerId}
  {l : NetworkLink}

/-! ## § 1. One event -/

/-- When the chain of a worker has grown, a packet that waited for the worker has become an edge of
the vertex that received it, unless the growth marks the start of a soft interrupt. -/
theorem Course.growth (h : Course t s₀ pair s) (hl : s₀.links.get? w = some l)
    (hold : ∀ d, l.vertex d ≠ s₀.graph.nextVertex)
    (hgrew : s.graph.chainOf w ≠ s₀.graph.chainOf w) :
    (s₀.Begins t w s ∧ s.links.get? w = some l) ∨
      (s.links.get? w ≠ some l ∧ ∃ i, s.graph.edgeRecord? i = some (l.edge l.destination)) := by
  cases h with
  | pass h _ =>
    rcases h.link_cases hl with ⟨-, hchain⟩ | ⟨htaken, hedge⟩
    · exact absurd hchain hgrew
    · exact Or.inr ⟨by simp [htaken], hedge⟩
  | @mark s w' h hw hbegins =>
    rcases h.link_cases hl with ⟨hwaits, hchain⟩ | ⟨htaken, i, hi⟩
    · by_cases hsame : w = w'
      · subst hsame
        exact Or.inl ⟨hbegins, hwaits⟩
      · exact absurd ((chainOf_grown hw w).trans ((if_neg hsame).trans hchain)) hgrew
    · exact Or.inr ⟨by simp [htaken], i, edgeRecord?_grown_of_some hi⟩
  | @redirect s w' l' h hl' v =>
    rcases h.link_cases hl with ⟨-, hchain⟩ | ⟨htaken, i, hi⟩
    · exact absurd hchain hgrew
    · refine Or.inr ⟨?_, i, edgeRecord?_pushEdge_of_some hi⟩
      intro hwaits
      have hwaits := (Table.get?_of_erase hwaits).1
      exact absurd (htaken.symm.trans hwaits) (by simp)
  | @park s p w' h hlate hnew hw hunsent =>
    rcases h.link_cases hl with ⟨-, hchain⟩ | ⟨htaken, hedge⟩
    · exact absurd hchain hgrew
    · refine Or.inr ⟨?_, hedge⟩
      intro hwaits
      have hwaits : (s.links.insert w' p.link).get? w = some l := hwaits
      rw [Table.get?_insert] at hwaits
      split at hwaits
      · -- the packet that is new here has a vertex of this event
        obtain ⟨d, hd⟩ := hnew
        exact hold d (Option.some.inj hwaits ▸ hd)
      · exact absurd (htaken.symm.trans hwaits) (by simp)

namespace Builder

variable {b b₀ : Builder} {es : List Event} {e : Event}

/-! ## § 2. Whole traces -/

/-- After any trace, let a packet wait for a worker and let the chain of the worker grow in the next
event. Then the packet waits no more, and one vertical edge leaves the vertex that sent it, to the
vertex that received it. The exception is an event that starts a soft interrupt that moves packets
on a CPU whose interrupts the worker stands for: the packet goes on waiting, and is no edge. -/
theorem growth_takes_packet {start : Time} {c : Config}
    (hnew : Builder.new (.new start) c = .ok b₀) (hrun : b₀.processAll es = b)
    (hl : b.pendingLink? w = some l)
    (hgrew : (b.process e).2.graph.chainOf w ≠ b.graph.chainOf w) :
    (b.scene.Begins e.time w (b.process e).2.scene ∧
      (b.process e).2.pendingLink? w = some l ∧ ¬(b.process e).2.graph.Sends l.source) ∨
    ((b.process e).2.pendingLink? w ≠ some l ∧
      ∃ i, (b.process e).2.graph.edgeRecord? i = some (l.edge l.destination) ∧
        ∀ j x, (b.process e).2.graph.edgeRecord? j = some x → x.horizontal = false →
          x.origin = l.source → j = i) := by
  subst hrun
  have hstart : Between False b₀ := between_new hnew
  have hran : Ran False b₀ es (b₀.processAll es) := hstart.processAll False.elim
  obtain ⟨-, hpassed⟩ := hran.toBetween.process (e := e) False.elim
  rcases hpassed.course with ⟨-, -, hcourse⟩ | ⟨-, -, -, hsame⟩
  · rcases hcourse.growth hl (hran.toSteady.vertex_ne_next hl) hgrew with
      ⟨hbegins, hwaits⟩ | ⟨htaken, i, hi⟩
    · exact Or.inl ⟨hbegins, hwaits, (hpassed.toSteady.linkVertical_ok hwaits).1⟩
    · refine Or.inr ⟨htaken, i, hi, ?_⟩
      intro j x hx hvertical horigin
      apply hpassed.sound.eq_of_meets (v := l.source) (d := .outgoingVertical) hx hi
      · exact Or.inl ⟨horigin.symm, by rw [hvertical]; rfl⟩
      · exact Or.inl ⟨rfl, rfl⟩
  · have hgraph := congrArg Scene.graph hsame
    have hchain := congrArg (·.chainOf w) hgraph
    exact absurd hchain hgrew

/-- An event that a packet gives rise to, on its way out of a CPU or into one. -/
def packetEvent (name : String) (t : Time) (cpu : Nat) : Event :=
  (((Event.new name t cpu).withField "seq" (.int 7)).withField "ack_seq" (.int 9)).withField
    "flags" (.int 0)

/-- A packet is sent on one CPU and received on another in a soft interrupt. -/
def receivedTrace : List Event :=
  [((Event.new "sched_switch" 1 1).withField "prev_tid" (.int 0)).withField "next_tid" (.int 2),
    packetEvent "inet_sock_local_out" 2 1,
    (Event.new "irq_softirq_entry" 3 0).withField "vec" (.int 3),
    packetEvent "inet_sock_local_in" 4 0]

/-- Another soft interrupt begins on the second CPU. -/
def nextSoftIrq : Event := (Event.new "irq_softirq_entry" 6 0).withField "vec" (.int 3)

/-- The soft interrupt of the second CPU sends a packet. -/
def nextSend : Event := packetEvent "inet_sock_local_out" 6 0

/-- The worker of the second CPU has the packet waiting. Its chain grows by either event, and the
packet still waits after the first one only. -/
theorem receivedTrace_waits : ∃ b₀, Builder.new (.new 1) .standard = .ok b₀ ∧
    (b₀.processAll receivedTrace).pendingLink? ⟨2⟩ = some ⟨⟨2⟩, ⟨4⟩⟩ ∧
    (∀ e ∈ [nextSoftIrq, nextSend], ((b₀.processAll receivedTrace).process e).2.graph.chainOf ⟨2⟩ ≠
      (b₀.processAll receivedTrace).graph.chainOf ⟨2⟩) ∧
    ((b₀.processAll receivedTrace).process nextSoftIrq).2.pendingLink? ⟨2⟩ = some ⟨⟨2⟩, ⟨4⟩⟩ ∧
    ((b₀.processAll receivedTrace).process nextSend).2.pendingLink? ⟨2⟩ = none := by
  have hrun : (Builder.new (.new 1) .standard).map (fun b =>
      let b := b.processAll receivedTrace
      let b' := (b.process nextSoftIrq).2
      let b'' := (b.process nextSend).2
      ((b.pendingLink? ⟨2⟩, b.graph.chainOf ⟨2⟩), (b'.pendingLink? ⟨2⟩, b'.graph.chainOf ⟨2⟩),
        (b''.pendingLink? ⟨2⟩, b''.graph.chainOf ⟨2⟩))) =
      .ok ((some ⟨⟨2⟩, ⟨4⟩⟩, [⟨3⟩, ⟨4⟩]), (some ⟨⟨2⟩, ⟨4⟩⟩, [⟨3⟩, ⟨4⟩, ⟨5⟩]),
        (none, [⟨3⟩, ⟨4⟩, ⟨5⟩])) := by cbv
  obtain ⟨b₀, hnew, heq⟩ := map_eq_ok.1 hrun
  simp only [Prod.mk.injEq] at heq
  obtain ⟨⟨hbefore, hchain⟩, ⟨hirq, hirqChain⟩, hsend, hsendChain⟩ := heq
  refine ⟨b₀, hnew, hbefore, ?_, hirq, hsend⟩
  simp [hchain, hirqChain, hsendChain]

/-- So the soft interrupt was the exception, and when the packet is sent instead, the one that was
received has become an edge. -/
theorem growth_takes_packet_of_receivedTrace : ∃ b₀, Builder.new (.new 1) .standard = .ok b₀ ∧
    (b₀.processAll receivedTrace).scene.Begins 6 ⟨2⟩
      ((b₀.processAll receivedTrace).process nextSoftIrq).2.scene ∧
    ∃ i, ((b₀.processAll receivedTrace).process nextSend).2.graph.edgeRecord? i =
      some ⟨⟨2⟩, ⟨4⟩, .network, none, false⟩ := by
  obtain ⟨b₀, hnew, hbefore, hgrew, hirq, hsend⟩ := receivedTrace_waits
  refine ⟨b₀, hnew, ?_, ?_⟩
  · rcases growth_takes_packet hnew rfl hbefore (hgrew nextSoftIrq (by simp)) with
      ⟨hbegins, -, -⟩ | ⟨htaken, -⟩
    · exact hbegins
    · exact absurd hirq htaken
  · rcases growth_takes_packet hnew rfl hbefore (hgrew nextSend (by simp)) with
      ⟨-, hwaits, -⟩ | ⟨-, i, hi, -⟩
    · exact absurd (hwaits.symm.trans hsend) (by simp)
    · exact ⟨i, hi⟩

/-- Not every growth of a chain takes the packet that waits for its worker. -/
theorem not_all_growth_takes_packet : ¬∀ (start : Time) (c : Config) (b₀ : Builder)
    (es : List Event) (e : Event) (w : WorkerId) (l : NetworkLink),
    Builder.new (.new start) c = .ok b₀ → (b₀.processAll es).pendingLink? w = some l →
      ((b₀.processAll es).process e).2.graph.chainOf w ≠ (b₀.processAll es).graph.chainOf w →
        ((b₀.processAll es).process e).2.pendingLink? w ≠ some l := by
  intro hall
  obtain ⟨b₀, hnew, hbefore, hgrew, hirq, -⟩ := receivedTrace_waits
  exact hall 1 .standard b₀ receivedTrace nextSoftIrq ⟨2⟩ _ hnew hbefore
    (hgrew nextSoftIrq (by simp)) hirq

end Builder

end CausalPath
