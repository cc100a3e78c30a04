import CausalPath.Proofs.Build.Handlers

/-!
# Ends of packets in an event

An event that sends or receives a packet makes one vertex and gives it to the matcher. The matcher
keeps it, or hands out a pair: then the two ends go to the link of the receiver, unless the packet
was received before it was sent. `packetEnd?` reads off an event and a builder what is submitted.
-/

namespace CausalPath

open CausalPath.Graph

variable {strict : Prop} {b₀ b : Builder} {t : Time} {u : Vertex} {k : PacketKey}
  {d : MatchDirection} {w : WorkerId}

/-! ## § 1. Pairs -/

theorem MatchedPair.late_eq_false_iff {α : Type} {p : MatchedPair α} :
    p.late = false ↔ p.source.time ≤ p.destination.time :=
  decide_eq_false_iff_not.trans Nat.not_lt

theorem Matcher.pair_vertex (k : PacketKey) (d : MatchDirection) (e peer : Endpoint VertexId) :
    (Matcher.pair k d e peer).link.vertex d = e.payload ∧
      (Matcher.pair k d e peer).link.vertex d.opposite = peer.payload := by
  cases d <;> exact ⟨rfl, rfl⟩

theorem MatchDirection.eq_or_opposite (d d' : MatchDirection) : d' = d ∨ d' = d.opposite := by
  cases d <;> cases d' <;> decide

/-! ## § 2. Ends in events -/

/-- The end of a packet that an event of a kind brings. An event brings none in a handler that
shows nothing, or when it needs the thread that runs and there is none. -/
def Build.packetEnd? (f : FieldNames) (kind : EventKind) (e : Event) (c : Cpu) (m : SystemModel) :
    Option (PacketKey × MatchDirection) :=
  match kind with
  | .networkSend =>
    (PacketKey.ofEvent? f e).bind fun k =>
      match (packetContext m c).kind with
      | .none => (m.current? c).map fun _ => (k, .send)
      | .softIrq => some (k, .send)
      | _ => none
  | .networkReceive =>
    (PacketKey.ofEvent? f e).bind fun k =>
      match (packetContext m c).kind with
      | .softIrq | .irq => some (k, .receive)
      | _ => (m.current? c).map fun _ => (k, .receive)
  | _ => none

namespace Builder

open Build

/-- The outcome of an event at time `t` that brings this end of a packet, if any. -/
def submitted (b : Builder) (t : Time) : Option (PacketKey × MatchDirection) → Outcome
  | some (k, d) => b.matcher.submit k d t b.graph.nextVertex
  | none => b.quiet

/-! ## § 3. Keepers after a submission -/

/-- What keepers have when an end may wait. -/
theorem kept?_await {m : Matcher VertexId} {e : Endpoint VertexId} {d' : MatchDirection}
    {i : Keeper} {v : VertexId}
    (hwaiting : ∀ d' k' p, (m.waiting d').get? k' = some p →
      (b.matcher.waiting d').get? k' = some p ∨ (d' = d ∧ k' = k ∧ p = e))
    (hv : Builder.kept? { b with matcher := m } d' i = some v) :
    b.kept? d' i = some v ∨ (d' = d ∧ i = .waiting k ∧ v = e.payload) := by
  cases i with
  | link j => exact Or.inl hv
  | waiting k' =>
    obtain ⟨p, hp, rfl⟩ := Option.map_eq_some_iff.1 hv
    rcases hwaiting d' k' p hp with hold | ⟨rfl, rfl, rfl⟩
    · exact Or.inl (by simp [kept?, hold])
    · exact Or.inr ⟨rfl, rfl, rfl⟩

/-- A fresh vertex is given to the matcher, which may keep it for a packet. -/
theorem During.await (h : During strict b₀ t [u] b) {m : Matcher VertexId}
    (hwaiting : ∀ d' k' p, (m.waiting d').get? k' = some p →
      (b.matcher.waiting d').get? k' = some p ∨ (d' = d ∧ k' = k ∧ p = ⟨t, u.id⟩)) :
    Ends strict { b with matcher := m } := by
  have hfresh := h.fresh u (by simp)
  refine ⟨?_, ?_, h.ends.forward, ?_⟩
  · intro d' i v hv
    rcases kept?_await hwaiting hv with hold | ⟨rfl, rfl, rfl⟩
    · exact h.ends.ready d' i v hold
    · exact hfresh.ready d'
  · intro d' i j v hi hj
    rcases kept?_await hwaiting hi with hi | ⟨-, hi, hiv⟩ <;>
      rcases kept?_await hwaiting hj with hj | ⟨-, hj, hjv⟩
    · exact h.ends.alone d' i j v hi hj
    · exact absurd (hjv ▸ hi) (hfresh.unkept _ _)
    · exact absurd (hiv ▸ hj) (hfresh.unkept _ _)
    · rw [hi, hj]
  · intro d' k' p hp
    rcases hwaiting d' k' p hp with hold | ⟨rfl, rfl, rfl⟩
    · exact h.ends.timed d' k' p hold
    · exact hfresh.time?

/-- A packet that was not received before it was sent leads from a fresh vertex to the end that
waited for it, or back. -/
theorem During.forward (h : During strict b₀ t [u] b) {peer : Endpoint VertexId}
    (hpeer : (b.matcher.waiting d.opposite).get? k = some peer)
    (hlate : (Matcher.pair k d ⟨t, u.id⟩ peer).late = false) :
    b.graph.Forward strict (Matcher.pair k d ⟨t, u.id⟩ peer).link.source
      (Matcher.pair k d ⟨t, u.id⟩ peer).link.destination := by
  have hfresh := h.fresh u (by simp)
  have hpeerKept : b.kept? d.opposite (.waiting k) = some peer.payload := by simp [kept?, hpeer]
  have hpeerTime := h.ends.timed _ _ _ hpeer
  have hne : u.id ≠ peer.payload := fun heq => hfresh.unkept _ _ (heq ▸ hpeerKept)
  -- when times differ, the fresh vertex is the only one of the event
  have hapart : strict → peer.time ≠ t := by
    intro hstrict hnow
    obtain ⟨u', hu', hid⟩ := h.covered hstrict peer.payload (hnow ▸ hpeerTime)
    rw [List.mem_singleton.1 hu'] at hid
    exact hne hid
  have hlate := MatchedPair.late_eq_false_iff.1 hlate
  cases d with
  | send =>
    refine ⟨hne, ⟨t, peer.time, hfresh.time?, hpeerTime, hlate⟩, ?_⟩
    intro hstrict htime
    have htime : b.graph.time? u.id = b.graph.time? peer.payload := htime
    rw [hfresh.time?, hpeerTime] at htime
    exact hapart hstrict (Option.some.inj htime).symm
  | receive =>
    refine ⟨hne.symm, ⟨peer.time, t, hpeerTime, hfresh.time?, hlate⟩, ?_⟩
    intro hstrict htime
    have htime : b.graph.time? peer.payload = b.graph.time? u.id := htime
    rw [hfresh.time?, hpeerTime] at htime
    exact hapart hstrict (Option.some.inj htime)

/-- What keepers have when an end waits no more and a worker gets a link. -/
theorem kept?_keep {m : Matcher VertexId} {l : NetworkLink} {d' : MatchDirection} {i : Keeper}
    {v : VertexId}
    (hwaiting : ∀ d' k' p, (m.waiting d').get? k' = some p →
      (b.matcher.waiting d').get? k' = some p ∧ ¬(d' = d ∧ k' = k))
    (hv : Builder.kept? { b with matcher := m, links := b.links.insert w l } d' i = some v) :
    (b.kept? d' i = some v ∧ ¬(d' = d ∧ i = .waiting k)) ∨ (i = .link w ∧ v = l.vertex d') := by
  cases i with
  | link j =>
    simp only [kept?, Table.get?_insert] at hv
    split at hv
    · rename_i hw
      exact Or.inr ⟨by rw [hw], (Option.some.inj hv).symm⟩
    · exact Or.inl ⟨hv, by simp⟩
  | waiting k' =>
    obtain ⟨p, hp, rfl⟩ := Option.map_eq_some_iff.1 hv
    obtain ⟨hold, hne⟩ := hwaiting d' k' p hp
    exact Or.inl ⟨by simp [kept?, hold], by simpa using hne⟩

/-- A fresh vertex is matched with an end that waited, and the two become the link of a worker. -/
theorem During.keep (h : During strict b₀ t [u] b) {m : Matcher VertexId}
    {peer : Endpoint VertexId} (hpeer : (b.matcher.waiting d.opposite).get? k = some peer)
    (hwaiting : ∀ d' k' p, (m.waiting d').get? k' = some p →
      (b.matcher.waiting d').get? k' = some p ∧ ¬(d' = d.opposite ∧ k' = k))
    (hlate : (Matcher.pair k d ⟨t, u.id⟩ peer).late = false) (w : WorkerId) :
    Ends strict { b with
      matcher := m
      links := b.links.insert w (Matcher.pair k d ⟨t, u.id⟩ peer).link } := by
  have hfresh := h.fresh u (by simp)
  obtain ⟨hown, hother⟩ := Matcher.pair_vertex k d ⟨t, u.id⟩ peer
  have hpeerKept : b.kept? d.opposite (.waiting k) = some peer.payload := by simp [kept?, hpeer]
  have hforward := h.forward hpeer hlate
  generalize hl : (Matcher.pair k d ⟨t, u.id⟩ peer).link = l at hown hother hforward ⊢
  -- no keeper that is left has an end of the link
  have hnew : ∀ {d' i}, b.kept? d' i = some (l.vertex d') → ¬(d' = d.opposite ∧ i = .waiting k) →
      False := by
    intro d' i hi hne
    rcases d.eq_or_opposite d' with rfl | rfl
    · rw [hown] at hi
      exact hfresh.unkept _ _ hi
    · rw [hother] at hi
      exact hne ⟨rfl, h.ends.alone _ _ _ _ hi hpeerKept⟩
  refine ⟨?_, ?_, ?_, ?_⟩
  · intro d' i v hv
    rcases kept?_keep hwaiting hv with ⟨hold, -⟩ | ⟨rfl, rfl⟩
    · exact h.ends.ready d' i v hold
    · rcases d.eq_or_opposite d' with rfl | rfl
      · rw [hown]
        exact hfresh.ready _
      · rw [hother]
        exact h.ends.ready _ _ _ hpeerKept
  · intro d' i j v hi hj
    rcases kept?_keep hwaiting hi with ⟨hi, hni⟩ | ⟨hi, hiv⟩ <;>
      rcases kept?_keep hwaiting hj with ⟨hj, hnj⟩ | ⟨hj, hjv⟩
    · exact h.ends.alone d' i j v hi hj
    · exact (hnew (hjv ▸ hi) hni).elim
    · exact (hnew (hiv ▸ hj) hnj).elim
    · rw [hi, hj]
  · intro i l' hl'
    have hl' : (b.links.insert w l).get? i = some l' := hl'
    rw [Table.get?_insert] at hl'
    split at hl'
    · exact Option.some.inj hl' ▸ hforward
    · exact h.ends.forward i l' hl'
  · intro d' k' p hp
    exact h.ends.timed d' k' p (hwaiting d' k' p hp).1

/-! ## § 4. Submitting an end -/

/-- An event that is over, but for what becomes of its packet. -/
theorem Handled.resolve (h : Handled strict b₀ t b₀.quiet b) {o : Outcome}
    {links : Table WorkerId NetworkLink} {counters : BuildCounters}
    (hends : Ends strict { b with matcher := o.2, links, counters })
    (hcounters : counters = { b.counters with
      discardedLinks := b.counters.discardedLinks + o.1.toList.countP (·.late) })
    (hlinks : ∀ w l, b.links.get? w = some l → links.get? w = some l ∨
      ∃ p, o.1 = some p ∧ b₀.Overtakes w p b)
    (hcourse : Course t b₀.scene o.1 { b.scene with links }) :
    Handled strict b₀ t o { b with matcher := o.2, links, counters } where
  toSteady := ⟨h.sound, h.opened, h.calm, h.known, hends⟩
  last := h.last
  past := h.past
  matcher := rfl
  counters := by
    rw [h.counters] at hcounters
    exact hcounters
  delivered w l hl := by
    rcases h.delivered w l hl with hkept | hsent | ⟨p, hp, -⟩
    · exact (hlinks w l hkept).imp_right Or.inr
    · exact Or.inr (Or.inl hsent)
    · exact absurd hp (by simp [quiet])
  course := hcourse

/-- The ends of a pair are vertices at the times of the pair. -/
theorem During.pair_shown (h : During strict b₀ t [u] b) {peer : Endpoint VertexId}
    (hpeer : (b.matcher.waiting d.opposite).get? k = some peer) :
    ∃ sent received, b.graph.vertex? (Matcher.pair k d ⟨t, u.id⟩ peer).source.payload = some sent ∧
      b.graph.vertex? (Matcher.pair k d ⟨t, u.id⟩ peer).destination.payload = some received ∧
      ((Matcher.pair k d ⟨t, u.id⟩ peer).late = false ↔ sent.time ≤ received.time) := by
  have hfresh := h.fresh u (by simp)
  have hpeerTime := h.ends.timed _ _ _ hpeer
  rw [time?_eq, Option.map_eq_some_iff] at hpeerTime
  obtain ⟨x, hx, hxtime⟩ := hpeerTime
  cases d with
  | send =>
    refine ⟨u, x, hfresh.shown, hx, ?_⟩
    rw [MatchedPair.late_eq_false_iff, hfresh.now, hxtime]
    rfl
  | receive =>
    refine ⟨x, u, hx, hfresh.shown, ?_⟩
    rw [MatchedPair.late_eq_false_iff, hfresh.now, hxtime]
    rfl

/-- No packet waits for the worker of the fresh vertex. So when a packet waits for the receiver of
the new one, the fresh vertex belongs to the sender. -/
theorem During.overtakes (h : During strict b₀ t [u] b) (hnew : u.id = b₀.graph.nextVertex)
    (htaken : b.links.get? u.worker = none) {peer : Endpoint VertexId} {received : Vertex}
    (hreceived : b.graph.vertex? (Matcher.pair k d ⟨t, u.id⟩ peer).destination.payload =
      some received)
    (hlate : (Matcher.pair k d ⟨t, u.id⟩ peer).late = false) {l : NetworkLink}
    (hl : b.links.get? received.worker = some l) :
    b₀.Overtakes received.worker (Matcher.pair k d ⟨t, u.id⟩ peer) b := by
  have hshown := (h.fresh u (by simp)).shown
  have hne : u.worker ≠ received.worker := by
    intro heq
    rw [heq, hl] at htaken
    exact absurd htaken (by simp)
  cases d with
  | send =>
    refine ⟨hlate, hnew, ?_, u.worker, ?_, hne⟩
    · rw [parent?_eq, hreceived]
      rfl
    · show b.graph.parent? u.id = some u.worker
      rw [parent?_eq, hshown]
      rfl
  | receive =>
    have hsame : some u = some received := hshown.symm.trans hreceived
    exact absurd (congrArg Vertex.worker (Option.some.inj hsame)) hne

/-- A fresh vertex is submitted as an end of a packet. -/
theorem During.submit (h : During strict b₀ t [u] b) (hnew : u.id = b₀.graph.nextVertex)
    (htaken : b.links.get? u.worker = none) (k : PacketKey) (d : MatchDirection) :
    Settles strict b₀ t (b.matcher.submit k d t u.id)
      (do
        modify fun b => { b with matcher := (b.matcher.submit k d t u.id).2 }
        if let some pair := (b.matcher.submit k d t u.id).1 then
          keepLink pair)
      b := by
  unfold Settles
  rw [ensures_bind, ensures_modify]
  rcases b.matcher.submit_cases k d t u.id with ⟨peer, hpeer, hpair, hwaiting⟩ | ⟨hpair, hwaiting⟩
  · obtain ⟨sent, received, hsent, hreceived, hlate⟩ := h.pair_shown hpeer
    generalize b.matcher.submit k d t u.id = o at hpair hwaiting ⊢
    simp only [hpair, keepLink, ensures_modify, hsent, hreceived]
    by_cases htimes : sent.time ≤ received.time
    · have hnot := hlate.2 htimes
      rw [if_pos htimes]
      refine h.toHandled.resolve (h.keep hpeer hwaiting hnot received.worker) ?_ ?_ ?_
      · simp [hpair, hnot]
      · intro w l hl
        by_cases hw : received.worker = w
        · subst hw
          exact Or.inr ⟨_, hpair, h.overtakes hnew htaken hreceived hnot hl⟩
        · refine Or.inl ?_
          rw [Table.get?_insert, if_neg hw, hl]
      · rw [hpair]
        refine .park h.deeds hnot ⟨d, ?_⟩ ?_ fun l hl => ?_
        · exact (Matcher.pair_vertex k d ⟨t, u.id⟩ peer).1.trans hnew
        · show b.graph.parent? _ = some received.worker
          rw [parent?_eq, hreceived]
          rfl
        · have hl : b.links.get? received.worker = some l := hl
          apply h.sound.not_sends (h.ends.ready .send (.link received.worker) l.source ?_)
          simp [kept?, hl, NetworkLink.vertex]
    · have hyes : (Matcher.pair k d ⟨t, u.id⟩ peer).late = true := by
        simpa using mt hlate.1 htimes
      rw [if_neg htimes]
      refine h.toHandled.resolve (h.ends.shrink (fun _ _ hl => hl)
        (fun d' k' p hp => (hwaiting d' k' p hp).1) (fun _ _ ht => ht) fun _ _ _ _ hr => hr) ?_ ?_ ?_
      · simp [hpair, hyes]
      · exact fun w l hl => Or.inl hl
      · rw [hpair]
        apply Course.pass h.deeds
        intro p hp
        exact Option.some.inj hp ▸ hyes
  · generalize b.matcher.submit k d t u.id = o at hpair hwaiting ⊢
    simp only [hpair, ensures_pure]
    refine h.toHandled.resolve (h.await hwaiting) ?_ (fun w l hl => Or.inl hl) ?_
    · simp [hpair]
    · exact .pass h.deeds (by simp [hpair])

/-- One end of a packet is submitted at a new vertex of its worker. -/
theorem During.submitEnd (h : During strict b₀ t [] b) (hw : (b.graph.worker? w).isSome)
    (k : PacketKey) (d : MatchDirection) :
    Settles strict b₀ t (b₀.matcher.submit k d t b₀.graph.nextVertex) (submitEnd w k d t) b := by
  unfold Settles Build.submitEnd
  refine (h.extendState hw).bind ?_
  intro v b₁ hv
  have h₁ := hv.during (by simp)
  have hmatcher : b₁.matcher = b₀.matcher := h₁.matcher
  have hnew : v = b₀.graph.nextVertex := hv.next.trans (h.first rfl)
  rw [ensures_bind, ensures_get, ← hmatcher, ← hnew]
  exact h₁.submit hnew hv.taken k d

/-! ## § 5. Handlers of packets -/

/-- An end is submitted at a new vertex of the kernel worker. -/
theorem During.submitKernel (h : During strict b₀ t [] b) (c : Cpu) (k : PacketKey)
    (d : MatchDirection) :
    Settles strict b₀ t (b₀.submitted t (some (k, d)))
      (do Build.submitEnd (← Build.kernelWorker c) k d t) b := by
  refine (h.kernelWorker c).bind ?_
  rintro w b₁ ⟨h₁, hw, -⟩
  exact h₁.submitEnd hw k d

/-- An end is submitted at a new vertex of the thread that runs, if there is one. -/
theorem During.submitCurrent {e : Event} (h : During strict b₀ e.time [] b) (c : Cpu)
    (k : PacketKey) (d : MatchDirection) :
    Settles strict b₀ e.time (b₀.submitted e.time ((b.system.current? c).map fun _ => (k, d)))
      (do Build.submitEnd (← Build.currentOf e c) k d e.time) b := by
  refine ensures_bind.2 ((h.currentOf e c).mono ?_ ?_)
  · rintro w _ ⟨rfl, hcurrent, hw⟩
    rw [hcurrent]
    exact h.submitEnd hw k d
  · rintro err b' ⟨hcurrent, hrejected⟩
    rw [hcurrent]
    exact hrejected

theorem During.networkSend {e : Event} (h : During strict b₀ e.time [] b) (f : FieldNames)
    (c : Cpu) :
    Settles strict b₀ e.time (b₀.submitted e.time (packetEnd? f .networkSend e c b.system))
      (networkSend f e c) b := by
  unfold Settles Build.networkSend packetEnd?
  cases PacketKey.ofEvent? f e with
  | none => exact h.toHandled
  | some k =>
    simp only [Option.bind_some, ensures_bind, ensures_system]
    cases (packetContext b.system c).kind with
    | none => exact h.submitCurrent c k .send
    | softIrq => exact h.submitKernel c k .send
    | irq | hrTimer | ipi | completeIrq | packetReception => exact h.toHandled

theorem During.networkReceive {e : Event} (h : During strict b₀ e.time [] b) (f : FieldNames)
    (c : Cpu) :
    Settles strict b₀ e.time (b₀.submitted e.time (packetEnd? f .networkReceive e c b.system))
      (networkReceive f e c) b := by
  unfold Settles Build.networkReceive packetEnd?
  cases PacketKey.ofEvent? f e with
  | none => exact h.toHandled
  | some k =>
    simp only [Option.bind_some, ensures_bind, ensures_system]
    cases (packetContext b.system c).kind with
    | softIrq | irq => exact h.submitKernel c k .receive
    | none | hrTimer | ipi | completeIrq | packetReception => exact h.submitCurrent c k .receive

/-- Any event is handled or rejected. -/
theorem During.handle {e : Event} (h : During strict b₀ e.time [] b)
    (hsystem : b.system = b₀.system) (f : FieldNames) (kind : EventKind) (c : Cpu) :
    Settles strict b₀ e.time (b₀.submitted e.time (packetEnd? f kind e c b.system))
      (handle f kind e c) b := by
  have henter : ∀ x, Settles strict b₀ e.time b₀.quiet (Build.enter c x) b := fun x =>
    (During.enter h c x).mono (fun _ _ hd => hd.toHandled) fun _ _ hr => hr
  cases kind with
  | schedSwitch => exact h.schedSwitch f c
  | wakeup => exact h.wakeup f c
  | fork => exact h.fork f c
  | exit => exact h.exit f c
  | softIrqEntry => exact h.softIrqEntry hsystem f c
  | networkSend => exact h.networkSend f c
  | networkReceive => exact h.networkReceive f c
  | irqEntry | hrTimerEntry | ipiEntry | completeIrqEntry | packetReceptionEntry => exact henter _
  | irqExit | softIrqExit | hrTimerExit | ipiExit | completeIrqExit | packetReceptionExit =>
    exact h.leave c _

end Builder

end CausalPath
