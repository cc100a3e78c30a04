import CausalPath.Proofs.Build.Packets

/-!
# Runs of a builder

Between two events a builder is steady, and no vertex is later than the last event that came in
order. One event keeps it so, whatever the event; from that it follows by induction for any trace
that the graph refuses nothing, and that the packets discarded are those that were received before
they were sent.
-/

namespace CausalPath

open CausalPath.Graph

variable {strict : Prop} {b b' : Builder} {e : Event}

/-! ## § 1. Packets of a trace -/

namespace Builder

/-- The end of a packet that an event brings to a builder. An event that is out of order, has a name
that is not in the layout, or has no CPU brings none. -/
def packetEnd? (b : Builder) (e : Event) : Option (PacketKey × MatchDirection) :=
  if b.lastTime.any (e.time < ·) then none
  else (b.index.get? e.name).bind fun kind =>
    (e.cpu.filter fun n => b.cpuCount.all (n < ·)).bind fun n =>
      Build.packetEnd? b.layout.fields kind e ⟨e.host, n⟩ b.system

/-- The pair that the matcher emits at an event, and the matcher after. -/
def outcome (b : Builder) (e : Event) : Outcome := b.submitted e.time (b.packetEnd? e)

/-- The pairs that the matcher emits in a trace. -/
def emitted (b : Builder) : List Event → List (MatchedPair VertexId)
  | [] => []
  | e :: es => (b.outcome e).1.toList ++ (b.process e).2.emitted es

open Build

/-! ## § 2. One event -/

/-- What a builder keeps up between events. -/
structure Between (strict : Prop) (b : Builder) : Prop extends Steady strict b where
  past : ∀ v s, b.graph.time? v = some s → ∃ t, b.lastTime = some t ∧ s ≤ t

/-- What an event has done to a builder, but for the number of events. -/
structure Passed (strict : Prop) (b : Builder) (e : Event) (b' : Builder) : Prop
    extends Between strict b' where
  last : b'.lastTime = b.lastTime ∨ b'.lastTime = some e.time
  matcher : b'.matcher = (b.outcome e).2
  discarded : b'.counters.discardedLinks =
    b.counters.discardedLinks + (b.outcome e).1.toList.countP (·.late)
  graphErrors : b'.counters.graphErrors = b.counters.graphErrors
  delivered : ∀ w l, b.pendingLink? w = some l → b'.pendingLink? w = some l ∨
    b'.graph.Sends l.source ∨ ∃ p, (b.outcome e).1 = some p ∧ b.Overtakes w p b'
  /-- An event that comes in order has a course, and any other does nothing. -/
  course : ((∀ s, b.lastTime = some s → s ≤ e.time) ∧ b'.lastTime = some e.time ∧
      Course e.time b.scene (b.outcome e).1 b'.scene) ∨
    ((∃ s, b.lastTime = some s ∧ e.time < s) ∧ b'.lastTime = b.lastTime ∧
      (b.outcome e).1 = none ∧ b'.scene = b.scene)

theorem Handled.passed (h : Handled strict b e.time (b.outcome e) b')
    (horder : ∀ s, b.lastTime = some s → s ≤ e.time) : Passed strict b e b' where
  toSteady := h.toSteady
  past v s hs := ⟨e.time, h.last, h.past v s hs⟩
  last := Or.inr h.last
  matcher := h.matcher
  discarded := by rw [h.counters]
  graphErrors := by rw [h.counters]
  delivered := h.delivered
  course := Or.inl ⟨horder, h.last, h.course⟩

/-- To count an event is no news about links. -/
theorem Passed.count (h : Passed strict b e b') {c : BuildCounters}
    (hdiscarded : c.discardedLinks = b'.counters.discardedLinks)
    (herrors : c.graphErrors = b'.counters.graphErrors) :
    Passed strict b e { b' with counters := c } where
  toSteady := h.toSteady.of_same rfl rfl rfl rfl
  past := h.past
  last := h.last
  matcher := h.matcher
  discarded := hdiscarded.trans h.discarded
  graphErrors := herrors.trans h.graphErrors
  delivered := h.delivered
  course := h.course

/-- The start of an event that comes in order. -/
theorem Between.start (h : Between strict b) {t : Time} (horder : ∀ s, b.lastTime = some s → s ≤ t)
    (hnext : strict → ∀ s, b.lastTime = some s → s < t) :
    During strict b t [] { b with lastTime := some t } where
  toSteady := h.toSteady.of_same rfl rfl rfl rfl
  last := rfl
  past v s hs := by
    obtain ⟨r, hr, hsr⟩ := h.past v s hs
    exact Nat.le_trans hsr (horder r hr)
  matcher := rfl
  counters := rfl
  delivered w l hl := Or.inl hl
  course := .pass .refl (by simp [quiet])
  covered hstrict v hv := by
    obtain ⟨r, hr, htr⟩ := h.past v t hv
    exact absurd htr (Nat.not_le.2 (hnext hstrict r hr))
  fresh u hu := absurd hu (by simp)
  first _ := rfl
  deeds := .refl

theorem outcome_of_late {last : Time} (hlast : b.lastTime = some last) (hlate : e.time < last) :
    b.outcome e = b.quiet := by
  have hany : b.lastTime.any (e.time < ·) = true := by simpa [hlast] using hlate
  simp [outcome, packetEnd?, hany, submitted]

theorem outcome_of_inOrder (horder : ∀ s, b.lastTime = some s → s ≤ e.time) :
    b.outcome e = b.submitted e.time ((b.index.get? e.name).bind fun kind =>
      (e.cpu.filter fun n => b.cpuCount.all (n < ·)).bind fun n =>
        Build.packetEnd? b.layout.fields kind e ⟨e.host, n⟩ b.system) := by
  have hany : b.lastTime.any (e.time < ·) = false := by
    cases hlast : b.lastTime with
    | none => rfl
    | some s => simpa using horder s hlast
  simp [outcome, packetEnd?, hany]

/-- An event goes from start to end, unless it is rejected before it starts. -/
theorem Between.dispatch (h : Between strict b)
    (hnext : strict → ∀ t, b.lastTime = some t → t < e.time) :
    Ensures (dispatch e) b (fun _ b' => Passed strict b e b')
      (fun err b' => (∀ r, err ≠ .graph r) ∧ Passed strict b e b') := by
  apply ensures_dispatch
  · -- out of order: nothing has been done yet
    intro last hlast hlate
    have hquiet := outcome_of_late hlast hlate
    refine ⟨by simp, h, Or.inl rfl, ?_, ?_, rfl, fun _ _ hl => Or.inl hl,
      Or.inr ⟨⟨last, hlast, hlate⟩, rfl, ?_, rfl⟩⟩
    · rw [hquiet]
      rfl
    · rw [hquiet]
      rfl
    · rw [hquiet]
      rfl
  · intro horder hkind
    have houtcome := outcome_of_inOrder horder
    rw [hkind] at houtcome
    exact Handled.passed (houtcome ▸ (h.start horder hnext).toHandled) horder
  · intro horder kind hkind hcpu
    have houtcome := outcome_of_inOrder horder
    rw [hkind, Option.bind_some, hcpu] at houtcome
    exact ⟨by simp, Handled.passed (houtcome ▸ (h.start horder hnext).toHandled) horder⟩
  · intro horder kind n hkind hcpu
    have houtcome := outcome_of_inOrder horder
    rw [hkind, Option.bind_some, hcpu, Option.bind_some] at houtcome
    have hsettles := (h.start horder hnext).handle rfl b.layout.fields kind ⟨e.host, n⟩
    refine hsettles.mono ?_ ?_
    · intro _ b' hhandled
      exact Handled.passed (houtcome ▸ hhandled) horder
    · rintro err b' ⟨hother, hhandled⟩
      exact ⟨hother, Handled.passed (houtcome ▸ hhandled) horder⟩

/-- An event leaves a builder steady, and the graph refuses nothing. -/
theorem Between.process (h : Between strict b)
    (hnext : strict → ∀ t, b.lastTime = some t → t < e.time) :
    (∀ r, (b.process e).1 ≠ .error (.graph r)) ∧ Passed strict b e (b.process e).2 := by
  rcases (h.dispatch hnext).process with ⟨known, b', hpassed, heq⟩ |
    ⟨err, b', ⟨hother, hpassed⟩, heq⟩
  · rw [heq]
    refine ⟨by simp, hpassed.count ?_ ?_⟩
    · cases known <;> rfl
    · cases known <;> rfl
  · rw [heq]
    refine ⟨fun r hr => hother r (Except.error.inj hr), hpassed.count ?_ ?_⟩
    · cases err <;> rfl
    · cases err with
      | graph r => exact absurd rfl (hother r)
      | _ => rfl

/-! ## § 3. Traces -/

theorem kept?_eq_none (hlinks : b.links = .empty) (hwaiting : ∀ d, b.matcher.waiting d = .empty)
    (d : MatchDirection) (k : Keeper) : b.kept? d k = none := by
  cases k with
  | link w => simp [kept?, hlinks]
  | waiting k => simp [kept?, hwaiting]

/-- A new builder has no vertex, and nobody keeps an end of a packet. -/
theorem between_new {start : Time} {c : Config} (hnew : Builder.new (.new start) c = .ok b) :
    Between strict b := by
  unfold Builder.new at hnew
  split at hnew
  · exact absurd hnew (by simp)
  · obtain rfl := Except.ok.inj hnew
    refine ⟨⟨sound_new start, rfl, fun _ => calm_new start, ?_, ?_⟩, ?_⟩
    · exact ⟨fun _ _ hw => by simp [SystemModel.current?, SystemModel.empty] at hw,
        fun _ _ hw => by simp [SystemModel.kernelWorker?, SystemModel.empty] at hw⟩
    · have hwaiting : ∀ d,
          (Matcher.new (α := VertexId) c.matching.ttl c.matching.maxPending).waiting d =
            .empty := by
        intro d
        cases d <;> rfl
      refine ⟨?_, ?_, ?_, ?_⟩
      · intro d k v hv
        rw [kept?_eq_none rfl hwaiting] at hv
        exact absurd hv (by simp)
      · intro d k k' v hv
        rw [kept?_eq_none rfl hwaiting] at hv
        exact absurd hv (by simp)
      · intro w l hl
        simp at hl
      · intro d k p hp
        simp [hwaiting] at hp
    · intro v s hs
      simp [time?_eq, vertex?, Graph.new] at hs

/-- The events are later than the last one, and each is later than those before it. -/
def Rising (b : Builder) (es : List Event) : Prop :=
  es.Pairwise (·.time < ·.time) ∧ ∀ e ∈ es, ∀ t, b.lastTime = some t → t < e.time

theorem Rising.tail {es : List Event} (h : b.Rising (e :: es)) (hp : Passed strict b e b') :
    b'.Rising es := by
  obtain ⟨hpairs, hlast⟩ := h
  obtain ⟨hfirst, hpairs⟩ := List.pairwise_cons.1 hpairs
  refine ⟨hpairs, fun e' he' t ht => ?_⟩
  rcases hp.last with heq | heq
  · exact hlast e' (List.mem_cons_of_mem e he') t (heq ▸ ht)
  · rw [heq] at ht
    exact Option.some.inj ht ▸ hfirst e' he'

/-- What a trace has done to a builder. -/
structure Ran (strict : Prop) (b : Builder) (es : List Event) (b' : Builder) : Prop
    extends Between strict b' where
  graphErrors : b'.counters.graphErrors = b.counters.graphErrors
  discarded : b'.counters.discardedLinks =
    b.counters.discardedLinks + (b.emitted es).countP (·.late)
  matched : b'.matcher.matched = b.matcher.matched + (b.emitted es).length

theorem matched_outcome (b : Builder) (e : Event) :
    (b.outcome e).2.matched = b.matcher.matched + (b.outcome e).1.toList.length := by
  unfold outcome
  cases b.packetEnd? e with
  | none => rfl
  | some p => exact b.matcher.matched_submit p.1 p.2 e.time b.graph.nextVertex

/-- A trace leaves a builder steady. -/
theorem Between.processAll {es : List Event} (h : Between strict b)
    (hes : strict → b.Rising es) : Ran strict b es (b.processAll es) := by
  induction es generalizing b with
  | nil => exact ⟨h, rfl, rfl, rfl⟩
  | cons e es ih =>
    have hnext : strict → ∀ t, b.lastTime = some t → t < e.time :=
      fun hstrict => (hes hstrict).2 e List.mem_cons_self
    obtain ⟨-, hpassed⟩ := h.process hnext
    have hran := ih hpassed.toBetween fun hstrict => (hes hstrict).tail hpassed
    refine ⟨hran.toBetween, hran.graphErrors.trans hpassed.graphErrors, ?_, ?_⟩
    · calc (b.processAll (e :: es)).counters.discardedLinks
        _ = (b.process e).2.counters.discardedLinks +
              ((b.process e).2.emitted es).countP (·.late) := hran.discarded
        _ = b.counters.discardedLinks + (b.emitted (e :: es)).countP (·.late) := by
          rw [hpassed.discarded, emitted, List.countP_append, Nat.add_assoc]
    · calc (b.processAll (e :: es)).matcher.matched
        _ = (b.process e).2.matcher.matched + ((b.process e).2.emitted es).length := hran.matched
        _ = b.matcher.matched + (b.emitted (e :: es)).length := by
          rw [hpassed.matcher, matched_outcome, emitted, List.length_append, Nat.add_assoc]

/-- What a builder keeps up holds after any trace. -/
theorem between_run {start : Time} {c : Config} {b₀ : Builder} {es : List Event}
    (hnew : Builder.new (.new start) c = .ok b₀) (hrun : b₀.processAll es = b) :
    Between False b := by
  subst hrun
  have hstart : Between False b₀ := between_new hnew
  exact (hstart.processAll False.elim).toBetween

/-! ## § 4. What the graph grants -/

/-- A link that is pending has not been drawn, and its edge is granted. -/
theorem Steady.linkVertical_ok (h : b.Steady strict) {w : WorkerId} {l : NetworkLink}
    (hl : b.pendingLink? w = some l) :
    ¬b.graph.Sends l.source ∧
      ∃ r, b.graph.linkVertical l.source l.destination .network none = .ok r := by
  have hkept : ∀ d, b.kept? d (.link w) = some (l.vertex d) := by
    intro d
    have hl : b.links.get? w = some l := hl
    simp [kept?, hl]
  have hdest := h.ends.ready .receive _ _ (hkept .receive)
  obtain ⟨hadm, hin, -⟩ := h.deliver hl hdest (h.ends.forward w l hl) fun k hk hv =>
    hk (h.ends.alone .receive k _ _ hv (hkept .receive))
  exact ⟨h.sound.not_sends (h.ends.ready .send _ _ (hkept .send)), _,
    linkVertical_eq_ok.2 ⟨h.opened, hin, hdest.joined, hadm, rfl, rfl⟩⟩

theorem new_zero {g : Graph} {c : Config} (hnew : Builder.new g c = .ok b) :
    b.counters = .zero ∧ b.matcher.matched = 0 ∧ b.lastTime = none := by
  unfold Builder.new at hnew
  split at hnew
  · exact absurd hnew (by simp)
  · obtain rfl := Except.ok.inj hnew
    exact ⟨rfl, rfl, rfl⟩

/-- The graph refuses nothing that a builder asks of it. After any trace no event has failed in the
graph, and the packets discarded are those that were received before they were sent. The edge of any
packet that is pending is granted; whatever the next event, it does not fail in the graph, and a
packet that is pending no more has become an edge, unless its receiver got another packet. -/
theorem graph_refuses_nothing {start : Time} {c : Config} {b₀ : Builder} {es : List Event}
    (hnew : Builder.new (.new start) c = .ok b₀) (hrun : b₀.processAll es = b) :
    b.counters.graphErrors = 0 ∧
    b.counters.discardedLinks = (b₀.emitted es).countP (·.late) ∧
    b.matcher.matched = (b₀.emitted es).length ∧
    (∀ w l, b.pendingLink? w = some l → ¬b.graph.Sends l.source ∧
      ∃ r, b.graph.linkVertical l.source l.destination .network none = .ok r) ∧
    ∀ e, (∀ r, (b.process e).1 ≠ .error (.graph r)) ∧
      (b.process e).2.matcher = (b.outcome e).2 ∧
      ∀ w l, b.pendingLink? w = some l → (b.process e).2.pendingLink? w = some l ∨
        (b.process e).2.graph.Sends l.source ∨
          ∃ p, (b.outcome e).1 = some p ∧ b.Overtakes w p (b.process e).2 := by
  subst hrun
  have hstart : Between False b₀ := between_new hnew
  obtain ⟨hcounters, hmatched, -⟩ := new_zero hnew
  have hran : Ran False b₀ es (b₀.processAll es) := hstart.processAll False.elim
  refine ⟨?_, ?_, ?_, fun w l hl => hran.toSteady.linkVertical_ok hl, ?_⟩
  · rw [hran.graphErrors, hcounters]
    rfl
  · rw [hran.discarded, hcounters]
    exact Nat.zero_add _
  · rw [hran.matched, hmatched, Nat.zero_add]
  · intro e
    obtain ⟨hgranted, hpassed⟩ := hran.toBetween.process (e := e) False.elim
    exact ⟨hgranted, hpassed.matcher, hpassed.delivered⟩

/-- A thread that receives a packet and sends it later, then sends one and receives it. -/
def packetTrace : List Event :=
  let packet (name : String) (t : Time) (seq : Int) : Event :=
    (((Event.new name t 0).withField "seq" (.int seq)).withField "ack_seq" (.int 9)).withField
      "flags" (.int 0)
  [((Event.new "sched_switch" 1 0).withField "prev_tid" (.int 1)).withField "next_tid" (.int 2),
    packet "inet_sock_local_in" 5 7, packet "inet_sock_local_out" 10 7,
    packet "inet_sock_local_out" 12 8, packet "inet_sock_local_in" 14 8]

/-- Of the packets of the thread one is discarded and one is pending; the edge of the latter is
granted. -/
theorem packetTrace_grants : ∃ b₀ l, Builder.new (.new 0) .standard = .ok b₀ ∧
    (b₀.processAll packetTrace).counters.graphErrors = 0 ∧
    (b₀.processAll packetTrace).counters.discardedLinks = 1 ∧
    (b₀.processAll packetTrace).pendingLink? ⟨1⟩ = some l ∧
    ∃ r, (b₀.processAll packetTrace).graph.linkVertical l.source l.destination .network none =
      .ok r := by
  have hrun : (Builder.new (.new 0) .standard).map (fun b =>
      ((b.emitted packetTrace).countP (·.late), (b.processAll packetTrace).pendingLink? ⟨1⟩)) =
      .ok (1, some ⟨⟨4⟩, ⟨5⟩⟩) := by cbv
  obtain ⟨b₀, hnew, heq⟩ := map_eq_ok.1 hrun
  obtain ⟨hone, hpending⟩ := Prod.mk.inj heq
  have hend : b₀.processAll packetTrace = b₀.processAll packetTrace := rfl
  obtain ⟨herrors, hdiscarded, -, hgranted, -⟩ := graph_refuses_nothing hnew hend
  exact ⟨b₀, _, hnew, herrors, hdiscarded.trans hone, hpending, (hgranted _ _ hpending).2⟩

end Builder

end CausalPath
