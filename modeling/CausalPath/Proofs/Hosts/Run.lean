import CausalPath.Proofs.Build.Run
import CausalPath.Proofs.Hosts.Handlers

/-!
# Hosts do not interfere

In a trace without packets what a builder shows of a host depends on the events of that host only.
Two builders are run next to each other, one on the whole trace and one on the events of the host.
An event of the host takes both from one pair that shows the same of it to the next; any other event
is taken by the first alone, and the host does not show it.
-/

namespace CausalPath

open CausalPath.Graph

variable {host : String} {b₀ B₀ b B b' B' : Builder} {e : Event} {es : List Event}

namespace Builder

open Build

/-! ## § 1. One event -/

/-- What the views of a builder are made of. -/
theorem Aside.of_same (h : Aside host b₀ b) (hgraph : b'.graph = b.graph)
    (hsystem : b'.system = b.system) (hlinks : b'.links = b.links) (hsetup : b'.setup = b.setup) :
    Aside host b₀ b' where
  housed := by
    refine ⟨hlinks.trans h.housed.idle, ?_, ?_, ?_, ?_⟩
    · rw [hgraph, hsystem]
      exact h.housed.running
    · rw [hgraph, hsystem]
      exact h.housed.kernels
    · rw [hgraph, hsystem]
      exact h.housed.statuses
    · rw [hgraph]
      exact h.housed.apart
  elsewhere other hne := by
    rw [← h.elsewhere other hne]
    simp only [on, hgraph, hsystem]
  setup := hsetup.trans h.setup

/-- To count an event is no news about hosts. -/
theorem Matched.count (h : Matched host b₀ B₀ b B) (c c' : BuildCounters) :
    Matched host b₀ B₀ { b with counters := c } { B with counters := c' } :=
  ⟨h.left.of_same rfl rfl rfl rfl, h.right.of_same rfl rfl rfl rfl, h.same⟩

/-- Two builders between events that show the same of a host. -/
structure Level (host : String) (b B : Builder) : Prop where
  left : Between False b
  right : Between False B
  housed : b.Housed
  housed' : B.Housed
  same : b.on host = B.on host
  setup : b.setup = B.setup

/-- The event brings no end of a packet. -/
def Local (b : Builder) (e : Event) : Prop :=
  b.index.get? e.name ≠ some .networkSend ∧ b.index.get? e.name ≠ some .networkReceive

/-- The events are no earlier than the last one, and each is no earlier than those before it. -/
def Ordered (b : Builder) (es : List Event) : Prop :=
  es.Pairwise (·.time ≤ ·.time) ∧ ∀ e ∈ es, ∀ t, b.lastTime = some t → t ≤ e.time

theorem Level.start (h : Level host b B) {t : Time} (horder : ∀ s, b.lastTime = some s → s ≤ t)
    (horder' : ∀ s, B.lastTime = some s → s ≤ t) :
    Paired host b B t [] [] { b with lastTime := some t } { B with lastTime := some t } where
  left := ⟨h.left.start horder False.elim,
    Aside.of_same ⟨h.housed, fun _ _ => rfl, rfl⟩ rfl rfl rfl rfl⟩
  right := ⟨h.right.start horder' False.elim,
    Aside.of_same ⟨h.housed', fun _ _ => rfl, rfl⟩ rfl rfl rfl rfl⟩
  same := h.same
  setup := h.setup

/-- An event that comes in order in both builders starts in both. -/
theorem Level.inOrder (h : Level host b B) {t : Time} (horder : ∀ s, b.lastTime = some s → s ≤ t)
    (horder' : ∀ s, B.lastTime = some s → s ≤ t) :
    Twins (inOrder t) (inOrder t) b B (fun _ _ b' B' => Paired host b B t [] [] b' B')
      (Matched host b B) := by
  have hnone : ∀ {c : Builder}, (∀ s, c.lastTime = some s → s ≤ t) →
      c.lastTime.filter (t < ·) = none := by
    intro c hc
    rw [Option.filter_eq_none_iff]
    intro s hs
    simpa using hc s hs
  unfold Build.inOrder
  rw [twins_get, hnone horder, hnone horder']
  exact .answered (h.start horder horder')

/-- An event of the host comes out alike. -/
theorem Level.dispatch (h : Level e.host b B) (hlocal : b.Local e)
    (horder : ∀ s, b.lastTime = some s → s ≤ e.time)
    (horder' : ∀ s, B.lastTime = some s → s ≤ e.time) :
    Twins (dispatch e) (dispatch e) b B
      (fun known known' b' B' => known = known' ∧ Matched e.host b B b' B')
      (Matched e.host b B) := by
  unfold Build.dispatch
  refine (h.inOrder horder horder').bind ?_
  intro _ _ b₁ B₁ hstart
  have hindex : b₁.index = b.index := congrArg (·.2.1) hstart.left.setup
  rw [twins_get, ← hstart.index, hindex]
  cases hkind : b.index.get? e.name with
  | none => exact twins_pure ⟨rfl, hstart.toMatched⟩
  | some kind =>
    obtain ⟨hsend, hreceive⟩ := hlocal
    rw [hkind] at hsend hreceive
    dsimp only
    refine (hstart.cpuOf rfl).bind ?_
    rintro _ _ _ _ ⟨⟨n, rfl, rfl⟩, rfl, rfl⟩
    rw [← hstart.layout]
    refine (hstart.handle _ (fun heq => hsend (heq ▸ rfl)) (fun heq => hreceive (heq ▸ rfl))
      n).bind ?_
    exact fun _ _ _ _ hm => twins_pure ⟨rfl, hm⟩

/-- An event of the host is answered alike and leaves the same of the host. -/
theorem Level.process (h : Level e.host b B) (hlocal : b.Local e)
    (horder : ∀ s, b.lastTime = some s → s ≤ e.time)
    (horder' : ∀ s, B.lastTime = some s → s ≤ e.time) :
    (b.process e).1 = (B.process e).1 ∧
      Matched e.host b B (b.process e).2 (B.process e).2 := by
  have hdispatch := h.dispatch hlocal horder horder'
  unfold Twins at hdispatch
  unfold Builder.process
  generalize (Build.dispatch e).run.run b = done, (Build.dispatch e).run.run B = done'
    at hdispatch ⊢
  cases hdispatch with
  | answered hm =>
    rename_i known _ _ _
    obtain ⟨rfl, hm⟩ := hm
    cases known with
    | true => exact ⟨rfl, hm.count _ _⟩
    | false => exact ⟨rfl, hm.count _ _⟩
  | rejected err hm => exact ⟨rfl, hm.count _ _⟩

/-- An event of another host does not show. -/
theorem Between.elsewhere (h : Between False b) (hhoused : b.Housed) (hlocal : b.Local e)
    (horder : ∀ s, b.lastTime = some s → s ≤ e.time) : Aside e.host b (b.process e).2 :=
  ((Level.mk h h hhoused hhoused rfl rfl : Level e.host b b).process hlocal horder horder).2.left

/-! ## § 2. Traces -/

/-- The answers to the events of a trace. -/
def answers (b : Builder) : List Event → List (Event × Except BuildError Unit)
  | [] => []
  | e :: es => (e, (b.process e).1) :: (b.process e).2.answers es

theorem Ordered.tail (h : b.Ordered (e :: es)) (hp : Passed False b e b') : b'.Ordered es := by
  obtain ⟨hpairs, hlast⟩ := h
  obtain ⟨hfirst, hpairs⟩ := List.pairwise_cons.1 hpairs
  refine ⟨hpairs, fun e' he' t ht => ?_⟩
  rcases hp.last with heq | heq
  · exact hlast e' (List.mem_cons_of_mem e he') t (heq ▸ ht)
  · rw [heq] at ht
    exact Option.some.inj ht ▸ hfirst e' he'

theorem Ordered.skip (h : b.Ordered (e :: es)) : b.Ordered es :=
  ⟨(List.pairwise_cons.1 h.1).2, fun e' he' => h.2 e' (List.mem_cons_of_mem e he')⟩

/-- A trace and its events of one host leave builders level that were level before. -/
theorem Level.processAll (h : Level host b B) (hlocal : ∀ e ∈ es, b.Local e)
    (horder : b.Ordered es) (horder' : B.Ordered es) :
    (b.answers es).filter (·.1.host = host) = B.answers (es.filter (·.host = host)) ∧
      Level host (b.processAll es) (B.processAll (es.filter (·.host = host))) := by
  induction es generalizing b B with
  | nil => exact ⟨rfl, h⟩
  | cons e es ih =>
    have hfirst := horder.2 e List.mem_cons_self
    have hfirst' := horder'.2 e List.mem_cons_self
    have hpassed := (h.left.process (e := e) False.elim).2
    have hpassed' := (h.right.process (e := e) False.elim).2
    have hrest : ∀ {c : Builder}, c.setup = b.setup → ∀ e' ∈ es, c.Local e' := by
      intro c hc e' he'
      have hindex : c.index = b.index := congrArg (·.2.1) hc
      have hlocal' := hlocal e' (List.mem_cons_of_mem e he')
      rwa [Local, ← hindex] at hlocal'
    by_cases hhost : e.host = host
    · subst hhost
      obtain ⟨hanswer, hm⟩ := h.process (hlocal e List.mem_cons_self) hfirst hfirst'
      have hlevel : Level e.host (b.process e).2 (B.process e).2 :=
        ⟨hpassed.toBetween, hpassed'.toBetween, hm.left.housed, hm.right.housed, hm.same,
          (hm.left.setup.trans h.setup).trans hm.right.setup.symm⟩
      obtain ⟨hanswers, hend⟩ := ih hlevel (hrest hm.left.setup) (horder.tail hpassed)
        (horder'.tail hpassed')
      rw [List.filter_cons_of_pos (by simp)]
      refine ⟨?_, hend⟩
      rw [answers, answers, List.filter_cons_of_pos (by simp), hanswers, hanswer]
    · have haside := h.left.elsewhere h.housed (hlocal e List.mem_cons_self) hfirst
      have hlevel : Level host (b.process e).2 B :=
        ⟨hpassed.toBetween, h.right, haside.housed, h.housed',
          (haside.elsewhere host (Ne.symm hhost)).trans h.same, haside.setup.trans h.setup⟩
      obtain ⟨hanswers, hend⟩ := ih hlevel (hrest haside.setup) (horder.tail hpassed) horder'.skip
      rw [List.filter_cons_of_neg (by simpa using hhost)]
      refine ⟨?_, hend⟩
      rw [answers, List.filter_cons_of_neg (by simpa using hhost), hanswers]

/-- On an empty graph nothing is known of any host. -/
theorem housed_new {start : Time} (hgraph : b.graph = .new start) (hsystem : b.system = .empty)
    (hlinks : b.links = .empty) : b.Housed := by
  refine ⟨hlinks, ?_, ?_, ?_, ?_⟩
  · intro c w hw
    simp [hsystem, SystemModel.current?, SystemModel.empty] at hw
  · intro c w hw
    simp [hsystem, SystemModel.kernelWorker?, SystemModel.empty] at hw
  · intro w p hp
    simp [hsystem, SystemModel.empty] at hp
  · intro e he
    simp [hgraph, Has, edge?, Graph.new] at he

/-- New builders of one configuration are level. -/
theorem level_new {start start' : Time} {c : Config}
    (hnew : Builder.new (.new start) c = .ok b) (hnew' : Builder.new (.new start') c = .ok B)
    (host : String) : Level host b B := by
  have hb : Between False b := between_new hnew
  have hB : Between False B := between_new hnew'
  unfold Builder.new at hnew hnew'
  split at hnew
  · exact absurd hnew (by simp)
  · rename_i index hindex
    rw [hindex] at hnew'
    obtain rfl := Except.ok.inj hnew
    obtain rfl := Except.ok.inj hnew'
    exact ⟨hb, hB, housed_new rfl rfl rfl, housed_new rfl rfl rfl, rfl, rfl⟩

/-- Hosts do not interfere. Of a trace whose times do not fall and that brings no packet, a new
builder shows of a host what it shows when it is fed the events of that host only, and answers them
alike; no edge joins workers of two hosts. -/
theorem hosts_do_not_interfere {start start' : Time} {c : Config} (host : String)
    (hnew : Builder.new (.new start) c = .ok b₀) (hnew' : Builder.new (.new start') c = .ok B₀)
    (hsorted : es.Pairwise (·.time ≤ ·.time)) (hlocal : ∀ e ∈ es, b₀.Local e) :
    (b₀.processAll es).on host = (B₀.processAll (es.filter (·.host = host))).on host ∧
    (b₀.answers es).filter (·.1.host = host) = B₀.answers (es.filter (·.host = host)) ∧
    ∀ e, (b₀.processAll es).graph.Has e → ∃ x y,
      (b₀.processAll es).graph.worker? e.origin.worker = some x ∧
      (b₀.processAll es).graph.worker? e.target.worker = some y ∧ x.host = y.host := by
  have hordered : ∀ {b : Builder} {start}, Builder.new (.new start) c = .ok b → b.Ordered es := by
    intro b start hb
    refine ⟨hsorted, fun e _ t ht => ?_⟩
    rw [(new_zero hb).2.2] at ht
    exact absurd ht (by simp)
  obtain ⟨hanswers, hend⟩ := (level_new hnew hnew' host).processAll hlocal (hordered hnew)
    (hordered hnew')
  exact ⟨hend.same, hanswers, hend.housed.apart⟩

/-- On two hosts a thread goes to sleep, and the next one wakes it. The threads have the same ids on
both hosts, and an event of one host is rejected. -/
def twoHostTrace : List Event :=
  let switch (t : Time) : Event := (((Event.new "sched_switch" t 0).withField "prev_tid"
    (.int 1)).withField "prev_state" (.int 1)).withField "next_tid" (.int 2)
  let wakeup (t : Time) : Event := (Event.new "sched_wakeup" t 0).withField "tid" (.int 1)
  [(switch 1).onHost "east", (switch 1).onHost "west",
    (Event.new "irq_softirq_exit" 2 0).onHost "east", (wakeup 3).onHost "west",
    (wakeup 3).onHost "east"]

/-- Each host shows its own wakeup. -/
theorem twoHostTrace_apart : ∃ b₀, Builder.new (.new 0) .standard = .ok b₀ ∧
    (b₀.processAll twoHostTrace).on "west" =
      (b₀.processAll (twoHostTrace.filter (·.host = "west"))).on "west" ∧
    ((b₀.processAll twoHostTrace).on "west").edges =
      [⟨⟨.thread 2, 1⟩, ⟨.thread 1, 1⟩, .default, none⟩] := by
  have hrun : (Builder.new (.new 0) .standard).map (fun b =>
      (twoHostTrace.all fun e => (b.index.get? e.name).all fun k =>
        k ≠ .networkSend ∧ k ≠ .networkReceive,
      ((b.processAll twoHostTrace).on "west").edges)) =
      .ok (true, [⟨⟨.thread 2, 1⟩, ⟨.thread 1, 1⟩, .default, none⟩]) := by cbv
  obtain ⟨b₀, hnew, heq⟩ := map_eq_ok.1 hrun
  obtain ⟨hall, hedges⟩ := Prod.mk.inj heq
  refine ⟨b₀, hnew, ?_, hedges⟩
  refine (hosts_do_not_interfere "west" hnew hnew (by decide) fun e he => ?_).1
  have hkind := List.all_eq_true.1 hall e he
  constructor
  · intro hsend
    simp [hsend] at hkind
  · intro hreceive
    simp [hreceive] at hkind

end Builder

end CausalPath
