import CausalPath.Proofs.Build.Watch
import CausalPath.Proofs.Store.Answers

/-!
# Why a blocked thread is woken

When a blocked thread is woken, its chain grows by one vertex. The handler on top of the stack of the
waking CPU decides the state of the edge to it, and which edge arrives at it from another worker, if
any: the one of a packet that waits for the worker that received it, or one from the waking thread.
-/

namespace CausalPath

open CausalPath.Graph

/-! ## § 1. The table of handlers -/

/-- The states of the soft interrupts that have one of their own, by vector. -/
def softIrqStates : List (Int × EdgeState) :=
  [(SoftIrq.timer, .timer), (SoftIrq.netTransmit, .network), (SoftIrq.netReceive, .network),
    (SoftIrq.block, .blockDevice), (SoftIrq.blockPoll, .blockDevice),
    (SoftIrq.sched, .interrupted), (SoftIrq.hrTimer, .timer)]

/-- The state of the edge to a woken thread and its label, by the handler on top of the stack. -/
def wakeupEdge (timerVectors : List Int) (receiver : Option String) (top : Context) :
    EdgeState × Option String :=
  match top.kind, top.vector with
  | .hrTimer, _ => (.timer, none)
  | .irq, none => (.unknown, none)
  | .irq, some line => if line = timerLine then (.interrupted, none) else (.blocked, top.name)
  | .completeIrq, none => (.unknown, none)
  | .completeIrq, some vector =>
    if vector ∈ timerVectors then (.interrupted, none) else (.blocked, top.name)
  | .softIrq, none => (.unknown, none)
  | .softIrq, some vector => ((softIrqStates.lookup vector).getD .blocked, none)
  | .ipi, _ => (.ipi, none)
  | .packetReception, _ => (.network, receiver)
  | .none, _ => (.blocked, none)

variable {vectors : List Int} {receiver : Option String} {top : Context}

theorem irqEdge_eq (hkind : top.kind = .irq ∨ top.kind = .completeIrq) :
    irqEdge vectors top = wakeupEdge vectors receiver top := by
  unfold irqEdge wakeupEdge
  rcases hkind with hkind | hkind <;> cases hvector : top.vector <;> simp [hkind]

theorem softIrqEdge_eq (hkind : top.kind = .softIrq) :
    (softIrqEdge top.vector, none) = wakeupEdge vectors receiver top := by
  unfold wakeupEdge
  rw [hkind]
  cases top.vector with
  | none => rfl
  | some vector =>
    by_cases hin : vector ∈ softIrqStates.map Prod.fst
    · fin_cases hin <;> rfl
    · have hnone : softIrqStates.lookup vector = none := by
        rw [List.lookup_eq_none_iff]
        intro p hp
        simpa using fun heq : vector = p.1 => hin (List.mem_map.2 ⟨p, hp, heq.symm⟩)
      simp only [softIrqStates, List.map_cons, List.map_nil, List.mem_cons, List.not_mem_nil,
        or_false, not_or] at hin
      simp [softIrqEdge, SoftIrq.isNetwork, hnone, hin]

/-- What else explains a wakeup. -/
inductive Cause
  /-- Another thread runs. -/
  | thread (waker : WorkerId)
  /-- A packet waits for the worker that received it. -/
  | packet (receiver : WorkerId) (link : NetworkLink)
  deriving DecidableEq

namespace Builder

/-- The worker that the packet reached which the handler on a CPU moves: the worker of the interrupts
of the CPU, or else the thread that runs. -/
def reached? (b : Builder) (c : Cpu) (kernel : Option WorkerId) : Option WorkerId :=
  match (b.system.context c).kind with
  | .softIrq => if (b.system.context c).vector.any SoftIrq.isNetwork then kernel else none
  | .packetReception => if b.InKernel c then kernel else b.system.current? c
  | _ => none

/-- The packet that waits for a worker explains the wakeup of any other worker. -/
def packetCause? (b : Builder) (target : WorkerId) (reached : Option WorkerId) : Option Cause :=
  (reached.filter (· ≠ target)).bind fun w => (b.pendingLink? w).map (.packet w)

/-- What else explains the wakeup of a thread on a CPU. -/
def cause? (b : Builder) (c : Cpu) (kernel : Option WorkerId) (target : WorkerId) :
    Option Cause :=
  match (b.system.contextStack c).frames with
  | [] => ((b.system.current? c).filter (· ≠ target)).map .thread
  | _ :: _ => b.packetCause? target (b.reached? c kernel)

/-- The edge to a thread that is woken on a CPU: its state and its label. -/
def wakeupEdge (b : Builder) (c : Cpu) : EdgeState × Option String :=
  CausalPath.wakeupEdge b.layout.timerVectors
    (if b.InKernel c then none
      else ((b.system.current? c).bind b.graph.worker?).map (·.name))
    (b.system.context c)

end Builder

/-! ## § 2. New vertices and their edges -/

namespace Graph

variable {g g' : Graph} {u v : VertexId} {d : Direction} {s : EdgeState} {q : Option String}

/-- An edge of this state and label leads from the one vertex to the other, in this slot of it. -/
def Enters (g : Graph) (u : VertexId) (s : EdgeState) (q : Option String) (v : VertexId)
    (d : Direction) : Prop :=
  ∃ y, g.edgeAt? v d = some y ∧ y.origin.id = u ∧ y.state = s ∧ y.qualifier = q

theorem Enters.mono (h : g.Enters u s q v d) (hk : g.Keeps g') (hs : g.Sound) (hs' : g'.Sound) :
    g'.Enters u s q v d := by
  obtain ⟨y, hy, hrest⟩ := h
  exact ⟨y, hk.edgeAt? hs hs' hy, hrest⟩

theorem enters_pushEdge {x : EdgeRecord} (ho : (g.vertex? x.origin).isSome)
    (ht : (g.vertex? x.target).isSome) :
    (g.pushEdge x).Enters x.origin x.state x.qualifier x.target (.atTarget x.horizontal) := by
  obtain ⟨a, ha⟩ := Option.isSome_iff_exists.1 ho
  obtain ⟨c, hc⟩ := Option.isSome_iff_exists.1 ht
  refine ⟨⟨g.nextEdge, a, c, x.state, x.qualifier, x.horizontal⟩, ?_, vertex?_id ha, rfl, rfl⟩
  have hmeets : x.Meets x.target (.atTarget x.horizontal) := Or.inr ⟨rfl, rfl⟩
  rw [edgeAt?_eq, slot?_pushEdge ho ht, if_pos hmeets, Option.bind_some, edge?_pushEdge_new ha hc]

/-- The vertex at the end of a grown chain is entered from the old tail. -/
theorem Sound.enters_grown (h : g.Sound) {w : WorkerId} {t : Time}
    (h' : (g.grown w t s q).Sound) {tail : VertexId} (htail : (g.chainOf w).getLast? = some tail) :
    (g.grown w t s q).Enters tail s q g.nextVertex .incomingHorizontal := by
  obtain ⟨x, hx⟩ := vertex?_isSome_of_contains (h.contains_tail htail)
  obtain rfl := vertex?_id hx
  have hlast : g.last? w = some x := last?_eq_some_iff.2 ⟨htail, hx⟩
  have hin : (⟨g.nextEdge, x, g.grownVertex w t, s, q, true⟩ : Edge) ∈
      (g.grown w t s q).edgeList := by
    rw [edgeList_grown h, grownEdges, hlast]
    simp
  refine ⟨_, h'.wired.edgeAt?_eq_some_iff.2 ⟨mem_edgeList.1 hin, Or.inr ⟨rfl, rfl⟩⟩, rfl, rfl, rfl⟩

/-- The chain of a worker has gained this vertex. -/
structure Gains (g g' : Graph) (w : WorkerId) (t : Time) (v : VertexId) : Prop where
  new : g.vertex? v = none
  shown : g'.vertex? v = some ⟨v, w, t⟩
  chain : g'.chainOf w = g.chainOf w ++ [v]

/-- The chain of a worker has gained this vertex, with an edge of this state and label. -/
structure GainsBy (g g' : Graph) (w : WorkerId) (t : Time) (edge : EdgeState × Option String)
    (v : VertexId) : Prop extends Gains g g' w t v where
  arrival : ∀ tail, (g.chainOf w).getLast? = some tail →
    g'.Enters tail edge.1 edge.2 v .incomingHorizontal

variable {g₁ : Graph} {w : WorkerId} {t : Time} {edge : EdgeState × Option String}

theorem Gains.since (h : g₁.Gains g' w t v)
    (hk : ∀ x, g.vertex? v = some x → g₁.vertex? v = some x)
    (hchain : g₁.chainOf w = g.chainOf w) : g.Gains g' w t v where
  new := Option.eq_none_iff_forall_ne_some.2 fun x hx => by
    have hkept := hk x hx
    rw [h.new] at hkept
    exact absurd hkept (by simp)
  shown := h.shown
  chain := h.chain.trans (by rw [hchain])

theorem Gains.follow (h : g.Gains g₁ w t v) (hk : g₁.Keeps g')
    (hchain : g'.chainOf w = g₁.chainOf w) : g.Gains g' w t v where
  new := h.new
  shown := hk.vertex? _ _ h.shown
  chain := hchain.trans h.chain

theorem GainsBy.follow (h : g.GainsBy g₁ w t edge v) (hk : g₁.Keeps g') (hs : g₁.Sound)
    (hs' : g'.Sound) (hchain : g'.chainOf w = g₁.chainOf w) : g.GainsBy g' w t edge v where
  toGains := h.toGains.follow hk hchain
  arrival tail htail := (h.arrival tail htail).mono hk hs hs'

end Graph

namespace Builder

variable {strict : Prop} {b₀ b b₁ b' : Builder} {t : Time} {F : List Vertex} {w T : WorkerId}
  {v : VertexId} {s : EdgeState} {q : Option String} {e : Event} {c : Cpu}

/-- The vertex of a woken thread has the vertical edge of its cause, and none if there is no
cause. -/
def Caused (b b' : Builder) (t : Time) (v : VertexId) : Option Cause → Prop
  | none => b'.graph.edgeAt? v .incomingVertical = none
  | some (.thread w) => ∃ u, b.graph.Gains b'.graph w t u ∧
      b'.graph.Enters u .default none v .incomingVertical
  | some (.packet w l) => b'.graph.Enters l.source .network none v .incomingVertical ∧
      b'.pendingLink? w = none

/-- A thread was woken, for this cause. -/
def Attributes (b b' : Builder) (T : WorkerId) (t : Time) (edge : EdgeState × Option String)
    (cause : Option Cause) : Prop :=
  ∃ v, b.graph.GainsBy b'.graph T t edge v ∧ b.Caused b' t v cause

theorem packetCause?_self (b : Builder) (w : WorkerId) : b.packetCause? w (some w) = none := by
  rw [packetCause?, Option.filter_some]
  simp

theorem packetCause?_of_ne (hne : w ≠ T) :
    b.packetCause? T (some w) = (b.pendingLink? w).map (.packet w) := by
  rw [packetCause?, Option.filter_some, if_pos (by simpa using hne), Option.bind_some]

section Untouched

variable {edge : EdgeState × Option String} {cause : Option Cause}

theorem Untouched.gains (h : b.Untouched b₁) {g : Graph} (hg : b₁.graph.Gains g w t v) :
    b.graph.Gains g w t v :=
  hg.since (fun _ hx => (h.vertices v).trans hx) (h.chains w)

/-- What does not touch the chains may come before a wakeup. -/
theorem Untouched.attributes (h : b.Untouched b₁) (ha : b₁.Attributes b' T t edge cause) :
    b.Attributes b' T t edge cause := by
  obtain ⟨v, hwoken, hcaused⟩ := ha
  refine ⟨v, ⟨h.gains hwoken.toGains, fun tail htail => hwoken.arrival tail ?_⟩, ?_⟩
  · rwa [h.chains]
  · match cause, hcaused with
    | none, hnone => exact hnone
    | some (.thread w), ⟨u, hgains, henters⟩ => exact ⟨u, h.gains hgains, henters⟩
    | some (.packet w l), hpacket => exact hpacket

end Untouched

/-! ## § 3. Growth of a woken thread -/

open Build

variable {R : BuildError → Builder → Prop}

theorem During.keeps_grownBy (h : During strict b₀ t F b) (hw : (b.graph.worker? w).isSome)
    (s : EdgeState) (q : Option String) : b.graph.Keeps (b.grownBy w t s q).graph := by
  have hd := h.handOver w
  have hw' : ((b.handOver w (·.destination)).graph.worker? w).isSome := by
    rwa [worker?_handOver]
  exact (b.keeps_handOver w _).trans
    ((hd.sound.grown_grows hd.opened hw' hd.tail.1 s q).keeps hd.sound)

theorem gains_grownBy (hw : (b.graph.worker? w).isSome) (t : Time) (s : EdgeState)
    (q : Option String) : b.graph.Gains (b.grownBy w t s q).graph w t b.graph.nextVertex where
  new := vertex?_nextVertex _
  shown := by
    have hnew := vertex?_grown_new (b.handOver w (·.destination)).graph w t s q
    rwa [grownVertex, nextVertex_handOver] at hnew
  chain := by rw [chainOf_grownBy hw, if_pos rfl]

/-- The new vertex of a chain has the edge that the chain grew by. -/
theorem During.gainsBy_grownBy (h : During strict b₀ t F b) (hw : (b.graph.worker? w).isSome)
    (hs : s ≠ .epsilon) (q : Option String) :
    b.graph.GainsBy (b.grownBy w t s q).graph w t (s, q) b.graph.nextVertex where
  toGains := gains_grownBy hw t s q
  arrival tail htail := by
    have htail : ((b.handOver w (·.destination)).graph.chainOf w).getLast? = some tail := by
      rwa [chainOf_handOver]
    have henters := (h.handOver w).sound.enters_grown (h.grew hw hs q).handled.sound htail
    rwa [nextVertex_handOver] at henters

/-- The new vertex of a woken thread has the edge of the wakeup, and nothing else explains it. -/
theorem During.wakes (h : During strict b₀ t [] b) (hT : (b.graph.worker? T).isSome)
    (hs : s ≠ .epsilon) (q : Option String) :
    b.graph.GainsBy (b.grownBy T t s q).graph T t (s, q) b.graph.nextVertex ∧
      b.Caused (b.grownBy T t s q) t b.graph.nextVertex none := by
  have hgrew := h.grew hT hs q
  refine ⟨h.gainsBy_grownBy hT hs q, ?_⟩
  have hfree := ((hgrew.during (by simp)).fresh _ List.mem_cons_self).free .receive
  have hfree : (b.grownBy T t s q).graph.slot? b.graph.nextVertex .incomingVertical = none := hfree
  show (b.grownBy T t s q).graph.edgeAt? _ _ = none
  rw [edgeAt?_eq, hfree, Option.bind_none]

/-- The packet that waits for a worker explains the wakeup of another one. -/
theorem During.wokenFor_attributes (h : During strict b₀ t [] b) (hT : (b.graph.worker? T).isSome)
    (hs : s ≠ .epsilon) (q : Option String) (reached : Option WorkerId) :
    b.Attributes (b.wokenFor T t s q reached) T t (s, q) (b.packetCause? T reached) := by
  obtain ⟨hgains, hnone⟩ := h.wakes hT hs q
  cases reached with
  | none => exact ⟨_, hgains, hnone⟩
  | some w =>
    have hgrew := h.grew hT hs q
    have hlinks : (b.grownBy T t s q).links.get? w = if T = w then none else b.pendingLink? w :=
      links_handOver b T _ w
    show b.Attributes ((b.grownBy T t s q).handOver w _) T t _ _
    by_cases hsame : w = T
    · subst hsame
      rw [if_pos rfl] at hlinks
      rw [handOver_of_none hlinks, packetCause?_self]
      exact ⟨_, hgains, hnone⟩
    · rw [if_neg (Ne.symm hsame)] at hlinks
      rw [packetCause?_of_ne hsame]
      cases hl : b.pendingLink? w with
      | none =>
        rw [handOver_of_none (hlinks.trans hl)]
        exact ⟨_, hgains, hnone⟩
      | some l =>
        have hl := hlinks.trans hl
        have hduring := hgrew.during (by simp)
        obtain ⟨-, hin, hhandled⟩ := hduring.redirect hl List.mem_cons_self
        rw [handOver_of_some hl]
        refine ⟨_, hgains.follow (keeps_pushEdge _ _) hgrew.handled.sound hhandled.sound
          (chainOf_pushEdge _ _ _), ?_, ?_⟩
        · have hjoined := (hduring.fresh _ List.mem_cons_self).joined
          exact enters_pushEdge (x := l.edge b.graph.nextVertex) (Sound.isSome_of_contains hin)
            (Sound.isSome_of_contains hjoined)
        · show ((b.grownBy T t s q).links.erase w).get? w = none
          rw [Table.get?_erase, if_pos rfl]

/-- The chain of the waking thread grows as well, and explains the wakeup. -/
theorem During.wokenBy_attributes (h : During strict b₀ t [] b) (hT : (b.graph.worker? T).isSome)
    (hw : (b.graph.worker? w).isSome) (hne : w ≠ T) {s' : EdgeState} (hs : s ≠ .epsilon)
    (hs' : s' ≠ .epsilon) :
    b.Attributes (b.wokenBy T w t s s') T t (s, none) (some (.thread w)) := by
  obtain ⟨hwoken, -⟩ := h.wakes hT hs none
  have hgrew := h.grew hT hs none
  have h₁ := hgrew.during (by simp)
  have hw₁ := hgrew.enrols w hw
  have h₂ := h.grew_both hT hw hne hs hs'
  have hsound := (h.wokenBy hT hw hne hs hs').sound
  have hedge := keeps_pushEdge ((b.grownBy T t s none).grownBy w t s' none).graph
    ⟨(b.grownBy T t s none).graph.nextVertex, b.graph.nextVertex, .default, none, false⟩
  -- neither chain notices the growth of the other
  have htarget : (b.wokenBy T w t s s').graph.chainOf T = (b.grownBy T t s none).graph.chainOf T := by
    rw [Builder.wokenBy, chainOf_pushEdge, chainOf_grownBy hw₁, if_neg hne.symm]
  have hwaker : (b.grownBy T t s none).graph.chainOf w = b.graph.chainOf w := by
    rw [chainOf_grownBy hT, if_neg hne]
  have hgains := (gains_grownBy hw₁ t s' none).since ((h.keeps_grownBy hT s none).vertex? _) hwaker
  refine ⟨_, hwoken.follow ((h₁.keeps_grownBy hw₁ s' none).trans hedge) h₁.sound hsound htarget,
    _, hgains.follow hedge (chainOf_pushEdge _ _ _), ?_⟩
  have hu := h₂.fresh _ List.mem_cons_self
  have hv := h₂.fresh _ (List.mem_cons_of_mem _ List.mem_cons_self)
  exact enters_pushEdge (x := ⟨_, _, .default, none, false⟩) (Sound.isSome_of_contains hu.joined)
    (Sound.isSome_of_contains hv.joined)

/-! ## § 4. Wakeups by handler -/

/-- Nothing but the handler explains the wakeup. -/
theorem During.grow_attributes (h : During strict b₀ t [] b) (hT : (b.graph.worker? T).isSome)
    (hs : s ≠ .epsilon) (q : Option String) :
    Ensures (do let _ ← Build.grow T t s q) b (fun _ b' => b.Attributes b' T t (s, q) none) R := by
  rw [ensures_bind, h.ensures_grow hT]
  exact ⟨_, h.wakes hT hs q⟩

theorem During.softIrqWakeup_attributes (h : During strict b₀ t [] b)
    (hT : (b.graph.worker? T).isSome) (x : Context) (c : Cpu) :
    Ensures (Build.softIrqWakeup T x c t) b (fun _ b' => b.Attributes b' T t
      (softIrqEdge x.vector, none) (b.packetCause? T
        (if x.vector.any SoftIrq.isNetwork then b'.system.kernelWorker? c else none))) R := by
  rw [h.ensures_softIrqWakeup hT, system_wokenFor]
  exact h.wokenFor_attributes hT (softIrqEdge_ne_epsilon _) none _

theorem During.receptionWakeup_attributes (h : During strict b₀ t [] b)
    (hT : (b.graph.worker? T).isSome) (current : Option WorkerId) (c : Cpu) :
    Ensures (Build.receptionWakeup T current c t) b (fun _ b' => b.Attributes b' T t
      (.network, if b.InKernel c then none else (current.bind b.graph.worker?).map (·.name))
      (b.packetCause? T
        (if b.InKernel c then b'.system.kernelWorker? c else current))) R := by
  refine (h.receptionWakeup_wokenFor hT c).mono ?_ fun _ _ hr => hr
  rintro _ _ ⟨b₁, h₁, hT₁, hsame, rfl⟩
  have hcause : ∀ reached, b.packetCause? T reached = b₁.packetCause? T reached := by
    intro reached
    simp only [packetCause?, pendingLink?, hsame.links]
  rw [system_wokenFor, hcause]
  exact hsame.attributes (h₁.wokenFor_attributes hT₁ (by decide) _ _)

/-- The waking thread explains the wakeup, unless the thread wakes itself. -/
theorem During.threadWakeup_attributes (h : During strict b₀ t [] b)
    (hT : (b.graph.worker? T).isSome) (hblocked : b.system.oldStatus T = .waitBlocked)
    {current : Option WorkerId} (hcurrent : ∀ w, current = some w → (b.graph.worker? w).isSome) :
    Ensures (Build.threadWakeup T current t) b (fun _ b' => b.Attributes b' T t (.blocked, none)
      ((current.filter (· ≠ T)).map .thread)) R := by
  rw [h.ensures_threadWakeup hT hcurrent, hblocked]
  cases hwaker : current.filter (· ≠ T) with
  | none => exact ⟨_, h.wakes hT (by decide) none⟩
  | some waker =>
    obtain ⟨hcur, hne⟩ := Option.filter_eq_some_iff.1 hwaker
    exact h.wokenBy_attributes hT (hcurrent waker hcur) (by simpa using hne) (by decide)
      (edgeState_ne_epsilon _)

/-! ## § 5. The table -/

/-- Without a handler another thread explains a wakeup, and otherwise a packet does. -/
theorem Watchful.cause?_eq (h : b.Watchful) (c : Cpu) (kernel : Option WorkerId) (T : WorkerId) :
    b.cause? c kernel T =
      if (b.system.context c).kind = .none then
        ((b.system.current? c).filter (· ≠ T)).map .thread
      else b.packetCause? T (b.reached? c kernel) := by
  unfold cause? SystemModel.context ContextStack.peek
  have hhandlers := h.handlers c
  cases hframes : (b.system.contextStack c).frames with
  | nil => rfl
  | cons top rest =>
    rw [hframes] at hhandlers
    exact (if_neg (hhandlers top List.mem_cons_self)).symm

/-- The wakeup of a blocked thread follows the table. -/
theorem During.blockedWakeup_attributes (h : During strict b₀ t [] b) (hwatch : b.Watchful)
    (hT : (b.graph.worker? T).isSome) (hblocked : b.system.oldStatus T = .waitBlocked) (c : Cpu) :
    Ensures (Build.blockedWakeup T (b.system.current? c) c t) b
      (fun _ b' => b.Attributes b' T t (b.wakeupEdge c)
        (b.cause? c (b'.system.kernelWorker? c) T)) R := by
  simp only [hwatch.cause?_eq]
  unfold Build.blockedWakeup wakeupEdge reached?
  rw [ensures_bind, ensures_system]
  generalize hreceiver : (if b.InKernel c then none
    else ((b.system.current? c).bind b.graph.worker?).map (·.name)) = receiver
  cases hkind : (b.system.context c).kind with
  | hrTimer =>
    simp only [CausalPath.wakeupEdge, hkind, reduceCtorEq, if_false]
    exact h.grow_attributes hT (by decide) none
  | irq | completeIrq =>
    rw [← irqEdge_eq (by simp [hkind])]
    simp only [hkind, reduceCtorEq, if_false]
    rw [ensures_bind, ensures_get]
    exact h.grow_attributes hT (irqEdge_ne_epsilon _ _) _
  | softIrq =>
    rw [← softIrqEdge_eq hkind]
    simp only [hkind, reduceCtorEq, if_false]
    exact h.softIrqWakeup_attributes hT _ c
  | ipi =>
    simp only [CausalPath.wakeupEdge, hkind, reduceCtorEq, if_false]
    exact h.grow_attributes hT (by decide) none
  | packetReception =>
    simp only [CausalPath.wakeupEdge, hkind, reduceCtorEq, if_false, ← hreceiver]
    exact h.receptionWakeup_attributes hT _ c
  | none =>
    simp only [CausalPath.wakeupEdge, hkind, if_true]
    exact h.threadWakeup_attributes hT hblocked fun w hw => h.known.running c w hw

/-- The thread that an event wakes, if it was seen before. -/
def target? (b : Builder) (e : Event) (c : Cpu) : Option WorkerId :=
  (e.int? (b.layout.fields .tid)).bind fun tid =>
    b.graph.findWorker? (c.worker tid (e.text? (b.layout.fields .comm))).key

/-- A thread that was seen before is looked up. -/
theorem ensures_threadOf_target (htarget : b.target? e c = some T) :
    Ensures (threadOf e c (b.layout.fields .tid) (b.layout.fields .comm)) b
      (fun w b' => w = T ∧ b' = b) fun _ _ => True := by
  obtain ⟨tid, htid, hfind⟩ := Option.bind_eq_some_iff.1 htarget
  rw [Cpu.key_worker] at hfind
  cases hfilter : e.tid? (b.layout.fields .tid) with
  | none => exact (ensures_threadOf_of_none hfilter _).2 trivial
  | some i =>
    obtain rfl := Option.some.inj ((Option.filter_eq_some_iff.1 hfilter).1.symm.trans htid)
    exact (ensures_threadOf_of_find hfilter hfind _).2 ⟨rfl, rfl⟩

theorem During.wakeup_attributes (h : During strict b₀ e.time [] b) (hwatch : b.Watchful)
    (htarget : b.target? e c = some T) (hblocked : b.system.status T = .waitBlocked) :
    Ensures (Build.wakeup b.layout.fields e c) b (fun _ b' => b.Attributes b' T e.time
      (b.wakeupEdge c) (b.cause? c (b'.system.kernelWorker? c) T)) fun _ _ => True := by
  have hT : (b.graph.worker? T).isSome := by
    obtain ⟨tid, -, hfind⟩ := Option.bind_eq_some_iff.1 htarget
    obtain ⟨x, hx, -⟩ := (h.sound.found_iff _ _).1 hfind
    simp [hx]
  unfold Build.wakeup
  refine (ensures_threadOf_target htarget).bind ?_
  rintro w b₁ ⟨hw, hb⟩
  rw [hw, hb, ensures_bind, ensures_track, ensures_bind, ensures_system]
  have hold : (b.system.markWoken T).oldStatus T = .waitBlocked := by
    rw [SystemModel.oldStatus, SystemModel.markWoken, SystemModel.statusPair_changeStatus,
      if_pos rfl]
    exact hblocked
  have hwoken : Watchful { b with system := b.system.markWoken T } :=
    hwatch.follow (.markWoken b.system T) fun _ => List.prefix_rfl
  dsimp only
  rw [hold]
  exact (h.trackStatus (m := b.system.markWoken T) rfl rfl).blockedWakeup_attributes hwoken hT hold c

theorem Between.dispatch_attributes (h : Between False b) (hwatch : b.Watchful)
    (hkind : b.index.get? e.name = some .wakeup) (hhost : e.host = c.host)
    (hcpu : e.cpu = some c.number) (htarget : b.target? e c = some T)
    (hblocked : b.system.status T = .waitBlocked) :
    Ensures (Build.dispatch e) b (fun _ b' => b.Attributes b' T e.time (b.wakeupEdge c)
      (b.cause? c (b'.system.kernelWorker? c) T)) fun _ _ => True := by
  apply ensures_dispatch
  · exact fun _ _ _ => trivial
  · intro _ hnone
    rw [hkind] at hnone
    exact absurd hnone (by simp)
  · exact fun _ _ _ _ => trivial
  · intro horder kind n hsome hn
    obtain rfl := Option.some.inj (hkind.symm.trans hsome)
    obtain ⟨hn, -⟩ := Option.filter_eq_some_iff.1 hn
    obtain rfl := Option.some.inj (hcpu.symm.trans hn)
    rw [hhost]
    exact (h.start horder False.elim).wakeup_attributes ⟨hwatch.chained, hwatch.handlers⟩ htarget
      hblocked

/-- When a wakeup of a blocked thread on a CPU is accepted, whatever events came before, the chain
of the thread grows by one vertex, at the time of the event. The table of handlers tells the edge
that leads to it from the tail of the chain. The vertex has an edge from another worker exactly when
something else explains the wakeup: the thread that runs, whose chain grows by the start of the
edge, or the sender of the packet that waits for the worker that received it, which waits no more. -/
theorem wakeup_attributed {start : Time} {cfg : Config} {es : List Event}
    (hnew : Builder.new (.new start) cfg = .ok b₀) (hrun : b₀.processAll es = b)
    (hkind : b.index.get? e.name = some .wakeup) (hhost : e.host = c.host)
    (hcpu : e.cpu = some c.number) (htarget : b.target? e c = some T)
    (hblocked : b.system.status T = .waitBlocked) (haccepted : b.process e = (.ok (), b')) :
    ∃ n tail, (b.graph.chainOf T).getLast? = some tail ∧
      b.graph.Gains b'.graph T e.time n ∧
      b'.graph.Enters tail (b.wakeupEdge c).1 (b.wakeupEdge c).2 n .incomingHorizontal ∧
      b.Caused b' e.time n (b.cause? c (b'.system.kernelWorker? c) T) := by
  subst hrun
  have hstart : Between False b₀ := between_new hnew
  obtain ⟨hbetween, -⟩ : Ran False b₀ es (b₀.processAll es) := hstart.processAll False.elim
  have hwatch : (b₀.processAll es).Watchful := hstart.processAll_watchful (watchful_new hnew)
  generalize b₀.processAll es = b at *
  rcases (hbetween.dispatch_attributes hwatch hkind hhost hcpu htarget hblocked).process with
    ⟨known, b₁, ⟨n, hgains, hcaused⟩, heq⟩ | ⟨err, b₁, -, heq⟩
  · obtain rfl := congrArg Prod.snd (haccepted.symm.trans heq)
    have htail := hwatch.chained T hblocked
    exact ⟨n, _, List.getLast?_eq_some_getLast htail, hgains.toGains,
      hgains.arrival _ (List.getLast?_eq_some_getLast htail), hcaused⟩
  · rw [haccepted] at heq
    exact absurd (congrArg Prod.fst heq) (by simp)

/-- A thread sends a packet to a blocked one. A soft interrupt of another CPU receives it. -/
def deliveredTrace : List Event :=
  let packet (name : String) (t : Time) (cpu : Nat) : Event :=
    (((Event.new name t cpu).withField "seq" (.int 7)).withField "ack_seq" (.int 9)).withField
      "flags" (.int 0)
  [(((Event.new "sched_switch" 1 1).withField "prev_tid" (.int 1)).withField "prev_state" (.int 1)
      ).withField "next_tid" (.int 2),
    packet "inet_sock_local_out" 2 1,
    (Event.new "irq_softirq_entry" 3 0).withField "vec" (.int 3),
    packet "inet_sock_local_in" 4 0]

/-- The soft interrupt wakes the receiver. -/
def deliveredWakeup : Event := (Event.new "sched_wakeup" 5 0).withField "tid" (.int 1)

/-- The edge of the packet leads to the woken thread. -/
theorem deliveredTrace_attributed : ∃ b₀ b b', Builder.new (.new 1) .standard = .ok b₀ ∧
    b₀.processAll deliveredTrace = b ∧ b.process deliveredWakeup = (.ok (), b') ∧
    ∃ n, b.graph.Gains b'.graph ⟨0⟩ 5 n ∧
      b'.graph.Enters ⟨0⟩ .network none n .incomingHorizontal ∧
      b'.graph.Enters ⟨2⟩ .network none n .incomingVertical ∧ b'.pendingLink? ⟨2⟩ = none := by
  have hbefore : (Builder.new (.new 1) .standard).map (fun b₀ =>
      let b := b₀.processAll deliveredTrace
      (b.index.get? "sched_wakeup", b.target? deliveredWakeup ⟨"", 0⟩, b.system.status ⟨0⟩,
        b.graph.chainOf ⟨0⟩, b.wakeupEdge ⟨"", 0⟩)) =
      .ok (some .wakeup, some ⟨0⟩, .waitBlocked, [⟨0⟩], (.network, none)) := by cbv
  have hafter : (Builder.new (.new 1) .standard).map (fun b₀ =>
      let b := b₀.processAll deliveredTrace
      let done := b.process deliveredWakeup
      (done.1, b.cause? ⟨"", 0⟩ (done.2.system.kernelWorker? ⟨"", 0⟩) ⟨0⟩)) =
      .ok (.ok (), some (.packet ⟨2⟩ ⟨⟨2⟩, ⟨4⟩⟩)) := by cbv
  obtain ⟨b₀, hnew, heq⟩ := map_eq_ok.1 hbefore
  obtain ⟨b₁, hnew₁, heq₁⟩ := map_eq_ok.1 hafter
  obtain rfl := Except.ok.inj (hnew.symm.trans hnew₁)
  generalize hrun : b₀.processAll deliveredTrace = b at heq heq₁
  simp only [Prod.mk.injEq] at heq heq₁
  obtain ⟨hkind, htarget, hblocked, hchain, hedge⟩ := heq
  obtain ⟨haccepted, hcause⟩ := heq₁
  obtain ⟨n, tail, htail, hgains, harrival, hcaused⟩ := wakeup_attributed (c := ⟨"", 0⟩) hnew hrun
    hkind rfl rfl htarget hblocked (Prod.ext haccepted rfl)
  rw [hchain] at htail
  obtain rfl := Option.some.inj htail
  rw [hedge] at harrival
  rw [hcause] at hcaused
  exact ⟨b₀, b, _, hnew, hrun, Prod.ext haccepted rfl, n, hgains, harrival, hcaused⟩

end Builder

end CausalPath
