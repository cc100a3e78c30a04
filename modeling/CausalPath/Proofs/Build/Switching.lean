import CausalPath.Proofs.Build.Attribution
import CausalPath.Proofs.Hosts.View

/-!
# Switches between threads

When a CPU goes from one thread to the next, the chains of both go on with a vertex. The edge to it
from the tail shows the status that the thread had before. A thread that is switched to itself is
the exception: its status is set twice before its chain grows, and the edge shows the status in
between.
-/

namespace CausalPath

open CausalPath.Graph

/-! ## § 1. Chains that go on -/

namespace Graph

variable {g g₁ g' : Graph} {w : WorkerId} {t : Time} {v : VertexId} {s : EdgeState}

/-- The chain of a worker has gone on with a new vertex, which an edge of this state reaches from
the tail. -/
def Resumes (g g' : Graph) (w : WorkerId) (t : Time) (s : EdgeState) : Prop :=
  ∃ v rest, g.vertex? v = none ∧ g'.vertex? v = some ⟨v, w, t⟩ ∧
    g'.chainOf w = g.chainOf w ++ v :: rest ∧
    ∀ tail, (g.chainOf w).getLast? = some tail → g'.Enters tail s none v .incomingHorizontal

/-- A chain that has gained a vertex may gain more. -/
theorem GainsBy.resumes (h : g.GainsBy g₁ w t (s, none) v) (hk : g₁.Keeps g') (hs : g₁.Sound)
    (hs' : g'.Sound) : g.Resumes g' w t s := by
  obtain ⟨rest, hrest⟩ := hk.chainOf w
  refine ⟨v, rest, h.new, hk.vertex? v _ h.shown, ?_, fun tail htail =>
    (h.arrival tail htail).mono hk hs hs'⟩
  rw [← hrest, h.chain, List.append_assoc, List.singleton_append]

theorem Resumes.since (h : g₁.Resumes g' w t s)
    (hk : ∀ v x, g.vertex? v = some x → g₁.vertex? v = some x)
    (hchain : g₁.chainOf w = g.chainOf w) : g.Resumes g' w t s := by
  obtain ⟨v, rest, hnew, hshown, hlonger, harrival⟩ := h
  rw [hchain] at hlonger harrival
  refine ⟨v, rest, Option.eq_none_iff_forall_ne_some.2 fun x hx => ?_, hshown, hlonger, harrival⟩
  rw [hk v x hx] at hnew
  exact absurd hnew (by simp)

end Graph

namespace SystemModel

theorem status_setStatus (m : SystemModel) (w w' : WorkerId) (s : ProcessStatus) :
    (m.setStatus w s).status w' = if w = w' then s else m.status w' := by
  rw [status, setStatus, statusPair_changeStatus]
  split <;> rfl

theorem oldStatus_setStatus (m : SystemModel) (w w' : WorkerId) (s : ProcessStatus) :
    (m.setStatus w s).oldStatus w' = if w = w' then m.status w else m.oldStatus w' := by
  rw [oldStatus, setStatus, statusPair_changeStatus]
  split <;> rfl

/-- The system after a CPU has gone from one thread to the next. -/
def switch (m : SystemModel) (c : Cpu) (P N : WorkerId) (left : ProcessStatus) : SystemModel :=
  ((m.setStatus P left).setStatus N .run).setCurrent c N

variable {m : SystemModel} {c : Cpu} {P N w : WorkerId} {left : ProcessStatus}

theorem status_switch : (m.switch c P N left).status w =
    if N = w then .run else if P = w then left else m.status w := by
  show ((m.setStatus P left).setStatus N .run).status w = _
  rw [status_setStatus, status_setStatus]

theorem current?_switch (c' : Cpu) :
    (m.switch c P N left).current? c' = if c = c' then some N else m.current? c' :=
  Table.get?_insert _ _ _ _

/-- Before a switch either thread had the status it had, but a thread that is switched to itself has
been left in between. -/
theorem oldStatus_switch (hw : w = P ∨ w = N) :
    (m.switch c P N left).oldStatus w = if P = N then left else m.status w := by
  show ((m.setStatus P left).setStatus N .run).oldStatus w = _
  rw [oldStatus_setStatus, status_setStatus, oldStatus_setStatus]
  rcases hw with rfl | rfl
  · by_cases hsame : w = N
    · simp [hsame]
    · simp [hsame, Ne.symm hsame]
  · by_cases hsame : P = w
    · simp [hsame]
    · simp [hsame]

end SystemModel

namespace Builder

variable {strict : Prop} {b₀ b b' : Builder} {t : Time} {F : List Vertex} {w P N : WorkerId}
  {e : Event} {c : Cpu} {field : String} {tid i j : Int} {R : BuildError → Builder → Prop}

open Build

/-- The chains of two threads go on, or that of one thread twice. -/
theorem During.changeStates_resume (h : During strict b₀ t [] b)
    (hP : (b.graph.worker? P).isSome) (hN : (b.graph.worker? N).isSome) :
    Ensures (do let _ ← Build.changeState P t; let _ ← Build.changeState N t) b
      (fun _ b' => b.graph.Resumes b'.graph P t (b.system.oldStatus P).edgeState ∧
        b.graph.Resumes b'.graph N t (b.system.oldStatus N).edgeState ∧
        b.graph.Keeps b'.graph ∧ b'.graph.Sound ∧ b'.system = b.system) R := by
  rw [ensures_bind, h.ensures_changeState hP]
  have hs := edgeState_ne_epsilon (b.system.oldStatus P)
  have hgains := h.gainsBy_grownBy hP hs none
  have hkeeps := h.keeps_grownBy hP (b.system.oldStatus P).edgeState none
  have hgrew := h.grew hP hs none
  have hchain := chainOf_grownBy (b := b) hP t (b.system.oldStatus P).edgeState none N
  have hsystem := b.system_grownBy P t (b.system.oldStatus P).edgeState none
  generalize b.grownBy P t (b.system.oldStatus P).edgeState none = b₁ at *
  have h₁ := hgrew.during (by simp)
  have hN₁ := hgrew.enrols N hN
  rw [ensures_bind, h₁.ensures_changeState hN₁, ensures_pure, hsystem]
  have hs' := edgeState_ne_epsilon (b.system.oldStatus N)
  have hkeeps' := h₁.keeps_grownBy hN₁ (b.system.oldStatus N).edgeState none
  have hsound := (h₁.grew hN₁ hs' none).handled.sound
  have hresumes := hgains.resumes hkeeps' h₁.sound hsound
  refine ⟨hresumes, ?_, hkeeps.trans hkeeps', hsound, (system_grownBy ..).trans hsystem⟩
  -- the new vertex that counts is the first one, also when both growths are of one chain
  by_cases hsame : N = P
  · rw [hsame] at hresumes ⊢
    exact hresumes
  · rw [if_neg hsame] at hchain
    exact ((h₁.gainsBy_grownBy hN₁ hs' none).resumes (.refl _) hsound hsound).since
      hkeeps.vertex? hchain

/-! ## § 2. Threads -/

/-- A thread is looked up or registered, and nothing else happens. -/
structure Met (b b' : Builder) (k : WorkerKey) (w : WorkerId) : Prop where
  found : b'.graph.findWorker? k = some w
  keeps : b.graph.Keeps b'.graph
  chains : ∀ i, b'.graph.chainOf i = b.graph.chainOf i
  vertices : ∀ v, b'.graph.vertex? v = b.graph.vertex? v
  system : b'.system = b.system

theorem During.meet (h : During strict b₀ t F b) (htid : e.tid? field = some tid) (c : Cpu)
    (nameField : String) :
    Ensures (Build.threadOf e c field nameField) b
      (fun w b' => During strict b₀ t F b' ∧ b.Met b' (c.threadKey tid) w) R := by
  rw [ensures_threadOf_of_some htid]
  obtain ⟨w, g, hok, -, hcase⟩ :=
    h.sound.addWorker_cases h.opened (c.worker tid (e.text? nameField))
  rw [ensures_store hok]
  have hfound := findWorker?_addWorker hok
  rw [Cpu.key_worker] at hfound
  rcases hcase with rfl | ⟨hnew, rfl⟩
  · exact ⟨h, hfound, .refl _, fun _ => rfl, fun _ => rfl, rfl⟩
  · exact ⟨h.register hnew, hfound, (Step.register _ h.opened hnew).keeps h.sound,
      chainOf_pushWorker _ _, fun _ => rfl, rfl⟩

/-! ## § 3. Switches -/

/-- The status of a thread that has given its CPU up. -/
def leftStatus (f : FieldNames) (e : Event) : ProcessStatus :=
  if (e.int? (f .prevState)).getD 0 = 0 then .waitCpu else .waitBlocked

/-- The status that the edge to the first new vertex of a thread shows: the one before the switch,
unless the thread is switched to itself. -/
def shownStatus (b : Builder) (e : Event) (i j : Int) (w : WorkerId) : ProcessStatus :=
  if i = j then leftStatus b.layout.fields e else b.system.status w

/-- A CPU has gone from the thread `i` to the thread `j`, whose workers are `P` and `N`. -/
structure Switched (b : Builder) (e : Event) (c : Cpu) (i j : Int) (P N : WorkerId) (b' : Builder) :
    Prop where
  previous : b'.graph.findWorker? (c.threadKey i) = some P
  next : b'.graph.findWorker? (c.threadKey j) = some N
  left : b.graph.Resumes b'.graph P e.time (b.shownStatus e i j P).edgeState
  entered : b.graph.Resumes b'.graph N e.time (b.shownStatus e i j N).edgeState
  system : b'.system = b.system.switch c P N (leftStatus b.layout.fields e)
  keeps : b.graph.Keeps b'.graph
  sound : b'.graph.Sound

theorem During.switches (h : During strict b₀ e.time [] b)
    (hprev : e.tid? (b.layout.fields .prevTid) = some i)
    (hnext : e.tid? (b.layout.fields .nextTid) = some j) (c : Cpu) :
    Ensures (Build.schedSwitch b.layout.fields e c) b
      (fun _ b' => ∃ P N, b.Switched e c i j P N b') R := by
  unfold Build.schedSwitch
  rw [ensures_bind, ensures_tidOf_of_some hprev, ensures_bind, ensures_tidOf_of_some hnext]
  refine (h.meet hprev c _).bind ?_
  rintro P b₁ ⟨h₁, hP⟩
  refine (h₁.meet hnext c _).bind ?_
  rintro N b₂ ⟨h₂, hN⟩
  have hfindP := hN.keeps.findWorker? h₁.sound h₂.sound hP.found
  have hfindN := hN.found
  have hP₂ := h₂.sound.isSome_of_find hfindP
  have hN₂ := h₂.sound.isSome_of_find hfindN
  have hsystem := hN.system.trans hP.system
  have hthreads : P = N ↔ i = j := by
    rw [← c.threadKey_inj]
    constructor
    · rintro rfl
      exact h₂.sound.key_unique hfindP hfindN
    · intro hkeys
      rw [hkeys] at hfindP
      exact Option.some.inj (hfindP.symm.trans hfindN)
  generalize hleft : (if (e.int? (b.layout.fields .prevState)).getD 0 = 0 then ProcessStatus.waitCpu
    else .waitBlocked) = left
  have h₃ := (h₂.trackStatus (m := (b₂.system.setStatus P left).setStatus N .run) rfl
    rfl).trackCurrent c hN₂
  rw [ensures_bind, ensures_track, ensures_bind, ensures_track, ensures_bind, ensures_track]
  refine (h₃.changeStates_resume hP₂ hN₂).mono ?_ fun _ _ hr => hr
  rintro _ b' ⟨hresP, hresN, hkeeps, hsound, hsystem'⟩
  -- to register the threads has touched no chain
  have hmet : ∀ w s, b₂.graph.Resumes b'.graph w e.time s → b.graph.Resumes b'.graph w e.time s :=
    fun w _ hres => hres.since (hP.keeps.trans hN.keeps).vertex?
      ((hN.chains w).trans (hP.chains w))
  have hshown : ∀ w, w = P ∨ w = N →
      (b.system.switch c P N left).oldStatus w = b.shownStatus e i j w := by
    intro w hw
    rw [SystemModel.oldStatus_switch hw, shownStatus, leftStatus, hleft]
    simp only [hthreads]
  have hswitched : ((b₂.system.setStatus P left).setStatus N .run).setCurrent c N =
      b.system.switch c P N left := by
    rw [hsystem]
    rfl
  dsimp only at hresP hresN hsystem'
  rw [hswitched] at hresP hresN hsystem'
  rw [hshown P (Or.inl rfl)] at hresP
  rw [hshown N (Or.inr rfl)] at hresN
  refine ⟨P, N, hkeeps.findWorker? h₂.sound hsound hfindP,
    hkeeps.findWorker? h₂.sound hsound hfindN, hmet P _ hresP, hmet N _ hresN, ?_,
    (hP.keeps.trans hN.keeps).trans hkeeps, hsound⟩
  rw [hsystem', leftStatus, hleft]

/-! ## § 4. Events -/

/-- To count an event or to take note of its time is no news about threads. -/
theorem Switched.of_same {P N : WorkerId} {b₁ b₁' : Builder} (h : b.Switched e c i j P N b')
    (hlayout : b₁.layout = b.layout) (hgraph : b₁.graph = b.graph) (hsystem : b₁.system = b.system)
    (hgraph' : b₁'.graph = b'.graph) (hsystem' : b₁'.system = b'.system) :
    b₁.Switched e c i j P N b₁' := by
  obtain ⟨hprevious, hnext, hleft, hentered, hswitch, hkeeps, hsound⟩ := h
  refine ⟨hgraph' ▸ hprevious, hgraph' ▸ hnext, ?_, ?_, ?_, ?_, hgraph' ▸ hsound⟩
  · rw [shownStatus, hlayout, hgraph, hgraph', hsystem]
    exact hleft
  · rw [shownStatus, hlayout, hgraph, hgraph', hsystem]
    exact hentered
  · rw [hlayout, hsystem, hsystem', hswitch]
  · rw [hgraph, hgraph']
    exact hkeeps

theorem Between.process_switches (h : Between False b)
    (hkind : b.index.get? e.name = some .schedSwitch)
    (horder : ∀ s, b.lastTime = some s → s ≤ e.time) {n : Nat}
    (hcpu : e.cpu.filter (fun n => b.cpuCount.all (n < ·)) = some n)
    (hprev : e.tid? (b.layout.fields .prevTid) = some i)
    (hnext : e.tid? (b.layout.fields .nextTid) = some j) :
    (b.process e).1 = .ok () ∧ ∃ P N, b.Switched e ⟨e.host, n⟩ i j P N (b.process e).2 := by
  have hdone : Ensures (Build.dispatch e) b (fun _ b' => ∃ P N, b.Switched e ⟨e.host, n⟩ i j P N b')
      fun _ _ => False := by
    refine ensures_dispatch_of_kind hkind hcpu
      (fun last hlast hlate => Nat.not_le.2 hlate (horder last hlast)) fun _ => ?_
    refine ((h.start horder False.elim).switches hprev hnext ⟨e.host, n⟩).mono ?_ fun _ _ hr => hr
    rintro _ b' ⟨P, N, hswitched⟩
    exact ⟨P, N, hswitched.of_same rfl rfl rfl rfl rfl⟩
  rcases hdone.process with ⟨known, b₁, ⟨P, N, hswitched⟩, heq⟩ | ⟨-, -, hfalse, -⟩
  · rw [heq]
    exact ⟨rfl, P, N, hswitched.of_same rfl rfl rfl rfl rfl⟩
  · exact hfalse.elim

/-- Whatever events came before, a switch that names both threads and comes in order is accepted.
The chains of both threads go on with a vertex, and the edge to it from the tail shows the status
that the thread had before the switch; of a thread that is switched to itself it shows the status
that the thread was left with. After the switch the next thread has the status of one that runs and
is the one that runs on the CPU. -/
theorem switch_labels_intervals {start : Time} {cfg : Config} {es : List Event} {n : Nat}
    (hnew : Builder.new (.new start) cfg = .ok b₀) (hrun : b₀.processAll es = b)
    (hkind : b.index.get? e.name = some .schedSwitch)
    (horder : ∀ s, b.lastTime = some s → s ≤ e.time)
    (hcpu : e.cpu.filter (fun n => b.cpuCount.all (n < ·)) = some n)
    (hprev : e.tid? (b.layout.fields .prevTid) = some i)
    (hnext : e.tid? (b.layout.fields .nextTid) = some j) :
    (b.process e).1 = .ok () ∧
      ∃ P N, (b.process e).2.graph.findWorker? (Cpu.threadKey ⟨e.host, n⟩ i) = some P ∧
        (b.process e).2.graph.findWorker? (Cpu.threadKey ⟨e.host, n⟩ j) = some N ∧
        b.graph.Resumes (b.process e).2.graph P e.time (b.shownStatus e i j P).edgeState ∧
        b.graph.Resumes (b.process e).2.graph N e.time (b.shownStatus e i j N).edgeState ∧
        (b.process e).2.system.status N = .run ∧
        (b.process e).2.system.current? ⟨e.host, n⟩ = some N := by
  have hbetween := between_run hnew hrun
  obtain ⟨haccepted, P, N, h⟩ := hbetween.process_switches hkind horder hcpu hprev hnext
  refine ⟨haccepted, P, N, h.previous, h.next, h.left, h.entered, ?_, ?_⟩
  · rw [h.system, SystemModel.status_switch, if_pos rfl]
  · rw [h.system, SystemModel.current?_switch, if_pos rfl]

/-- A CPU goes from one thread to another, and the first one goes on waiting for it. -/
def switchEvent (t : Time) (previous next : Int) : Event :=
  (((Event.new "sched_switch" t 0).withField "prev_tid" (.int previous)).withField "prev_state"
    (.int 0)).withField "next_tid" (.int next)

/-- A thread that has run gives its CPU back to one that has waited for it. -/
theorem switchBack_labels_intervals : ∃ b₀ b, Builder.new (.new 0) .standard = .ok b₀ ∧
    b₀.processAll [switchEvent 1 1 2] = b ∧ (b.process (switchEvent 5 2 1)).1 = .ok () ∧
    b.graph.Resumes (b.process (switchEvent 5 2 1)).2.graph ⟨1⟩ 5 .running ∧
    b.graph.Resumes (b.process (switchEvent 5 2 1)).2.graph ⟨0⟩ 5 .preempted ∧
    (b.process (switchEvent 5 2 1)).2.system.status ⟨0⟩ = .run := by
  have hrun : (Builder.new (.new 0) .standard).map (fun b₀ =>
      let b := b₀.processAll [switchEvent 1 1 2]
      (b.index.get? "sched_switch", b.lastTime, b.cpuCount, b.layout.fields .prevTid,
        b.layout.fields .nextTid, b.system.status ⟨0⟩, b.system.status ⟨1⟩)) =
      .ok (some .schedSwitch, some 1, none, "prev_tid", "next_tid", .waitCpu, .run) := by cbv
  have hfind : (Builder.new (.new 0) .standard).map (fun b₀ =>
      let g := ((b₀.processAll [switchEvent 1 1 2]).process (switchEvent 5 2 1)).2.graph
      (g.findWorker? (Cpu.threadKey ⟨"", 0⟩ 2), g.findWorker? (Cpu.threadKey ⟨"", 0⟩ 1))) =
      .ok (some ⟨1⟩, some ⟨0⟩) := by cbv
  obtain ⟨b₀, hnew, heq⟩ := map_eq_ok.1 hrun
  obtain ⟨b₁, hnew₁, heq₁⟩ := map_eq_ok.1 hfind
  obtain rfl := Except.ok.inj (hnew.symm.trans hnew₁)
  simp only [Prod.mk.injEq] at heq heq₁
  obtain ⟨hkind, hlast, hcount, hprev, hnext, hwaits, hruns⟩ := heq
  obtain ⟨hprevious, hentered⟩ := heq₁
  obtain ⟨haccepted, P, N, hP, hN, hresP, hresN, hstatus, -⟩ :=
    switch_labels_intervals (e := switchEvent 5 2 1) (n := 0) (i := 2) (j := 1) hnew rfl hkind
      (by rw [hlast]; rintro _ ⟨⟩; decide) (by rw [hcount]; rfl) (by rw [hprev]; cbv)
      (by rw [hnext]; cbv)
  obtain rfl := Option.some.inj (hprevious.symm.trans hP)
  obtain rfl := Option.some.inj (hentered.symm.trans hN)
  rw [shownStatus, if_neg (by decide)] at hresP hresN
  rw [hruns] at hresP
  rw [hwaits] at hresN
  exact ⟨b₀, _, hnew, rfl, haccepted, hresP, hresN, hstatus⟩

/-- A thread that is switched to itself has run until then, yet the edge to its new vertex does not
say so. -/
theorem not_all_switches_show_status_before : ¬∀ (start : Time) (cfg : Config) (b₀ : Builder)
    (es : List Event) (e : Event) (n : Nat) (i j : Int), Builder.new (.new start) cfg = .ok b₀ →
      let b := b₀.processAll es
      let b' := (b.process e).2
      b.index.get? e.name = some .schedSwitch → (∀ s, b.lastTime = some s → s ≤ e.time) →
      e.cpu.filter (fun n => b.cpuCount.all (n < ·)) = some n →
      e.tid? (b.layout.fields .prevTid) = some i → e.tid? (b.layout.fields .nextTid) = some j →
      ∃ P N, b'.graph.findWorker? (Cpu.threadKey ⟨e.host, n⟩ i) = some P ∧
        b'.graph.findWorker? (Cpu.threadKey ⟨e.host, n⟩ j) = some N ∧
        b.graph.Resumes b'.graph P e.time (b.system.status P).edgeState ∧
        b.graph.Resumes b'.graph N e.time (b.system.status N).edgeState ∧
        b'.system.status N = .run ∧ b'.system.current? ⟨e.host, n⟩ = some N := by
  intro hall
  have hrun : (Builder.new (.new 0) .standard).map (fun b₀ =>
      let b := b₀.processAll [switchEvent 1 1 2]
      (b.index.get? "sched_switch", b.lastTime, b.cpuCount, b.layout.fields .prevTid,
        b.layout.fields .nextTid, b.system.status ⟨1⟩, b.graph.chainOf ⟨1⟩)) =
      .ok (some .schedSwitch, some 1, none, "prev_tid", "next_tid", .run, [⟨1⟩]) := by cbv
  have hafter : (Builder.new (.new 0) .standard).map (fun b₀ =>
      let g := ((b₀.processAll [switchEvent 1 1 2]).process (switchEvent 5 2 2)).2.graph
      (g.findWorker? (Cpu.threadKey ⟨"", 0⟩ 2), g.chainOf ⟨1⟩,
        (g.edgeAt? ⟨2⟩ .incomingHorizontal).map (·.state))) =
      .ok (some ⟨1⟩, [⟨1⟩, ⟨2⟩, ⟨3⟩], some .preempted) := by cbv
  obtain ⟨b₀, hnew, heq⟩ := map_eq_ok.1 hrun
  obtain ⟨b₁, hnew₁, heq₁⟩ := map_eq_ok.1 hafter
  obtain rfl := Except.ok.inj (hnew.symm.trans hnew₁)
  simp only [Prod.mk.injEq] at heq heq₁
  obtain ⟨hkind, hlast, hcount, hprev, hnext, hruns, hchain⟩ := heq
  obtain ⟨hfind, hlonger, hstate⟩ := heq₁
  obtain ⟨P, -, hP, -, ⟨v, rest, -, -, hchain', harrival⟩, -⟩ :=
    hall 0 .standard b₀ [switchEvent 1 1 2] (switchEvent 5 2 2) 0 2 2 hnew hkind
      (by rw [hlast]; rintro _ ⟨⟩; decide) (by rw [hcount]; rfl) (by rw [hprev]; cbv)
      (by rw [hnext]; cbv)
  obtain rfl := Option.some.inj (hfind.symm.trans hP)
  rw [hchain, hlonger] at hchain'
  obtain ⟨rfl, -⟩ : ⟨2⟩ = v ∧ [⟨3⟩] = rest := by simpa using hchain'
  obtain ⟨x, hx, -, hshown, -⟩ := harrival ⟨1⟩ (by rw [hchain]; rfl)
  rw [hruns] at hshown
  rw [hx] at hstate
  exact absurd (hshown.symm.trans (Option.some.inj hstate)) (by decide)

end Builder

end CausalPath
