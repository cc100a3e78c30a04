import CausalPath.Proofs.Build.Rejection
import CausalPath.Proofs.Build.Switching

/-!
# Repeated wakeups

A kernel may report one wakeup several times, on several CPUs and inside several handlers. Only a
thread that sleeps, because it is blocked or was forked, shows a wakeup in the graph, and after it
the thread is awake. A thread falls asleep by a switch that leaves it or by its fork, and by nothing
else that happens, whatever it takes part in. So until then every further wakeup is ignored.
-/

namespace CausalPath

open CausalPath.Graph

/-! ## § 1. Threads that sleep -/

/-- A wakeup of a thread of this status shows in the graph. -/
def ProcessStatus.Asleep (s : ProcessStatus) : Prop := s = .waitBlocked ∨ s = .waitFork

instance (s : ProcessStatus) : Decidable s.Asleep := inferInstanceAs (Decidable (_ ∨ _))

namespace SystemModel

variable {m : SystemModel} {w i : WorkerId} {f : StatusPair → StatusPair}

/-- The thread does not sleep. -/
def Awake (m : SystemModel) (w : WorkerId) : Prop := ¬(m.status w).Asleep

/-- The thread is awake if it was. -/
def StaysAwake (m : SystemModel) (w : WorkerId) (m' : SystemModel) : Prop := m.Awake w → m'.Awake w

theorem Awake.changeStatus (h : m.Awake w) (hf : ¬(f (m.statusPair i)).current.Asleep) :
    (m.changeStatus i f).Awake w := by
  unfold Awake
  rw [status, statusPair_changeStatus]
  split
  · exact hf
  · exact h

theorem not_asleep_wake (p : StatusPair) : ¬p.wake.current.Asleep := by
  show ¬(if p.current.isWaiting then ProcessStatus.waitCpu else p.current).Asleep
  cases p.current <;> decide

theorem awake_markWoken (m : SystemModel) (w : WorkerId) : (m.markWoken w).Awake w := by
  unfold Awake
  rw [status, markWoken, statusPair_changeStatus, if_pos rfl]
  exact not_asleep_wake _

theorem Awake.setKernelWorker (h : m.Awake w) (c : Cpu) (i : WorkerId) :
    (m.setKernelWorker c i).Awake w := by
  unfold Awake status statusPair SystemModel.setKernelWorker
  rw [Table.get?_insert]
  split
  · decide
  · exact h

end SystemModel

/-- No step puts a thread to sleep, but the ones that say so. -/
theorem Build.permits_awake (w : WorkerId) :
    Build.Permits (·.StaysAwake w ·) fun _ => True where
  refl _ h := h
  trans h h' hw := h' (h hw)
  refused _ := trivial
  markWoken _ _ h := h.changeStatus (SystemModel.not_asleep_wake _)
  setKernelWorker _ c i h := h.setKernelWorker c i
  push _ _ _ _ h := h
  pop _ _ _ h := h

/-- The fields of an event of a kind that tell the threads it is about. -/
def EventKind.threadFields : EventKind → List Detail
  | .schedSwitch => [.prevTid, .nextTid]
  | .wakeup => [.tid]
  | .fork => [.childTid]
  | .exit => [.tid]
  | _ => []

namespace Builder

variable {strict : Prop} {b₀ b b₁ b' : Builder} {t : Time} {e : Event} {c : Cpu} {T : WorkerKey}
  {w : WorkerId} {kind : EventKind}

/-- To this builder the event is one of the kind, and it names the thread. -/
def Names (b : Builder) (e : Event) (kind : EventKind) (T : WorkerKey) : Prop :=
  b.index.get? e.name = some kind ∧
    ∃ n, e.cpu.filter (fun n => b.cpuCount.all (n < ·)) = some n ∧
      ∃ d ∈ kind.threadFields, ∃ tid, e.tid? (b.layout.fields d) = some tid ∧
        Cpu.threadKey ⟨e.host, n⟩ tid = T

/-- The thread was seen before and does not sleep. -/
structure Rested (b : Builder) (T : WorkerKey) (w : WorkerId) : Prop where
  found : b.graph.findWorker? T = some w
  awake : b.system.Awake w

open Build

/-! ## § 2. Wakeups -/

/-- A wakeup of a thread that does not sleep shows nowhere. -/
theorem Rested.ensures_wakeup {tid : Int} {Q : Unit → Builder → Prop}
    {R : BuildError → Builder → Prop} (h : b.Rested (c.threadKey tid) w)
    (htid : e.tid? (b.layout.fields .tid) = some tid) :
    Ensures (Build.wakeup b.layout.fields e c) b Q R ↔
      Q () { b with system := b.system.markWoken w } := by
  unfold Build.wakeup
  rw [ensures_bind, ensures_threadOf_of_find htid h.found, ensures_bind, ensures_track,
    ensures_bind, ensures_system]
  have hold : (b.system.markWoken w).oldStatus w = b.system.status w := by
    rw [SystemModel.oldStatus, SystemModel.markWoken, SystemModel.statusPair_changeStatus,
      if_pos rfl]
    rfl
  have hawake := h.awake
  unfold SystemModel.Awake at hawake
  dsimp only
  rw [hold]
  split
  · rename_i hfork
    exact absurd (Or.inr hfork) hawake
  · rename_i hblocked
    exact absurd (Or.inl hblocked) hawake
  · rfl

/-- A step that sets no status leaves a thread as rested as it was. -/
theorem Rested.ensures (h : b.Rested T w) (hs : b.graph.Sound) {x : Build Unit} {o : Outcome}
    (hsettles : Settles strict b t o x b)
    (habides : Abides (·.StaysAwake w ·) (fun _ => True) x) :
    Ensures x b (fun _ b' => b'.Rested T w) fun _ _ => True := by
  refine (hsettles.both (habides b)).mono ?_ fun _ _ _ => trivial
  rintro _ b' ⟨hhandled, hawake⟩
  exact ⟨hhandled.findWorker? hs h.found, hawake h.awake⟩

/-- After its wakeup a thread is rested. -/
theorem During.wakeup_rests (h : During strict b₀ e.time [] b) {tid : Int}
    (htid : e.tid? (b.layout.fields .tid) = some tid) (c : Cpu) :
    Ensures (Build.wakeup b.layout.fields e c) b
      (fun _ b' => ∃ w, b'.Rested (c.threadKey tid) w) fun _ _ => True := by
  unfold Build.wakeup
  refine (h.meet htid c _).bind ?_
  rintro w b₁ ⟨h₁, hmet⟩
  rw [ensures_bind, ensures_track, ensures_bind, ensures_system]
  -- the wakeup may have registered the thread, so the rest is counted from here
  have h₂ := (h₁.trackStatus (m := b₁.system.markWoken w) rfl rfl).restart
  have hw := h₂.sound.isSome_of_find hmet.found
  have hcurrent : ∀ i, (b₁.system.markWoken w).current? c = some i → (b₁.graph.worker? i).isSome :=
    fun i hi => h₂.known.running c i hi
  have hrested : Rested { b₁ with system := b₁.system.markWoken w } (c.threadKey tid) w :=
    ⟨hmet.found, SystemModel.awake_markWoken _ _⟩
  have hawake := permits_awake w
  split
  · exact (hrested.ensures h₂.sound (h₂.forkWakeup hw hcurrent) (hawake.forkWakeup _ _ _)).mono
      (fun _ _ hb => ⟨w, hb⟩) fun _ _ _ => trivial
  · exact (hrested.ensures h₂.sound (h₂.blockedWakeup hw hcurrent c)
      (hawake.blockedWakeup _ _ _ _)).mono (fun _ _ hb => ⟨w, hb⟩) fun _ _ _ => trivial
  · exact ⟨w, hrested⟩

/-! ## § 3. Events in between -/

/-- The fork of another thread leaves a thread rested. -/
theorem During.fork_rests (h : During strict b₀ e.time [] b) (hrested : b.Rested T w) (c : Cpu)
    (hother : ∀ tid, e.tid? (b.layout.fields .childTid) = some tid → c.threadKey tid ≠ T) :
    Ensures (Build.fork b.layout.fields e c) b (fun _ b' => b'.Rested T w) fun _ _ => True := by
  unfold Build.fork
  cases htid : e.tid? (b.layout.fields .childTid) with
  | none =>
    rw [ensures_bind, ensures_threadOf_of_none htid]
    trivial
  | some tid =>
    refine (h.meet htid c _).bind ?_
    rintro child b₁ ⟨h₁, hmet⟩
    have hfound := hmet.keeps.findWorker? h.sound h₁.sound hrested.found
    have hne : child ≠ w := by
      rintro rfl
      exact hother tid htid (h₁.sound.key_unique hmet.found hfound)
    refine (ensures_track _).2 ⟨hfound, ?_⟩
    unfold SystemModel.Awake
    rw [SystemModel.status_setStatus, if_neg hne, hmet.system]
    exact hrested.awake

/-- A switch between other threads leaves a thread rested. -/
theorem During.schedSwitch_rests (h : During strict b₀ e.time [] b) (hrested : b.Rested T w)
    (c : Cpu) (hother : ∀ d ∈ [Detail.prevTid, .nextTid], ∀ tid,
      e.tid? (b.layout.fields d) = some tid → c.threadKey tid ≠ T) :
    Ensures (Build.schedSwitch b.layout.fields e c) b (fun _ b' => b'.Rested T w)
      fun _ _ => True := by
  cases hprev : e.tid? (b.layout.fields .prevTid) with
  | none =>
    unfold Build.schedSwitch
    rw [ensures_bind, ensures_tidOf_of_none hprev]
    trivial
  | some i =>
    cases hnext : e.tid? (b.layout.fields .nextTid) with
    | none =>
      unfold Build.schedSwitch
      rw [ensures_bind, ensures_tidOf_of_some hprev, ensures_bind, ensures_tidOf_of_none hnext]
      trivial
    | some j =>
      refine (h.switches hprev hnext c).mono ?_ fun _ _ hr => hr
      rintro _ b' ⟨P, N, hswitched⟩
      have hfound := hswitched.keeps.findWorker? h.sound hswitched.sound hrested.found
      have hP : P ≠ w := by
        rintro rfl
        exact hother .prevTid (by simp) i hprev
          (hswitched.sound.key_unique hswitched.previous hfound)
      have hN : N ≠ w := by
        rintro rfl
        exact hother .nextTid (by simp) j hnext (hswitched.sound.key_unique hswitched.next hfound)
      refine ⟨hfound, ?_⟩
      unfold SystemModel.Awake
      rw [hswitched.system, SystemModel.status_switch, if_neg hN, if_neg hP]
      exact hrested.awake

/-- Any handling of an event leaves a thread rested, unless it is a switch or a fork that names the
thread. -/
theorem During.handle_rests (h : During strict b₀ e.time [] b) (hrested : b.Rested T w) (c : Cpu)
    (hother : kind = .schedSwitch ∨ kind = .fork → ∀ d ∈ kind.threadFields, ∀ tid,
      e.tid? (b.layout.fields d) = some tid → c.threadKey tid ≠ T) :
    Ensures (Build.handle b.layout.fields kind e c) b (fun _ b' => b'.Rested T w)
      fun _ _ => True := by
  by_cases hswitch : kind = .schedSwitch
  · subst hswitch
    exact h.schedSwitch_rests hrested c (hother (Or.inl rfl))
  by_cases hfork : kind = .fork
  · subst hfork
    exact h.fork_rests hrested c (hother (Or.inr rfl) .childTid List.mem_cons_self)
  have hawake := permits_awake w
  refine hrested.ensures h.sound (h.restart.handle rfl b.layout.fields kind c) ?_
  by_cases hexit : kind = .exit
  · subst hexit
    have hset : ∀ (m : SystemModel) (i : WorkerId), m.StaysAwake w (m.setStatus i .exit) :=
      fun m i hm => hm.changeStatus (by simp [StatusPair.set, ProcessStatus.Asleep])
    exact hawake.setStatus hset (fun _ => trivial) c _
  · exact hawake.handle (fun _ => trivial) _ hswitch hfork hexit e c

/-- An event leaves a thread rested, unless it is accepted and is a switch or a fork that names the
thread. -/
theorem Between.process_rests (h : Between False b) (hrested : b.Rested T w)
    (hquiet : ∀ kind, kind = .schedSwitch ∨ kind = .fork → b.Names e kind T →
      (b.process e).1 ≠ .ok ()) : (b.process e).2.Rested T w := by
  by_cases haccepted : (b.process e).1 = .ok ()
  · have hdone : Ensures (Build.dispatch e) b (fun _ b' => b'.Rested T w) fun _ _ => True := by
      have hlater : Rested { b with lastTime := some e.time } T w := ⟨hrested.found, hrested.awake⟩
      apply ensures_dispatch
      · exact fun _ _ _ => trivial
      · exact fun _ _ => hlater
      · exact fun _ _ _ _ => trivial
      · intro horder kind n hkind hcpu
        refine (h.start horder False.elim).handle_rests hlater ⟨e.host, n⟩ ?_
        intro hmoves d hd tid htid heq
        exact hquiet kind hmoves ⟨hkind, n, hcpu, d, hd, tid, htid, heq⟩ haccepted
    obtain ⟨known, b', _, hafter, heq⟩ := hdone.accepted haccepted
    rw [heq]
    exact ⟨hafter.found, hafter.awake⟩
  · -- a rejected event has no effect
    cases hdone : b.process e with
    | mk r b' =>
      cases r with
      | ok u => exact absurd (congrArg Prod.fst hdone) haccepted
      | error err =>
        obtain ⟨-, _, ⟨m, last, hm, -, rfl⟩, rfl⟩ := h.process_rejected False.elim hdone
        refine ⟨hrested.found, ?_⟩
        unfold SystemModel.Awake SystemModel.status
        rw [hm.statuses]
        exact hrested.awake

/-- A trace leaves a thread rested, as long as no switch or fork that names the thread is
accepted. -/
theorem Between.processAll_rests {es : List Event} (h : Between False b) (hrested : b.Rested T w)
    (hquiet : ∀ es₁ e es₂ kind, es = es₁ ++ e :: es₂ → kind = .schedSwitch ∨ kind = .fork →
      (b.processAll es₁).Names e kind T → ((b.processAll es₁).process e).1 ≠ .ok ()) :
    (b.processAll es).Rested T w := by
  induction es generalizing b with
  | nil => exact hrested
  | cons e es ih =>
    refine ih (h.process (e := e) False.elim).2.toBetween
      (h.process_rests hrested fun kind => hquiet [] e es kind rfl) ?_
    intro es₁ e₁ es₂ kind heq
    exact hquiet (e :: es₁) e₁ es₂ kind (heq ▸ rfl)

/-! ## § 4. Repeated wakeups -/

/-- A thread is rested when its wakeup has been accepted. -/
theorem Between.wakeup_rests (h : Between False b) (hnames : b.Names e .wakeup T)
    (haccepted : (b.process e).1 = .ok ()) : ∃ w, (b.process e).2.Rested T w := by
  obtain ⟨hkind, n, hcpu, d, hd, tid, htid, rfl⟩ := hnames
  obtain rfl := List.mem_singleton.1 hd
  have hdone : Ensures (Build.dispatch e) b
      (fun _ b' => ∃ w, b'.Rested (Cpu.threadKey ⟨e.host, n⟩ tid) w) fun _ _ => True :=
    ensures_dispatch_of_kind hkind hcpu (fun _ _ _ => trivial) fun horder =>
      (h.start horder False.elim).wakeup_rests htid _
  obtain ⟨known, b', _, ⟨w, hafter⟩, heq⟩ := hdone.accepted haccepted
  rw [heq]
  exact ⟨w, hafter.found, hafter.awake⟩

/-- A wakeup of a thread that is rested shows nowhere. -/
theorem Rested.wakeup_ignored (h : b.Rested T w) (hnames : b.Names e .wakeup T) :
    (b.process e).2.graph = b.graph ∧ (b.process e).2.links = b.links ∧
      (b.process e).2.matcher = b.matcher := by
  obtain ⟨hkind, n, hcpu, d, hd, tid, htid, rfl⟩ := hnames
  obtain rfl := List.mem_singleton.1 hd
  have hdone : Ensures (Build.dispatch e) b
      (fun _ b' => b'.graph = b.graph ∧ b'.links = b.links ∧ b'.matcher = b.matcher)
      fun _ b' => b'.graph = b.graph ∧ b'.links = b.links ∧ b'.matcher = b.matcher := by
    have hlater : Rested { b with lastTime := some e.time } (Cpu.threadKey ⟨e.host, n⟩ tid) w :=
      ⟨h.found, h.awake⟩
    refine ensures_dispatch_of_kind hkind hcpu (fun _ _ _ => ⟨rfl, rfl, rfl⟩) fun _ => ?_
    exact (hlater.ensures_wakeup htid).2 ⟨rfl, rfl, rfl⟩
  rcases hdone.process with ⟨known, b', hafter, heq⟩ | ⟨err, b', hafter, heq⟩
  · rw [heq]
    exact hafter
  · rw [heq]
    exact hafter

/-- Repeated wakeups are ignored. After any trace let a wakeup of a thread be accepted, and let more
events follow of which no switch and no fork that names the thread is accepted; the thread may run,
wake others, send and receive, and exit. Then another wakeup of the thread, of any name, on any CPU
and inside any handler, leaves the whole graph as it is, and no packet that waits is taken. -/
theorem repeated_wakeups_ignored {start : Time} {cfg : Config} {es es' : List Event}
    {e' : Event} {b₂ : Builder} (hnew : Builder.new (.new start) cfg = .ok b₀)
    (hrun : b₀.processAll es = b) (hnames : b.Names e .wakeup T)
    (haccepted : b.process e = (.ok (), b₁)) (hrun' : b₁.processAll es' = b₂)
    (hquiet : ∀ es₁ e₁ es₂ kind, es' = es₁ ++ e₁ :: es₂ → kind = .schedSwitch ∨ kind = .fork →
      (b₁.processAll es₁).Names e₁ kind T → ((b₁.processAll es₁).process e₁).1 ≠ .ok ())
    (hagain : b₂.Names e' .wakeup T) :
    (b₂.process e').2.graph = b₂.graph ∧ (b₂.process e').2.links = b₂.links ∧
      (b₂.process e').2.matcher = b₂.matcher := by
  have hbetween := between_run hnew hrun
  subst hrun'
  obtain ⟨w, hrested⟩ := hbetween.wakeup_rests hnames (congrArg Prod.fst haccepted)
  have hbetween' := (hbetween.process (e := e) False.elim).2.toBetween
  rw [haccepted] at hrested hbetween'
  exact (hbetween'.processAll_rests hrested hquiet).wakeup_ignored hagain

/-- A thread is blocked and another one runs. -/
def blockedTrace : List Event :=
  [(((Event.new "sched_switch" 1 0).withField "prev_tid" (.int 1)).withField "prev_state" (.int 1)
      ).withField "next_tid" (.int 2)]

/-- The thread is about to be woken by the one that runs. -/
def wakingEvent : Event := (Event.new "sched_waking" 5 0).withField "tid" (.int 1)

/-- The thread has been woken, says another CPU. -/
def wokenEvent : Event := (Event.new "sched_wakeup" 8 1).withField "tid" (.int 1)

/-- Of the two wakeups only the first one shows, even with a switch between other threads in
between. -/
theorem wokenEvent_ignored : ∃ b₀ b₁ b₂, Builder.new (.new 0) .standard = .ok b₀ ∧
    (b₀.processAll blockedTrace).process wakingEvent = (.ok (), b₁) ∧
    b₁.processAll [switchEvent 6 2 3] = b₂ ∧ (b₂.process wokenEvent).1 = .ok () ∧
    (b₀.processAll blockedTrace).graph.chainOf ⟨0⟩ = [⟨0⟩] ∧ b₂.graph.chainOf ⟨0⟩ = [⟨0⟩, ⟨2⟩] ∧
    (b₂.process wokenEvent).2.graph = b₂.graph := by
  have hrun : (Builder.new (.new 0) .standard).map (fun b₀ =>
      let b := b₀.processAll blockedTrace
      let b₁ := (b.process wakingEvent).2
      let b₂ := b₁.processAll [switchEvent 6 2 3]
      ((b.process wakingEvent).1, (b₂.process wokenEvent).1, b.graph.chainOf ⟨0⟩,
        b₂.graph.chainOf ⟨0⟩)) = .ok (.ok (), .ok (), [⟨0⟩], [⟨0⟩, ⟨2⟩]) := by cbv
  have hnamed : (Builder.new (.new 0) .standard).map (fun b₀ =>
      let b := b₀.processAll blockedTrace
      let b₁ := (b.process wakingEvent).2
      let b₂ := b₁.processAll [switchEvent 6 2 3]
      ((b.index.get? "sched_waking", b.cpuCount, b.layout.fields .tid),
        (b₁.index.get? "sched_switch", b₁.cpuCount, b₁.layout.fields .prevTid,
          b₁.layout.fields .nextTid),
        (b₂.index.get? "sched_wakeup", b₂.cpuCount, b₂.layout.fields .tid))) =
      .ok ((some .wakeup, none, "tid"), (some .schedSwitch, none, "prev_tid", "next_tid"),
        (some .wakeup, none, "tid")) := by cbv
  obtain ⟨b₀, hnew, heq⟩ := map_eq_ok.1 hrun
  obtain ⟨b₀', hnew', heq'⟩ := map_eq_ok.1 hnamed
  obtain rfl := Except.ok.inj (hnew.symm.trans hnew')
  simp only [Prod.mk.injEq] at heq heq'
  obtain ⟨haccepted, hagain, hbefore, hafter⟩ := heq
  obtain ⟨⟨hkind, hcount, hfield⟩, ⟨hkind₁, hcount₁, hprev, hnext⟩, hkind₂, hcount₂, hfield₂⟩ :=
    heq'
  generalize hrest : (b₀.processAll blockedTrace).process wakingEvent = done at *
  obtain ⟨_, b₁⟩ := done
  dsimp only at *
  subst haccepted
  refine ⟨b₀, b₁, _, hnew, hrest, rfl, hagain, hbefore, hafter, ?_⟩
  refine (repeated_wakeups_ignored (T := ⟨"", .thread 1⟩) hnew rfl ?_ hrest rfl ?_ ?_).1
  · exact ⟨hkind, 0, by rw [hcount]; rfl, .tid, List.mem_cons_self, 1, by rw [hfield]; cbv, rfl⟩
  · rintro es₁ e₁ es₂ kind hsplit - ⟨hknown, n, -, d, hd, tid, htid, hkey⟩
    obtain ⟨rfl, rfl, rfl⟩ : es₁ = [] ∧ e₁ = switchEvent 6 2 3 ∧ es₂ = [] := by
      cases es₁ with
      | nil => simpa [eq_comm] using hsplit
      | cons => simp at hsplit
    obtain rfl := Option.some.inj (hkind₁.symm.trans hknown)
    -- the switch names two other threads
    have hothers : tid = 2 ∨ tid = 3 := by
      simp only [EventKind.threadFields, List.mem_cons, List.not_mem_nil, or_false] at hd
      rcases hd with rfl | rfl
      · have htid : (switchEvent 6 2 3).tid? (b₁.layout.fields .prevTid) = some tid := htid
        rw [hprev] at htid
        exact Or.inl (Option.some.inj (htid.symm.trans (by cbv)))
      · have htid : (switchEvent 6 2 3).tid? (b₁.layout.fields .nextTid) = some tid := htid
        rw [hnext] at htid
        exact Or.inr (Option.some.inj (htid.symm.trans (by cbv)))
    have hone : tid = 1 := (Cpu.threadKey_inj (c := ⟨"", n⟩)).1 hkey
    omega
  · exact ⟨hkind₂, 1, by rw [hcount₂]; rfl, .tid, List.mem_cons_self, 1, by rw [hfield₂]; cbv, rfl⟩

end Builder

end CausalPath
