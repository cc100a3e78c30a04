import CausalPath.Proofs.Build.Abiding
import CausalPath.Proofs.Build.Run

/-!
# Rejected events

An event that is rejected changes nothing. Every handler looks up what may be missing before it
writes: a switch checks both thread ids before it registers a thread, and a handler that was never
entered leaves an empty stack as it is. Only the graph could refuse something later, and it refuses
nothing that a builder asks of it.
-/

namespace CausalPath

/-! ## § 1. Systems and builders that are the same -/

/-- The same is known of the traced systems. -/
structure SystemModel.Alike (m m' : SystemModel) : Prop where
  statuses : ∀ w, m'.statusPair w = m.statusPair w
  running : ∀ c, m'.current? c = m.current? c
  handlers : ∀ c, m'.contextStack c = m.contextStack c
  kernels : ∀ c, m'.kernelWorker? c = m.kernelWorker? c

namespace SystemModel.Alike

theorem refl (m : SystemModel) : m.Alike m :=
  ⟨fun _ => rfl, fun _ => rfl, fun _ => rfl, fun _ => rfl⟩

/-- A stack may be written back. -/
theorem setContextStack_self (m : SystemModel) (c : Cpu) :
    m.Alike (m.setContextStack c (m.contextStack c)) where
  statuses _ := rfl
  running _ := rfl
  handlers c' := by
    rw [contextStack_setContextStack]
    split
    · rename_i hc
      rw [hc]
    · rfl
  kernels _ := rfl

end SystemModel.Alike

theorem ContextStack.leave_of_unmatched {s : ContextStack} {kind : ContextKind}
    (h : (s.leave kind).1 = .unmatched) : (s.leave kind).2 = s := by
  unfold leave at h ⊢
  split
  · rfl
  · rename_i top rest hframes
    rw [hframes] at h
    dsimp only at h
    split at h <;> exact absurd h (by simp)

/-- Nothing has happened to a builder. -/
def Builder.Unmoved (b b' : Builder) : Prop :=
  ∃ m, b.system.Alike m ∧ b' = { b with system := m }

theorem Builder.Unmoved.refl (b : Builder) : b.Unmoved b := ⟨b.system, .refl b.system, rfl⟩

namespace Build

variable {α β : Type} {x : Build α} {f : α → Build β} {e : Event} {c : Cpu} {field : String}

/-! ## § 2. Steps that are careful -/

/-- Unless the graph refuses something, the step does nothing before it is rejected. -/
def Careful (x : Build α) : Prop :=
  ∀ b, Ensures x b (fun _ _ => True) fun err b' => err.Refused ∨ b.Unmoved b'

/-- A step that only the graph may refuse. -/
theorem careful_of_abides (h : Abides (fun _ _ => True) BuildError.Refused x) :
    Careful x :=
  fun b => (h b).mono (fun _ _ _ => trivial) fun _ _ hb => Or.inl hb.1

theorem careful_pure (a : α) : Careful (pure a) := careful_of_abides (permits_refused.pure a)

/-- A step that writes nothing may be rejected. -/
theorem Careful.read (hx : ∀ b, Ensures x b (fun _ b' => b' = b) fun _ b' => b' = b)
    (hf : ∀ a, Careful (f a)) : Careful (x >>= f) := by
  intro b
  rw [ensures_bind]
  refine (hx b).mono ?_ ?_
  · rintro a _ rfl
    exact hf a _
  · rintro _ _ rfl
    exact Or.inr (.refl _)

theorem careful_system {f : SystemModel → Build β} (hf : ∀ m, Careful (f m)) :
    Careful (system >>= f) :=
  .read (fun _ => rfl) hf

theorem careful_currentOf {f : WorkerId → Build β} (hf : ∀ w, Careful (f w)) :
    Careful (currentOf e c >>= f) := by
  refine .read (fun b => ?_) hf
  unfold currentOf
  rw [ensures_bind, ensures_system]
  split <;> rfl

/-- An event without the thread it is about is rejected at once. -/
theorem careful_threadOf {nameField : String} {f : WorkerId → Build β}
    (hx : (∃ tid, e.tid? field = some tid) →
      Abides (fun _ _ => True) BuildError.Refused
        (threadOf e c field nameField >>= f)) :
    Careful (threadOf e c field nameField >>= f) := by
  intro b
  cases htid : e.tid? field with
  | none =>
    rw [ensures_bind, ensures_threadOf_of_none htid]
    exact Or.inr (.refl b)
  | some tid => exact careful_of_abides (hx ⟨tid, htid⟩) b

/-! ## § 3. Handlers -/

/-- Both threads of a switch are checked before either is registered. -/
theorem careful_schedSwitch (f : FieldNames) (e : Event) (c : Cpu) :
    Careful (schedSwitch f e c) := by
  intro b
  unfold schedSwitch
  cases hprev : e.tid? (f .prevTid) with
  | none =>
    rw [ensures_bind, ensures_tidOf_of_none hprev]
    exact Or.inr (.refl b)
  | some i =>
    rw [ensures_bind, ensures_tidOf_of_some hprev]
    cases hnext : e.tid? (f .nextTid) with
    | none =>
      rw [ensures_bind, ensures_tidOf_of_none hnext]
      exact Or.inr (.refl b)
    | some j =>
      rw [ensures_bind, ensures_tidOf_of_some hnext]
      -- both threads are known, so from here on only the graph may refuse
      have h := permits_refused
      have hset : ∀ f, Abides (fun _ _ => True) BuildError.Refused (track f) :=
        fun _ => Permits.track fun _ => trivial
      refine careful_of_abides ?_ b
      refine h.bind (h.threadOf (by simp [hprev]) c _) fun previous => ?_
      refine h.bind (h.threadOf (by simp [hnext]) c _) fun next => ?_
      refine h.bind (hset _) fun _ => h.bind (hset _) fun _ => h.bind (hset _) fun _ => ?_
      exact h.bind (h.changeState _ _) fun _ => h.bind (h.changeState _ _) fun _ => h.pure _

/-- A handler that was never entered is left by nothing. -/
theorem careful_leave (c : Cpu) (kind : ContextKind) : Careful (leave c kind) := by
  intro b
  unfold leave
  simp only [ensures_bind, ensures_system, ensures_track]
  split
  · rename_i hunmatched
    rw [ContextStack.leave_of_unmatched hunmatched]
    exact Or.inr ⟨_, .setContextStack_self b.system c, rfl⟩
  · trivial

theorem careful_networkSend (f : FieldNames) (e : Event) (c : Cpu) :
    Careful (networkSend f e c) := by
  have h := permits_refused
  unfold networkSend
  split
  · refine careful_system fun m => ?_
    split
    · exact careful_currentOf fun w => careful_of_abides (h.submitEnd _ _ _ _)
    · exact careful_of_abides (h.bind (h.kernelWorker c) fun _ => h.submitEnd _ _ _ _)
    · exact careful_pure _
  · exact careful_pure _

theorem careful_networkReceive (f : FieldNames) (e : Event) (c : Cpu) :
    Careful (networkReceive f e c) := by
  have h := permits_refused
  have hkernel : ∀ k, Careful (do submitEnd (← kernelWorker c) k .receive e.time) := fun k =>
    careful_of_abides (h.bind (h.kernelWorker c) fun _ => h.submitEnd _ _ _ _)
  unfold networkReceive
  split
  · refine careful_system fun m => ?_
    split
    · exact hkernel _
    · exact hkernel _
    · exact careful_currentOf fun w => careful_of_abides (h.submitEnd _ _ _ _)
  · exact careful_pure _

theorem careful_handle (f : FieldNames) (kind : EventKind) (e : Event) (c : Cpu) :
    Careful (handle f kind e c) := by
  have h := permits_refused
  cases kind with
  | schedSwitch => exact careful_schedSwitch f e c
  | wakeup => exact careful_threadOf fun ⟨_, htid⟩ => h.wakeup f c (by simp [htid])
  | fork | exit =>
    exact careful_threadOf fun ⟨_, htid⟩ => h.setStatus (fun _ _ => trivial) (by simp [htid]) c _
  | softIrqEntry => exact careful_of_abides (h.softIrqEntry f e c)
  | networkSend => exact careful_networkSend f e c
  | networkReceive => exact careful_networkReceive f e c
  | irqEntry | hrTimerEntry | ipiEntry | completeIrqEntry | packetReceptionEntry =>
    exact careful_of_abides (h.enter c (by simp))
  | irqExit | softIrqExit | hrTimerExit | ipiExit | completeIrqExit | packetReceptionExit =>
    exact careful_leave c _

end Build

/-! ## § 4. Events -/

namespace Builder

variable {strict : Prop} {b₀ b b' : Builder} {e : Event} {err : BuildError}

open Build

/-- What is left of a rejected event, but for its count. -/
def Skips (b : Builder) (e : Event) (b' : Builder) : Prop :=
  ∃ m last, b.system.Alike m ∧ (last = b.lastTime ∨ last = some e.time) ∧
    b' = { b with system := m, lastTime := last }

theorem ensures_dispatch_skips (b : Builder) (e : Event) :
    Ensures (dispatch e) b (fun _ _ => True) fun err b' => err.Refused ∨ b.Skips e b' := by
  have hstart : b.Skips e { b with lastTime := some e.time } :=
    ⟨b.system, some e.time, .refl b.system, Or.inr rfl, rfl⟩
  apply ensures_dispatch
  · exact fun _ _ _ => Or.inr ⟨b.system, b.lastTime, .refl b.system, Or.inl rfl, rfl⟩
  · exact fun _ _ => trivial
  · exact fun _ _ _ _ => Or.inr hstart
  · intro _ kind n _ _
    refine (careful_handle b.layout.fields kind e ⟨e.host, n⟩ _).mono (fun _ _ _ => trivial) ?_
    rintro err b' (hgraph | ⟨m, hm, rfl⟩)
    · exact Or.inl hgraph
    · exact Or.inr ⟨m, some e.time, hm, Or.inr rfl, rfl⟩

theorem Between.process_rejected (h : Between strict b)
    (hnext : strict → ∀ t, b.lastTime = some t → t < e.time)
    (hrejected : b.process e = (.error err, b')) :
    (∀ g, err ≠ .graph g) ∧
      ∃ b₁, b.Skips e b₁ ∧ b' = { b₁ with counters := b₁.counters.reject err } := by
  have hrefused : ∀ g, err ≠ .graph g := by
    rintro g rfl
    exact (h.process hnext).1 g (congrArg Prod.fst hrejected)
  rcases (ensures_dispatch_skips b e).process with ⟨known, b₁, -, heq⟩ | ⟨err', b₁, hskips, heq⟩
  · rw [hrejected] at heq
    exact absurd (congrArg Prod.fst heq) (by simp)
  · rw [hrejected] at heq
    obtain ⟨herr, rfl⟩ := Prod.mk.inj heq
    obtain rfl := Except.error.inj herr
    exact ⟨hrefused, b₁, hskips.resolve_left fun ⟨g, hg⟩ => hrefused g hg, rfl⟩

theorem discardedLinks_reject (c : BuildCounters) (err : BuildError) :
    (c.reject err).discardedLinks = c.discardedLinks := by
  cases err <;> rfl

/-- An event that is rejected has no effect. After any trace the graph, what is known of the traced
systems, the matcher and the packets that wait to become edges are left as they were. Of the
counters only the number of rejected events and that of the error move, and the clock may move on to
the event. The error is never one of the graph. -/
theorem rejected_events_change_nothing {start : Time} {cfg : Config} {es : List Event}
    (hnew : Builder.new (.new start) cfg = .ok b₀) (hrun : b₀.processAll es = b)
    (hrejected : b.process e = (.error err, b')) :
    b'.graph = b.graph ∧ b.system.Alike b'.system ∧ b'.matcher = b.matcher ∧ b'.links = b.links ∧
      b'.counters = b.counters.reject err ∧
      b'.counters.discardedLinks = b.counters.discardedLinks ∧
      (b'.lastTime = b.lastTime ∨ b'.lastTime = some e.time) ∧ ∀ g, err ≠ .graph g := by
  have hbetween := between_run hnew hrun
  obtain ⟨hrefused, _, ⟨m, last, hm, hlast, rfl⟩, rfl⟩ :=
    hbetween.process_rejected False.elim hrejected
  exact ⟨rfl, hm, rfl, rfl, rfl, discardedLinks_reject _ _, hlast, hrefused⟩

/-- A switch that does not say which thread runs next. -/
def unfinishedSwitch : Event := (Event.new "sched_switch" 20 0).withField "prev_tid" (.int 7)

/-- The switch is rejected. Its first thread is not registered, and the packet that waits goes on
waiting. -/
theorem unfinishedSwitch_changes_nothing : ∃ b₀ b b', Builder.new (.new 0) .standard = .ok b₀ ∧
    b₀.processAll packetTrace = b ∧
    b.process unfinishedSwitch = (.error (.unknownWorker "sched_switch" "next_tid"), b') ∧
    b'.graph = b.graph ∧ b'.pendingLink? ⟨1⟩ = some ⟨⟨4⟩, ⟨5⟩⟩ ∧ b'.counters.dropped = 1 ∧
    b'.counters.unknownWorkers = 1 ∧ b'.counters.discardedLinks = 1 := by
  have hrun : (Builder.new (.new 0) .standard).map (fun b₀ =>
      let b := b₀.processAll packetTrace
      (b.counters, b.pendingLink? ⟨1⟩, (b.process unfinishedSwitch).1)) =
      .ok (⟨5, 0, 0, 0, 0, 0, 0, 0, 1⟩, some ⟨⟨4⟩, ⟨5⟩⟩,
        .error (.unknownWorker "sched_switch" "next_tid")) := by cbv
  obtain ⟨b₀, hnew, heq⟩ := map_eq_ok.1 hrun
  simp only [Prod.mk.injEq] at heq
  obtain ⟨hcounters, hpending, hrejected⟩ := heq
  obtain ⟨hgraph, -, -, hlinks, hcounted, -⟩ :=
    rejected_events_change_nothing hnew rfl (Prod.ext hrejected rfl)
  rw [hcounters] at hcounted
  refine ⟨b₀, _, _, hnew, rfl, Prod.ext hrejected rfl, hgraph, ?_, ?_, ?_, ?_⟩
  · rw [pendingLink?, hlinks]
    exact hpending
  · rw [hcounted]
    rfl
  · rw [hcounted]
    rfl
  · rw [hcounted]
    rfl

end Builder

end CausalPath
