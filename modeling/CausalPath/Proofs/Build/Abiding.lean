import CausalPath.Proofs.Build.Rules

/-!
# What steps do to the system

Few steps of a builder write to what is known of the system: a wakeup changes a status, the worker
of the interrupts of a CPU is set up, and handlers are entered and left. A relation that permits
these holds between the systems before and after any step made of them. Errors are followed along
with it: the graph may refuse anything, and a step that looks something up says what is missing.
-/

namespace CausalPath

/-- The graph has refused something. -/
def BuildError.Refused (err : BuildError) : Prop := ∃ g, err = .graph g

namespace Build

variable {α β : Type} {r : SystemModel → SystemModel → Prop} {E : BuildError → Prop}

/-- The relation holds between the systems before and after the step, and if the step is rejected,
its error is one of these. -/
def Abides (r : SystemModel → SystemModel → Prop) (E : BuildError → Prop) (x : Build α) : Prop :=
  ∀ b, Ensures x b (fun _ b' => r b.system b'.system) fun err b' => E err ∧ r b.system b'.system

/-- What a relation between systems and a set of errors must permit to go through the steps of a
builder. -/
structure Permits (r : SystemModel → SystemModel → Prop) (E : BuildError → Prop) : Prop where
  refl : ∀ m, r m m
  trans : ∀ {m m' m''}, r m m' → r m' m'' → r m m''
  refused : ∀ err, E (.graph err)
  markWoken : ∀ m w, r m (m.markWoken w)
  setKernelWorker : ∀ m c w, r m (m.setKernelWorker c w)
  push : ∀ m c (x : Context), x.kind ≠ .none → r m (m.setContextStack c ((m.contextStack c).push x))
  pop : ∀ m c kind, r m (m.setContextStack c ((m.contextStack c).leave kind).2)

/-- Anything goes, as long as only the graph refuses. -/
theorem permits_refused : Permits (fun _ _ => True) BuildError.Refused where
  refl _ := trivial
  trans _ _ := trivial
  refused err := ⟨err, rfl⟩
  markWoken _ _ := trivial
  setKernelWorker _ _ _ := trivial
  push _ _ _ _ := trivial
  pop _ _ _ := trivial

namespace Permits

variable {x : Build α} {f : α → Build β} {e : Event} {c : Cpu}

/-! ## § 1. Sequence -/

theorem pure (h : Permits r E) (a : α) : Abides r E (Pure.pure a) := fun b => h.refl b.system

theorem throw (h : Permits r E) {err : BuildError} (herr : E err) :
    Abides r E (MonadExcept.throw err : Build α) := fun b => ⟨herr, h.refl b.system⟩

theorem get (h : Permits r E) : Abides r E MonadState.get := fun b => h.refl b.system

theorem system (h : Permits r E) : Abides r E system := fun b => h.refl b.system

theorem modify (h : Permits r E) {f : Builder → Builder} (hf : ∀ b, (f b).system = b.system) :
    Abides r E (modify f : Build PUnit) := fun b => hf b ▸ h.refl b.system

theorem track {f : SystemModel → SystemModel} (hf : ∀ m, r m (f m)) : Abides r E (track f) :=
  fun b => hf b.system

theorem bind (h : Permits r E) (hx : Abides r E x) (hf : ∀ a, Abides r E (f a)) :
    Abides r E (x >>= f) := by
  intro b
  rw [ensures_bind]
  refine (hx b).mono (fun a b' hb => ?_) fun _ _ hb => hb
  exact (hf a b').mono (fun _ _ hb' => h.trans hb hb') fun _ _ hb' => ⟨hb'.1, h.trans hb hb'.2⟩

/-! ## § 2. Steps on the graph -/

theorem store (h : Permits r E) (f : Graph → Except GraphError (α × Graph)) :
    Abides r E (store f) := by
  intro b
  unfold Build.store
  rw [ensures_bind, ensures_get]
  split
  · exact ⟨h.refused _, h.refl b.system⟩
  · exact h.refl b.system

theorem storeSteps (h : Permits r E) (f : Graph → Except GraphError α × Graph) :
    Abides r E (storeSteps f) := by
  intro b
  unfold Build.storeSteps
  rw [ensures_bind, ensures_get, ensures_bind, ensures_modify]
  split
  · exact ⟨h.refused _, h.refl b.system⟩
  · exact h.refl b.system

theorem networkEdge (h : Permits r E) (u v : VertexId) : Abides r E (networkEdge u v) := by
  apply h.modify
  intro b
  split <;> rfl

theorem takeLink (h : Permits r E) (w : WorkerId) : Abides r E (takeLink w) :=
  fun b => h.refl b.system

theorem appendVertex (h : Permits r E) (w : WorkerId) (v : VertexId) (s : EdgeState)
    (q : Option String) : Abides r E (appendVertex w v s q) := by
  refine h.bind (h.takeLink w) fun link => ?_
  cases link with
  | none => exact h.bind (h.store _) fun _ => h.pure _
  | some l => exact h.bind (h.networkEdge _ _) fun _ => h.bind (h.store _) fun _ => h.pure _

theorem redirectLink (h : Permits r E) (w : WorkerId) (v : VertexId) :
    Abides r E (redirectLink w v) := by
  refine h.bind (h.takeLink w) fun link => ?_
  cases link with
  | none => exact h.pure _
  | some l => exact h.networkEdge _ _

theorem keepLink (h : Permits r E) (p : MatchedPair VertexId) : Abides r E (keepLink p) := by
  apply h.modify
  intro b
  dsimp only
  split
  · split <;> rfl
  · rfl
  · rfl

theorem grow (h : Permits r E) (w : WorkerId) (t : Time) (s : EdgeState) (q : Option String) :
    Abides r E (grow w t s q) :=
  h.bind (h.store _) fun _ => h.bind (h.appendVertex _ _ _ _) fun _ => h.pure _

theorem changeState (h : Permits r E) (w : WorkerId) (t : Time) : Abides r E (changeState w t) :=
  h.bind h.system fun _ => h.grow _ _ _ _

theorem extendState (h : Permits r E) (w : WorkerId) (t : Time) : Abides r E (extendState w t) :=
  h.bind h.system fun _ => h.grow _ _ _ _

/-! ## § 3. Steps on the system -/

theorem tidOf (h : Permits r E) {field : String}
    (hnone : e.tid? field = none → E (.unknownWorker e.name field)) :
    Abides r E (tidOf e field) := by
  intro b
  cases htid : e.tid? field with
  | some tid => exact (ensures_tidOf_of_some htid).2 (h.refl b.system)
  | none => exact (ensures_tidOf_of_none htid).2 ⟨hnone htid, h.refl b.system⟩

theorem threadOf (h : Permits r E) {field : String}
    (hnone : e.tid? field = none → E (.unknownWorker e.name field)) (c : Cpu)
    (nameField : String) : Abides r E (threadOf e c field nameField) :=
  h.bind (h.tidOf hnone) fun _ => h.store _

theorem currentOf (h : Permits r E) (hnone : ∀ field, E (.unknownWorker e.name field)) (c : Cpu) :
    Abides r E (currentOf e c) := by
  refine h.bind h.system fun m => ?_
  split
  · exact h.pure _
  · exact h.throw (hnone _)

theorem kernelWorker (h : Permits r E) (c : Cpu) : Abides r E (kernelWorker c) := by
  intro b
  unfold Build.kernelWorker SystemModel.kernelWorker
  rw [ensures_bind, ensures_get]
  cases b.system.kernelWorker? c with
  | some w => exact h.refl b.system
  | none =>
    dsimp only
    cases b.graph.addWorker (.kernel c.host c.number) with
    | error err => exact ⟨h.refused _, h.refl b.system⟩
    | ok added => exact h.setKernelWorker b.system c added.1

theorem enter (h : Permits r E) (c : Cpu) {x : Context} (hx : x.kind ≠ .none) :
    Abides r E (enter c x) :=
  track fun m => h.push m c x hx

theorem leave (h : Permits r E) (c : Cpu) {kind : ContextKind}
    (hnone : E (.unmatchedContext c.number kind)) : Abides r E (leave c kind) := by
  intro b
  have hpop := h.pop b.system c kind
  unfold Build.leave
  simp only [ensures_bind, ensures_system, ensures_track]
  split
  · exact ⟨hnone, hpop⟩
  · exact hpop

/-! ## § 4. Wakeups -/

theorem forkWakeup (h : Permits r E) (target : WorkerId) (current : Option WorkerId) (t : Time) :
    Abides r E (forkWakeup target current t) := by
  unfold Build.forkWakeup
  split
  · exact h.bind (h.extendState _ _) fun _ => h.bind (h.changeState _ _) fun _ =>
      h.bind (h.storeSteps _) fun _ => h.pure _
  · exact h.bind (h.changeState _ _) fun _ => h.pure _

theorem threadWakeup (h : Permits r E) (target : WorkerId) (current : Option WorkerId) (t : Time) :
    Abides r E (threadWakeup target current t) := by
  refine h.bind (h.changeState _ _) fun v => ?_
  split
  · exact h.bind (h.extendState _ _) fun _ => h.bind (h.store _) fun _ => h.pure _
  · exact h.pure _

theorem softIrqWakeup (h : Permits r E) (target : WorkerId) (x : Context) (c : Cpu) (t : Time) :
    Abides r E (softIrqWakeup target x c t) := by
  refine h.bind (h.grow _ _ _ _) fun v => ?_
  split
  · refine h.bind h.system fun m => ?_
    split
    · exact h.redirectLink _ _
    · exact h.pure _
  · exact h.pure _

theorem receptionWakeup (h : Permits r E) (target : WorkerId) (current : Option WorkerId) (c : Cpu)
    (t : Time) : Abides r E (receptionWakeup target current c t) := by
  refine h.bind h.system fun m => ?_
  dsimp only
  split
  · exact h.bind (h.kernelWorker c) fun _ => h.bind (h.grow _ _ _ _) fun _ => h.redirectLink _ _
  · refine h.bind h.get fun b => h.bind (h.grow _ _ _ _) fun v => ?_
    split
    · exact h.redirectLink _ _
    · exact h.pure _

theorem blockedWakeup (h : Permits r E) (target : WorkerId) (current : Option WorkerId) (c : Cpu)
    (t : Time) : Abides r E (blockedWakeup target current c t) := by
  have hgrow : ∀ s q, Abides r E (do let _ ← Build.grow target t s q) := fun s q =>
    h.bind (h.grow _ _ _ _) fun _ => h.pure _
  refine h.bind h.system fun m => ?_
  dsimp only
  split
  · exact hgrow _ _
  · exact h.bind h.get fun _ => hgrow _ _
  · exact h.bind h.get fun _ => hgrow _ _
  · exact h.softIrqWakeup _ _ _ _
  · exact hgrow _ _
  · exact h.receptionWakeup _ _ _ _
  · exact h.threadWakeup _ _ _

/-! ## § 5. Handlers -/

theorem wakeup (h : Permits r E) (f : FieldNames) (c : Cpu)
    (hnone : e.tid? (f .tid) = none → E (.unknownWorker e.name (f .tid))) :
    Abides r E (wakeup f e c) := by
  refine h.bind (h.threadOf hnone _ _) fun target => h.bind (track fun m => h.markWoken m target)
    fun _ => h.bind h.system fun m => ?_
  split
  · exact h.forkWakeup _ _ _
  · exact h.blockedWakeup _ _ _ _
  · exact h.pure _

/-- A thread is looked up and its status is set. -/
theorem setStatus (h : Permits r E) {s : ProcessStatus} (hset : ∀ m w, r m (m.setStatus w s))
    {field : String} (hnone : e.tid? field = none → E (.unknownWorker e.name field)) (c : Cpu)
    (nameField : String) :
    Abides r E (do let w ← Build.threadOf e c field nameField; Build.track (·.setStatus w s)) :=
  h.bind (h.threadOf hnone _ _) fun w => track fun m => hset m w

theorem softIrqEntry (h : Permits r E) (f : FieldNames) (e : Event) (c : Cpu) :
    Abides r E (softIrqEntry f e c) := by
  refine h.bind (h.enter c (by simp)) fun _ => ?_
  split
  · exact h.bind (h.kernelWorker c) fun _ => h.bind (h.store _) fun _ => h.bind (h.store _) fun _ =>
      h.pure _
  · exact h.pure _

theorem submitEnd (h : Permits r E) (w : WorkerId) (k : PacketKey) (d : MatchDirection) (t : Time) :
    Abides r E (submitEnd w k d t) := by
  refine h.bind (h.extendState _ _) fun v => h.bind h.get fun b => ?_
  refine h.bind (h.modify fun _ => rfl) fun _ => ?_
  split
  · exact h.keepLink _
  · exact h.pure _

theorem networkSend (h : Permits r E) (f : FieldNames)
    (hnone : ∀ field, E (.unknownWorker e.name field)) (c : Cpu) :
    Abides r E (networkSend f e c) := by
  unfold Build.networkSend
  split
  · refine h.bind h.system fun m => ?_
    split
    · exact h.bind (h.currentOf hnone c) fun _ => h.submitEnd _ _ _ _
    · exact h.bind (h.kernelWorker c) fun _ => h.submitEnd _ _ _ _
    · exact h.pure _
  · exact h.pure _

theorem networkReceive (h : Permits r E) (f : FieldNames)
    (hnone : ∀ field, E (.unknownWorker e.name field)) (c : Cpu) :
    Abides r E (networkReceive f e c) := by
  unfold Build.networkReceive
  split
  · refine h.bind h.system fun m => ?_
    split
    · exact h.bind (h.kernelWorker c) fun _ => h.submitEnd _ _ _ _
    · exact h.bind (h.kernelWorker c) fun _ => h.submitEnd _ _ _ _
    · exact h.bind (h.currentOf hnone c) fun _ => h.submitEnd _ _ _ _
  · exact h.pure _


/-- What goes through every step goes through the events that set no status. -/
theorem handle (h : Permits r E) (hall : ∀ err, E err) (f : FieldNames) {kind : EventKind}
    (hswitch : kind ≠ .schedSwitch) (hfork : kind ≠ .fork) (hexit : kind ≠ .exit) (e : Event)
    (c : Cpu) : Abides r E (handle f kind e c) := by
  cases kind with
  | schedSwitch => exact absurd rfl hswitch
  | fork => exact absurd rfl hfork
  | exit => exact absurd rfl hexit
  | wakeup => exact h.wakeup f c fun _ => hall _
  | softIrqEntry => exact h.softIrqEntry f e c
  | networkSend => exact h.networkSend f (fun _ => hall _) c
  | networkReceive => exact h.networkReceive f (fun _ => hall _) c
  | irqEntry | hrTimerEntry | ipiEntry | completeIrqEntry | packetReceptionEntry =>
    exact h.enter c (by simp)
  | irqExit | softIrqExit | hrTimerExit | ipiExit | completeIrqExit | packetReceptionExit =>
    exact h.leave c (hall _)

end Permits

end Build

end CausalPath
