import CausalPath.Proofs.Build.Steps

/-!
# What the handlers do

The handlers of events that bring no packet, one after the other as they are written. Each takes a
builder from the start of an event to its end, whether the event is handled or rejected.
-/

namespace CausalPath

open CausalPath.Graph

variable {strict : Prop} {b₀ b : Builder} {t : Time} {F : List Vertex}

/-- Taken by `b` in an event at time `t` that met `b₀`, the step ends the event with this
outcome. -/
def Build.Settles (strict : Prop) (b₀ : Builder) (t : Time) (o : Builder.Outcome) (x : Build Unit)
    (b : Builder) : Prop :=
  Build.Ensures x b (fun _ b' => Builder.Handled strict b₀ t o b') (Builder.Rejected strict b₀ t o)

namespace Builder

open Build

/-! ## § 1. Scheduling -/

theorem During.schedSwitch {e : Event} (h : During strict b₀ e.time [] b) (f : FieldNames)
    (c : Cpu) : Settles strict b₀ e.time b₀.quiet (schedSwitch f e c) b := by
  unfold Settles Build.schedSwitch
  refine (h.tidOf e _).bind ?_
  rintro _ _ rfl
  refine (h.tidOf e _).bind ?_
  rintro _ _ rfl
  refine (h.threadOf e c _ _).bind ?_
  rintro previous b₁ ⟨h₁, hprevious, -⟩
  refine (h₁.threadOf e c _ _).bind ?_
  rintro next b₂ ⟨h₂, hnext, henrols⟩
  have hprevious := henrols _ hprevious
  simp only [ensures_bind, ensures_track, ensures_pure]
  generalize (if (e.int? (f .prevState)).getD 0 = 0 then ProcessStatus.waitCpu
    else .waitBlocked) = status
  have h₃ := (h₂.trackStatus (m := (b₂.system.setStatus previous status).setStatus next .run)
    rfl rfl).trackCurrent c hnext
  refine (h₃.changeState hprevious).mono ?_ fun _ _ hr => hr
  intro v b₄ hgrew
  have h₄ := hgrew.during (by simp)
  exact (h₄.changeState (hgrew.enrols _ hnext)).mono (fun _ _ hlast => hlast.handled)
    fun _ _ hr => hr

theorem During.fork {e : Event} (h : During strict b₀ e.time [] b) (f : FieldNames) (c : Cpu) :
    Settles strict b₀ e.time b₀.quiet (fork f e c) b := by
  unfold Settles Build.fork
  refine (h.threadOf e c _ _).bind ?_
  rintro child b₁ ⟨h₁, -, -⟩
  exact (h₁.trackStatus (m := b₁.system.setStatus child .waitFork) rfl rfl).toHandled

theorem During.exit {e : Event} (h : During strict b₀ e.time [] b) (f : FieldNames) (c : Cpu) :
    Settles strict b₀ e.time b₀.quiet (exit f e c) b := by
  unfold Settles Build.exit
  refine (h.threadOf e c _ _).bind ?_
  rintro w b₁ ⟨h₁, -, -⟩
  exact (h₁.trackStatus (m := b₁.system.setStatus w .exit) rfl rfl).toHandled

/-! ## § 2. Handlers of interrupts -/

theorem During.enter (h : During strict b₀ t F b) (c : Cpu) (context : Context) :
    Ensures (enter c context) b (fun _ b' => During strict b₀ t F b')
      (Rejected strict b₀ t b₀.quiet) :=
  h.trackStatus rfl rfl

theorem During.leave (h : During strict b₀ t F b) (c : Cpu) (kind : ContextKind) :
    Settles strict b₀ t b₀.quiet (leave c kind) b := by
  unfold Settles Build.leave
  simp only [ensures_bind, ensures_system, ensures_track]
  have hleft := h.trackStatus
    (m := b.system.setContextStack c ((b.system.contextStack c).leave kind).2) rfl rfl
  split
  · exact ⟨by simp, hleft.toHandled⟩
  · exact hleft.toHandled

/-- The start of a soft interrupt is marked by a vertex without a state. -/
theorem During.addVertex (h : During strict b₀ t F b) {w : WorkerId}
    (hw : (b.graph.worker? w).isSome) (hbegins : b₀.scene.Begins t w b.scene) :
    Ensures (do let v ← store (·.createVertex w t); let _ ← store (·.add v)) b
      (fun _ b' => Handled strict b₀ t b₀.quiet b') (Rejected strict b₀ t b₀.quiet) := by
  simp only [ensures_bind, ensures_pure]
  rw [ensures_store (h.createVertex hw)]
  exact h.append hw (by decide) none (.mark h.deeds hw hbegins)

theorem During.softIrqEntry {e : Event} (h : During strict b₀ e.time [] b)
    (hsystem : b.system = b₀.system) (f : FieldNames) (c : Cpu) :
    Settles strict b₀ e.time b₀.quiet (softIrqEntry f e c) b := by
  unfold Settles Build.softIrqEntry
  dsimp only
  rw [Build.enter, ensures_bind, ensures_track]
  have h₁ := h.trackStatus (m := b.system.setContextStack c ((b.system.contextStack c).push
    ⟨.softIrq, e.time, e.int? (f .softIrqVector), none⟩)) rfl rfl
  split
  · rename_i hnetwork
    refine (h₁.kernelWorker c).bind ?_
    rintro kernel b₂ ⟨h₂, hw, -, hkernel, hcontexts⟩
    refine h₂.addVertex hw ⟨c, _, ?_, hnetwork, hkernel⟩
    show (b₂.system.contexts.get? c).getD .empty = (b₀.system.contextStack c).push _
    rw [hcontexts, ← hsystem]
    exact (SystemModel.contextStack_setContextStack _ _ _ _).trans (if_pos rfl)
  · exact h₁.toHandled

/-! ## § 3. Wakeups -/

theorem irqEdge_ne_epsilon (vectors : List Int) (context : Context) :
    (irqEdge vectors context).1 ≠ .epsilon := by
  unfold irqEdge
  split
  · simp
  · split <;> simp

theorem softIrqEdge_ne_epsilon (vector : Option Int) : softIrqEdge vector ≠ .epsilon := by
  unfold softIrqEdge
  split
  · simp
  · repeat' split
    all_goals simp

variable {target : WorkerId} {current : Option WorkerId}

/-- A thread is woken by its parent, which is another thread. -/
theorem During.forkWakeup (h : During strict b₀ t [] b)
    (htarget : (b.graph.worker? target).isSome)
    (hcurrent : ∀ w, current = some w → (b.graph.worker? w).isSome) :
    Settles strict b₀ t b₀.quiet (forkWakeup target current t) b := by
  unfold Settles Build.forkWakeup
  split
  · rename_i parent hparent
    obtain ⟨hcur, hne⟩ := Option.filter_eq_some_iff.1 hparent
    have hne : parent ≠ target := by simpa using hne
    refine (h.extendState (hcurrent parent hcur)).bind ?_
    intro u b₁ hu
    refine ((hu.during (by simp)).changeState (hu.enrols _ htarget)).bind ?_
    intro v b₂ hv
    have h₂ := hv.during (by simpa using hne)
    obtain ⟨hadm, hjoined⟩ := h₂.join (u := ⟨u, parent, t⟩) (v := ⟨v, target, t⟩) (by simp)
      (by simp) hne
    have hfu := h₂.fresh ⟨u, parent, t⟩ (by simp)
    have hfv := h₂.fresh ⟨v, target, t⟩ (by simp)
    have hparents : b₂.graph.parent? u ≠ b₂.graph.parent? v := by
      rw [parent?_eq, parent?_eq, hfu.shown, hfv.shown]
      simpa using hne
    have hok := link_eq_pushEdge h₂.opened hfu.joined hfv.joined hparents hadm
    rw [ensures_bind, ensures_storeSteps hok]
    exact hjoined
  · exact (h.changeState htarget).bind fun _ _ hgrew => hgrew.handled

/-- A thread wakes another one. -/
theorem During.ensures_threadWakeup (h : During strict b₀ t [] b)
    (htarget : (b.graph.worker? target).isSome)
    (hcurrent : ∀ w, current = some w → (b.graph.worker? w).isSome) {R : BuildError → Builder → Prop}
    {Q : Unit → Builder → Prop} :
    Ensures (threadWakeup target current t) b Q R ↔
      Q () (match current.filter (· ≠ target) with
        | none => b.grownBy target t (b.system.oldStatus target).edgeState none
        | some waker => b.wokenBy target waker t (b.system.oldStatus target).edgeState
            (b.system.status waker).edgeState) := by
  unfold Build.threadWakeup
  rw [ensures_bind, h.ensures_changeState htarget]
  have hs := edgeState_ne_epsilon (b.system.oldStatus target)
  cases hwaker : current.filter (· ≠ target) with
  | none => rfl
  | some waker =>
    obtain ⟨hcur, hne⟩ := Option.filter_eq_some_iff.1 hwaker
    have hne : waker ≠ target := by simpa using hne
    have hw := hcurrent waker hcur
    have hgrew := h.grew htarget hs none
    rw [ensures_bind, (hgrew.during (by simp)).ensures_extendState (hgrew.enrols _ hw),
      system_grownBy, ensures_bind]
    have hboth := h.grew_both htarget hw hne hs (edgeState_ne_epsilon (b.system.status waker))
    exact hboth.ensures_join List.mem_cons_self (List.mem_cons_of_mem _ List.mem_cons_self) hne

/-- A thread is woken by another thread. -/
theorem During.threadWakeup (h : During strict b₀ t [] b)
    (htarget : (b.graph.worker? target).isSome)
    (hcurrent : ∀ w, current = some w → (b.graph.worker? w).isSome) :
    Settles strict b₀ t b₀.quiet (threadWakeup target current t) b := by
  refine (h.ensures_threadWakeup htarget hcurrent).2 ?_
  have hs := edgeState_ne_epsilon (b.system.oldStatus target)
  split
  · exact (h.grew htarget hs none).handled
  · rename_i waker hwaker
    obtain ⟨hcur, hne⟩ := Option.filter_eq_some_iff.1 hwaker
    exact h.wokenBy htarget (hcurrent waker hcur) (by simpa using hne) hs (edgeState_ne_epsilon _)

/-- A soft interrupt wakes a thread for the worker of its CPU, if it moves packets. -/
theorem During.ensures_softIrqWakeup (h : During strict b₀ t [] b)
    (htarget : (b.graph.worker? target).isSome) (context : Context) (c : Cpu)
    {R : BuildError → Builder → Prop} {Q : Unit → Builder → Prop} :
    Ensures (softIrqWakeup target context c t) b Q R ↔
      Q () (b.wokenFor target t (softIrqEdge context.vector) none
        (if context.vector.any SoftIrq.isNetwork then b.system.kernelWorker? c else none)) := by
  have hs := softIrqEdge_ne_epsilon context.vector
  unfold Build.softIrqWakeup
  rw [ensures_bind, h.ensures_grow htarget]
  split
  · rw [ensures_bind, ensures_system, system_grownBy]
    cases b.system.kernelWorker? c with
    | some kernel => exact h.ensures_wakeFor htarget hs none kernel
    | none => rfl
  · rfl

theorem During.softIrqWakeup (h : During strict b₀ t [] b)
    (htarget : (b.graph.worker? target).isSome) (context : Context) (c : Cpu) :
    Settles strict b₀ t b₀.quiet (softIrqWakeup target context c t) b :=
  (h.ensures_softIrqWakeup htarget context c).2
    (h.wokenFor htarget (softIrqEdge_ne_epsilon _) none _)

/-- The packet is received inside an interrupt. -/
def InKernel (b : Builder) (c : Cpu) : Prop :=
  (b.system.innerContext c).kind = .softIrq ∨ (b.system.innerContext c).kind = .irq

instance (b : Builder) (c : Cpu) : Decidable (b.InKernel c) := inferInstanceAs (Decidable (_ ∨ _))

/-- The reception of a packet wakes a thread for the worker of its CPU, if it is inside an interrupt,
and otherwise for the thread that runs. -/
theorem During.receptionWakeup_wokenFor (h : During strict b₀ t [] b)
    (htarget : (b.graph.worker? target).isSome) (c : Cpu) {R : BuildError → Builder → Prop} :
    Ensures (receptionWakeup target current c t) b (fun _ b' => ∃ b₁, During strict b₀ t [] b₁ ∧
      (b₁.graph.worker? target).isSome ∧ b.Untouched b₁ ∧
      b' = b₁.wokenFor target t .network
        (if b.InKernel c then none else (current.bind b.graph.worker?).map (·.name))
        (if b.InKernel c then b₁.system.kernelWorker? c else current)) R := by
  unfold Build.receptionWakeup
  rw [ensures_bind, ensures_system]
  dsimp only
  by_cases hinner : b.InKernel c
  · rw [if_pos (show _ ∨ _ from hinner)]
    refine ((h.kernelWorker c).and (h.kernelWorker_untouched c)).bind ?_
    rintro kernel b₁ ⟨⟨h₁, -, henrols, hkernel, -⟩, hsame⟩
    have htarget₁ := henrols _ htarget
    rw [ensures_bind, h₁.ensures_grow htarget₁]
    refine (h₁.ensures_wakeFor htarget₁ (by decide) none kernel).2
      ⟨b₁, h₁, htarget₁, hsame, ?_⟩
    rw [if_pos hinner, if_pos hinner, hkernel]
  · rw [if_neg (show ¬(_ ∨ _) from hinner), ensures_bind, ensures_get, ensures_bind,
      h.ensures_grow htarget]
    simp only [if_neg hinner]
    cases current with
    | none => exact ⟨b, h, htarget, .refl b, rfl⟩
    | some w =>
      exact (h.ensures_wakeFor htarget (by decide) _ w).2 ⟨b, h, htarget, .refl b, rfl⟩

theorem During.receptionWakeup (h : During strict b₀ t [] b)
    (htarget : (b.graph.worker? target).isSome) (c : Cpu) :
    Settles strict b₀ t b₀.quiet (receptionWakeup target current c t) b := by
  refine (h.receptionWakeup_wokenFor htarget c).mono ?_ fun _ _ hr => hr
  rintro _ _ ⟨b₁, h₁, htarget₁, -, rfl⟩
  exact h₁.wokenFor htarget₁ (by decide) _ _

theorem During.blockedWakeup (h : During strict b₀ t [] b)
    (htarget : (b.graph.worker? target).isSome)
    (hcurrent : ∀ w, current = some w → (b.graph.worker? w).isSome) (c : Cpu) :
    Settles strict b₀ t b₀.quiet (blockedWakeup target current c t) b := by
  unfold Settles Build.blockedWakeup
  have hgrow : ∀ s q, s ≠ EdgeState.epsilon →
      Settles strict b₀ t b₀.quiet (do let _ ← Build.grow target t s q) b := by
    intro s q hs
    exact (h.grow htarget hs q).bind fun _ _ hgrew => hgrew.handled
  rw [ensures_bind, ensures_system]
  dsimp only
  split
  · exact hgrow _ _ (by decide)
  · rw [ensures_bind, ensures_get]
    exact hgrow _ _ (irqEdge_ne_epsilon _ _)
  · rw [ensures_bind, ensures_get]
    exact hgrow _ _ (irqEdge_ne_epsilon _ _)
  · exact h.softIrqWakeup htarget _ c
  · exact hgrow _ _ (by decide)
  · exact h.receptionWakeup htarget c
  · exact h.threadWakeup htarget hcurrent

theorem During.wakeup {e : Event} (h : During strict b₀ e.time [] b) (f : FieldNames) (c : Cpu) :
    Settles strict b₀ e.time b₀.quiet (wakeup f e c) b := by
  unfold Settles Build.wakeup
  refine (h.threadOf e c _ _).bind ?_
  rintro target b₁ ⟨h₁, htarget, -⟩
  rw [ensures_bind, ensures_track, ensures_bind, ensures_system]
  have h₂ := h₁.trackStatus (m := b₁.system.markWoken target) rfl rfl
  split
  · exact h₂.forkWakeup htarget fun w hw => h₂.known.running c w hw
  · exact h₂.blockedWakeup htarget (fun w hw => h₂.known.running c w hw) c
  · exact h₂.toHandled

end Builder

end CausalPath
