import CausalPath.Proofs.Build.Handlers
import CausalPath.Proofs.Hosts.Twins

/-!
# The same event on two builders

The handlers of events that bring no packet, one after the other as they are written. Taken by two
builders that show the same of a host, an event of the host ends in the same way, and they show the
same afterwards.
-/

namespace CausalPath

open CausalPath.Graph

variable {host : String} {b₀ B₀ b B : Builder} {t : Time} {F G : List Vertex} {kind : WorkerKind}
  {w w' : WorkerId}

namespace Builder

open Build

/-! ## § 1. News of the system -/

theorem Paired.changeStatus (h : Paired host b₀ B₀ t F G b B) (hk : Kin host kind b B w w')
    (f : StatusPair → StatusPair) :
    Paired host b₀ B₀ t F G { b with system := b.system.changeStatus w f }
      { B with system := B.system.changeStatus w' f } :=
  h.write (h.left.housed.changeStatus h.left.sound hk.left f)
    (h.right.housed.changeStatus h.right.sound hk.right f)
    (h.left.trackStatus rfl rfl) (h.right.trackStatus rfl rfl)

theorem Paired.setCurrent (h : Paired host b₀ B₀ t F G b B) (hk : Kin host kind b B w w')
    (n : Nat) :
    Paired host b₀ B₀ t F G { b with system := b.system.setCurrent ⟨host, n⟩ w }
      { B with system := B.system.setCurrent ⟨host, n⟩ w' } :=
  h.write (h.left.housed.setCurrent h.left.sound hk.left n)
    (h.right.housed.setCurrent h.right.sound hk.right n)
    (h.left.trackCurrent ⟨host, n⟩ (h.left.sound.isSome_of_find hk.left))
    (h.right.trackCurrent ⟨host, n⟩ (h.right.sound.isSome_of_find hk.right))

theorem Paired.setContextStack (h : Paired host b₀ B₀ t F G b B) (n : Nat) (s : ContextStack) :
    Paired host b₀ B₀ t F G { b with system := b.system.setContextStack ⟨host, n⟩ s }
      { B with system := B.system.setContextStack ⟨host, n⟩ s } :=
  h.write (h.left.housed.setContextStack n s) (h.right.housed.setContextStack n s)
    (h.left.trackStatus rfl rfl) (h.right.trackStatus rfl rfl)

/-! ## § 2. Scheduling -/

theorem Paired.schedSwitch {e : Event} (h : Paired host b₀ B₀ e.time [] [] b B) (f : FieldNames)
    (n : Nat) :
    EndAlike host b₀ B₀ (schedSwitch f e ⟨host, n⟩) (schedSwitch f e ⟨host, n⟩) b B := by
  unfold EndAlike Build.schedSwitch
  refine (h.tidOf e _).bind ?_
  rintro _ _ _ _ ⟨-, rfl, rfl⟩
  refine (h.tidOf e _).bind ?_
  rintro _ _ _ _ ⟨-, rfl, rfl⟩
  refine (h.threadOf e n _ _).bind ?_
  rintro previous previous' b₁ B₁ ⟨_, h₁, hprevious, -⟩
  refine (h₁.threadOf e n _ _).bind ?_
  rintro next next' b₂ B₂ ⟨_, h₂, hnext, hm₂⟩
  have hprevious := h₁.kin h₂ hm₂ hprevious
  generalize (if (e.int? (f .prevState)).getD 0 = 0 then ProcessStatus.waitCpu
    else .waitBlocked) = status
  rw [twins_track, twins_track, twins_track]
  have h₃ := ((h₂.changeStatus hprevious (·.set status)).changeStatus (hnext.of_graph rfl rfl)
    (·.set .run)).setCurrent (hnext.of_graph rfl rfl) n
  refine (h₃.changeState (hprevious.of_graph rfl rfl)).bind ?_
  intro v v' b₄ B₄ hgrown
  have h₄ := hgrown.paired (by simp) (by simp)
  -- the two threads may be one, so nothing more is known of the vertices after this growth
  refine (h₄.changeState (h₃.kin h₄ hgrown.moved (hnext.of_graph rfl rfl))).bind ?_
  intro _ _ _ _ hlast
  exact twins_pure hlast.matched

theorem Paired.fork {e : Event} (h : Paired host b₀ B₀ e.time [] [] b B) (f : FieldNames)
    (n : Nat) : EndAlike host b₀ B₀ (fork f e ⟨host, n⟩) (fork f e ⟨host, n⟩) b B := by
  unfold EndAlike Build.fork
  refine (h.threadOf e n _ _).bind ?_
  rintro child child' b₁ B₁ ⟨_, h₁, hchild, -⟩
  exact .answered (h₁.changeStatus hchild (·.set .waitFork)).toMatched

theorem Paired.exit {e : Event} (h : Paired host b₀ B₀ e.time [] [] b B) (f : FieldNames)
    (n : Nat) : EndAlike host b₀ B₀ (exit f e ⟨host, n⟩) (exit f e ⟨host, n⟩) b B := by
  unfold EndAlike Build.exit
  refine (h.threadOf e n _ _).bind ?_
  rintro w w' b₁ B₁ ⟨_, h₁, hw, -⟩
  exact .answered (h₁.changeStatus hw (·.set .exit)).toMatched

/-! ## § 3. Handlers of interrupts -/

theorem Paired.enter (h : Paired host b₀ B₀ t F G b B) (n : Nat) (context : Context) :
    Twins (enter ⟨host, n⟩ context) (enter ⟨host, n⟩ context) b B
      (fun _ _ b' B' => Paired host b₀ B₀ t F G b' B') (Matched host b₀ B₀) := by
  have hpaired := h.setContextStack n ((b.system.contextStack ⟨host, n⟩).push context)
  refine .answered ?_
  dsimp only
  rw [← h.contextStack n]
  exact hpaired

theorem Paired.leave (h : Paired host b₀ B₀ t F G b B) (n : Nat) (kind : ContextKind) :
    EndAlike host b₀ B₀ (leave ⟨host, n⟩ kind) (leave ⟨host, n⟩ kind) b B := by
  unfold EndAlike Build.leave
  rw [twins_system, h.contextStack]
  dsimp only
  rw [twins_track]
  have hleft := h.setContextStack n ((B.system.contextStack ⟨host, n⟩).leave kind).2
  split
  · exact twins_throw _ hleft.toMatched
  · exact twins_pure hleft.toMatched

/-- The start of a soft interrupt is marked in both builders. -/
theorem Within.addVertex (h : Within host b₀ t F b)
    (hfind : b.graph.findWorker? ⟨host, kind⟩ = some w) :
    Ensures (do let v ← store (·.createVertex w t); let _ ← store (·.add v)) b
      (fun _ b' => b.Writes host (·.grow kind t .noEdge none) b') fun _ _ => False := by
  have hw := h.sound.isSome_of_find hfind
  obtain ⟨a, hok⟩ := h.toDuring.append_ok hw .noEdge none
  simp only [ensures_bind, ensures_pure]
  rw [ensures_store (h.toDuring.createVertex hw), ensures_store hok]
  exact h.housed.grown h.sound h.opened hfind h.toDuring.tail.1 .noEdge none

theorem Paired.softIrqEntry {e : Event} (h : Paired host b₀ B₀ e.time [] [] b B) (f : FieldNames)
    (n : Nat) :
    EndAlike host b₀ B₀ (softIrqEntry f e ⟨host, n⟩) (softIrqEntry f e ⟨host, n⟩) b B := by
  unfold EndAlike Build.softIrqEntry
  dsimp only
  refine (h.enter n _).bind ?_
  intro _ _ b₁ B₁ h₁
  split
  · refine (h₁.kernelWorker n).bind ?_
    rintro kernel kernel' b₂ B₂ ⟨h₂, hkernel, -⟩
    refine ((h₂.left.addVertex hkernel.left).twins (h₂.right.addVertex hkernel.right)).mono ?_
    rintro _ _ b₃ B₃ ⟨hw, hw'⟩
    exact h₂.toMatched.write hw hw'
  · exact twins_pure h₁.toMatched

/-! ## § 4. Wakeups -/

variable {target target' : WorkerId}

/-- The thread that runs on a CPU of the host, unless it is the one that is woken. -/
theorem Paired.waker (h : Paired host b₀ B₀ t F G b B) (hk : Kin host kind b B target target')
    (n : Nat) :
    ((b.system.current? ⟨host, n⟩).filter (· ≠ target) = none ∧
      (B.system.current? ⟨host, n⟩).filter (· ≠ target') = none) ∨
      ∃ waker i i', (b.system.current? ⟨host, n⟩).filter (· ≠ target) = some i ∧
        (B.system.current? ⟨host, n⟩).filter (· ≠ target') = some i' ∧
          Kin host waker b B i i' ∧ i ≠ target ∧ i' ≠ target' := by
  rcases h.current n with ⟨hnone, hnone'⟩ | ⟨waker, i, i', hi, hi', hw⟩
  · exact Or.inl ⟨by rw [hnone]; rfl, by rw [hnone']; rfl⟩
  · have hiff := h.eq_iff hw hk
    by_cases heq : i = target
    · exact Or.inl ⟨by simp [hi, heq], by simp [hi', hiff.1 heq]⟩
    · have hne : i' ≠ target' := fun heq' => heq (hiff.2 heq')
      exact Or.inr ⟨waker, i, i', by simp [hi, heq], by simp [hi', hne], hw, heq, hne⟩

theorem Paired.forkWakeup (h : Paired host b₀ B₀ t [] [] b B)
    (hk : Kin host kind b B target target') (n : Nat) :
    EndAlike host b₀ B₀ (forkWakeup target (b.system.current? ⟨host, n⟩) t)
      (forkWakeup target' (B.system.current? ⟨host, n⟩) t) b B := by
  unfold EndAlike Build.forkWakeup
  rcases h.waker hk n with ⟨hnone, hnone'⟩ | ⟨waker, i, i', hi, hi', hw, hne, hne'⟩
  · rw [hnone, hnone']
    exact (h.changeState hk).bind fun _ _ _ _ hgrown => twins_pure hgrown.matched
  · rw [hi, hi']
    refine (h.extendState hw).bind ?_
    intro u u' b₁ B₁ hu
    have h₁ := hu.paired (by simp) (by simp)
    refine (h₁.changeState (h.kin h₁ hu.moved hk)).bind ?_
    intro v v' b₂ B₂ hv
    have h₂ := hv.paired (by simpa using hne) (by simpa using hne')
    exact (h₂.join (h₁.placed hv.moved hu.placed) hv.placed hne hne').2.bind
      fun _ _ _ _ hjoined => twins_pure hjoined

theorem Paired.threadWakeup (h : Paired host b₀ B₀ t [] [] b B)
    (hk : Kin host kind b B target target') (n : Nat) :
    EndAlike host b₀ B₀ (threadWakeup target (b.system.current? ⟨host, n⟩) t)
      (threadWakeup target' (B.system.current? ⟨host, n⟩) t) b B := by
  unfold EndAlike Build.threadWakeup
  refine (h.changeState hk).bind ?_
  intro v v' b₁ B₁ hv
  rcases h.waker hk n with ⟨hnone, hnone'⟩ | ⟨waker, i, i', hi, hi', hw, hne, hne'⟩
  · rw [hnone, hnone']
    exact twins_pure hv.matched
  · rw [hi, hi']
    have h₁ := hv.paired (by simp) (by simp)
    refine (h₁.extendState (h.kin h₁ hv.moved hw)).bind ?_
    intro u u' b₂ B₂ hu
    have h₂ := hu.paired (by simpa using hne.symm) (by simpa using hne'.symm)
    exact (h₂.join hu.placed (h₁.placed hu.moved hv.placed) hne hne').1.bind
      fun _ _ _ _ hjoined => twins_pure hjoined

theorem Paired.softIrqWakeup (h : Paired host b₀ B₀ t [] [] b B)
    (hk : Kin host kind b B target target') (context : Context) (n : Nat) :
    EndAlike host b₀ B₀ (softIrqWakeup target context ⟨host, n⟩ t)
      (softIrqWakeup target' context ⟨host, n⟩ t) b B := by
  unfold EndAlike Build.softIrqWakeup
  refine (h.grow hk (softIrqEdge_ne_epsilon _) none).bind ?_
  intro v v' b₁ B₁ hv
  split
  · rw [twins_system]
    have hkernel := congrFun (congrArg HostView.kernel hv.matched.same) n
    simp only [on] at hkernel
    cases hl : b₁.system.kernelWorker? ⟨host, n⟩ with
    | none =>
      cases hr : B₁.system.kernelWorker? ⟨host, n⟩ with
      | none => exact twins_pure hv.matched
      | some kernel' => simp [hl, hr] at hkernel
    | some kernel =>
      cases hr : B₁.system.kernelWorker? ⟨host, n⟩ with
      | none => simp [hl, hr] at hkernel
      | some kernel' => exact hv.matched.redirectLink kernel kernel' v v'
  · exact twins_pure hv.matched

theorem Paired.receptionWakeup (h : Paired host b₀ B₀ t [] [] b B)
    (hk : Kin host kind b B target target') (n : Nat) :
    EndAlike host b₀ B₀ (receptionWakeup target (b.system.current? ⟨host, n⟩) ⟨host, n⟩ t)
      (receptionWakeup target' (B.system.current? ⟨host, n⟩) ⟨host, n⟩ t) b B := by
  unfold EndAlike Build.receptionWakeup
  rw [twins_system, SystemModel.innerContext, SystemModel.innerContext, h.contextStack]
  dsimp only
  split
  · refine (h.kernelWorker n).bind ?_
    rintro kernel kernel' b₁ B₁ ⟨h₁, -, hm⟩
    refine (h₁.grow (h.kin h₁ hm hk) (by decide) none).bind ?_
    intro v v' b₂ B₂ hv
    exact hv.matched.redirectLink kernel kernel' v v'
  · rw [twins_get]
    rcases h.current n with ⟨hnone, hnone'⟩ | ⟨_, i, i', hi, hi', hw⟩
    · rw [hnone, hnone']
      refine (h.grow hk (by decide) _).bind ?_
      intro v v' b₁ B₁ hv
      exact twins_pure hv.matched
    · rw [hi, hi', Option.bind_some, Option.bind_some, h.worker? hw]
      refine (h.grow hk (by decide) _).bind ?_
      intro v v' b₁ B₁ hv
      exact hv.matched.redirectLink i i' v v'

theorem Paired.blockedWakeup (h : Paired host b₀ B₀ t [] [] b B)
    (hk : Kin host kind b B target target') (n : Nat) :
    EndAlike host b₀ B₀ (blockedWakeup target (b.system.current? ⟨host, n⟩) ⟨host, n⟩ t)
      (blockedWakeup target' (B.system.current? ⟨host, n⟩) ⟨host, n⟩ t) b B := by
  unfold EndAlike Build.blockedWakeup
  have hgrow : ∀ {s} q, s ≠ EdgeState.epsilon →
      EndAlike host b₀ B₀ (do let _ ← Build.grow target t s q)
        (do let _ ← Build.grow target' t s q) b B := by
    intro s q hs
    exact (h.grow hk hs q).bind fun _ _ _ _ hgrown => twins_pure hgrown.matched
  rw [twins_system, SystemModel.context, SystemModel.context, h.contextStack]
  dsimp only
  split
  · exact hgrow _ (by decide)
  · rw [twins_get, h.layout]
    exact hgrow _ (irqEdge_ne_epsilon _ _)
  · rw [twins_get, h.layout]
    exact hgrow _ (irqEdge_ne_epsilon _ _)
  · exact h.softIrqWakeup hk _ n
  · exact hgrow _ (by decide)
  · exact h.receptionWakeup hk n
  · exact h.threadWakeup hk n

theorem Paired.wakeup {e : Event} (h : Paired host b₀ B₀ e.time [] [] b B) (f : FieldNames)
    (n : Nat) : EndAlike host b₀ B₀ (wakeup f e ⟨host, n⟩) (wakeup f e ⟨host, n⟩) b B := by
  unfold EndAlike Build.wakeup
  refine (h.threadOf e n _ _).bind ?_
  rintro target target' b₁ B₁ ⟨kind, h₁, htarget, -⟩
  have h₂ : Paired host b₀ B₀ e.time [] [] { b₁ with system := b₁.system.markWoken target }
      { B₁ with system := B₁.system.markWoken target' } := h₁.changeStatus htarget .wake
  have hk : Kin host kind { b₁ with system := b₁.system.markWoken target }
      { B₁ with system := B₁.system.markWoken target' } target target' := htarget.of_graph rfl rfl
  have hstatus : (b₁.system.markWoken target).oldStatus target =
      (B₁.system.markWoken target').oldStatus target' :=
    congrArg StatusPair.old (h₂.statusPair hk)
  rw [twins_track, twins_system, hstatus]
  dsimp only
  split
  · exact h₂.forkWakeup hk n
  · exact h₂.blockedWakeup hk n
  · exact twins_pure h₂.toMatched

/-! ## § 5. Events -/

theorem Paired.handle {e : Event} (h : Paired host b₀ B₀ e.time [] [] b B) (f : FieldNames)
    {kind : EventKind} (hsend : kind ≠ .networkSend) (hreceive : kind ≠ .networkReceive) (n : Nat) :
    EndAlike host b₀ B₀ (handle f kind e ⟨host, n⟩) (handle f kind e ⟨host, n⟩) b B := by
  have henter : ∀ context, EndAlike host b₀ B₀ (Build.enter ⟨host, n⟩ context)
      (Build.enter ⟨host, n⟩ context) b B :=
    fun context => (h.enter n context).mono fun _ _ _ _ hp => hp.toMatched
  cases kind with
  | schedSwitch => exact h.schedSwitch f n
  | wakeup => exact h.wakeup f n
  | fork => exact h.fork f n
  | exit => exact h.exit f n
  | softIrqEntry => exact h.softIrqEntry f n
  | networkSend => exact absurd rfl hsend
  | networkReceive => exact absurd rfl hreceive
  | irqEntry | hrTimerEntry | ipiEntry | completeIrqEntry | packetReceptionEntry => exact henter _
  | irqExit | softIrqExit | hrTimerExit | ipiExit | completeIrqExit | packetReceptionExit =>
    exact h.leave n _

theorem Paired.cpuOf (h : Paired host b₀ B₀ t F G b B) {e : Event} (he : e.host = host) :
    Twins (cpuOf e) (cpuOf e) b B
      (fun c c' b' B' => (∃ n, c = ⟨host, n⟩ ∧ c' = ⟨host, n⟩) ∧ b' = b ∧ B' = B)
      (Matched host b₀ B₀) := by
  unfold Build.cpuOf
  rw [twins_get, h.cpuCount]
  dsimp only
  split
  · exact twins_pure ⟨⟨_, by rw [he], by rw [he]⟩, rfl, rfl⟩
  · exact twins_throw _ h.toMatched

end Builder

end CausalPath
