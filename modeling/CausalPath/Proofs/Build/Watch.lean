import CausalPath.Proofs.Build.Abiding
import CausalPath.Proofs.Build.Run

/-!
# Blocked threads and running handlers

Two things are known of the system between events, whatever the trace. A thread that is blocked has
a chain: it was seen when it gave its CPU up, and nothing else blocks a thread. And a handler that
is nested on a CPU is one: the kind of no handler is never pushed, so a CPU without a handler has an
empty stack.
-/

namespace CausalPath

open CausalPath.Graph

/-! ## § 1. Steps that block no thread -/

/-- No thread is blocked that was not, and what is new on the stacks is a handler. -/
structure SystemModel.Follows (m m' : SystemModel) : Prop where
  blocked : ∀ w, m'.status w = .waitBlocked → m.status w = .waitBlocked
  handlers : ∀ c x, x ∈ (m'.contextStack c).frames → x ∈ (m.contextStack c).frames ∨ x.kind ≠ .none

namespace SystemModel

variable {m m' m'' : SystemModel} {w : WorkerId} {f : StatusPair → StatusPair}

theorem Follows.refl (m : SystemModel) : m.Follows m := ⟨fun _ h => h, fun _ _ h => Or.inl h⟩

theorem Follows.trans (h : m.Follows m') (h' : m'.Follows m'') : m.Follows m'' where
  blocked w hw := h.blocked w (h'.blocked w hw)
  handlers c x hx := (h'.handlers c x hx).elim (h.handlers c x) Or.inr

theorem Follows.changeStatus (m : SystemModel) (w : WorkerId)
    (hf : (f (m.statusPair w)).current ≠ .waitBlocked) : m.Follows (m.changeStatus w f) where
  blocked i hi := by
    rw [status, statusPair_changeStatus] at hi
    split at hi
    · exact absurd hi hf
    · exact hi
  handlers _ _ hx := Or.inl hx

theorem Follows.markWoken (m : SystemModel) (w : WorkerId) : m.Follows (m.markWoken w) := by
  apply Follows.changeStatus
  show (if (m.statusPair w).current.isWaiting then ProcessStatus.waitCpu
    else (m.statusPair w).current) ≠ .waitBlocked
  cases (m.statusPair w).current <;> decide

theorem Follows.setKernelWorker (m : SystemModel) (c : Cpu) (w : WorkerId) :
    m.Follows (m.setKernelWorker c w) where
  blocked i hi := by
    simp only [status, statusPair, SystemModel.setKernelWorker, Table.get?_insert] at hi
    split at hi
    · exact absurd hi (by decide)
    · exact hi
  handlers _ _ hx := Or.inl hx

theorem Follows.push (m : SystemModel) (c : Cpu) {x : Context} (hx : x.kind ≠ .none) :
    m.Follows (m.setContextStack c ((m.contextStack c).push x)) where
  blocked _ hi := hi
  handlers c' y hy := by
    rw [contextStack_setContextStack] at hy
    split at hy
    · rename_i hc
      rcases List.mem_cons.1 hy with rfl | hy
      · exact Or.inr hx
      · exact Or.inl (hc ▸ hy)
    · exact Or.inl hy

theorem Follows.leave (m : SystemModel) (c : Cpu) (kind : ContextKind) :
    m.Follows (m.setContextStack c ((m.contextStack c).leave kind).2) where
  blocked _ hi := hi
  handlers c' y hy := by
    rw [contextStack_setContextStack] at hy
    split at hy
    · rename_i hc
      have hpop := congrArg Prod.snd ((m.contextStack c).leave_frame kind)
      rw [show ((m.contextStack c).leave kind).2 = ⟨(m.contextStack c).frames.tail⟩ from hpop] at hy
      exact Or.inl (hc ▸ List.mem_of_mem_tail hy)
    · exact Or.inl hy

end SystemModel

namespace Build

variable {α : Type} {x : Build α}

/-- The step blocks no thread, whether it answers or is rejected. -/
def Tame (x : Build α) : Prop :=
  ∀ b, Ensures x b (fun _ b' => b.system.Follows b'.system) fun _ b' => b.system.Follows b'.system

theorem permits_follows : Permits SystemModel.Follows fun _ => True where
  refl := .refl
  trans := .trans
  refused _ := trivial
  markWoken := .markWoken
  setKernelWorker := .setKernelWorker
  push m c _ hx := .push m c hx
  pop := .leave

theorem Abides.tame (h : Abides SystemModel.Follows (fun _ => True) x) : Tame x :=
  fun b => (h b).mono (fun _ _ hb => hb) fun _ _ hb => hb.2

/-- A thread is blocked by no event but the one in which it gives its CPU up. -/
theorem tame_handle (f : FieldNames) {kind : EventKind} (hkind : kind ≠ .schedSwitch) (e : Event)
    (c : Cpu) : Tame (handle f kind e c) := by
  have hset : ∀ {s : ProcessStatus}, s ≠ .waitBlocked → ∀ (m : SystemModel) (w : WorkerId),
      m.Follows (m.setStatus w s) := fun hs m w => .changeStatus m w hs
  by_cases hfork : kind = .fork
  · subst hfork
    exact (permits_follows.setStatus (hset (by simp)) (fun _ => trivial) c _).tame
  by_cases hexit : kind = .exit
  · subst hexit
    exact (permits_follows.setStatus (hset (by simp)) (fun _ => trivial) c _).tame
  exact (permits_follows.handle (fun _ => trivial) f hkind hfork hexit e c).tame

end Build

/-! ## § 2. Chains get longer -/

section Chains

variable {t : Time} {s s₀ s' : Scene} {pair : Option (MatchedPair VertexId)}

theorem Deed.chainOf_prefix (h : Deed t s s') (w : WorkerId) :
    s.graph.chainOf w <+: s'.graph.chainOf w := by
  cases h with
  | register x => exact (chainOf_pushWorker _ _ _) ▸ List.prefix_rfl
  | grow w' state q hw _ _ =>
    show _ <+: (s.graph.grown w' t state q).chainOf w
    rw [chainOf_grown hw]
    split
    · rename_i heq
      exact heq ▸ List.prefix_append _ _
    · exact List.prefix_rfl
  | _ => exact List.prefix_rfl

theorem Deeds.chainOf_prefix (h : Deeds t s₀ s) (w : WorkerId) :
    s₀.graph.chainOf w <+: s.graph.chainOf w := by
  induction h with
  | refl => exact List.prefix_rfl
  | tail _ hdeed ih => exact ih.trans (hdeed.chainOf_prefix w)

theorem Course.chainOf_prefix (h : Course t s₀ pair s) (w : WorkerId) :
    s₀.graph.chainOf w <+: s.graph.chainOf w := by
  cases h with
  | pass h _ => exact h.chainOf_prefix w
  | @mark s w' h hw _ =>
    refine (h.chainOf_prefix w).trans ?_
    show _ <+: (s.graph.grown w' t .noEdge none).chainOf w
    rw [chainOf_grown hw]
    split
    · rename_i heq
      exact heq ▸ List.prefix_append _ _
    · exact List.prefix_rfl
  | redirect h _ v => exact h.chainOf_prefix w
  | park h _ _ _ _ => exact h.chainOf_prefix w

end Chains

/-! ## § 3. Between events -/

namespace Builder

variable {strict : Prop} {b₀ b b' : Builder} {t : Time} {F : List Vertex} {e : Event}

/-- What a builder knows of threads and handlers between events. -/
structure Watchful (b : Builder) : Prop where
  chained : ∀ w, b.system.status w = .waitBlocked → b.graph.chainOf w ≠ []
  handlers : ∀ c, ∀ x ∈ (b.system.contextStack c).frames, x.kind ≠ .none

theorem Watchful.follow (h : b.Watchful) (hsystem : b.system.Follows b'.system)
    (hchains : ∀ w, b.graph.chainOf w <+: b'.graph.chainOf w) : b'.Watchful where
  chained w hw := (hchains w).ne_nil (h.chained w (hsystem.blocked w hw))
  handlers c x hx := (hsystem.handlers c x hx).elim (h.handlers c x) id

open Build

theorem ensures_tidOf (e : Event) (field : String) (b : Builder) :
    Ensures (tidOf e field) b (fun _ b' => b' = b) (fun _ b' => b' = b) := by
  unfold Build.tidOf
  split <;> rfl

/-- A thread is looked up or registered. -/
theorem During.enrol (h : During strict b₀ t F b) (hsystem : b.system = b₀.system)
    (hwatch : b₀.Watchful) (e : Event) (c : Cpu) (field nameField : String) :
    Ensures (Build.threadOf e c field nameField) b (fun w b' => During strict b₀ t F b' ∧
      (b'.graph.worker? w).isSome ∧ b.Enrols b' ∧ b'.system = b₀.system)
      (fun _ b' => b'.Watchful) := by
  unfold Build.threadOf
  refine ensures_bind.2 ((ensures_tidOf e field b).mono ?_ ?_)
  · rintro tid _ rfl
    exact (h.addWorker _).mono
      (fun _ _ ⟨hd, hw, hall, hsame⟩ => ⟨hd, hw, hall, hsame.trans hsystem⟩) fun _ _ hr => hr
  · rintro _ _ rfl
    refine hwatch.follow ?_ h.deeds.chainOf_prefix
    rw [hsystem]
    exact .refl _

/-- The chain of a worker that has grown. -/
theorem chainOf_grownBy {w : WorkerId} (hw : (b.graph.worker? w).isSome) (t : Time)
    (s : EdgeState) (q : Option String) (i : WorkerId) :
    (b.grownBy w t s q).graph.chainOf i =
      if i = w then b.graph.chainOf w ++ [b.graph.nextVertex] else b.graph.chainOf i := by
  have hw' : ((b.handOver w (·.destination)).graph.worker? w).isSome := by
    rwa [worker?_handOver]
  show ((b.handOver w (·.destination)).graph.grown w t s q).chainOf i = _
  rw [chainOf_grown hw', chainOf_handOver, chainOf_handOver, nextVertex_handOver]

/-- The chains of two threads grow. The first of them may have been blocked without a chain. -/
theorem During.changeStates_watchful (h : During strict b₀ t [] b) {previous next : WorkerId}
    (hprevious : (b.graph.worker? previous).isSome) (hnext : (b.graph.worker? next).isSome)
    (hchained : ∀ w, w ≠ previous → b.system.status w = .waitBlocked → b.graph.chainOf w ≠ [])
    (hhandlers : ∀ c, ∀ x ∈ (b.system.contextStack c).frames, x.kind ≠ .none)
    {R : BuildError → Builder → Prop} :
    Ensures (do let _ ← Build.changeState previous t; let _ ← Build.changeState next t) b
      (fun _ b' => b'.Watchful) R := by
  simp only [ensures_bind, ensures_pure]
  refine (h.ensures_changeState hprevious).2 ?_
  have hgrew := h.grew hprevious (edgeState_ne_epsilon (b.system.oldStatus previous)) none
  generalize hb : b.grownBy previous t (b.system.oldStatus previous).edgeState none = b₁ at hgrew ⊢
  have hsystem₁ : b₁.system = b.system := hb ▸ system_grownBy ..
  have hchain₁ : ∀ w, b.graph.chainOf w ≠ [] ∨ w = previous → b₁.graph.chainOf w ≠ [] := by
    intro w hw
    rw [← hb, chainOf_grownBy hprevious]
    split
    · simp
    · rename_i hne
      exact hw.resolve_right hne
  have hnext₁ := hgrew.enrols _ hnext
  refine ((hgrew.during (by simp)).ensures_changeState hnext₁).2 ⟨?_, ?_⟩
  · intro w hw
    rw [system_grownBy, hsystem₁] at hw
    rw [chainOf_grownBy hnext₁]
    split
    · simp
    · by_cases hsame : w = previous
      · exact hchain₁ w (Or.inr hsame)
      · exact hchain₁ w (Or.inl (hchained w hsame hw))
  · rw [system_grownBy, hsystem₁]
    exact hhandlers

/-- A thread gives its CPU up to another one. If it is blocked then, its chain has grown. -/
theorem During.schedSwitch_watchful (h : During strict b₀ e.time [] b)
    (hsystem : b.system = b₀.system) (hwatch : b₀.Watchful) (f : FieldNames) (c : Cpu) :
    Ensures (Build.schedSwitch f e c) b (fun _ b' => b'.Watchful) (fun _ b' => b'.Watchful) := by
  have hnow : b.Watchful := hwatch.follow (hsystem ▸ .refl _) h.deeds.chainOf_prefix
  unfold Build.schedSwitch
  refine ensures_bind.2 ((ensures_tidOf e _ _).mono ?_ fun _ _ hb => hb ▸ hnow)
  rintro _ _ rfl
  refine ensures_bind.2 ((ensures_tidOf e _ _).mono ?_ fun _ _ hb => hb ▸ hnow)
  rintro _ _ rfl
  refine (h.enrol hsystem hwatch e c _ _).bind ?_
  rintro previous b₁ ⟨h₁, hprevious, -, hsystem₁⟩
  refine (h₁.enrol hsystem₁ hwatch e c _ _).bind ?_
  rintro next b₂ ⟨h₂, hnext, henrols, hsystem₂⟩
  have hprevious := henrols _ hprevious
  have hwatch₂ : b₂.Watchful := hwatch.follow (hsystem₂ ▸ .refl _) h₂.deeds.chainOf_prefix
  generalize (if (e.int? (f .prevState)).getD 0 = 0 then ProcessStatus.waitCpu
    else .waitBlocked) = status
  rw [ensures_bind, ensures_track, ensures_bind, ensures_track, ensures_bind, ensures_track]
  have h₃ := (h₂.trackStatus (m := (b₂.system.setStatus previous status).setStatus next .run)
    rfl rfl).trackCurrent c hnext
  refine h₃.changeStates_watchful hprevious hnext ?_ hwatch₂.handlers
  intro w hne hblocked
  apply hwatch₂.chained
  have hblocked : ((b₂.system.setStatus previous status).setStatus next .run).status w =
      .waitBlocked := hblocked
  have hbefore : (b₂.system.setStatus previous status).status w = .waitBlocked :=
    (SystemModel.Follows.changeStatus _ next (by simp [StatusPair.set])).blocked w hblocked
  rw [SystemModel.status, SystemModel.setStatus, SystemModel.statusPair_changeStatus,
    if_neg (Ne.symm hne)] at hbefore
  exact hbefore

/-! ## § 4. Traces -/

theorem Between.dispatch_watchful (h : Between strict b) (hwatch : b.Watchful)
    (hnext : strict → ∀ t, b.lastTime = some t → t < e.time) :
    Ensures (Build.dispatch e) b (fun _ b' => b'.Watchful) (fun _ b' => b'.Watchful) := by
  have hlater : Watchful { b with lastTime := some e.time } := ⟨hwatch.chained, hwatch.handlers⟩
  apply ensures_dispatch
  · exact fun _ _ _ => hwatch
  · exact fun _ _ => hlater
  · exact fun _ _ _ _ => hlater
  · intro horder kind n hkind hcpu
    have hstart := h.start horder hnext
    by_cases hswitch : kind = .schedSwitch
    · subst hswitch
      exact hstart.schedSwitch_watchful rfl hwatch _ _
    · have htame := tame_handle b.layout.fields hswitch e ⟨e.host, n⟩
        { b with lastTime := some e.time }
      refine ((hstart.handle rfl b.layout.fields kind ⟨e.host, n⟩).both htame).mono ?_ ?_
      · rintro _ b' ⟨hhandled, hfollows⟩
        exact hwatch.follow hfollows hhandled.course.chainOf_prefix
      · rintro _ b' ⟨⟨-, hhandled⟩, hfollows⟩
        exact hwatch.follow hfollows hhandled.course.chainOf_prefix

theorem Between.process_watchful (h : Between strict b) (hwatch : b.Watchful)
    (hnext : strict → ∀ t, b.lastTime = some t → t < e.time) : (b.process e).2.Watchful := by
  rcases (h.dispatch_watchful hwatch hnext).process with ⟨known, b', hafter, heq⟩ |
    ⟨err, b', hafter, heq⟩
  · rw [heq]
    exact ⟨hafter.chained, hafter.handlers⟩
  · rw [heq]
    exact ⟨hafter.chained, hafter.handlers⟩

/-- After any trace, blocked threads have chains and stacks hold handlers only. -/
theorem Between.processAll_watchful {es : List Event} (h : Between False b)
    (hwatch : b.Watchful) : (b.processAll es).Watchful := by
  induction es generalizing b with
  | nil => exact hwatch
  | cons e es ih =>
    exact ih (h.process (e := e) False.elim).2.toBetween
      (h.process_watchful hwatch False.elim)

theorem watchful_new {start : Time} {c : Config} (hnew : Builder.new (.new start) c = .ok b) :
    b.Watchful := by
  unfold Builder.new at hnew
  split at hnew
  · exact absurd hnew (by simp)
  · obtain rfl := Except.ok.inj hnew
    refine ⟨fun w hw => ?_, fun _ _ hx => absurd hx List.not_mem_nil⟩
    exact absurd (show ProcessStatus.unknown = .waitBlocked from hw) (by decide)

end Builder

end CausalPath
