import CausalPath.Builder.Dispatch

/-!
# Reasoning about steps of a builder

A step of a builder answers or is rejected, and what it did stays in either case. `Build.Ensures`
says what holds then: one predicate for an answer and one for a rejection. There is one law per way
of making a step, so that a handler is taken apart as it is written.
-/

namespace CausalPath

/-- The thread id in a field of an event. A negative number is none. -/
def Event.tid? (e : Event) (field : String) : Option Int := (e.int? field).filter (0 ≤ ·)

namespace Cpu

/-- The key of the worker of a thread id seen on a CPU. -/
def threadKey (c : Cpu) (tid : Int) : WorkerKey :=
  ⟨c.host, if tid = 0 then .idle c.number else .thread tid⟩

@[simp] theorem key_worker (c : Cpu) (tid : Int) (name : Option String) :
    (c.worker tid name).key = c.threadKey tid := by
  unfold worker threadKey
  split <;> rfl

/-- On one CPU thread ids and workers go together. -/
theorem threadKey_inj {c : Cpu} {i j : Int} : c.threadKey i = c.threadKey j ↔ i = j := by
  refine ⟨fun h => ?_, fun h => h ▸ rfl⟩
  have hkind := congrArg WorkerKey.kind h
  unfold threadKey at hkind
  dsimp only at hkind
  split at hkind <;> split at hkind <;> simp_all

end Cpu

namespace Build

variable {α β : Type} {x : Build α} {b : Builder} {P Q : α → Builder → Prop}
  {R S : BuildError → Builder → Prop}

/-- Taken by `b`, the step answers and `Q` holds of the answer and of the builder after it, or it is
rejected and `R` holds of the error and of the builder after it. -/
def Ensures (x : Build α) (b : Builder) (Q : α → Builder → Prop)
    (R : BuildError → Builder → Prop) : Prop :=
  match x.run.run b with
  | (.ok a, b') => Q a b'
  | (.error e, b') => R e b'

/-! ## § 1. Laws of sequence -/

@[simp] theorem ensures_pure (a : α) : Ensures (pure a) b Q R ↔ Q a b := Iff.rfl

@[simp] theorem ensures_get {Q : Builder → Builder → Prop} : Ensures get b Q R ↔ Q b b := Iff.rfl

@[simp] theorem ensures_set {Q : PUnit → Builder → Prop} (b' : Builder) :
    Ensures (set b') b Q R ↔ Q () b' := Iff.rfl

@[simp] theorem ensures_modify {Q : PUnit → Builder → Prop} (f : Builder → Builder) :
    Ensures (modify f) b Q R ↔ Q () (f b) := Iff.rfl

theorem run_bind (x : Build α) (f : α → Build β) (b : Builder) :
    (x >>= f).run.run b =
      match x.run.run b with
      | (.ok a, b') => (f a).run.run b'
      | (.error e, b') => (.error e, b') := by
  simp only [bind, ExceptT.bind, ExceptT.bindCont, ExceptT.run, ExceptT.mk, StateT.run, StateT.bind]
  rcases x b with ⟨r, b'⟩
  cases r with
  | ok a => rfl
  | error e => rfl

/-- What follows a step starts from what the step leaves, unless the step is rejected. -/
@[simp] theorem ensures_bind {f : α → Build β} {Q : β → Builder → Prop} :
    Ensures (x >>= f) b Q R ↔ Ensures x b (fun a b' => Ensures (f a) b' Q R) R := by
  unfold Ensures
  rw [run_bind]
  rcases x.run.run b with ⟨r, b'⟩
  cases r with
  | ok a => rfl
  | error e => rfl

theorem Ensures.mono (h : Ensures x b P R) (hQ : ∀ a b', P a b' → Q a b')
    (hR : ∀ e b', R e b' → S e b') : Ensures x b Q S := by
  unfold Ensures at h ⊢
  split
  · rename_i a b' hx
    rw [hx] at h
    exact hQ a b' h
  · rename_i e b' hx
    rw [hx] at h
    exact hR e b' h

theorem Ensures.both (h : Ensures x b P R) (h' : Ensures x b Q S) :
    Ensures x b (fun a b' => P a b' ∧ Q a b') (fun e b' => R e b' ∧ S e b') := by
  unfold Ensures at h h' ⊢
  split
  · rename_i a b' hx
    rw [hx] at h h'
    exact ⟨h, h'⟩
  · rename_i e b' hx
    rw [hx] at h h'
    exact ⟨h, h'⟩

theorem Ensures.and (h : Ensures x b P R) (h' : Ensures x b Q R) :
    Ensures x b (fun a b' => P a b' ∧ Q a b') R :=
  (h.both h').mono (fun _ _ hq => hq) fun _ _ hr => hr.1

/-- A step, then what follows it. -/
theorem Ensures.bind {f : α → Build β} {Q : β → Builder → Prop} (h : Ensures x b P R)
    (hf : ∀ a b', P a b' → Ensures (f a) b' Q R) : Ensures (x >>= f) b Q R :=
  ensures_bind.2 (h.mono hf fun _ _ he => he)

/-! ## § 2. Laws of steps on the graph -/

/-- A change of the graph that is granted. -/
theorem ensures_store {f : Graph → Except GraphError (α × Graph)} {a : α} {g : Graph}
    (hok : f b.graph = .ok (a, g)) : Ensures (store f) b Q R ↔ Q a { b with graph := g } := by
  simp only [store, ensures_bind, ensures_get, hok, ensures_modify, ensures_pure]

/-- Changes of the graph that are granted. -/
theorem ensures_storeSteps {f : Graph → Except GraphError α × Graph} {a : α} {g : Graph}
    (hok : f b.graph = (.ok a, g)) :
    Ensures (storeSteps f) b Q R ↔ Q a { b with graph := g } := by
  simp only [storeSteps, ensures_bind, ensures_get, hok, ensures_modify, ensures_pure]

@[simp] theorem ensures_track {Q : Unit → Builder → Prop} (f : SystemModel → SystemModel) :
    Ensures (track f) b Q R ↔ Q () { b with system := f b.system } := Iff.rfl

@[simp] theorem ensures_system {Q : SystemModel → Builder → Prop} :
    Ensures system b Q R ↔ Q b.system b := Iff.rfl

@[simp] theorem ensures_takeLink {w : WorkerId} {Q : Option NetworkLink → Builder → Prop} :
    Ensures (takeLink w) b Q R ↔ Q (b.links.get? w) { b with links := b.links.erase w } := Iff.rfl

/-! ## § 3. Laws of events -/

section Threads

variable {e : Event} {c : Cpu} {field : String} {tid : Int}

theorem ensures_tidOf_of_some {Q : Int → Builder → Prop} (h : e.tid? field = some tid) :
    Ensures (tidOf e field) b Q R ↔ Q tid b := by
  have h : (e.int? field).filter (0 ≤ ·) = some tid := h
  unfold tidOf
  rw [h]
  rfl

theorem ensures_tidOf_of_none {Q : Int → Builder → Prop} (h : e.tid? field = none) :
    Ensures (tidOf e field) b Q R ↔ R (.unknownWorker e.name field) b := by
  have h : (e.int? field).filter (0 ≤ ·) = none := h
  unfold tidOf
  rw [h]
  rfl

/-- The worker of a thread id is looked up or registered. -/
theorem ensures_threadOf_of_some {Q : WorkerId → Builder → Prop} (h : e.tid? field = some tid)
    (nameField : String) :
    Ensures (threadOf e c field nameField) b Q R ↔
      Ensures (store (·.addWorker (c.worker tid (e.text? nameField)))) b Q R := by
  unfold threadOf
  rw [ensures_bind, ensures_tidOf_of_some h]
  rfl

/-- A thread that was seen before is looked up. -/
theorem ensures_threadOf_of_find {Q : WorkerId → Builder → Prop} {w : WorkerId}
    (h : e.tid? field = some tid) (hfind : b.graph.findWorker? (c.threadKey tid) = some w)
    (nameField : String) : Ensures (threadOf e c field nameField) b Q R ↔ Q w b := by
  have hok : b.graph.addWorker (c.worker tid (e.text? nameField)) = .ok (w, b.graph) := by
    unfold Graph.addWorker
    rw [c.key_worker, hfind]
  rw [ensures_threadOf_of_some h, ensures_store hok]

theorem ensures_threadOf_of_none {Q : WorkerId → Builder → Prop} (h : e.tid? field = none)
    (nameField : String) :
    Ensures (threadOf e c field nameField) b Q R ↔ R (.unknownWorker e.name field) b := by
  unfold threadOf
  rw [ensures_bind, ensures_tidOf_of_none h]

end Threads

/-- An event is rejected at once or ignored, or it is handled at its own time. -/
theorem ensures_dispatch {e : Event} {Q : Bool → Builder → Prop}
    (hlate : ∀ last, b.lastTime = some last → e.time < last → R (.outOfOrder e.time last) b)
    (hignored : (∀ s, b.lastTime = some s → s ≤ e.time) → b.index.get? e.name = none →
      Q false { b with lastTime := some e.time })
    (hplaceless : (∀ s, b.lastTime = some s → s ≤ e.time) →
      ∀ kind, b.index.get? e.name = some kind →
        e.cpu.filter (fun n => b.cpuCount.all (n < ·)) = none →
          R (.unknownCpu e.name) { b with lastTime := some e.time })
    (hhandled : (∀ s, b.lastTime = some s → s ≤ e.time) →
      ∀ kind n, b.index.get? e.name = some kind →
        e.cpu.filter (fun n => b.cpuCount.all (n < ·)) = some n →
          Ensures (handle b.layout.fields kind e ⟨e.host, n⟩) { b with lastTime := some e.time }
            (fun _ b' => Q true b') R) :
    Ensures (dispatch e) b Q R := by
  unfold dispatch inOrder
  simp only [ensures_bind, ensures_get]
  cases horder : b.lastTime.filter (e.time < ·) with
  | some last =>
    obtain ⟨hlast, hless⟩ := Option.filter_eq_some_iff.1 horder
    exact hlate last hlast (by simpa using hless)
  | none =>
    have horder : ∀ s, b.lastTime = some s → s ≤ e.time := by
      intro s hs
      simpa using Option.filter_eq_none_iff.1 horder s hs
    simp only [ensures_modify]
    cases hkind : b.index.get? e.name with
    | none => exact hignored horder hkind
    | some kind =>
      simp only [cpuOf, ensures_bind, ensures_get]
      cases hcpu : e.cpu.filter fun n => b.cpuCount.all (n < ·) with
      | none => exact hplaceless horder kind hkind hcpu
      | some n => exact hhandled horder kind n hkind hcpu

/-- An event of a known kind that has a CPU is handled, unless it is late. -/
theorem ensures_dispatch_of_kind {e : Event} {kind : EventKind} {n : Nat}
    {Q : Bool → Builder → Prop}
    (hkind : b.index.get? e.name = some kind)
    (hcpu : e.cpu.filter (fun n => b.cpuCount.all (n < ·)) = some n)
    (hlate : ∀ last, b.lastTime = some last → e.time < last → R (.outOfOrder e.time last) b)
    (hhandled : (∀ s, b.lastTime = some s → s ≤ e.time) →
      Ensures (handle b.layout.fields kind e ⟨e.host, n⟩) { b with lastTime := some e.time }
        (fun _ b' => Q true b') R) : Ensures (dispatch e) b Q R := by
  apply ensures_dispatch hlate
  · intro _ hnone
    rw [hkind] at hnone
    exact absurd hnone (by simp)
  · intro _ _ _ hnone
    rw [hcpu] at hnone
    exact absurd hnone (by simp)
  · intro horder kind' n' hkind' hcpu'
    obtain rfl := Option.some.inj (hkind.symm.trans hkind')
    obtain rfl := Option.some.inj (hcpu.symm.trans hcpu')
    exact hhandled horder

/-- What an event does to a builder is what its handling does, and is counted. -/
theorem Ensures.process {e : Event} {Q : Bool → Builder → Prop} (h : Ensures (dispatch e) b Q R) :
    (∃ known b', Q known b' ∧ b.process e = (.ok (), { b' with
      counters := if known then { b'.counters with processed := b'.counters.processed + 1 }
        else { b'.counters with ignored := b'.counters.ignored + 1 } })) ∨
    ∃ err b', R err b' ∧ b.process e = (.error err, { b' with
      counters := b'.counters.reject err }) := by
  unfold Ensures at h
  unfold Builder.process
  generalize (dispatch e).run.run b = done at h ⊢
  obtain ⟨r, b'⟩ := done
  cases r with
  | ok known =>
    refine Or.inl ⟨known, b', h, ?_⟩
    cases known <;> rfl
  | error err => exact Or.inr ⟨err, b', h, rfl⟩

/-- What an event that is accepted does to a builder. -/
theorem Ensures.accepted {e : Event} {Q : Bool → Builder → Prop} (h : Ensures (dispatch e) b Q R)
    (haccepted : (b.process e).1 = .ok ()) :
    ∃ known b' c, Q known b' ∧ (b.process e).2 = { b' with counters := c } := by
  rcases h.process with ⟨known, b', hb', heq⟩ | ⟨err, b', -, heq⟩
  · exact ⟨known, b', _, hb', congrArg Prod.snd heq⟩
  · rw [heq] at haccepted
    exact absurd haccepted (by simp)

end Build

end CausalPath
