import CausalPath.Proofs.Hosts.Writes

/-!
# The same step on two builders

Two builders that show the same of a host are in the same event of that host. `Build.Twins` says
that a step does the same on both: both answer, or both are rejected for the same reason. Workers
and vertices have other ids on the other builder; what they have in common is their kind and their
place.
-/

namespace CausalPath

open CausalPath.Graph

namespace Build

/-! ## § 1. Laws -/

/-- Two steps came out alike: both answered, or both were rejected for the same reason. -/
inductive Alike {α β : Type} (Q : α → β → Builder → Builder → Prop)
    (R : Builder → Builder → Prop) :
    Except BuildError α × Builder → Except BuildError β × Builder → Prop
  | answered {a : α} {a' : β} {b B : Builder} (h : Q a a' b B) : Alike Q R (.ok a, b) (.ok a', B)
  | rejected {b B : Builder} (e : BuildError) (h : R b B) : Alike Q R (.error e, b) (.error e, B)

variable {α β γ δ : Type} {x : Build α} {y : Build β} {b B : Builder}
  {P Q : α → β → Builder → Builder → Prop} {R : Builder → Builder → Prop}

/-- Taken by `b` and `B`, the steps come out alike: `Q` holds after answers, `R` after
rejections. -/
def Twins (x : Build α) (y : Build β) (b B : Builder) (Q : α → β → Builder → Builder → Prop)
    (R : Builder → Builder → Prop) : Prop :=
  Alike Q R (x.run.run b) (y.run.run B)

theorem twins_pure {a : α} {a' : β} (h : Q a a' b B) : Twins (pure a) (pure a') b B Q R :=
  .answered h

theorem twins_throw (e : BuildError) (h : R b B) :
    Twins (throw e : Build α) (throw e : Build β) b B Q R :=
  .rejected e h

theorem Twins.mono (h : Twins x y b B P R) (hQ : ∀ a a' b' B', P a a' b' B' → Q a a' b' B') :
    Twins x y b B Q R := by
  unfold Twins at h ⊢
  generalize x.run.run b = r, y.run.run B = r' at h ⊢
  cases h with
  | answered h => exact .answered (hQ _ _ _ _ h)
  | rejected e h => exact .rejected e h

/-- Steps that come out alike, then what follows them. -/
theorem Twins.bind {f : α → Build γ} {g : β → Build δ} {Q : γ → δ → Builder → Builder → Prop}
    (h : Twins x y b B P R) (hf : ∀ a a' b' B', P a a' b' B' → Twins (f a) (g a') b' B' Q R) :
    Twins (x >>= f) (y >>= g) b B Q R := by
  unfold Twins at h ⊢
  rw [run_bind, run_bind]
  generalize x.run.run b = r, y.run.run B = r' at h ⊢
  cases h with
  | answered h => exact hf _ _ _ _ h
  | rejected e h => exact .rejected e h

section Reads

variable {Q : γ → δ → Builder → Builder → Prop}

theorem twins_get {f : Builder → Build γ} {g : Builder → Build δ} :
    Twins (get >>= f) (get >>= g) b B Q R ↔ Twins (f b) (g B) b B Q R := Iff.rfl

theorem twins_system {f : SystemModel → Build γ} {g : SystemModel → Build δ} :
    Twins (system >>= f) (system >>= g) b B Q R ↔ Twins (f b.system) (g B.system) b B Q R := Iff.rfl

theorem twins_track {u v : SystemModel → SystemModel} {f : Unit → Build γ} {g : Unit → Build δ} :
    Twins (track u >>= f) (track v >>= g) b B Q R ↔
      Twins (f ()) (g ()) { b with system := u b.system } { B with system := v B.system } Q R :=
  Iff.rfl

end Reads

/-- Steps that are both granted. -/
theorem Ensures.twins {P : α → Builder → Prop} {P' : β → Builder → Prop}
    (h : Ensures x b P fun _ _ => False) (h' : Ensures y B P' fun _ _ => False) :
    Twins x y b B (fun a a' b' B' => P a b' ∧ P' a' B') R := by
  unfold Ensures at h h'
  unfold Twins
  split at h
  · rename_i hx
    split at h'
    · rename_i hy
      rw [hx, hy]
      exact .answered ⟨h, h'⟩
    · exact h'.elim
  · exact h.elim

end Build

/-! ## § 2. Pairs of builders -/

namespace Builder

/-- What an event of a host leaves as it was in the builder that it met. -/
structure Aside (host : String) (b₀ b : Builder) : Prop where
  housed : b.Housed
  elsewhere : ∀ other, other ≠ host → b.on other = b₀.on other
  setup : b.setup = b₀.setup

/-- A state of a builder during an event of a host at time `t` that met `b₀`. -/
structure Within (host : String) (b₀ : Builder) (t : Time) (F : List Vertex) (b : Builder) : Prop
    extends During False b₀ t F b, Aside host b₀ b

/-- Two builders that show the same of a host, when the event is over. -/
structure Matched (host : String) (b₀ B₀ b B : Builder) : Prop where
  left : Aside host b₀ b
  right : Aside host B₀ B
  same : b.on host = B.on host

/-- The steps end an event of a host alike. -/
def EndAlike {α β : Type} (host : String) (b₀ B₀ : Builder) (x : Build α) (y : Build β)
    (b B : Builder) : Prop :=
  Build.Twins x y b B (fun _ _ b' B' => Matched host b₀ B₀ b' B') (Matched host b₀ B₀)

/-- Two builders that show the same of a host, during an event of the host. -/
structure Paired (host : String) (b₀ B₀ : Builder) (t : Time) (F G : List Vertex)
    (b B : Builder) : Prop where
  left : Within host b₀ t F b
  right : Within host B₀ t G B
  same : b.on host = B.on host
  setup : b₀.setup = B₀.setup

/-- The ids of a worker of the host in two builders. -/
structure Kin (host : String) (kind : WorkerKind) (b B : Builder) (w w' : WorkerId) : Prop where
  left : b.graph.findWorker? ⟨host, kind⟩ = some w
  right : B.graph.findWorker? ⟨host, kind⟩ = some w'

/-- The graphs of two builders have grown. -/
structure Moved (b B b' B' : Builder) : Prop where
  left : b.graph.Keeps b'.graph
  right : B.graph.Keeps B'.graph

variable {host : String} {b₀ B₀ b B b' B' : Builder} {t : Time} {F G F' G' : List Vertex}
  {kind kind' : WorkerKind} {w w' i i' : WorkerId} {f : HostView → HostView}

theorem Aside.write (h : Aside host b₀ b) (hw : b.Writes host f b') : Aside host b₀ b' where
  housed := hw.housed
  elsewhere other hne := (hw.elsewhere other hne).trans (h.elsewhere other hne)
  setup := hw.setup.trans h.setup

theorem Paired.toMatched (h : Paired host b₀ B₀ t F G b B) : Matched host b₀ B₀ b B :=
  ⟨h.left.toAside, h.right.toAside, h.same⟩

/-- The same write on both builders. -/
theorem Matched.write (h : Matched host b₀ B₀ b B) (hw : b.Writes host f b')
    (hw' : B.Writes host f B') : Matched host b₀ B₀ b' B' :=
  ⟨h.left.write hw, h.right.write hw', by rw [hw.here, hw'.here, h.same]⟩

theorem Paired.write (h : Paired host b₀ B₀ t F G b B) (hw : b.Writes host f b')
    (hw' : B.Writes host f B') (hd : During False b₀ t F' b') (hd' : During False B₀ t G' B') :
    Paired host b₀ B₀ t F' G' b' B' :=
  have hm := h.toMatched.write hw hw'
  ⟨⟨hd, hm.left⟩, ⟨hd', hm.right⟩, hm.same, h.setup⟩

/-- A worker stays known by its ids. -/
theorem Paired.kin (h : Paired host b₀ B₀ t F G b B) (h' : Paired host b₀ B₀ t F' G' b' B')
    (hm : Moved b B b' B') (hk : Kin host kind b B w w') : Kin host kind b' B' w w' :=
  ⟨hm.left.findWorker? h.left.sound h'.left.sound hk.left,
    hm.right.findWorker? h.right.sound h'.right.sound hk.right⟩

theorem Kin.of_graph (h : Kin host kind b B w w') (hb : b'.graph = b.graph)
    (hB : B'.graph = B.graph) : Kin host kind b' B' w w' :=
  ⟨hb ▸ h.left, hB ▸ h.right⟩

/-- Ids stand for the same worker in both builders or in none. -/
theorem Paired.eq_iff (h : Paired host b₀ B₀ t F G b B) (hk : Kin host kind b B w w')
    (hi : Kin host kind' b B i i') : w = i ↔ w' = i' := by
  constructor
  · rintro rfl
    obtain ⟨-, rfl⟩ := WorkerKey.mk.inj (h.left.sound.key_unique hk.left hi.left)
    exact Option.some.inj (hk.right.symm.trans hi.right)
  · rintro rfl
    obtain ⟨-, rfl⟩ := WorkerKey.mk.inj (h.right.sound.key_unique hk.right hi.right)
    exact Option.some.inj (hk.left.symm.trans hi.left)

/-! ## § 3. What both builders know -/

theorem Paired.statusPair (h : Paired host b₀ B₀ t F G b B) (hk : Kin host kind b B w w') :
    b.system.statusPair w = B.system.statusPair w' := by
  have hstatus := congrFun (congrArg HostView.status h.same) kind
  simpa only [on, hk.left, hk.right, Option.map_some, Option.getD_some] using hstatus

theorem Paired.worker? (h : Paired host b₀ B₀ t F G b B) (hk : Kin host kind b B w w') :
    b.graph.worker? w = B.graph.worker? w' := by
  have hworker := congrFun (congrArg HostView.worker h.same) kind
  simpa only [on, hk.left, hk.right, Option.bind_some] using hworker

theorem Paired.contextStack (h : Paired host b₀ B₀ t F G b B) (n : Nat) :
    b.system.contextStack ⟨host, n⟩ = B.system.contextStack ⟨host, n⟩ :=
  congrFun (congrArg HostView.contexts h.same) n

theorem Paired.setup_eq (h : Paired host b₀ B₀ t F G b B) : b.setup = B.setup :=
  (h.left.setup.trans h.setup).trans h.right.setup.symm

theorem Paired.layout (h : Paired host b₀ B₀ t F G b B) : b.layout = B.layout :=
  congrArg (·.1) h.setup_eq

theorem Paired.index (h : Paired host b₀ B₀ t F G b B) : b.index = B.index :=
  congrArg (·.2.1) h.setup_eq

theorem Paired.cpuCount (h : Paired host b₀ B₀ t F G b B) : b.cpuCount = B.cpuCount :=
  congrArg (·.2.2) h.setup_eq

/-- On a CPU of the host the same thread runs, or none is known. -/
theorem Paired.current (h : Paired host b₀ B₀ t F G b B) (n : Nat) :
    (b.system.current? ⟨host, n⟩ = none ∧ B.system.current? ⟨host, n⟩ = none) ∨
      ∃ kind w w', b.system.current? ⟨host, n⟩ = some w ∧ B.system.current? ⟨host, n⟩ = some w' ∧
        Kin host kind b B w w' := by
  have hrunning := congrFun (congrArg HostView.running h.same) n
  simp only [on] at hrunning
  cases hw : b.system.current? ⟨host, n⟩ with
  | none =>
    rw [hw, Option.bind_none] at hrunning
    cases hw' : B.system.current? ⟨host, n⟩ with
    | none => exact Or.inl ⟨rfl, rfl⟩
    | some w' =>
      obtain ⟨kind, hfind'⟩ := h.right.housed.running _ w' hw'
      simp [hw', h.right.sound.kind_of_find hfind'] at hrunning
  | some w =>
    obtain ⟨kind, hfind⟩ := h.left.housed.running _ w hw
    rw [hw, Option.bind_some, h.left.sound.kind_of_find hfind] at hrunning
    obtain ⟨w', hw', hkind⟩ := Option.bind_eq_some_iff.1 hrunning.symm
    obtain ⟨kind', hfind'⟩ := h.right.housed.running _ w' hw'
    obtain rfl := Option.some.inj ((h.right.sound.kind_of_find hfind').symm.trans hkind)
    exact Or.inr ⟨kind', w, w', rfl, hw', hfind, hfind'⟩

/-! ## § 4. Steps -/

open Build

variable {R : Builder → Builder → Prop}

/-- A worker of the host is known or registered. -/
structure Enrolled (host : String) (b₀ B₀ : Builder) (t : Time) (F G : List Vertex)
    (b B : Builder) (kind : WorkerKind) (w w' : WorkerId) (b' B' : Builder) : Prop where
  paired : Paired host b₀ B₀ t F G b' B'
  kin : Kin host kind b' B' w w'
  moved : Moved b B b' B'

theorem Within.addWorker (h : Within host b₀ t F b) (x : Worker) :
    Ensures (store (·.addWorker x)) b (fun w b' => (b'.graph.findWorker? x.key = some w ∧
      b.Writes x.host (·.enrol x) b') ∧ During False b₀ t F b') fun _ _ => False := by
  obtain ⟨w, g, hok, -, hfind, hwrites⟩ := h.housed.addWorker h.sound h.opened x
  refine Ensures.and ?_ ((h.toDuring.addWorker x).mono (fun _ _ hd => hd.1) fun _ _ hr => hr)
  rw [ensures_store hok]
  exact ⟨hfind, hwrites⟩

theorem Paired.addWorker (h : Paired host b₀ B₀ t F G b B) {x : Worker} (hx : x.host = host) :
    Twins (store (·.addWorker x)) (store (·.addWorker x)) b B
      (Enrolled host b₀ B₀ t F G b B x.kind) R := by
  subst hx
  refine ((h.left.addWorker x).twins (h.right.addWorker x)).mono ?_
  rintro w w' b' B' ⟨⟨⟨hfind, hwrites⟩, hd⟩, ⟨hfind', hwrites'⟩, hd'⟩
  exact ⟨h.write hwrites hwrites' hd hd', ⟨hfind, hfind'⟩, hwrites.keeps, hwrites'.keeps⟩

theorem Paired.tidOf (h : Paired host b₀ B₀ t F G b B) (e : Event) (field : String) :
    Twins (tidOf e field) (tidOf e field) b B (fun tid tid' b' B' => tid = tid' ∧ b' = b ∧ B' = B)
      (Matched host b₀ B₀) := by
  unfold Build.tidOf
  split
  · exact twins_pure ⟨rfl, rfl, rfl⟩
  · exact twins_throw _ h.toMatched

theorem Paired.threadOf (h : Paired host b₀ B₀ t F G b B) (e : Event) (n : Nat)
    (field nameField : String) :
    Twins (threadOf e ⟨host, n⟩ field nameField) (threadOf e ⟨host, n⟩ field nameField) b B
      (fun w w' b' B' => ∃ kind, Enrolled host b₀ B₀ t F G b B kind w w' b' B')
      (Matched host b₀ B₀) := by
  unfold Build.threadOf
  refine (h.tidOf e field).bind ?_
  rintro tid _ _ _ ⟨rfl, rfl, rfl⟩
  have hhost : (Cpu.worker ⟨host, n⟩ tid (e.text? nameField)).host = host := by
    unfold Cpu.worker
    split <;> rfl
  exact (h.addWorker hhost).mono fun _ _ _ _ henrolled => ⟨_, henrolled⟩

/-- What the growth of a chain of the host leads to. -/
structure GrewOn (host : String) (b₀ : Builder) (t : Time) (F : List Vertex) (b : Builder)
    (kind : WorkerKind) (w : WorkerId) (s : EdgeState) (q : Option String) (v : VertexId)
    (b' : Builder) : Prop where
  writes : b.Writes host (·.grow kind t s q) b'
  during : (∀ u ∈ F, u.worker ≠ w) → During False b₀ t (⟨v, w, t⟩ :: F) b'
  place : b'.graph.placeOn? host ⟨v, w, t⟩ = some ⟨kind, ((b.on host).chain kind).length⟩

theorem Within.grow (h : Within host b₀ t F b) (hfind : b.graph.findWorker? ⟨host, kind⟩ = some w)
    {s : EdgeState} (hs : s ≠ .epsilon) (q : Option String) :
    Ensures (Build.grow w t s q) b (GrewOn host b₀ t F b kind w s q) fun _ _ => False := by
  have hw := h.sound.isSome_of_find hfind
  have hlink : b.links.get? w = none := by rw [h.housed.idle, Table.get?_empty]
  obtain ⟨a, hok⟩ := h.toDuring.append_ok hw s q
  unfold Build.grow
  rw [ensures_bind, ensures_store (h.toDuring.createVertex hw)]
  unfold appendVertex
  simp only [ensures_bind, ensures_takeLink, hlink, Table.erase_eq_self hlink, ensures_pure]
  rw [ensures_store hok]
  refine ⟨h.housed.grown h.sound h.opened hfind h.toDuring.tail.1 s q, ?_,
    h.sound.placeOn?_grown hfind⟩
  exact (h.toDuring.grown hw hs (h.toDuring.pass (.grow w s q hw hs hlink))).2 hlink

/-- A fresh vertex of each builder, at the same place of the host. -/
structure Placed (host : String) (b B : Builder) (F G : List Vertex) (u u' : Vertex) : Prop where
  left : u ∈ F
  right : u' ∈ G
  place : ∃ p, b.graph.placeOn? host u = some p ∧ B.graph.placeOn? host u' = some p

/-- The chains of a worker of the host grow in both builders. -/
structure Grown (host : String) (b₀ B₀ : Builder) (t : Time) (F G : List Vertex)
    (b B : Builder) (w w' : WorkerId) (v v' : VertexId) (b' B' : Builder) : Prop where
  matched : Matched host b₀ B₀ b' B'
  moved : Moved b B b' B'
  paired : (∀ u ∈ F, u.worker ≠ w) → (∀ u ∈ G, u.worker ≠ w') →
    Paired host b₀ B₀ t (⟨v, w, t⟩ :: F) (⟨v', w', t⟩ :: G) b' B'
  placed : Placed host b' B' (⟨v, w, t⟩ :: F) (⟨v', w', t⟩ :: G) ⟨v, w, t⟩ ⟨v', w', t⟩

theorem Paired.grow (h : Paired host b₀ B₀ t F G b B) (hk : Kin host kind b B w w')
    {s : EdgeState} (hs : s ≠ .epsilon) (q : Option String) :
    Twins (Build.grow w t s q) (Build.grow w' t s q) b B (Grown host b₀ B₀ t F G b B w w') R := by
  refine ((h.left.grow hk.left hs q).twins (h.right.grow hk.right hs q)).mono ?_
  rintro v v' b' B' ⟨hl, hr⟩
  refine ⟨h.toMatched.write hl.writes hr.writes, ⟨hl.writes.keeps, hr.writes.keeps⟩, ?_, ?_⟩
  · intro hF hG
    exact h.write hl.writes hr.writes (hl.during hF) (hr.during hG)
  · exact ⟨List.mem_cons_self, List.mem_cons_self, _, hl.place, by rw [h.same]; exact hr.place⟩

theorem Paired.changeState (h : Paired host b₀ B₀ t F G b B) (hk : Kin host kind b B w w') :
    Twins (changeState w t) (changeState w' t) b B (Grown host b₀ B₀ t F G b B w w') R := by
  unfold Build.changeState
  rw [twins_system, SystemModel.oldStatus, SystemModel.oldStatus, h.statusPair hk]
  exact h.grow hk (edgeState_ne_epsilon _) none

theorem Paired.extendState (h : Paired host b₀ B₀ t F G b B) (hk : Kin host kind b B w w') :
    Twins (extendState w t) (extendState w' t) b B (Grown host b₀ B₀ t F G b B w w') R := by
  unfold Build.extendState
  rw [twins_system, SystemModel.status, SystemModel.status, h.statusPair hk]
  exact h.grow hk (edgeState_ne_epsilon _) none

theorem Within.kernelWorker (h : Within host b₀ t F b) (n : Nat) :
    Ensures (kernelWorker ⟨host, n⟩) b (fun w b' =>
      (b'.graph.findWorker? ⟨host, .kernel n⟩ = some w ∧
        b.Writes host (·.demandKernelWorker host n) b') ∧ During False b₀ t F b')
      fun _ _ => False := by
  obtain ⟨w, m, g, hok, hfind, hwrites⟩ := h.housed.kernelWorker h.sound h.opened host n
  refine Ensures.and ?_ ((h.toDuring.kernelWorker _).mono (fun _ _ hd => hd.1) fun _ _ hr => hr)
  unfold Build.kernelWorker
  simp only [ensures_bind, ensures_get, hok, ensures_set, ensures_pure]
  exact ⟨hfind, hwrites⟩

theorem Paired.kernelWorker (h : Paired host b₀ B₀ t F G b B) (n : Nat) :
    Twins (kernelWorker ⟨host, n⟩) (kernelWorker ⟨host, n⟩) b B
      (Enrolled host b₀ B₀ t F G b B (.kernel n)) R := by
  refine ((h.left.kernelWorker n).twins (h.right.kernelWorker n)).mono ?_
  rintro w w' b' B' ⟨⟨⟨hfind, hwrites⟩, hd⟩, ⟨hfind', hwrites'⟩, hd'⟩
  exact ⟨h.write hwrites hwrites' hd hd', ⟨hfind, hfind'⟩, hwrites.keeps, hwrites'.keeps⟩

/-- No packet waits, so there is none to hand on. -/
theorem Housed.redirectLink (h : b.Housed) (w : WorkerId) (v : VertexId) :
    Ensures (redirectLink w v) b (fun _ b' => b' = b) fun _ _ => False := by
  have hlink : b.links.get? w = none := by rw [h.idle, Table.get?_empty]
  unfold Build.redirectLink
  simp only [ensures_bind, ensures_takeLink, hlink, Table.erase_eq_self hlink, ensures_pure]

theorem Matched.redirectLink (h : Matched host b₀ B₀ b B) (w w' : WorkerId) (v v' : VertexId) :
    EndAlike host b₀ B₀ (redirectLink w v) (redirectLink w' v') b B := by
  refine ((h.left.housed.redirectLink w v).twins (h.right.housed.redirectLink w' v')).mono ?_
  rintro _ _ _ _ ⟨rfl, rfl⟩
  exact h

/-! ## § 5. Edges -/

variable {u v u' v' : Vertex}

/-- Fresh vertices keep their place when another vertex is made. -/
theorem Paired.placed (h : Paired host b₀ B₀ t F G b B) (hm : Moved b B b' B')
    (hp : Placed host b B F G u u') : Placed host b' B' (v :: F) (v' :: G) u u' := by
  obtain ⟨p, hleft, hright⟩ := hp.place
  have hl := h.left.fresh u hp.left
  have hr := h.right.fresh u' hp.right
  refine ⟨List.mem_cons_of_mem _ hp.left, List.mem_cons_of_mem _ hp.right, p, ?_, ?_⟩
  · rw [hm.left.placeOn? h.left.sound hl.shown hl.joined, hleft]
  · rw [hm.right.placeOn? h.right.sound hr.shown hr.joined, hright]

/-- One fresh vertex is named the cause of another, in either way of linking. -/
theorem Within.join (h : Within host b₀ t F b) (hu : u ∈ F) (hv : v ∈ F)
    (hne : u.worker ≠ v.worker) {p q : Place} (hp : b.graph.placeOn? host u = some p)
    (hq : b.graph.placeOn? host v = some q) :
    Ensures (store (·.linkVertical u.id v.id .default none)) b
        (fun _ b' => b.Writes host (·.draw ⟨p, q, .default, none⟩) b') (fun _ _ => False) ∧
      Ensures (storeSteps (·.link u.id v.id .default none)) b
        (fun _ b' => b.Writes host (·.draw ⟨p, q, .default, none⟩) b') fun _ _ => False := by
  have hfu := h.fresh u hu
  have hfv := h.fresh v hv
  have hadm := (h.toDuring.join hu hv hne).1
  have hparents : b.graph.parent? u.id ≠ b.graph.parent? v.id := by
    rw [parent?_eq, parent?_eq, hfu.shown, hfv.shown]
    simpa using hne
  have hwrites := h.housed.draw h.sound h.opened hfu.shown hfv.shown hfu.joined hfv.joined hp hq
    hadm
  constructor
  · rw [ensures_store
      (linkVertical_eq_ok.2 ⟨h.opened, hfu.joined, hfv.joined, hadm, rfl, rfl⟩)]
    exact hwrites
  · rw [ensures_storeSteps (link_eq_pushEdge h.opened hfu.joined hfv.joined hparents hadm)]
    exact hwrites

theorem Paired.join (h : Paired host b₀ B₀ t F G b B) (hu : Placed host b B F G u u')
    (hv : Placed host b B F G v v') (hne : u.worker ≠ v.worker) (hne' : u'.worker ≠ v'.worker) :
    EndAlike host b₀ B₀ (store (·.linkVertical u.id v.id .default none))
        (store (·.linkVertical u'.id v'.id .default none)) b B ∧
      EndAlike host b₀ B₀ (storeSteps (·.link u.id v.id .default none))
        (storeSteps (·.link u'.id v'.id .default none)) b B := by
  obtain ⟨p, hp, hp'⟩ := hu.place
  obtain ⟨q, hq, hq'⟩ := hv.place
  obtain ⟨hvertical, hlink⟩ := h.left.join hu.left hv.left hne hp hq
  obtain ⟨hvertical', hlink'⟩ := h.right.join hu.right hv.right hne' hp' hq'
  exact ⟨(hvertical.twins hvertical').mono fun _ _ _ _ hw => h.toMatched.write hw.1 hw.2,
    (hlink.twins hlink').mono fun _ _ _ _ hw => h.toMatched.write hw.1 hw.2⟩

end Builder

end CausalPath
