import CausalPath.Proofs.Build.Event

/-!
# Steps that are granted

Every step that a handler of events is made of is granted by the graph of a steady builder, and
leads from one state of the event to the next. There is one lemma per step, to be used in place of
its definition.
-/

namespace CausalPath

open CausalPath.Graph

variable {strict : Prop} {b₀ b b' : Builder} {t : Time} {F : List Vertex} {w : WorkerId}

/-! ## § 1. Granted writes -/

namespace Graph

variable {g : Graph}

/-- A vertex and an edge between other vertices are added in any order. -/
theorem pushEdge_pushVertex {x : EdgeRecord} (ho : (g.vertex? x.origin).isSome)
    (ht : (g.vertex? x.target).isSome) (w : WorkerId) (t : Time) :
    (g.pushVertex w t).pushEdge x = (g.pushEdge x).pushVertex w t := by
  have hlt : ∀ v : VertexId, (g.vertex? v).isSome → v.index < g.vertices.size := by
    intro v hv
    simpa [vertex?] using hv
  have ho := hlt _ ho
  have ht := hlt _ ht
  have hvertices : ((g.pushVertex w t).pushEdge x).vertices =
      ((g.pushEdge x).pushVertex w t).vertices := by
    apply Array.ext_getElem?
    intro i
    simp only [pushEdge, setSlot, pushVertex, nextEdge, Array.getElem?_modify, Array.getElem?_push,
      Array.size_modify]
    by_cases hi : i = g.vertices.size
    · subst hi
      simp [Nat.ne_of_lt ho, Nat.ne_of_lt ht]
    · simp [hi]
  show (⟨_, _, _, _, _, ((g.pushVertex w t).pushEdge x).vertices, _⟩ : Graph) = _
  rw [hvertices]
  rfl

theorem Admits.pushVertex {x : EdgeRecord} (h : g.Admits x) (w : WorkerId) (t : Time) :
    (g.pushVertex w t).Admits x := by
  refine ⟨h.distinct, ?_, ?_⟩
  · intro v d hm
    rw [slot?_pushVertex]
    exact h.free v d hm
  · obtain ⟨r, s, hr, hs, hrs⟩ := h.forward
    exact ⟨r, s, time?_pushVertex_of_some w t hr, time?_pushVertex_of_some w t hs, hrs⟩

/-- A worker is known or registered. -/
theorem Sound.addWorker_cases (h : g.Sound) (hopen : g.phase = .building) (x : Worker) :
    ∃ w g', g.addWorker x = .ok (w, g') ∧ (g'.worker? w).isSome ∧
      (g' = g ∨ (g.findWorker? x.key = none ∧ g' = g.pushWorker x)) := by
  unfold addWorker
  cases hfind : g.findWorker? x.key with
  | some w =>
    obtain ⟨y, hy, -⟩ := (h.found_iff x.key w).1 hfind
    exact ⟨w, g, rfl, by simp [hy], Or.inl rfl⟩
  | none =>
    refine ⟨g.nextWorker, _, ?_, ?_, Or.inr ⟨rfl, rfl⟩⟩
    · simp only [requireOpen_eq_ok (u := ()).2 hopen]
      rfl
    · rw [worker?_pushWorker, if_pos rfl]
      rfl

/-- A link between two vertices of chains of different workers draws an edge. -/
theorem link_eq_pushEdge {u v : VertexId} {s : EdgeState} {q : Option String}
    (hopen : g.phase = .building) (hu : g.contains u = true) (hv : g.contains v = true)
    (hne : g.parent? u ≠ g.parent? v) (hadm : g.Admits ⟨u, v, s, q, false⟩) :
    g.link u v s q = (.ok g.nextEdge, g.pushEdge ⟨u, v, s, q, false⟩) := by
  rw [contains, Option.any_eq_true] at hu hv
  obtain ⟨x, hx, hxin⟩ := hu
  obtain ⟨y, hy, hyin⟩ := hv
  have hworkers : x.worker ≠ y.worker := by
    intro heq
    apply hne
    rw [parent?, parent?, hx, hy, Option.map_some, Option.map_some, heq]
  unfold link
  rw [requireOpen_eq_ok (u := ()).2 hopen, recordInGraph_eq_ok.2 ⟨hx, hxin⟩, record_eq_ok.2 hy]
  simp only [bind, Except.bind, pure, Except.pure, if_neg hworkers, if_pos hyin,
    insertEdge_eq_ok.2 ⟨hadm, rfl, rfl⟩, orKeep]

end Graph

/-- The rejection of an event is not the graph's, and the event is over. -/
def Builder.Rejected (strict : Prop) (b₀ : Builder) (t : Time) (o : Builder.Outcome)
    (e : BuildError) (b : Builder) : Prop :=
  (∀ r, e ≠ .graph r) ∧ Builder.Handled strict b₀ t o b

/-- The workers that were registered still are. -/
def Builder.Enrols (b b' : Builder) : Prop :=
  ∀ w, (b.graph.worker? w).isSome → (b'.graph.worker? w).isSome

namespace Builder

/-! ## § 2. Workers -/

variable {R : BuildError → Builder → Prop}

open Build

theorem During.tidOf (h : During strict b₀ t F b) (e : Event) (field : String) :
    Ensures (tidOf e field) b (fun _ b' => b' = b) (Rejected strict b₀ t b₀.quiet) := by
  unfold Build.tidOf
  split
  · exact rfl
  · exact ⟨by simp, h.toHandled⟩

/-- The worker of a key, known or new. -/
theorem During.addWorker (h : During strict b₀ t F b) (x : Worker) :
    Ensures (store (·.addWorker x)) b (fun w b' => During strict b₀ t F b' ∧
      (b'.graph.worker? w).isSome ∧ b.Enrols b' ∧ b'.system = b.system) R := by
  obtain ⟨w, g', hok, hw, rfl | ⟨hnew, rfl⟩⟩ := h.sound.addWorker_cases h.opened x
  · rw [ensures_store hok]
    exact ⟨h, hw, fun _ hi => hi, rfl⟩
  · rw [ensures_store hok]
    have hkeeps := (Step.register x h.opened hnew).keeps h.sound
    exact ⟨h.register hnew, hw, fun _ hi => hkeeps.isSome_worker? hi, rfl⟩

theorem During.threadOf (h : During strict b₀ t F b) (e : Event) (c : Cpu)
    (field nameField : String) :
    Ensures (threadOf e c field nameField) b (fun w b' => During strict b₀ t F b' ∧
      (b'.graph.worker? w).isSome ∧ b.Enrols b') (Rejected strict b₀ t b₀.quiet) := by
  unfold Build.threadOf
  refine (h.tidOf e field).bind ?_
  rintro tid _ rfl
  exact (h.addWorker _).mono (fun _ _ ⟨hd, hw, hall, _⟩ => ⟨hd, hw, hall⟩) fun _ _ he => he

theorem During.currentOf (h : During strict b₀ t F b) (e : Event) (c : Cpu) :
    Ensures (currentOf e c) b (fun w b' => b' = b ∧ b.system.current? c = some w ∧
      (b.graph.worker? w).isSome)
      (fun err b' => b.system.current? c = none ∧ Rejected strict b₀ t b₀.quiet err b') := by
  unfold Build.currentOf
  rw [ensures_bind, ensures_system]
  split
  · rename_i w hw
    exact ⟨rfl, hw, h.known.running c w hw⟩
  · rename_i hnone
    exact ⟨hnone, by simp, h.toHandled⟩

theorem During.kernelWorker (h : During strict b₀ t F b) (c : Cpu) :
    Ensures (kernelWorker c) b (fun w b' => During strict b₀ t F b' ∧
      (b'.graph.worker? w).isSome ∧ b.Enrols b' ∧ b'.system.kernelWorker? c = some w ∧
        b'.system.contexts = b.system.contexts) R := by
  unfold Build.kernelWorker
  rw [ensures_bind, ensures_get]
  unfold SystemModel.kernelWorker
  cases hkernel : b.system.kernelWorker? c with
  | some w =>
    simp only [ensures_bind, ensures_set, ensures_pure]
    exact ⟨h, h.known.kernels c w hkernel, fun _ hi => hi, hkernel, trivial⟩
  | none =>
    obtain ⟨w, g', hok, hw, hcase⟩ := h.sound.addWorker_cases h.opened (.kernel c.host c.number)
    simp only [hok, ensures_bind, ensures_set, ensures_pure]
    have hgraph : During strict b₀ t F { b with graph := g' } ∧
        b.Enrols { b with graph := g' } := by
      rcases hcase with rfl | ⟨hnew, rfl⟩
      · exact ⟨h, fun _ hi => hi⟩
      · have hkeeps := (Step.register _ h.opened hnew).keeps h.sound
        exact ⟨h.register hnew, fun _ hi => hkeeps.isSome_worker? hi⟩
    obtain ⟨hd, hall⟩ := hgraph
    refine ⟨hd.track ⟨fun c' i hi => hall i (h.known.running c' i hi), ?_⟩, hw, hall,
      Table.get?_insert_self _ _ _, rfl⟩
    intro c' i hi
    simp only [SystemModel.kernelWorker?, SystemModel.setKernelWorker, Table.get?_insert] at hi
    split at hi
    · obtain rfl := Option.some.inj hi
      exact hw
    · exact hall i (h.known.kernels c' i hi)

/-- The vertices, the chains and the packets that wait are the same. -/
structure Untouched (b b' : Builder) : Prop where
  vertices : ∀ v, b'.graph.vertex? v = b.graph.vertex? v
  chains : ∀ w, b'.graph.chainOf w = b.graph.chainOf w
  links : b'.links = b.links

theorem Untouched.refl (b : Builder) : b.Untouched b := ⟨fun _ => rfl, fun _ => rfl, rfl⟩

/-- The worker of the interrupts of a CPU is looked up or registered. -/
theorem During.kernelWorker_untouched (h : During strict b₀ t F b) (c : Cpu) :
    Ensures (Build.kernelWorker c) b (fun _ b' => b.Untouched b') R := by
  unfold Build.kernelWorker SystemModel.kernelWorker
  rw [ensures_bind, ensures_get]
  cases b.system.kernelWorker? c with
  | some w => exact .refl b
  | none =>
    obtain ⟨w, g', hok, -, rfl | ⟨-, rfl⟩⟩ :=
      h.sound.addWorker_cases h.opened (.kernel c.host c.number)
    · simp only [hok, ensures_bind, ensures_set, ensures_pure]
      exact ⟨fun _ => rfl, fun _ => rfl, rfl⟩
    · simp only [hok, ensures_bind, ensures_set, ensures_pure]
      exact ⟨fun _ => rfl, fun _ => chainOf_pushWorker _ _ _, rfl⟩

/-- A change of statuses or handlers is no news about workers. -/
theorem During.trackStatus (h : During strict b₀ t F b) {m : SystemModel}
    (hrunning : m.running = b.system.running)
    (hkernels : m.kernelWorkers = b.system.kernelWorkers) :
    During strict b₀ t F { b with system := m } := by
  refine h.track ⟨fun c i hi => h.known.running c i ?_, fun c i hi => h.known.kernels c i ?_⟩
  · rwa [SystemModel.current?, hrunning] at hi
  · rwa [SystemModel.kernelWorker?, hkernels] at hi

theorem During.trackCurrent (h : During strict b₀ t F b) (c : Cpu)
    (hw : (b.graph.worker? w).isSome) :
    During strict b₀ t F { b with system := b.system.setCurrent c w } := by
  refine h.track ⟨fun c' i hi => ?_, h.known.kernels⟩
  simp only [SystemModel.current?, SystemModel.setCurrent, Table.get?_insert] at hi
  split at hi
  · obtain rfl := Option.some.inj hi
    exact hw
  · exact h.known.running c' i hi

/-! ## § 3. Packets that become edges -/

/-- The edge of a link is drawn when it is admitted. -/
theorem ensures_networkEdge (b : Builder) (l : NetworkLink) {target : VertexId}
    {Q : Unit → Builder → Prop}
    (hopen : b.graph.phase = .building) (hin : b.graph.contains l.source = true)
    (htarget : b.graph.contains target = true) (hadm : b.graph.Admits (l.edge target)) :
    Ensures (networkEdge l.source target) b Q R ↔
      Q () { b with graph := b.graph.pushEdge (l.edge target) } := by
  have hok : b.graph.linkVertical l.source target .network none =
      .ok (b.graph.nextEdge, b.graph.pushEdge (l.edge target)) :=
    linkVertical_eq_ok.2 ⟨hopen, hin, htarget, hadm, rfl, rfl⟩
  simp only [networkEdge, ensures_modify, hok]

/-- The builder after the packet that waits for a worker, if there is one, has become an edge. -/
def handOver (b : Builder) (w : WorkerId) (target : NetworkLink → VertexId) : Builder :=
  match b.links.get? w with
  | none => b
  | some l => b.deliver w l (target l)

section HandOver

variable {target : NetworkLink → VertexId}

theorem handOver_of_none (h : b.links.get? w = none) : b.handOver w target = b := by
  rw [handOver, h]

theorem handOver_of_some {l : NetworkLink} (h : b.links.get? w = some l) :
    b.handOver w target = b.deliver w l (target l) := by
  rw [handOver, h]

theorem links_handOver (b : Builder) (w : WorkerId) (target : NetworkLink → VertexId)
    (i : WorkerId) :
    (b.handOver w target).links.get? i = if w = i then none else b.links.get? i := by
  cases hl : b.links.get? w with
  | none =>
    rw [handOver_of_none hl]
    split
    · rename_i hi
      rw [← hi, hl]
    · rfl
  | some l =>
    rw [handOver_of_some hl]
    exact Table.get?_erase _ _ _

@[simp] theorem nextVertex_handOver (b : Builder) (w : WorkerId)
    (target : NetworkLink → VertexId) :
    (b.handOver w target).graph.nextVertex = b.graph.nextVertex := by
  unfold handOver
  split
  · rfl
  · exact nextVertex_pushEdge _ _

@[simp] theorem worker?_handOver (b : Builder) (w : WorkerId) (target : NetworkLink → VertexId)
    (i : WorkerId) : (b.handOver w target).graph.worker? i = b.graph.worker? i := by
  unfold handOver
  split
  · rfl
  · exact worker?_pushEdge _ _ _

@[simp] theorem chainOf_handOver (b : Builder) (w : WorkerId) (target : NetworkLink → VertexId)
    (i : WorkerId) : (b.handOver w target).graph.chainOf i = b.graph.chainOf i := by
  unfold handOver
  split
  · rfl
  · exact chainOf_pushEdge _ _ _

@[simp] theorem system_handOver (b : Builder) (w : WorkerId) (target : NetworkLink → VertexId) :
    (b.handOver w target).system = b.system := by
  unfold handOver
  split <;> rfl

theorem keeps_handOver (b : Builder) (w : WorkerId) (target : NetworkLink → VertexId) :
    b.graph.Keeps (b.handOver w target).graph := by
  unfold handOver
  split
  · exact .refl _
  · exact keeps_pushEdge _ _

end HandOver

/-- The packet that waits for a worker becomes an edge of the vertex that received it. -/
theorem During.handOver (h : During strict b₀ t F b) (w : WorkerId) :
    During strict b₀ t F (b.handOver w (·.destination)) := by
  cases hl : b.links.get? w with
  | none => rwa [handOver_of_none hl]
  | some l =>
    rw [handOver_of_some hl]
    exact (h.deliver hl).2.2.2

/-- The packet that waits for a worker becomes an edge of a fresh vertex. -/
theorem During.handOver_fresh (h : During strict b₀ t F b) (w : WorkerId) {u : Vertex}
    (hu : u ∈ F) : Handled strict b₀ t b₀.quiet (b.handOver w fun _ => u.id) := by
  cases hl : b.links.get? w with
  | none =>
    rw [handOver_of_none hl]
    exact h.toHandled
  | some l =>
    rw [handOver_of_some hl]
    exact (h.redirect hl hu).2.2

/-- A packet that waits for its receiver is handed to a fresh vertex. -/
theorem During.ensures_redirectLink (h : During strict b₀ t F b) (w : WorkerId) {u : Vertex}
    (hu : u ∈ F) {Q : Unit → Builder → Prop} :
    Ensures (redirectLink w u.id) b Q R ↔ Q () (b.handOver w fun _ => u.id) := by
  unfold Build.redirectLink
  rw [ensures_bind, ensures_takeLink]
  cases hl : b.links.get? w with
  | none => simp only [ensures_pure, Table.erase_eq_self hl, handOver_of_none hl]
  | some l =>
    obtain ⟨hadm, hin, -⟩ := h.redirect hl hu
    rw [handOver_of_some hl]
    exact ensures_networkEdge { b with links := b.links.erase w } l h.opened hin
      (h.fresh u hu).joined hadm

/-! ## § 4. Growing chains -/

/-- What the growth of a chain by a vertex leads to. -/
structure Grew (strict : Prop) (b₀ : Builder) (t : Time) (F : List Vertex) (b : Builder)
    (w : WorkerId) (v : VertexId) (b' : Builder) : Prop where
  next : v = b.graph.nextVertex
  handled : Handled strict b₀ t b₀.quiet b'
  /-- The vertex is fresh if it is the worker's first one in the event. -/
  during : (∀ u ∈ F, u.worker ≠ w) → During strict b₀ t (⟨v, w, t⟩ :: F) b'
  enrols : b.Enrols b'
  /-- No packet waits for the worker any more. -/
  taken : b'.links.get? w = none

/-- A created vertex is appended to the chain of its worker. -/
theorem During.append_ok (h : During strict b₀ t F b) (hw : (b.graph.worker? w).isSome)
    (s : EdgeState) (q : Option String) :
    ∃ a, (b.graph.pushVertex w t).append b.graph.nextVertex s q =
      .ok (a, b.graph.grown w t s q) := by
  obtain ⟨a, hext⟩ := h.sound.extend_new_ok hw h.tail.1 s q
  exact ⟨a, append_eq_ok.2 ⟨h.opened, hext⟩⟩

/-- Creating a vertex and appending it grows a chain. A packet that waits for the worker goes on
waiting. -/
theorem During.append (h : During strict b₀ t F b) (hw : (b.graph.worker? w).isSome)
    {s : EdgeState} (hs : s ≠ .epsilon) (q : Option String)
    (hcourse : Course t b₀.scene none
      { b with graph := b.graph.grown w t s q : Builder }.scene) :
    Ensures (store (·.append b.graph.nextVertex s q))
      { b with graph := b.graph.pushVertex w t }
      (fun _ b' => Handled strict b₀ t b₀.quiet b') R := by
  obtain ⟨a, hok⟩ := h.append_ok hw s q
  rw [ensures_store hok]
  exact (h.grown hw hs hcourse).1

/-- A vertex is created no earlier than the tail of its chain. -/
theorem During.createVertex (h : During strict b₀ t F b) (hw : (b.graph.worker? w).isSome) :
    b.graph.createVertex w t = .ok (b.graph.nextVertex, b.graph.pushVertex w t) :=
  createVertex_eq_ok.2 ⟨h.opened, hw, h.tail.1, rfl, rfl⟩

/-- The builder after a chain has grown. The packet that waits for its worker becomes an edge
before. -/
def grownBy (b : Builder) (w : WorkerId) (t : Time) (s : EdgeState) (q : Option String) : Builder :=
  { b.handOver w (·.destination) with
    graph := (b.handOver w (·.destination)).graph.grown w t s q }

@[simp] theorem system_grownBy (b : Builder) (w : WorkerId) (t : Time) (s : EdgeState)
    (q : Option String) : (b.grownBy w t s q).system = b.system :=
  b.system_handOver w _

/-- The growth of a chain is granted. -/
theorem During.ensures_grow (h : During strict b₀ t F b) (hw : (b.graph.worker? w).isSome)
    (s : EdgeState) (q : Option String) {Q : VertexId → Builder → Prop} :
    Ensures (grow w t s q) b Q R ↔ Q b.graph.nextVertex (b.grownBy w t s q) := by
  unfold Build.grow grownBy
  simp only [ensures_bind, ensures_pure]
  rw [ensures_store (h.createVertex hw)]
  unfold appendVertex
  simp only [ensures_bind, ensures_takeLink]
  cases hl : b.links.get? w with
  | none =>
    obtain ⟨a, hok⟩ := h.append_ok hw s q
    simp only [Table.erase_eq_self hl, ensures_bind, ensures_pure, handOver_of_none hl]
    rw [ensures_store hok]
  | some l =>
    obtain ⟨hadm, hin, hdest, hd⟩ := h.deliver hl
    have hedge : ((b.graph.pushVertex w t).pushEdge (l.edge l.destination)) =
        (b.deliver w l l.destination).graph.pushVertex w t :=
      pushEdge_pushVertex (Sound.isSome_of_contains hin) (Sound.isSome_of_contains hdest) w t
    have hw' : ((b.deliver w l l.destination).graph.worker? w).isSome := by
      show ((b.graph.pushEdge _).worker? w).isSome
      rwa [worker?_pushEdge]
    have hnext : (b.deliver w l l.destination).graph.nextVertex = b.graph.nextVertex :=
      nextVertex_pushEdge _ _
    obtain ⟨a, hok⟩ := hd.append_ok hw' s q
    rw [hnext] at hok
    simp only [ensures_bind, handOver_of_some hl]
    rw [ensures_networkEdge { b with graph := b.graph.pushVertex w t, links := b.links.erase w } l
      h.opened (by rwa [contains_pushVertex]) (by rwa [contains_pushVertex])
      (hadm.pushVertex w t)]
    dsimp only
    rw [hedge, ensures_store hok]
    rfl

/-- A chain has grown, and the packet that waited for its worker has become an edge before. -/
theorem During.grew (h : During strict b₀ t F b) (hw : (b.graph.worker? w).isSome) {s : EdgeState}
    (hs : s ≠ .epsilon) (q : Option String) :
    Grew strict b₀ t F b w b.graph.nextVertex (b.grownBy w t s q) := by
  have hd := h.handOver w
  have hw' : ((b.handOver w (·.destination)).graph.worker? w).isSome := by
    rwa [worker?_handOver]
  have hnone : (b.handOver w (·.destination)).links.get? w = none := by
    rw [links_handOver, if_pos rfl]
  obtain ⟨hhandled, hduring⟩ := hd.grown hw' hs (hd.pass (.grow w s q hw' hs hnone))
  have hduring := hduring hnone
  rw [grownVertex, nextVertex_handOver] at hduring
  refine ⟨rfl, hhandled, hduring, fun i hi => ?_, hnone⟩
  show (((b.handOver w (·.destination)).graph.grown w t s q).worker? i).isSome
  rwa [worker?_grown, worker?_handOver]

theorem During.grow (h : During strict b₀ t F b) (hw : (b.graph.worker? w).isSome) {s : EdgeState}
    (hs : s ≠ .epsilon) (q : Option String) :
    Ensures (grow w t s q) b (Grew strict b₀ t F b w) R :=
  (h.ensures_grow hw s q).2 (h.grew hw hs q)

/-- No status is a hop. -/
theorem edgeState_ne_epsilon (s : ProcessStatus) : s.edgeState ≠ .epsilon := by
  cases s <;> decide

theorem During.ensures_changeState (h : During strict b₀ t F b) (hw : (b.graph.worker? w).isSome)
    {Q : VertexId → Builder → Prop} :
    Ensures (changeState w t) b Q R ↔
      Q b.graph.nextVertex (b.grownBy w t (b.system.oldStatus w).edgeState none) := by
  unfold Build.changeState
  rw [ensures_bind, ensures_system]
  exact h.ensures_grow hw _ none

theorem During.ensures_extendState (h : During strict b₀ t F b) (hw : (b.graph.worker? w).isSome)
    {Q : VertexId → Builder → Prop} :
    Ensures (extendState w t) b Q R ↔
      Q b.graph.nextVertex (b.grownBy w t (b.system.status w).edgeState none) := by
  unfold Build.extendState
  rw [ensures_bind, ensures_system]
  exact h.ensures_grow hw _ none

theorem During.changeState (h : During strict b₀ t F b) (hw : (b.graph.worker? w).isSome) :
    Ensures (changeState w t) b (Grew strict b₀ t F b w) R :=
  (h.ensures_changeState hw).2 (h.grew hw (edgeState_ne_epsilon _) none)

theorem During.extendState (h : During strict b₀ t F b) (hw : (b.graph.worker? w).isSome) :
    Ensures (extendState w t) b (Grew strict b₀ t F b w) R :=
  (h.ensures_extendState hw).2 (h.grew hw (edgeState_ne_epsilon _) none)

/-! ## § 5. Wakeups -/

/-- Of two fresh vertices one is named the cause of the other. -/
theorem During.ensures_join (h : During strict b₀ t F b) {u v : Vertex} (hu : u ∈ F) (hv : v ∈ F)
    (hne : u.worker ≠ v.worker) {Q : EdgeId → Builder → Prop} :
    Ensures (store (·.linkVertical u.id v.id .default none)) b Q R ↔ Q b.graph.nextEdge
      { b with graph := b.graph.pushEdge ⟨u.id, v.id, .default, none, false⟩ } :=
  ensures_store (linkVertical_eq_ok.2 ⟨h.opened, (h.fresh u hu).joined, (h.fresh v hv).joined,
    (h.join hu hv hne).1, rfl, rfl⟩)

/-- The chains of two workers grow. -/
theorem During.grew_both (h : During strict b₀ t [] b) (hw : (b.graph.worker? w).isSome)
    {i : WorkerId} (hi : (b.graph.worker? i).isSome) (hne : i ≠ w) {s s' : EdgeState}
    (hs : s ≠ .epsilon) (hs' : s' ≠ .epsilon) :
    During strict b₀ t
      [⟨(b.grownBy w t s none).graph.nextVertex, i, t⟩, ⟨b.graph.nextVertex, w, t⟩]
      ((b.grownBy w t s none).grownBy i t s' none) := by
  have hgrew := h.grew hw hs none
  have h₁ := hgrew.during (by simp)
  exact (h₁.grew (hgrew.enrols i hi) hs' none).during (by simpa using hne.symm)

/-- The builder after the chains of a woken thread and of the waking one have grown. The new vertex
of the waking one is named the cause of the other. -/
def wokenBy (b : Builder) (w waker : WorkerId) (t : Time) (s s' : EdgeState) : Builder :=
  let b₁ := b.grownBy w t s none
  let b₂ := b₁.grownBy waker t s' none
  { b₂ with graph :=
      b₂.graph.pushEdge ⟨b₁.graph.nextVertex, b.graph.nextVertex, .default, none, false⟩ }

theorem During.wokenBy (h : During strict b₀ t [] b) (hw : (b.graph.worker? w).isSome)
    {waker : WorkerId} (hwaker : (b.graph.worker? waker).isSome) (hne : waker ≠ w)
    {s s' : EdgeState} (hs : s ≠ .epsilon) (hs' : s' ≠ .epsilon) :
    Handled strict b₀ t b₀.quiet (b.wokenBy w waker t s s') :=
  ((h.grew_both hw hwaker hne hs hs').join List.mem_cons_self
    (List.mem_cons_of_mem _ List.mem_cons_self) hne).2

/-- The builder after the chain of a woken thread has grown. The packet that waits for this worker
becomes an edge of the new vertex. -/
def wokenFor (b : Builder) (w : WorkerId) (t : Time) (s : EdgeState) (q : Option String) :
    Option WorkerId → Builder
  | none => b.grownBy w t s q
  | some reached => (b.grownBy w t s q).handOver reached fun _ => b.graph.nextVertex

@[simp] theorem system_wokenFor (b : Builder) (w : WorkerId) (t : Time) (s : EdgeState)
    (q : Option String) (reached : Option WorkerId) :
    (b.wokenFor w t s q reached).system = b.system := by
  cases reached with
  | none => exact system_handOver _ _ _
  | some i => exact (system_handOver _ _ _).trans (system_handOver _ _ _)

theorem During.wokenFor (h : During strict b₀ t [] b) (hw : (b.graph.worker? w).isSome)
    {s : EdgeState} (hs : s ≠ .epsilon) (q : Option String) (reached : Option WorkerId) :
    Handled strict b₀ t b₀.quiet (b.wokenFor w t s q reached) := by
  have hgrew := h.grew hw hs q
  cases reached with
  | none => exact hgrew.handled
  | some i =>
    have hduring := hgrew.during (by simp)
    exact hduring.handOver_fresh i (u := ⟨b.graph.nextVertex, w, t⟩) List.mem_cons_self

/-- The packet that waits for another worker is handed to a woken thread. -/
theorem During.ensures_wakeFor (h : During strict b₀ t [] b) (hw : (b.graph.worker? w).isSome)
    {s : EdgeState} (hs : s ≠ .epsilon) (q : Option String) (reached : WorkerId)
    {Q : Unit → Builder → Prop} :
    Ensures (Build.redirectLink reached b.graph.nextVertex) (b.grownBy w t s q) Q R ↔
      Q () (b.wokenFor w t s q (some reached)) :=
  ((h.grew hw hs q).during (by simp)).ensures_redirectLink reached List.mem_cons_self

end Builder

end CausalPath
