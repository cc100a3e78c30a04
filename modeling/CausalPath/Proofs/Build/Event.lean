import CausalPath.Proofs.Build.Course
import CausalPath.Proofs.Build.Rules

/-!
# During an event

An event makes a few vertices, all at its own time, and may draw edges between them and from the
packets that wait. `Builder.During` follows a builder through an event that it met in the state
`b₀`: which of the new vertices can still take edges, and that nothing else has changed for the
packets. `Builder.Handled` is what is left of that when the event is over.
-/

namespace CausalPath

open CausalPath.Graph

variable {strict : Prop} {b₀ b b' : Builder} {t : Time} {F : List Vertex}

namespace Builder

/-! ## § 1. States of a builder in an event -/

/-- What an event brings about in a matcher: the pair that comes out, and the matcher after. -/
abbrev Outcome := Option (MatchedPair VertexId) × Matcher VertexId

/-- The outcome of an event that brings no end of a packet. -/
def quiet (b : Builder) : Outcome := (none, b.matcher)

/-- A worker that did nothing in the event gets a packet that another worker has just sent. -/
def Overtakes (b₀ : Builder) (w : WorkerId) (p : MatchedPair VertexId) (b : Builder) : Prop :=
  p.late = false ∧ p.source.payload = b₀.graph.nextVertex ∧
    b.graph.parent? p.destination.payload = some w ∧
      ∃ w', b.graph.parent? p.source.payload = some w' ∧ w' ≠ w

/-- What holds when an event at time `t` that met `b₀` is over, if it had this outcome. -/
structure Handled (strict : Prop) (b₀ : Builder) (t : Time) (o : Outcome) (b : Builder) : Prop
    extends Steady strict b where
  last : b.lastTime = some t
  past : ∀ v s, b.graph.time? v = some s → s ≤ t
  matcher : b.matcher = o.2
  counters : b.counters = { b₀.counters with
    discardedLinks := b₀.counters.discardedLinks + o.1.toList.countP (·.late) }
  /-- A link that is gone has become an edge, or the event gave its receiver another one. -/
  delivered : ∀ w l, b₀.links.get? w = some l → b.links.get? w = some l ∨
    b.graph.Sends l.source ∨ ∃ p, o.1 = some p ∧ b₀.Overtakes w p b
  course : Course t b₀.scene o.1 b.scene

/-- A vertex of the event that has its vertical slots free and that no keeper has. -/
structure Fresh (strict : Prop) (t : Time) (b : Builder) (u : Vertex) : Prop where
  shown : b.graph.vertex? u.id = some u
  now : u.time = t
  joined : b.graph.contains u.id = true
  free : ∀ d : MatchDirection, b.graph.slot? u.id d.slot = none
  unkept : ∀ d k, b.kept? d k ≠ some u.id
  still : strict → b.graph.Still u.id

/-- A state of a builder during an event at time `t` that met `b₀`, with these fresh vertices. -/
structure During (strict : Prop) (b₀ : Builder) (t : Time) (F : List Vertex) (b : Builder) : Prop
    extends Handled strict b₀ t b₀.quiet b where
  covered : strict → ∀ v, b.graph.time? v = some t → ∃ u ∈ F, u.id = v
  fresh : ∀ u ∈ F, b.Fresh strict t u
  /-- The first vertex of the event is the next one of the builder that it met. -/
  first : F = [] → b.graph.nextVertex = b₀.graph.nextVertex
  deeds : Deeds t b₀.scene b.scene

/-! ## § 2. Steps of an event -/

theorem Handled.follow {o : Outcome} (h : Handled strict b₀ t o b) (hs : Steady strict b')
    (hk : b.graph.Keeps b'.graph) (hmatcher : b'.matcher = b.matcher)
    (hcounters : b'.counters = b.counters) (hlast : b'.lastTime = b.lastTime)
    (hpast : ∀ v s, b'.graph.time? v = some s → s ≤ t)
    (hlinks : ∀ w l, b.links.get? w = some l → b'.links.get? w = some l ∨
      b'.graph.Sends l.source)
    (hcourse : Course t b₀.scene o.1 b'.scene) : Handled strict b₀ t o b' where
  toSteady := hs
  last := hlast.trans h.last
  past := hpast
  matcher := hmatcher.trans h.matcher
  counters := hcounters.trans h.counters
  delivered w l hl := by
    have hparents : ∀ {v i}, b.graph.parent? v = some i → b'.graph.parent? v = some i := by
      intro v i hi
      rw [parent?_eq, Option.map_eq_some_iff] at hi ⊢
      obtain ⟨u, hu, heq⟩ := hi
      exact ⟨u, hk.vertex? _ u hu, heq⟩
    rcases h.delivered w l hl with hkept | ⟨i, x, hx, hsends⟩ |
      ⟨p, hp, hlate, hnew, hreceiver, w', hsender, hne⟩
    · exact (hlinks w l hkept).imp_right Or.inl
    · exact Or.inr (Or.inl ⟨i, x, hk.edgeRecord? i x hx, hsends⟩)
    · exact Or.inr (Or.inr ⟨p, hp, hlate, hnew, hparents hreceiver, w', hparents hsender, hne⟩)
  course := hcourse

/-- A worker that was found by its key still is. -/
theorem Handled.findWorker? {o : Outcome} (h : Handled strict b₀ t o b) (hs : b₀.graph.Sound)
    {k : WorkerKey} {w : WorkerId} (hw : b₀.graph.findWorker? k = some w) :
    b.graph.findWorker? k = some w := by
  obtain ⟨x, hx, hkey⟩ := (hs.found_iff k w).1 hw
  exact (h.sound.found_iff k w).2 ⟨x, h.course.worker? hx, hkey⟩

/-- What follows in an event may be counted from any state without fresh vertices. -/
theorem During.restart (h : During strict b₀ t [] b) : During strict b t [] b where
  toSteady := h.toSteady
  last := h.last
  past := h.past
  matcher := rfl
  counters := rfl
  delivered _ _ hl := Or.inl hl
  course := .pass .refl (by simp [quiet])
  covered := h.covered
  fresh := h.fresh
  first _ := rfl
  deeds := .refl

/-- The course of an event that ends with one more deed. -/
theorem During.pass (h : During strict b₀ t F b) {s : Scene} (hdeed : Deed t b.scene s) :
    Course t b₀.scene b₀.quiet.1 s :=
  .pass (h.deeds.tail hdeed) (by simp [quiet])

theorem Fresh.keep {u : Vertex} (h : b.Fresh strict t u) (hk : b.graph.Keeps b'.graph)
    (hfree : ∀ d : MatchDirection, b'.graph.slot? u.id d.slot = b.graph.slot? u.id d.slot)
    (hkept : ∀ d k v, b'.kept? d k = some v → b.kept? d k = some v)
    (hstill : strict → b.graph.Still u.id → b'.graph.Still u.id) : b'.Fresh strict t u where
  shown := hk.vertex? _ u h.shown
  now := h.now
  joined := hk.contains _ h.joined
  free d := (hfree d).trans (h.free d)
  unkept d k hv := h.unkept d k (hkept d k _ hv)
  still hstrict := hstill hstrict (h.still hstrict)

theorem Fresh.ready {u : Vertex} (h : b.Fresh strict t u) (d : MatchDirection) :
    b.graph.Ready strict d u.id :=
  ⟨h.joined, h.free d, h.still⟩

theorem Fresh.time? {u : Vertex} (h : b.Fresh strict t u) : b.graph.time? u.id = some t := by
  rw [time?_eq, h.shown, ← h.now]
  rfl

theorem During.track (h : During strict b₀ t F b) {m : SystemModel} (hm : m.Known b.graph) :
    During strict b₀ t F { b with system := m } where
  toHandled := h.toHandled.follow (h.toSteady.track hm) (.refl _) rfl rfl rfl h.past
    (fun _ _ hl => Or.inl hl) (h.pass (.track m))
  covered := h.covered
  fresh u hu := (h.fresh u hu).keep (.refl _) (fun _ => rfl) (fun _ _ _ hv => hv) fun _ hs => hs
  first := h.first
  deeds := h.deeds.tail (.track m)

theorem During.register (h : During strict b₀ t F b) {w : Worker}
    (hnew : b.graph.findWorker? w.key = none) :
    During strict b₀ t F
      { b with graph := b.graph.pushWorker w } where
  toHandled := h.toHandled.follow (h.toSteady.register hnew)
    ((Step.register w h.opened hnew).keeps h.sound) rfl rfl rfl h.past
    (fun _ _ hl => Or.inl hl) (h.pass (.register w))
  covered := h.covered
  fresh u hu := (h.fresh u hu).keep ((Step.register w h.opened hnew).keeps h.sound) (fun _ => rfl)
    (fun _ _ _ hv => hv) fun _ hs => hs
  first := h.first
  deeds := h.deeds.tail (.register w)

/-- What the growth of a chain asks of its tail. -/
theorem During.tail (h : During strict b₀ t F b) {w : WorkerId} :
    (∀ tail, b.graph.last? w = some tail → tail.time ≤ t) ∧
      (strict → ∀ tail, b.graph.last? w = some tail → tail.time = t →
        b.graph.Still tail.id ∧ ∀ d k, b.kept? d k ≠ some tail.id) := by
  have htime : ∀ tail, b.graph.last? w = some tail → b.graph.time? tail.id = some tail.time := by
    intro tail hlast
    rw [time?_eq, (last?_eq_some_iff.1 hlast).2]
    rfl
  refine ⟨fun tail hlast => h.past _ _ (htime tail hlast), ?_⟩
  intro hstrict tail hlast hnow
  obtain ⟨u, hu, hid⟩ := h.covered hstrict tail.id (hnow ▸ htime tail hlast)
  rw [← hid]
  exact ⟨(h.fresh u hu).still hstrict, (h.fresh u hu).unkept⟩

/-- The new vertex of a chain is fresh, unless the tail has its time. -/
theorem Steady.fresh_grownVertex (h : b.Steady strict) {w : WorkerId} {s : EdgeState}
    {q : Option String} (hlate : ∀ tail, b.graph.last? w = some tail → tail.time ≤ t)
    (hslow : strict → ∀ tail, b.graph.last? w = some tail → tail.time ≠ t) :
    Fresh strict t { b with graph := b.graph.grown w t s q } (b.graph.grownVertex w t) where
  shown := vertex?_grown_new _ _ _ _ _
  now := rfl
  joined := by
    rw [contains_grown]
    simp [grownVertex]
  free d := by
    rw [slot?_grown_vertical]
    exact h.sound.slot?_eq_none (by simp [contains, grownVertex, nextVertex]) _
  unkept d k hkept := by
    obtain ⟨x, hx⟩ := vertex?_isSome_of_contains (h.ends.ready d k _ hkept).joined
    exact ne_nextVertex hx rfl
  still hstrict := h.sound.still_grownVertex hlate (hslow hstrict)

/-- A chain grows by a vertex at the time of the event. -/
theorem During.grown (h : During strict b₀ t F b) {w : WorkerId} {s : EdgeState}
    {q : Option String} (hw : (b.graph.worker? w).isSome) (hs : s ≠ .epsilon)
    (hcourse : Course t b₀.scene none
      { b with graph := b.graph.grown w t s q : Builder }.scene) :
    Handled strict b₀ t b₀.quiet { b with graph := b.graph.grown w t s q } ∧
      (b.links.get? w = none → (∀ u ∈ F, u.worker ≠ w) →
        During strict b₀ t (b.graph.grownVertex w t :: F)
          { b with graph := b.graph.grown w t s q }) := by
  obtain ⟨hlate, hslow⟩ := h.tail (w := w)
  have hk := (h.sound.grown_grows h.opened hw hlate s q).keeps h.sound
  have hhandled : Handled strict b₀ t b₀.quiet { b with graph := b.graph.grown w t s q } := by
    refine h.toHandled.follow (h.toSteady.grown hw hlate hs hslow) hk rfl rfl rfl ?_
      (fun _ _ hl => Or.inl hl) hcourse
    intro v r hr
    rcases time?_grown_cases hr with ⟨-, rfl⟩ | hr
    · exact Nat.le_refl _
    · exact h.past v r hr
  refine ⟨hhandled, ?_⟩
  intro htaken hother
  -- a tail in another chain than those of the fresh vertices
  have htail : ∀ u ∈ F, ∀ tail, b.graph.last? w = some tail → tail.id ≠ u.id := by
    intro u hu tail hlast heq
    have hsame := vertex_eq_of_id (last?_eq_some_iff.1 hlast).2 (h.fresh u hu).shown heq
    exact hother u hu (hsame ▸ h.sound.last?_worker hlast)
  refine ⟨hhandled, ?_, ?_, by simp, h.deeds.tail (.grow w s q hw hs htaken)⟩
  · intro hstrict v hv
    rcases time?_grown_cases hv with ⟨rfl, -⟩ | hv
    · exact ⟨_, List.mem_cons_self, rfl⟩
    · obtain ⟨u, hu, hid⟩ := h.covered hstrict v hv
      exact ⟨u, List.mem_cons_of_mem _ hu, hid⟩
  · intro u hu
    rcases List.mem_cons.1 hu with rfl | hu
    · refine h.toSteady.fresh_grownVertex hlate ?_
      intro hstrict tail hlast hnow
      have htime : b.graph.time? tail.id = some t := by
        rw [time?_eq, (last?_eq_some_iff.1 hlast).2, ← hnow]
        rfl
      obtain ⟨u, hu, hid⟩ := h.covered hstrict tail.id htime
      exact htail u hu tail hlast hid.symm
    · refine (h.fresh u hu).keep hk (fun d => slot?_grown_vertical _ _ _ _ _ _ _)
        (fun _ _ _ hv => hv) ?_
      intro _ hstill
      exact h.sound.still_grown hlate (h.fresh u hu).shown hstill fun tail hlast _ =>
        htail u hu tail hlast

/-! ## § 3. Edges of an event -/

/-- The builder after the link of a worker has become an edge to a vertex. -/
def deliver (b : Builder) (w : WorkerId) (l : NetworkLink) (target : VertexId) : Builder :=
  { b with graph := b.graph.pushEdge (l.edge target), links := b.links.erase w }

theorem kept?_deliver {w : WorkerId} {l : NetworkLink} {target : VertexId} {d : MatchDirection}
    {k : Keeper} {v : VertexId} (hv : (b.deliver w l target).kept? d k = some v) :
    b.kept? d k = some v ∧ k ≠ .link w := by
  have hlinks : ∀ i x, (b.deliver w l target).links.get? i = some x → b.links.get? i = some x :=
    fun _ _ hx => (Table.get?_of_erase hx).1
  refine ⟨kept?_of_subset hlinks (fun _ _ _ hp => hp) hv, ?_⟩
  rintro rfl
  simp [kept?, deliver, Table.get?_erase] at hv

/-- The edge of a link is admitted to any vertex that can take it, and keeps a builder steady. -/
theorem Steady.deliver (h : b.Steady strict) {w : WorkerId} {l : NetworkLink}
    (hl : b.links.get? w = some l) {v : VertexId} (hready : b.graph.Ready strict .receive v)
    (hforward : b.graph.Forward strict l.source v)
    (hoff : ∀ k, k ≠ .link w → b.kept? .receive k ≠ some v) :
    b.graph.Admits (l.edge v) ∧ b.graph.contains l.source = true ∧
      Steady strict (b.deliver w l v) := by
  have hkept : b.kept? .send (.link w) = some l.source := by simp [kept?, hl, NetworkLink.vertex]
  have hsource := h.ends.ready .send (.link w) l.source hkept
  have hadm : b.graph.Admits (l.edge v) := by
    refine ⟨hforward.1, ?_, hforward.2.1⟩
    rintro a d (⟨rfl, rfl⟩ | ⟨rfl, rfl⟩)
    · exact hsource.free
    · exact hready.free
  refine ⟨hadm, hsource.joined, ?_⟩
  refine h.draw rfl hsource.joined hready.joined hadm (fun _ _ hl => (Table.get?_of_erase hl).1) ?_
    hready.still ?_
  · intro d k hk
    have hk : (b.deliver w l v).kept? d k = some ((l.edge v).vertex d) := hk
    obtain ⟨hold, hne⟩ := kept?_deliver hk
    cases d with
    | send => exact hne (h.ends.alone .send k _ _ hold hkept)
    | receive => exact hoff k hne hold
  · intro hstrict htime
    exact absurd htime (hforward.2.2 hstrict)

theorem Handled.deliver {o : Outcome} (h : Handled strict b₀ t o b) {w : WorkerId}
    {l : NetworkLink} (hl : b.links.get? w = some l) {v : VertexId}
    (hs : Steady strict (b.deliver w l v))
    (hcourse : Course t b₀.scene o.1 (b.deliver w l v).scene) :
    Handled strict b₀ t o (b.deliver w l v) := by
  refine h.follow hs (keeps_pushEdge _ _) rfl rfl rfl ?_ ?_ hcourse
  · intro a s hs
    have hs : (b.graph.pushEdge (l.edge v)).time? a = some s := hs
    rw [time?_pushEdge] at hs
    exact h.past a s hs
  · intro w' l' hl'
    by_cases hw : w = w'
    · subst hw
      obtain rfl := Option.some.inj (hl.symm.trans hl')
      refine Or.inr ⟨b.graph.nextEdge, l.edge v, ?_, rfl, rfl, rfl⟩
      show (b.graph.pushEdge (l.edge v)).edgeRecord? _ = _
      rw [edgeRecord?_pushEdge, if_pos rfl]
    · refine Or.inl ?_
      show (b.links.erase w).get? w' = some l'
      rw [Table.get?_erase, if_neg hw, hl']

/-- The link of a worker becomes an edge to the vertex that received the packet. -/
theorem During.deliver (h : During strict b₀ t F b) {w : WorkerId} {l : NetworkLink}
    (hl : b.links.get? w = some l) :
    b.graph.Admits (l.edge l.destination) ∧ b.graph.contains l.source = true ∧
      b.graph.contains l.destination = true ∧
        During strict b₀ t F (b.deliver w l l.destination) := by
  have hkept : ∀ d, b.kept? d (.link w) = some (l.vertex d) := by
    intro d
    simp [kept?, hl]
  have hdest := h.ends.ready .receive (.link w) l.destination (hkept .receive)
  obtain ⟨hadm, hin, hs⟩ := h.toSteady.deliver hl hdest (h.ends.forward w l hl) fun k hk hv =>
    hk (h.ends.alone .receive k _ _ hv (hkept .receive))
  have hdeed : Deed t b.scene (b.deliver w l l.destination).scene := .deliver hl
  have hhandled := h.toHandled.deliver hl hs (h.pass hdeed)
  have htimes : ∀ a, (b.deliver w l l.destination).graph.time? a = b.graph.time? a :=
    time?_pushEdge _ _
  refine ⟨hadm, hin, hdest.joined, hhandled, ?_, ?_, ?_, h.deeds.tail hdeed⟩
  · intro hstrict v hv
    rw [htimes] at hv
    exact h.covered hstrict v hv
  · intro u hu
    have hfresh := h.fresh u hu
    have hother : ∀ d, l.vertex d ≠ u.id := fun d heq => hfresh.unkept d (.link w) (heq ▸ hkept d)
    obtain ⟨x, hx⟩ := vertex?_isSome_of_contains hin
    obtain ⟨y, hy⟩ := vertex?_isSome_of_contains hdest.joined
    refine hfresh.keep (keeps_pushEdge _ _) ?_ (fun _ _ _ hv => (kept?_deliver hv).1) ?_
    · intro d
      show (b.graph.pushEdge _).slot? _ _ = _
      rw [slot?_pushEdge (by simp [NetworkLink.edge, hx]) (by simp [NetworkLink.edge, hy]), if_neg]
      rintro (⟨heq, -⟩ | ⟨heq, -⟩)
      · exact hother .send heq.symm
      · exact hother .receive heq.symm
    · intro _ hstill
      refine hstill.add (fun e he => has_pushEdge hx hy he) fun _ => ?_
      rw [vertex?_id hx, vertex?_id hy]
      exact ⟨hother .send, hother .receive⟩
  · intro hF
    exact (nextVertex_pushEdge _ _).trans (h.first hF)

/-- The link of a worker becomes an edge to a fresh vertex. -/
theorem During.redirect (h : During strict b₀ t F b) {w : WorkerId} {l : NetworkLink}
    (hl : b.links.get? w = some l) {u : Vertex} (hu : u ∈ F) :
    b.graph.Admits (l.edge u.id) ∧ b.graph.contains l.source = true ∧
      Handled strict b₀ t b₀.quiet (b.deliver w l u.id) := by
  have hkept : b.kept? .send (.link w) = some l.source := by simp [kept?, hl, NetworkLink.vertex]
  have hfresh := h.fresh u hu
  have hforward : b.graph.Forward strict l.source u.id := by
    obtain ⟨-, ⟨s, r, hs, -, -⟩, -⟩ := h.ends.forward w l hl
    refine ⟨?_, ⟨s, t, hs, hfresh.time?, h.past _ s hs⟩, ?_⟩
    · intro heq
      exact hfresh.unkept .send (.link w) (heq ▸ hkept)
    · intro hstrict htime
      obtain ⟨u', hu', hid⟩ := h.covered hstrict l.source (htime.trans hfresh.time?)
      exact (h.fresh u' hu').unkept .send (.link w) (hid ▸ hkept)
  obtain ⟨hadm, hin, hs⟩ := h.toSteady.deliver hl (hfresh.ready .receive) hforward fun k _ =>
    hfresh.unkept .receive k
  exact ⟨hadm, hin, h.toHandled.deliver hl hs (.redirect h.deeds hl u.id)⟩

/-- Of two fresh vertices one can be named the cause of the other. -/
theorem During.join (h : During strict b₀ t F b) {u v : Vertex} (hu : u ∈ F) (hv : v ∈ F)
    (hne : u.worker ≠ v.worker) :
    b.graph.Admits ⟨u.id, v.id, .default, none, false⟩ ∧
      Handled strict b₀ t b₀.quiet
        { b with graph := b.graph.pushEdge ⟨u.id, v.id, .default, none, false⟩ } := by
  have hfu := h.fresh u hu
  have hfv := h.fresh v hv
  have hadm : b.graph.Admits ⟨u.id, v.id, .default, none, false⟩ := by
    refine ⟨?_, ?_, t, t, hfu.time?, hfv.time?, Nat.le_refl _⟩
    · intro heq
      exact hne (vertex_eq_of_id hfu.shown hfv.shown heq ▸ rfl)
    · rintro a d (⟨rfl, rfl⟩ | ⟨rfl, rfl⟩)
      · exact hfu.free .send
      · exact hfv.free .receive
  refine ⟨hadm, h.toHandled.follow ?_ (keeps_pushEdge _ _) rfl rfl rfl ?_
    (fun _ _ hl => Or.inl hl) (h.pass (.join u.id v.id))⟩
  · refine h.toSteady.draw rfl hfu.joined hfv.joined hadm (fun _ _ hl => hl) ?_ hfv.still ?_
    · intro d k
      cases d with
      | send => exact hfu.unkept .send k
      | receive => exact hfv.unkept .receive k
    · intro hstrict _
      exact ⟨hfu.still hstrict, fun d k => ⟨hfu.unkept d k, hfv.unkept d k⟩⟩
  · intro a r hr
    have hr : (b.graph.pushEdge _).time? a = some r := hr
    rw [time?_pushEdge] at hr
    exact h.past a r hr

end Builder

end CausalPath
