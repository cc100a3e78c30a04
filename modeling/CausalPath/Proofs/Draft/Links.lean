import CausalPath.Proofs.Draft.Homing
import CausalPath.Proofs.Path.Segments

/-!
# Links of drafts

A path that moves from one worker to another crosses over to it, and a draft writes a link for the
crossing or leaves it out. So the links of a critical path are crossings of its steps, in the order
of the steps: `Rewinds.linked_of_draftPath`.
-/

namespace CausalPath

/-! ## § 1. Crossings -/

/-- What a path says when it goes over to another worker. -/
structure Crossing where
  origin : WorkerId
  target : WorkerId
  originTime : Time
  targetTime : Time
  state : EdgeState
  qualifier : Option String
  deriving DecidableEq, Repr

/-- A crossing as a link. -/
def Crossing.link? (source : Graph) (x : Crossing) : Option PathLink := do
  let origin ← source.worker? x.origin
  let target ← source.worker? x.target
  return ⟨origin, target, x.originTime, x.targetTime, x.state, x.qualifier⟩

namespace Cursor

/-- A movement to another worker is a crossing. -/
def crossing (c : Cursor) (m : Move) : List Crossing :=
  if m.worker = c.worker then
    []
  else
    [⟨c.worker, m.worker, c.time, (c.after m).time, m.state, m.qualifier⟩]

def crossings (c : Cursor) : List Move → List Crossing
  | [] => []
  | m :: rest => c.crossing m ++ (c.after m).crossings rest

end Cursor

def PathStep.crossings (w : WorkerId) (s : PathStep) : List Crossing :=
  (s.cursor w).crossings (s.moves w)

/-! ## § 2. Links after a write -/

namespace Graph

variable {g g' : Graph}

/-- The links of an output graph, in the order in which they were written. -/
def linked (g : Graph) : List PathLink := g.edgeList.filterMap (CriticalPath.mk g).link?

/-- Registered workers stay what they are, so the links of old edges do too. -/
theorem Sound.link?_congr (h : g.Sound)
    (hworker : ∀ i x, g.worker? i = some x → g'.worker? i = some x) :
    ∀ e ∈ g.edgeList, (CriticalPath.mk g').link? e = (CriticalPath.mk g).link? e := by
  intro e he
  have hd := h.drawn (mem_edgeList.1 he)
  obtain ⟨x, hx⟩ := Option.isSome_iff_exists.1 (h.registered _ _ hd.origin)
  obtain ⟨y, hy⟩ := Option.isSome_iff_exists.1 (h.registered _ _ hd.target)
  simp only [CriticalPath.link?, hx, hy, hworker _ _ hx, hworker _ _ hy]

/-- New horizontal edges are no links. -/
theorem Sound.linked_congr (h : g.Sound) {l : List Edge} (hlist : g'.edgeList = g.edgeList ++ l)
    (hl : ∀ e ∈ l, e.horizontal = true)
    (hworker : ∀ i x, g.worker? i = some x → g'.worker? i = some x) : g'.linked = g.linked := by
  have hnone : l.filterMap (CriticalPath.mk g').link? = [] := by
    rw [List.filterMap_eq_nil_iff]
    intro e he
    simp [CriticalPath.link?, hl e he]
  rw [linked, linked, hlist, List.filterMap_append, hnone, List.append_nil]
  exact List.filterMap_congr (h.link?_congr hworker)

theorem Sound.linked_grown (h : g.Sound) {w : WorkerId} {t : Time} {s : EdgeState}
    {q : Option String} : (g.grown w t s q).linked = g.linked := by
  refine h.linked_congr (edgeList_grown h) ?_ ?_
  · intro e he
    simp only [grownEdges, Option.mem_toList, Option.map_eq_some_iff] at he
    obtain ⟨tail, -, rfl⟩ := he
    rfl
  · intro i x hx
    rw [worker?_grown, hx]

theorem Fills.linked (hg : g.Sound) (h : g.Fills g') : g'.linked = g.linked := by
  obtain ⟨l, hl, hfill⟩ := h.edgeList
  exact hg.linked_congr hl (fun e he => (hfill e he).1) fun i x hx => by rw [h.worker?, hx]

end Graph

namespace Draft

variable {source : Graph} {d d' : Draft} {now : Time} {w : WorkerId}

/-! ## § 3. Movements -/

theorem Enlists.linked {d₁ : Draft} (he : d.Enlists d₁) (h : d.Mirrors source) :
    d₁.graph.linked = d.graph.linked :=
  h.sound.linked_congr (l := []) (by rw [he.edgeList, List.append_nil]) (by simp) he.worker?

theorem ensure_linked (hs : source.Sound) (h : d.Mirrors source) {t : Time} {v : Vertex}
    (hok : d.ensure source w t = .ok (v, d')) : d'.graph.linked = d.graph.linked := by
  obtain ⟨d₁, i, henl, hm, -, ⟨rfl, -⟩ | ⟨-, hput⟩⟩ := ensure_cases hs h hok
  · exact henl.linked h
  · obtain ⟨-, rfl, -⟩ := put_eq_ok hm.sound hput
    exact hm.sound.linked_grown.trans (henl.linked h)

theorem segment_linked (hs : source.Sound) (h : d.Mirrors source) {t : Time} {s : EdgeState}
    {q : Option String} {v : Vertex} (hok : d.segment source w t s q = .ok (v, d')) :
    d'.graph.linked = d.graph.linked := by
  obtain ⟨d₁, i, henl, hm, -, hput⟩ := segment_cases hs h hok
  obtain ⟨-, rfl, -⟩ := put_eq_ok hm.sound hput
  exact hm.sound.linked_grown.trans (henl.linked h)

/-- A link between output workers stands for a crossing between their source workers. -/
theorem Mirrors.connect_linked (h : d.Mirrors source) {x y : Vertex}
    (hx : d.graph.vertex? x.id = some x) (hy : d.graph.vertex? y.id = some y) {wx wy : WorkerId}
    (hwx : d.workers.get? wx = some x.worker) (hwy : d.workers.get? wy = some y.worker)
    {s : EdgeState} {q : Option String} (hok : d.connect x y s q = .ok d') :
    d'.graph.linked.Sublist
      (d.graph.linked ++ [⟨wx, wy, x.time, y.time, s, q⟩].filterMap (Crossing.link? source)) := by
  rcases connect_eq_ok hok with ⟨rfl, -⟩ | ⟨-, -, -, rfl⟩
  · exact List.sublist_append_left _ _
  · have hworker : ∀ i z, d.graph.worker? i = some z →
        (d.graph.pushEdge ⟨x.id, y.id, s, q, false⟩).worker? i = some z := by
      intro i z hz
      rw [Graph.worker?_pushEdge, hz]
    obtain ⟨a, ha, hax⟩ := h.named _ _ hwx
    obtain ⟨b, hb, hby⟩ := h.named _ _ hwy
    show (d.graph.pushEdge _).linked.Sublist _
    rw [Graph.linked, Graph.edgeList_pushEdge hx hy, List.filterMap_append,
      List.filterMap_congr (h.sound.link?_congr hworker)]
    simp [CriticalPath.link?, Crossing.link?, hworker _ _ hax, hworker _ _ hby, ha, hb,
      Graph.linked]

/-- A draft writes at most the crossings that its cursor makes. -/
theorem At.advance_linked (hs : source.Sound) {a a' : Anchor} {c : Cursor} (h : d.At source a c)
    {m : Move} (hok : d.advance source a m.worker m.time m.state m.qualifier = .ok (a', d')) :
    d'.graph.linked.Sublist
      (d.graph.linked ++ (c.crossing m).filterMap (Crossing.link? source)) := by
  unfold Draft.advance at hok
  split at hok
  · rename_i hw
    simp only [bind_eq_ok, Prod.exists, pure_eq_ok, Prod.mk.injEq] at hok
    obtain ⟨v, d₁, hseg, rfl, rfl⟩ := hok
    rw [segment_linked hs h.toMirrors hseg]
    exact List.sublist_append_left _ _
  · rename_i hw
    simp only [bind_eq_ok, Prod.exists, pure_eq_ok, Prod.mk.injEq] at hok
    obtain ⟨v, d₁, hens, d₂, hcon, rfl, rfl⟩ := hok
    have hext := ensure_extends hs h.toMirrors hens
    rw [h.time] at hens
    obtain ⟨h₁, -⟩ := h.toPaced.ensure hs (Nat.le_max_right m.time c.time) hens
    have hlink := h₁.toMirrors.connect_linked (hext.vertex? _ _ h.vertex?) h₁.vertex?
      (hext.workers _ _ h.output) h₁.output hcon
    rw [ensure_linked hs h.toMirrors hens] at hlink
    rw [Cursor.crossing, if_neg (by rw [← h.worker]; exact hw)]
    rw [h.worker, h.time, h₁.time] at hlink
    exact hlink

theorem At.go_linked (hs : source.Sound) (ms : List Move) :
    ∀ {d : Draft} {a : Anchor} {c : Cursor} {d' : Draft} {a' : Anchor}, d.At source a c →
      d.go source a ms = .ok (a', d') → d'.graph.linked.Sublist
        (d.graph.linked ++ (c.crossings ms).filterMap (Crossing.link? source)) := by
  induction ms with
  | nil =>
    intro d a c d' a' h hok
    obtain ⟨rfl, rfl⟩ := go_nil.1 hok
    exact List.sublist_append_left _ _
  | cons m rest ih =>
    intro d a c d' a' h hok
    simp only [Draft.go, bind_eq_ok, Prod.exists] at hok
    obtain ⟨a₁, d₁, hadv, hrest⟩ := hok
    have hfirst := h.advance_linked hs hadv
    have hlater := ih (h.advance hs hadv).1 hrest
    rw [Cursor.crossings, List.filterMap_append, ← List.append_assoc]
    exact hlater.trans (hfirst.append (List.Sublist.refl _))

/-! ## § 4. Steps -/

theorem Paced.step_linked (hs : source.Sound) (h : d.Paced source now) {s : PathStep}
    (ht : source.Takes s) (hnow : now ≤ s.edge.origin.time)
    (hok : d.step source w s = .ok d') : d'.graph.linked.Sublist
      (d.graph.linked ++ (s.crossings w).filterMap (Crossing.link? source)) := by
  obtain ⟨v, d₁, a, hens, hgo⟩ := h.step hs ht hnow hok
  have hlink := (h.ensure hs hnow hens).1.go_linked hs _ hgo
  rw [ensure_linked hs h.toMirrors hens] at hlink
  exact hlink

theorem Paced.steps_linked (hs : source.Sound) (heps : source.EpsilonInstant)
    (steps : List PathStep) : ∀ {d : Draft} {now : Time}, d.Paced source now →
      (∀ s ∈ steps, source.Takes s ∧ source.Has s.edge ∧ now ≤ s.edge.origin.time) →
      (steps.Pairwise fun x y => x.edge.target.time ≤ y.edge.origin.time) →
      ∀ {d' : Draft}, d.steps source w steps = .ok d' → d'.graph.linked.Sublist
        (d.graph.linked ++
          (steps.flatMap (·.crossings w)).filterMap (Crossing.link? source)) := by
  induction steps with
  | nil =>
    intro d now h hall hsorted d' hok
    obtain rfl := Except.ok.inj hok
    exact List.sublist_append_left _ _
  | cons s rest ih =>
    intro d now h hall hsorted d' hok
    simp only [Draft.steps, bind_eq_ok] at hok
    obtain ⟨d₁, hstep, hrest⟩ := hok
    obtain ⟨ht, hhas, hnow⟩ := hall s List.mem_cons_self
    obtain ⟨hfirst, hsorted⟩ := List.pairwise_cons.1 hsorted
    have hpaced := (h.step_written hs ht hnow (hs.drawn hhas).forward
      (ht.moves_upTo hs heps hhas w) hstep).1
    have hlater := ih hpaced (fun s' hs' => ⟨(hall s' (List.mem_cons_of_mem _ hs')).1,
      (hall s' (List.mem_cons_of_mem _ hs')).2.1, hfirst s' hs'⟩) hsorted hrest
    rw [List.flatMap_cons, List.filterMap_append, ← List.append_assoc]
    exact hlater.trans ((h.step_linked hs ht hnow hstep).append (List.Sublist.refl _))

end Draft

/-- The links of a draft are crossings of its steps. -/
theorem Graph.Rewinds.linked_of_draftPath {g : Graph} (h : g.Sound) (heps : g.EpsilonInstant)
    {bound : Option Time} {start oldest : Vertex} {steps : List PathStep}
    (hr : g.Rewinds bound start oldest steps) (hv : g.vertex? start.id = some start) {v : Vertex}
    {d : Draft} (hok : g.draftPath start oldest steps = .ok (v, d)) :
    d.graph.linked.Sublist
      ((steps.flatMap (·.crossings start.worker)).filterMap (Crossing.link? g)) := by
  have hat := (hr.written_of_draftPath h heps hv hok).1
  simp only [draftPath, bind_eq_ok, Prod.exists] at hok
  obtain ⟨v₁, d₁, hens, d₂, hsteps, hlast⟩ := hok
  have hnew := Draft.paced_new g g.startTime
  have hempty : (Draft.new g.startTime).graph.linked = [] := rfl
  have h₁ := (hnew.ensure h (Nat.zero_le _) hens).1
  obtain ⟨-, -, hle, hall⟩ := hr.within h hv
  have hinside : ∀ s ∈ steps, g.Takes s ∧ g.Has s.edge ∧ oldest.time ≤ s.edge.origin.time :=
    fun s hs => ⟨hr.takes s hs, (hall s hs).1, (hall s hs).2.2.2.2.1⟩
  have hpaced := (h₁.toPaced.steps_written h heps steps hinside (hr.sorted h hv) hle
    (fun s hs => (hall s hs).2.2.2.2.2) hsteps).1
  rw [Draft.ensure_linked h hpaced.toMirrors hlast]
  have hlinked := h₁.toPaced.steps_linked h heps steps hinside (hr.sorted h hv) hsteps
  rw [Draft.ensure_linked h hnew.toMirrors hens, hempty, List.nil_append] at hlinked
  exact hlinked

end CausalPath
