import CausalPath.Proofs.Build.Steady

/-!
# The course of an event

The handlers of events write to a graph, to what is known of the system, and to the links that
packets wait in: to a `Scene`. `Deed` lists what they do there in the course of an event, each deed
with what was known when it was done, and `Course` how a course ends. A link is never added before
the end of a course. So what an event does is told by cases, whichever handler it had.
-/

namespace CausalPath

open CausalPath.Graph

/-! ## § 1. Packets and their edges -/

/-- The packet was received before it was sent. -/
def MatchedPair.late {α : Type} (p : MatchedPair α) : Bool := p.destination.time < p.source.time

/-- The link of a matched packet. -/
def MatchedPair.link (p : MatchedPair VertexId) : NetworkLink :=
  ⟨p.source.payload, p.destination.payload⟩

/-- The edge of a link, drawn to a vertex that may be another than its destination. -/
def NetworkLink.edge (l : NetworkLink) (target : VertexId) : EdgeRecord :=
  ⟨l.source, target, .network, none, false⟩

/-- The edge of a packet leaves the vertex. -/
def Graph.Sends (g : Graph) (v : VertexId) : Prop :=
  ∃ i x, g.edgeRecord? i = some x ∧ x.horizontal = false ∧ x.state = .network ∧ x.origin = v

/-- No packet has left a vertex that can still send one. -/
theorem Graph.Sound.not_sends {strict : Prop} {g : Graph} (h : g.Sound) {v : VertexId}
    (hready : g.Ready strict .send v) : ¬g.Sends v := by
  rintro ⟨i, x, hx, hhorizontal, -, horigin⟩
  have hslot := (h.slot_iff v .outgoingVertical i).2
    ⟨x, hx, Or.inl ⟨horigin.symm, by rw [hhorizontal]; rfl⟩⟩
  exact absurd (hready.free.symm.trans hslot) (by simp)

/-! ## § 2. Deeds -/

/-- What the handlers of events write to. -/
structure Scene where
  graph : Graph
  system : SystemModel
  links : Table WorkerId NetworkLink

/-- The scene of a builder. -/
def Builder.scene (b : Builder) : Scene := ⟨b.graph, b.system, b.links⟩

/-- What an event at time `t` does and others of its deeds may follow. -/
inductive Deed (t : Time) : Scene → Scene → Prop
  /-- Something is learnt about the system. -/
  | track {s : Scene} (m : SystemModel) : Deed t s { s with system := m }
  | register {s : Scene} (x : Worker) : Deed t s { s with graph := s.graph.pushWorker x }
  /-- The chain of a worker that no packet waits for grows. -/
  | grow {s : Scene} (w : WorkerId) (state : EdgeState) (q : Option String)
      (hw : (s.graph.worker? w).isSome) (hstate : state ≠ .epsilon)
      (htaken : s.links.get? w = none) :
      Deed t s { s with graph := s.graph.grown w t state q }
  /-- The packet that waits for a worker becomes an edge of the vertex that received it. -/
  | deliver {s : Scene} {w : WorkerId} {l : NetworkLink} (hl : s.links.get? w = some l) :
      Deed t s { s with
        graph := s.graph.pushEdge (l.edge l.destination), links := s.links.erase w }
  /-- One vertex is named the cause of another. -/
  | join {s : Scene} (u v : VertexId) :
      Deed t s { s with graph := s.graph.pushEdge ⟨u, v, .default, none, false⟩ }

/-- What some deeds lead to. -/
abbrev Deeds (t : Time) : Scene → Scene → Prop := Relation.ReflTransGen (Deed t)

/-- A soft interrupt that moves packets has begun, and the worker stands for the interrupts of its
CPU. -/
def Scene.Begins (s₀ : Scene) (t : Time) (w : WorkerId) (s : Scene) : Prop :=
  ∃ c vector, s.system.contextStack c =
      (s₀.system.contextStack c).push ⟨.softIrq, t, vector, none⟩ ∧
    vector.any SoftIrq.isNetwork = true ∧ s.system.kernelWorker? c = some w

/-- What an event at time `t` leads to, if this pair came out of the matcher. -/
inductive Course (t : Time) (s₀ : Scene) : Option (MatchedPair VertexId) → Scene → Prop
  /-- Nothing follows its deeds. A packet that was received before it was sent is dropped. -/
  | pass {s : Scene} {pair : Option (MatchedPair VertexId)} (h : Deeds t s₀ s)
      (hlate : ∀ p, pair = some p → p.late = true) : Course t s₀ pair s
  /-- The start of a soft interrupt is marked in the chain of its worker, and a packet that waits
  for that worker goes on waiting. -/
  | mark {s : Scene} {w : WorkerId} (h : Deeds t s₀ s) (hw : (s.graph.worker? w).isSome)
      (hbegins : s₀.Begins t w s) :
      Course t s₀ none { s with graph := s.graph.grown w t .noEdge none }
  /-- The packet that waits for a worker becomes an edge of another vertex. -/
  | redirect {s : Scene} {w : WorkerId} {l : NetworkLink} (h : Deeds t s₀ s)
      (hl : s.links.get? w = some l) (v : VertexId) :
      Course t s₀ none { s with
        graph := s.graph.pushEdge (l.edge v), links := s.links.erase w }
  /-- A matched packet, one end of which is the first vertex of the event, waits for the worker that
  received it. -/
  | park {s : Scene} {p : MatchedPair VertexId} {w : WorkerId} (h : Deeds t s₀ s)
      (hlate : p.late = false) (hnew : ∃ d, p.link.vertex d = s₀.graph.nextVertex)
      (hw : s.graph.parent? p.destination.payload = some w)
      (hunsent : ∀ l, s.links.get? w = some l → ¬s.graph.Sends l.source) :
      Course t s₀ (some p) { s with links := s.links.insert w p.link }

/-! ## § 3. What deeds leave alone -/

variable {t : Time} {s s₀ s' : Scene} {w : WorkerId} {l : NetworkLink}

/-- An edge that an event has drawn, or that was there, stays. -/
theorem edgeRecord?_grown_of_some {g : Graph} {w : WorkerId} {t : Time} {state : EdgeState}
    {q : Option String} {i : EdgeId} {x : EdgeRecord} (hx : g.edgeRecord? i = some x) :
    (g.grown w t state q).edgeRecord? i = some x := by
  unfold grown
  split
  · rw [edgeRecord?_pushChain, edgeRecord?_pushVertex, hx]
  · rw [edgeRecord?_pushChain]
    exact edgeRecord?_pushEdge_of_some (by rwa [edgeRecord?_pushVertex])

/-- A chain that grows gains one edge at most, with the state that is given. -/
theorem edgeRecord?_grown_cases {g : Graph} {w : WorkerId} {t : Time} {state : EdgeState}
    {q : Option String} {i : EdgeId} {x : EdgeRecord}
    (hx : (g.grown w t state q).edgeRecord? i = some x) :
    g.edgeRecord? i = some x ∨ x.state = state := by
  unfold grown at hx
  split at hx
  · exact Or.inl hx
  · rw [edgeRecord?_pushChain, edgeRecord?_pushEdge] at hx
    split at hx
    · exact Or.inr (Option.some.inj hx ▸ rfl)
    · exact Or.inl hx

theorem Deed.edgeRecord? (h : Deed t s s') {i : EdgeId} {x : EdgeRecord}
    (hx : s.graph.edgeRecord? i = some x) : s'.graph.edgeRecord? i = some x := by
  cases h with
  | track m => exact hx
  | register x => exact hx
  | grow w state q hw hstate htaken => exact edgeRecord?_grown_of_some hx
  | deliver hl => exact edgeRecord?_pushEdge_of_some hx
  | join u v => exact edgeRecord?_pushEdge_of_some hx

/-- A worker that is registered stays. -/
theorem Deed.worker? (h : Deed t s s') {i : WorkerId} {x : Worker}
    (hx : s.graph.worker? i = some x) : s'.graph.worker? i = some x := by
  cases h with
  | track m => exact hx
  | register y => exact worker?_pushWorker_of_some y hx
  | grow w state q hw hstate htaken => exact (worker?_grown _ _ _ _ _ _).trans hx
  | deliver hl => exact (worker?_pushEdge _ _ _).trans hx
  | join u v => exact (worker?_pushEdge _ _ _).trans hx

theorem Deeds.worker? (h : Deeds t s₀ s) {i : WorkerId} {x : Worker}
    (hx : s₀.graph.worker? i = some x) : s.graph.worker? i = some x := by
  induction h with
  | refl => exact hx
  | tail _ hdeed ih => exact hdeed.worker? ih

theorem Course.worker? {pair : Option (MatchedPair VertexId)} (h : Course t s₀ pair s)
    {i : WorkerId} {x : Worker} (hx : s₀.graph.worker? i = some x) :
    s.graph.worker? i = some x := by
  cases h with
  | pass h _ => exact h.worker? hx
  | mark h _ _ => exact (worker?_grown _ _ _ _ _ _).trans (h.worker? hx)
  | redirect h _ v => exact (worker?_pushEdge _ _ _).trans (h.worker? hx)
  | park h _ _ _ _ => exact h.worker? hx

/-- A deed takes a link away, if any, and adds none. -/
theorem Deed.link (h : Deed t s s') (hl : s'.links.get? w = some l) : s.links.get? w = some l := by
  cases h with
  | deliver _ => exact (Table.get?_of_erase hl).1
  | _ => exact hl

theorem Deeds.link (h : Deeds t s₀ s) (hl : s.links.get? w = some l) :
    s₀.links.get? w = some l := by
  induction h with
  | refl => exact hl
  | tail _ hdeed ih => exact ih (hdeed.link hl)

/-- A chain grows by no deed as long as a packet waits for its worker. -/
theorem Deed.chainOf (h : Deed t s s') (hl : s.links.get? w = some l) :
    s'.graph.chainOf w = s.graph.chainOf w := by
  cases h with
  | register x => exact chainOf_pushWorker _ _ _
  | grow w' state q hw _ htaken =>
    refine (chainOf_grown hw w).trans (if_neg ?_)
    rintro rfl
    rw [hl] at htaken
    exact absurd htaken (by simp)
  | _ => rfl

/-- A packet goes on waiting for its worker, or becomes an edge of the vertex that received it. -/
theorem Deed.link_cases (h : Deed t s s') (hl : s.links.get? w = some l) :
    s'.links.get? w = some l ∨
      (s'.links.get? w = none ∧ ∃ i, s'.graph.edgeRecord? i = some (l.edge l.destination)) := by
  cases h with
  | @deliver w' l' hl' =>
    by_cases hw : w' = w
    · subst hw
      obtain rfl := Option.some.inj (hl.symm.trans hl')
      refine Or.inr ⟨?_, s.graph.nextEdge, ?_⟩
      · exact (Table.get?_erase _ _ _).trans (if_pos rfl)
      · exact (edgeRecord?_pushEdge _ _ _).trans (if_pos rfl)
    · exact Or.inl ((Table.get?_erase _ _ _).trans ((if_neg hw).trans hl))
  | _ => exact Or.inl hl

/-- After deeds a packet still waits for its worker, whose chain has not grown, or it has become an
edge of the vertex that received it. -/
theorem Deeds.link_cases (h : Deeds t s₀ s) (hl : s₀.links.get? w = some l) :
    (s.links.get? w = some l ∧ s.graph.chainOf w = s₀.graph.chainOf w) ∨
      (s.links.get? w = none ∧ ∃ i, s.graph.edgeRecord? i = some (l.edge l.destination)) := by
  induction h with
  | refl => exact Or.inl ⟨hl, rfl⟩
  | @tail s s' _ hdeed ih =>
    rcases ih with ⟨hwaits, hchain⟩ | ⟨htaken, i, hi⟩
    · refine (hdeed.link_cases hwaits).imp_left ?_
      intro hwaits'
      exact ⟨hwaits', (hdeed.chainOf hwaits).trans hchain⟩
    · refine Or.inr ⟨?_, i, hdeed.edgeRecord? hi⟩
      cases hl' : s'.links.get? w with
      | none => rfl
      | some l' => exact absurd (htaken.symm.trans (hdeed.link hl')) (by simp)

/-- A packet that comes out of the matcher and was not received before it was sent waits for its
receiver. -/
theorem Course.parked {p : MatchedPair VertexId} (h : Course t s₀ (some p) s)
    (hlate : p.late = false) :
    ∃ w, s.graph.parent? p.destination.payload = some w ∧ s.links.get? w = some p.link ∧
      ∃ d, p.link.vertex d = s₀.graph.nextVertex := by
  cases h with
  | pass _ hall => exact absurd (hlate.symm.trans (hall p rfl)) (by simp)
  | @park s _ w _ _ hnew hw _ => exact ⟨w, hw, Table.get?_insert_self _ _ _, hnew⟩

/-- The ends of a packet that waits are no new vertices. -/
theorem Builder.Steady.vertex_ne_next {strict : Prop} {b : Builder} (h : b.Steady strict)
    (hl : b.links.get? w = some l) (d : MatchDirection) : l.vertex d ≠ b.graph.nextVertex := by
  have hkept : b.kept? d (.link w) = some (l.vertex d) := by
    simp only [Builder.kept?, hl, Option.map_some]
  obtain ⟨u, hu⟩ := vertex?_isSome_of_contains (h.ends.ready d _ _ hkept).joined
  exact ne_nextVertex hu

end CausalPath
