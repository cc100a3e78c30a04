import CausalPath.Proofs.Store.Step

/-!
# Ids that name something

`Inside` is what is left of a sound store when nothing is asked about order: every id that the store
keeps names something in it. It is all that a step needs to keep it, and all that a call needs to be
a run of steps, so it also holds of stores that no calls have led to.
-/

namespace CausalPath

namespace Graph

variable {g g' : Graph}

/-- Every id in a store names something in it. -/
structure Inside (g : Graph) : Prop where
  /-- A vertex belongs to a registered worker. -/
  owner : ∀ v u, g.vertex? v = some u → (g.worker? u.worker).isSome
  /-- A chain lists vertices. -/
  chain : ∀ w v, v ∈ g.chainOf w → (g.vertex? v).isSome
  /-- A slot holds an edge. -/
  slot : ∀ v d e, g.slot? v d = some e → (g.edgeRecord? e).isSome
  /-- An edge has two ends. -/
  ends : ∀ e x, g.edgeRecord? e = some x → (g.vertex? x.origin).isSome ∧ (g.vertex? x.target).isSome

theorem Sound.inside (h : g.Sound) : g.Inside where
  owner := h.registered
  chain w v hv := Sound.isSome_of_contains ((h.mem_chain w v).1 hv).1
  slot v d e he := by
    obtain ⟨x, hx, -⟩ := (h.slot_iff v d e).1 he
    simp [hx]
  ends e x hx :=
    have ⟨_, ho, ht, _⟩ := h.ends e x hx
    ⟨Sound.isSome_of_contains ho, Sound.isSome_of_contains ht⟩

theorem inside_dispose (g : Graph) : g.dispose.Inside where
  owner v u hu := by simp [dispose, new, vertex?] at hu
  chain w v hv := by simp [dispose, new, chainOf] at hv
  slot v d e he := by simp [dispose, new, slot?] at he
  ends e x hx := by simp [dispose, new, edgeRecord?] at hx

/-! ## § 1. Writes -/

theorem isSome_pushVertex {v : VertexId} (w : WorkerId) (t : Time) (h : (g.vertex? v).isSome) :
    ((g.pushVertex w t).vertex? v).isSome := by
  obtain ⟨u, hu⟩ := Option.isSome_iff_exists.1 h
  simp [vertex?_pushVertex_of_some w t hu]

namespace Inside

theorem register (h : g.Inside) (w : Worker) :
    (g.pushWorker w).Inside where
  owner v u hu := by
    rw [worker?_pushWorker]
    split
    · rfl
    · exact h.owner v u hu
  chain i v hv := by
    rw [chainOf_pushWorker] at hv
    exact h.chain i v hv
  slot := h.slot
  ends := h.ends

theorem create (h : g.Inside) {w : WorkerId} (t : Time) (hw : (g.worker? w).isSome) :
    (g.pushVertex w t).Inside where
  owner v u hu := by
    rw [vertex?_pushVertex] at hu
    split at hu
    · obtain rfl := Option.some.inj hu
      exact hw
    · exact h.owner v u hu
  chain w' v hv := isSome_pushVertex w t (h.chain w' v hv)
  slot v d e he := h.slot v d e (by simpa using he)
  ends e x hx :=
    have ⟨ho, ht⟩ := h.ends e x hx
    ⟨isSome_pushVertex w t ho, isSome_pushVertex w t ht⟩

theorem enter (h : g.Inside) {v : VertexId} {u : Vertex} (hv : g.vertex? v = some u) :
    (g.pushChain u.worker v).Inside where
  owner v' u' hu' := by
    rw [vertex?_pushChain] at hu'
    simpa using h.owner v' u' hu'
  chain w v' hv' := by
    rw [vertex?_pushChain]
    rw [chainOf_pushChain v (h.owner v u hv)] at hv'
    split at hv'
    · rcases List.mem_append.1 hv' with hold | hnew
      · exact h.chain _ v' hold
      · obtain rfl := List.mem_singleton.1 hnew
        simp [hv]
    · exact h.chain w v' hv'
  slot v' d e he := h.slot v' d e (by simpa using he)
  ends e x hx := by simpa using h.ends e x hx

theorem join (h : g.Inside) {x : EdgeRecord} (ho : (g.vertex? x.origin).isSome)
    (ht : (g.vertex? x.target).isSome) : (g.pushEdge x).Inside where
  owner v u hu := h.owner v u (by simpa using hu)
  chain w v hv := by simpa using h.chain w v hv
  slot v d e he := by
    rw [slot?_pushEdge ho ht] at he
    rw [edgeRecord?_pushEdge]
    split at he
    · obtain rfl := Option.some.inj he
      simp
    · split
      · rfl
      · exact h.slot v d e he
  ends e y hy := by
    rw [edgeRecord?_pushEdge] at hy
    rw [vertex?_pushEdge, vertex?_pushEdge]
    split at hy
    · obtain rfl := Option.some.inj hy
      exact ⟨ho, ht⟩
    · exact h.ends e y hy

end Inside

/-! ## § 2. Steps -/

theorem NoLater.isSome {a b : VertexId} (h : g.NoLater a b) :
    (g.vertex? a).isSome ∧ (g.vertex? b).isSome := by
  obtain ⟨s, t, hs, ht, -⟩ := h
  rw [time?_eq, Option.map_eq_some_iff] at hs ht
  obtain ⟨u, hu, -⟩ := hs
  obtain ⟨u', hu', -⟩ := ht
  simp [hu, hu']

/-- A step adds only ids that name something. -/
theorem Step.inside (hs : Step g g') (h : g.Inside) : g'.Inside := by
  cases hs with
  | register w => exact h.register w
  | create w t _ hw => exact h.create t hw
  | enter v u _ hv => exact h.enter hv
  | extend v u tail s q _ hv _ _ hle =>
    have hjoin := h.join (x := ⟨tail, v, s, q, true⟩) hle.isSome.1 hle.isSome.2
    exact hjoin.enter (by simpa using hv)
  | join x _ _ _ _ hadm => exact h.join hadm.forward.isSome.1 hadm.forward.isSome.2
  | finish stop => exact ⟨h.owner, h.chain, h.slot, h.ends⟩

theorem Grows.inside (hs : Grows g g') (h : g.Inside) : g'.Inside := by
  induction hs with
  | refl => exact h
  | tail _ hstep ih => exact hstep.inside ih

end Graph

end CausalPath
