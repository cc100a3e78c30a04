import CausalPath.Proofs.Store.View

/-!
# Sound stores

A store says the same thing several times: a vertex is in a chain and carries a flag that says so,
an edge is in the arena and in two slots, a horizontal edge joins neighbours of a chain, a worker is
in the list of workers and, by its key, in an index. `Sound` is the agreement of these structures.
`Step` lists the six ways in which a store ever changes, each with everything that is checked before
it, and every step keeps a store sound.
-/

namespace CausalPath

namespace Graph

variable {g g' : Graph}

/-! ## § 1. The invariant -/

/-- A horizontal edge leads from the first vertex to the second. -/
def Joined (g : Graph) (a b : VertexId) : Prop :=
  ∃ e x, g.edgeRecord? e = some x ∧ x.horizontal = true ∧ x.origin = a ∧ x.target = b

/-- The structures of a store agree. -/
structure Sound (g : Graph) : Prop where
  /-- A chain lists the vertices of its worker that have joined it. -/
  mem_chain : ∀ w v, v ∈ g.chainOf w ↔ g.contains v = true ∧ g.parent? v = some w
  /-- A chain lists no vertex twice. -/
  nodup : ∀ w, (g.chainOf w).Nodup
  /-- A chain is in time order. -/
  sorted : ∀ w, (g.chainOf w).Pairwise g.NoLater
  /-- The horizontal edges join the neighbours of the chains. -/
  neighbours : ∀ a b, (∃ w, [a, b] <:+: g.chainOf w) ↔ g.Joined a b
  /-- A slot holds the edge that meets it. -/
  slot_iff : ∀ v d e, g.slot? v d = some e ↔ ∃ x, g.edgeRecord? e = some x ∧ x.Meets v d
  /-- An edge joins two different vertices of chains and does not go back in time. -/
  ends : ∀ e x, g.edgeRecord? e = some x → x.origin ≠ x.target ∧
    g.contains x.origin = true ∧ g.contains x.target = true ∧ g.NoLater x.origin x.target
  /-- The index finds a worker under its key, and finds nothing else. -/
  found_iff : ∀ k w, g.findWorker? k = some w ↔ ∃ x, g.worker? w = some x ∧ x.key = k
  /-- A vertex belongs to a registered worker. -/
  registered : ∀ v u, g.vertex? v = some u → (g.worker? u.worker).isSome

/-! ## § 2. Neighbours in a list -/

theorem neighbours_concat {α : Type} {l : List α} {a b v : α} :
    [a, b] <:+: l ++ [v] ↔ [a, b] <:+: l ∨ (l.getLast? = some a ∧ b = v) := by
  constructor
  · rintro ⟨s, t, h⟩
    rcases List.eq_nil_or_concat t with rfl | ⟨t', c, rfl⟩
    · right
      have h' : (s ++ [a]) ++ [b] = l ++ [v] := by simpa using h
      obtain ⟨h₁, h₂⟩ := List.append_inj' h' rfl
      refine ⟨?_, by simpa using h₂⟩
      rw [← h₁]
      simp
    · left
      have h' : (s ++ [a, b] ++ t') ++ [c] = l ++ [v] := by simpa using h
      exact ⟨s, t', (List.append_inj' h' rfl).1⟩
  · rintro (⟨s, t, rfl⟩ | ⟨hlast, rfl⟩)
    · exact ⟨s, t ++ [v], by simp⟩
    · obtain ⟨s, rfl⟩ := List.getLast?_eq_some_iff.1 hlast
      exact ⟨s, [], by simp⟩

/-- Nothing follows the last element of a list without repetitions. -/
theorem not_neighbours_of_last {α : Type} {l : List α} {a b : α} (hn : l.Nodup)
    (ha : l.getLast? = some a) : ¬[a, b] <:+: l := by
  rintro ⟨s, t, rfl⟩
  have hsplit : s ++ [a, b] ++ t = (s ++ [a]) ++ (b :: t) := by simp
  rw [hsplit] at ha hn
  have hlast : (b :: t).getLast? = some a := by
    rw [List.getLast?_append, List.getLast?_cons] at ha
    rwa [List.getLast?_cons]
  exact (List.nodup_append.1 hn).2.2 a (by simp) a (List.mem_of_getLast? hlast) rfl

theorem mem_of_neighbours {α : Type} {l : List α} {a b : α} (h : [a, b] <:+: l) :
    a ∈ l ∧ b ∈ l :=
  ⟨h.subset (by simp), h.subset (by simp)⟩

theorem rel_last {α : Type} {R : α → α → Prop} {l : List α} {a t : α} (h : l.Pairwise R)
    (ht : l.getLast? = some t) (ha : a ∈ l) : a = t ∨ R a t := by
  obtain ⟨s, rfl⟩ := List.getLast?_eq_some_iff.1 ht
  rcases List.mem_append.1 ha with ha | ha
  · exact Or.inr ((List.pairwise_append.1 h).2.2 a ha t (by simp))
  · exact Or.inl (by simpa using ha)

/-! ## § 3. Consequences -/

theorem NoLater.trans {a b c : VertexId} (h₁ : g.NoLater a b) (h₂ : g.NoLater b c) :
    g.NoLater a c := by
  obtain ⟨s, t, hs, ht, hst⟩ := h₁
  obtain ⟨t', r, ht', hr, htr⟩ := h₂
  have : t = t' := Option.some.inj (ht.symm.trans ht')
  subst this
  exact ⟨s, r, hs, hr, Nat.le_trans hst htr⟩

theorem NoLater.of_time? {a b : VertexId} (h : g.NoLater a b) (ha : g'.time? a = g.time? a)
    (hb : g'.time? b = g.time? b) : g'.NoLater a b := by
  obtain ⟨s, t, hs, ht, hst⟩ := h
  exact ⟨s, t, ha.trans hs, hb.trans ht, hst⟩

namespace Sound

/-- A vertex outside the chains has four free slots. -/
theorem slot?_eq_none (h : g.Sound) {v : VertexId} (hv : g.contains v = false) (d : Direction) :
    g.slot? v d = none := by
  cases hs : g.slot? v d with
  | none => rfl
  | some e =>
    obtain ⟨x, hx, hm⟩ := (h.slot_iff v d e).1 hs
    obtain ⟨-, ho, ht, -⟩ := h.ends e x hx
    rcases hm with ⟨rfl, -⟩ | ⟨rfl, -⟩
    · rw [ho] at hv
      exact absurd hv (by simp)
    · rw [ht] at hv
      exact absurd hv (by simp)

/-- The tail of a chain has a free slot for the next horizontal edge. -/
theorem slot?_tail (h : g.Sound) {w : WorkerId} {tail : VertexId}
    (ht : (g.chainOf w).getLast? = some tail) : g.slot? tail .outgoingHorizontal = none := by
  cases hs : g.slot? tail .outgoingHorizontal with
  | none => rfl
  | some e =>
    obtain ⟨x, hx, hm⟩ := (h.slot_iff _ _ e).1 hs
    have hx' : x.origin = tail ∧ x.horizontal = true := by
      rcases hm with ⟨ho, hd⟩ | ⟨-, hd⟩
      · refine ⟨ho.symm, ?_⟩
        have hd' : Direction.atOrigin true = .atOrigin x.horizontal := hd
        exact (Direction.atOrigin_inj hd').symm
      · exact absurd (show Direction.atOrigin true = .atTarget x.horizontal from hd)
          (Direction.atOrigin_ne_atTarget _ _)
    obtain ⟨w', hw'⟩ := (h.neighbours tail x.target).2 ⟨e, x, hx, hx'.2, hx'.1, rfl⟩
    have hmem := (h.mem_chain w' tail).1 (mem_of_neighbours hw').1
    have hmem' := (h.mem_chain w tail).1 (List.mem_of_getLast? ht)
    have hww : w' = w := Option.some.inj (hmem.2.symm.trans hmem'.2)
    subst hww
    exact absurd hw' (not_neighbours_of_last (h.nodup _) ht)

theorem contains_tail (h : g.Sound) {w : WorkerId} {tail : VertexId}
    (ht : (g.chainOf w).getLast? = some tail) : g.contains tail = true :=
  ((h.mem_chain w tail).1 (List.mem_of_getLast? ht)).1

end Sound

end Graph

end CausalPath
