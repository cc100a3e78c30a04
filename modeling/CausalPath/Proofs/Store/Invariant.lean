import CausalPath.Proofs.Store.Run
import Mathlib.Logic.ExistsUnique

/-!
# The store invariant

A graph is *built* when calls on a new store have led to it, refused calls included. Its structures
agree; `store_invariant` says what that means for those who read it: chains against vertices,
horizontal edges against chains, slots against edges, keys against workers.
-/

namespace CausalPath

namespace Graph

variable {g : Graph}

/-- A store that calls have led to. -/
def Built (g : Graph) : Prop := ∃ start ms, g = Mutation.runAll ms (Graph.new start)

theorem Built.sound (h : g.Built) : g.Sound := by
  obtain ⟨start, ms, rfl⟩ := h
  exact (Mutation.runAll_grows ms (sound_new start)).sound (sound_new start)

/-! ## § 1. What a sound store shows -/

/-- An edge that is stored is shown, with ends that are stored too. -/
theorem Sound.edge?_of_record (h : g.Sound) {i : EdgeId} {x : EdgeRecord}
    (hx : g.edgeRecord? i = some x) :
    ∃ a b, g.vertex? x.origin = some a ∧ g.vertex? x.target = some b ∧ a.time ≤ b.time ∧
      g.edge? i = some ⟨i, a, b, x.state, x.qualifier, x.horizontal⟩ := by
  obtain ⟨-, -, -, s, t, hs, ht, hst⟩ := h.ends i x hx
  rw [time?_eq, Option.map_eq_some_iff] at hs ht
  obtain ⟨a, ha, rfl⟩ := hs
  obtain ⟨b, hb, rfl⟩ := ht
  exact ⟨a, b, ha, hb, hst, edge?_eq_some_iff.2 ⟨x, hx, ha, hb, rfl⟩⟩

/-- A slot that an edge meets holds that edge only. -/
theorem Sound.eq_of_meets (h : g.Sound) {i j : EdgeId} {x y : EdgeRecord} {v : VertexId}
    {d : Direction} (hx : g.edgeRecord? i = some x) (hy : g.edgeRecord? j = some y)
    (hxm : x.Meets v d) (hym : y.Meets v d) : i = j := by
  have hi := (h.slot_iff v d i).2 ⟨x, hx, hxm⟩
  have hj := (h.slot_iff v d j).2 ⟨y, hy, hym⟩
  exact Option.some.inj (hi.symm.trans hj)

/-- Neighbours of a chain are joined by one horizontal edge. -/
theorem Sound.existsUnique_joining (h : g.Sound) {w : WorkerId} {a b : VertexId}
    (hab : [a, b] <:+: g.chainOf w) :
    ∃! i, ∃ x, g.edgeRecord? i = some x ∧ x.horizontal = true ∧ x.origin = a ∧ x.target = b := by
  obtain ⟨i, x, hx, hh, ho, ht⟩ := (h.neighbours a b).1 ⟨w, hab⟩
  refine ⟨i, ⟨x, hx, hh, ho, ht⟩, ?_⟩
  rintro j ⟨y, hy, hyh, hyo, -⟩
  apply h.eq_of_meets (v := a) (d := .outgoingHorizontal) hy hx
  · exact Or.inl ⟨hyo.symm, by rw [hyh]; rfl⟩
  · exact Or.inl ⟨ho.symm, by rw [hh]; rfl⟩

/-- No two workers share a key. -/
theorem Sound.eq_of_key (h : g.Sound) {w w' : WorkerId} {x x' : Worker} (hx : g.worker? w = some x)
    (hx' : g.worker? w' = some x') (hkey : x.key = x'.key) : w = w' := by
  have hw := (h.found_iff x.key w).2 ⟨x, hx, rfl⟩
  have hw' := (h.found_iff x.key w').2 ⟨x', hx', hkey.symm⟩
  exact Option.some.inj (hw.symm.trans hw')

/-! ## § 2. The invariant of all stores -/

/-- Whatever calls a store has seen, refused ones included: a chain lists the vertices that joined
it, once each and in time order; one horizontal edge joins neighbours, and no other vertices; slots
hold the edges that meet them; an edge joins two vertices of chains forward in time, and its duration
is exact; a vertex outside the chains has four free slots; a key finds the worker that has it. -/
theorem store_invariant (start : Time) (ms : List Mutation) :
    let g := Mutation.runAll ms (Graph.new start)
    (∀ w, (∀ v, v ∈ g.chainOf w ↔ g.contains v = true ∧ g.parent? v = some w) ∧
      (g.chainOf w).Nodup ∧ (g.chainOf w).Pairwise g.NoLater) ∧
    ((∀ w a b, [a, b] <:+: g.chainOf w →
        ∃! i, ∃ x, g.edgeRecord? i = some x ∧ x.horizontal = true ∧ x.origin = a ∧ x.target = b) ∧
      ∀ i x, g.edgeRecord? i = some x → x.horizontal = true →
        ∃ w, [x.origin, x.target] <:+: g.chainOf w) ∧
    (∀ v d i, g.slot? v d = some i ↔ ∃ x, g.edgeRecord? i = some x ∧ x.Meets v d) ∧
    (∀ i, (∃ x, g.edgeRecord? i = some x) → ∃ e, g.edge? i = some e ∧ e.origin.id ≠ e.target.id ∧
      g.contains e.origin.id = true ∧ g.contains e.target.id = true ∧
      e.origin.time ≤ e.target.time ∧ e.origin.time + e.duration = e.target.time) ∧
    (∀ v, g.contains v = false → ∀ d, g.slot? v d = none) ∧
    (∀ k w, g.findWorker? k = some w ↔ ∃ x, g.worker? w = some x ∧ x.key = k) := by
  intro g
  have h : g.Sound := Built.sound ⟨start, ms, rfl⟩
  refine ⟨?_, ⟨?_, ?_⟩, h.slot_iff, ?_, ?_, h.found_iff⟩
  · intro w
    exact ⟨h.mem_chain w, h.nodup w, h.sorted w⟩
  · intro w a b hab
    exact h.existsUnique_joining hab
  · intro i x hx hh
    exact (h.neighbours x.origin x.target).2 ⟨i, x, hx, hh, rfl, rfl⟩
  · rintro i ⟨x, hx⟩
    obtain ⟨hne, ho, ht, -⟩ := h.ends i x hx
    obtain ⟨a, b, ha, hb, hab, he⟩ := h.edge?_of_record hx
    rw [← vertex?_id ha, ← vertex?_id hb] at hne
    rw [← vertex?_id ha] at ho
    rw [← vertex?_id hb] at ht
    exact ⟨_, he, hne, ho, ht, hab, Nat.add_sub_of_le hab⟩
  · intro v hv d
    exact h.slot?_eq_none hv d

end Graph

end CausalPath
