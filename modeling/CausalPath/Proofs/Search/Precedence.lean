import CausalPath.Proofs.Search.Order
import Mathlib.Data.List.Basic

/-!
# Before and after in a chain

`Graph.Precedes` is the order of the vertices of one chain. A horizontal edge leads from a vertex to
the next, so of its chain every vertex is before its origin or after its target, those themselves
included.
-/

namespace CausalPath

namespace Graph

variable {g : Graph} {a b : VertexId}

/-! ## § 1. Places before a vertex -/

/-- The chain of the second vertex holds the first one, there or before it. -/
def Precedes (g : Graph) (a b : VertexId) : Prop :=
  ∃ w s t, g.chainOf w = s ++ b :: t ∧ a ∈ s ++ [b]

/-- The chain reaches a vertex from the one before it by an edge. -/
theorem Sound.into_of_neighbours (h : g.Sound) {w : WorkerId} {a b : VertexId}
    (hab : [a, b] <:+: g.chainOf w) :
    ∃ e, g.edgeAt? b .incomingHorizontal = some e ∧ e.origin.id = a := by
  obtain ⟨i, x, hx, hh, ho, ht⟩ := (h.neighbours a b).1 ⟨w, hab⟩
  obtain ⟨p, q, hp, hq, -, he⟩ := h.edge?_of_record hx
  have hinto := h.into_iff.2 ⟨has_of_edge? he, hh, (vertex?_id hq).trans ht⟩
  exact ⟨_, hinto, (vertex?_id hp).trans ho⟩

/-- What is before a vertex is at the vertex or before the one that the chain comes from. -/
theorem Sound.precedes_cases (h : g.Sound) (hp : g.Precedes a b) :
    a = b ∨ ∃ e, g.edgeAt? b .incomingHorizontal = some e ∧ g.Precedes a e.origin.id := by
  obtain ⟨w, s, t, hchain, ha⟩ := hp
  rcases List.mem_append.1 ha with ha | ha
  · rcases List.eq_nil_or_concat s with rfl | ⟨s', c, rfl⟩
    · exact absurd ha List.not_mem_nil
    · rw [List.concat_eq_append] at ha hchain
      have hnb : [c, b] <:+: g.chainOf w := ⟨s', t, by rw [hchain]; simp⟩
      obtain ⟨e, he, rfl⟩ := h.into_of_neighbours hnb
      exact Or.inr ⟨e, he, w, s', b :: t, by rw [hchain]; simp, ha⟩
  · exact Or.inl (List.mem_singleton.1 ha)

theorem Sound.precedes_time (h : g.Sound) {p q : Vertex} (hp : g.Precedes a b)
    (ha : g.vertex? a = some p) (hb : g.vertex? b = some q) : p.time ≤ q.time := by
  obtain ⟨w, s, t, hchain, hmem⟩ := hp
  rcases List.mem_append.1 hmem with hmem | hmem
  · have hsorted := h.sorted w
    rw [hchain] at hsorted
    have hab := (List.pairwise_append.1 hsorted).2.2 a hmem b List.mem_cons_self
    exact hab.le ha hb
  · obtain rfl := List.mem_singleton.1 hmem
    obtain rfl := Option.some.inj (ha.symm.trans hb)
    exact Nat.le_refl _

theorem Precedes.mem_chain (hp : g.Precedes a b) :
    ∃ w, a ∈ g.chainOf w ∧ b ∈ g.chainOf w := by
  obtain ⟨w, s, t, hchain, hmem⟩ := hp
  refine ⟨w, ?_, by rw [hchain]; simp⟩
  rw [hchain]
  rcases List.mem_append.1 hmem with hmem | hmem
  · exact List.mem_append_left _ hmem
  · rw [List.mem_singleton.1 hmem]
    exact List.mem_append_right _ List.mem_cons_self

theorem Sound.precedes_worker (h : g.Sound) {p q : Vertex} (hp : g.Precedes a b)
    (ha : g.vertex? a = some p) (hb : g.vertex? b = some q) : p.worker = q.worker := by
  obtain ⟨w, hma, hmb⟩ := hp.mem_chain
  have hwa := ((h.mem_chain w a).1 hma).2
  have hwb := ((h.mem_chain w b).1 hmb).2
  rw [parent?_eq, ha] at hwa
  rw [parent?_eq, hb] at hwb
  exact (Option.some.inj hwa).trans (Option.some.inj hwb).symm

/-! ## § 2. The two sides of an edge -/

/-- What is before the origin of a horizontal edge is before its target. -/
theorem Sound.precedes_target (h : g.Sound) {e : Edge} (he : g.Has e) (hh : e.horizontal = true)
    (hp : g.Precedes a e.origin.id) : g.Precedes a e.target.id := by
  obtain ⟨w, s, t, hchain, ha⟩ := hp
  have hd := h.drawn he
  obtain ⟨s', t', hsplit⟩ := hd.neighbours hh
  have hw : e.origin.worker = w := by
    have hmem : e.origin.id ∈ g.chainOf w := by rw [hchain]; simp
    have hparent := ((h.mem_chain w _).1 hmem).2
    rw [parent?_eq, hd.origin] at hparent
    exact Option.some.inj hparent
  -- the origin is in the chain once, so both splits of the chain are the same
  have hn := h.nodup w
  rw [hchain] at hn
  obtain ⟨-, hright, hcross⟩ := List.nodup_append.1 hn
  have hs : e.origin.id ∉ s := fun hm => hcross _ hm _ List.mem_cons_self rfl
  have ht : e.origin.id ∉ t := (List.nodup_cons.1 hright).1
  rw [hw, hchain] at hsplit
  have hsame : s ++ e.origin.id :: t = s' ++ e.origin.id :: (e.target.id :: t') := by
    rw [← hsplit]
    simp
  obtain ⟨rfl, -, rfl⟩ := (List.append_cons_inj_of_notMem hs ht).1 hsame
  exact ⟨w, s ++ [e.origin.id], t', by rw [hchain]; simp, List.mem_append_left _ ha⟩

/-- Every vertex of a chain is on one side of an edge of the chain. -/
theorem Sound.precedes_or (h : g.Sound) {e : Edge} (he : g.Has e) (hh : e.horizontal = true)
    (ha : a ∈ g.chainOf e.origin.worker) :
    g.Precedes a e.origin.id ∨ g.Precedes e.target.id a := by
  obtain ⟨s, t, hchain⟩ := (h.drawn he).neighbours hh
  have hsplit : g.chainOf e.origin.worker = (s ++ [e.origin.id]) ++ e.target.id :: t := by
    rw [← hchain]
    simp
  rw [hsplit] at ha
  rcases List.mem_append.1 ha with ha | ha
  · exact Or.inl ⟨_, s, e.target.id :: t, by rw [hsplit]; simp, ha⟩
  · obtain ⟨s', t', hst⟩ := List.append_of_mem ha
    rw [hst, ← List.append_assoc] at hsplit
    refine Or.inr ⟨_, _, t', hsplit, ?_⟩
    -- the target is the first vertex of the second part
    cases s' with
    | nil =>
      obtain ⟨rfl, -⟩ := List.cons.inj hst
      simp
    | cons c s'' =>
      obtain ⟨rfl, -⟩ := List.cons.inj hst
      simp

end Graph

end CausalPath
