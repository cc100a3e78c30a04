import CausalPath.Graph.Scan
import CausalPath.Proofs.Search.Precedence
import Mathlib.Data.List.Perm.Subperm

/-!
# Heads of chains

The head of a chain is found by going back along the horizontal edges. Slots make these edges a
function in both directions, so going back and going forward visit the same chain. In a sound graph
every step back leads to an earlier place, so a head is always found.
-/

namespace CausalPath

namespace Graph

variable {g : Graph} {a b c v : VertexId}

/-! ## § 1. Horizontal edges -/

/-- A horizontal edge leads from the first vertex to the second. -/
def Onward (g : Graph) (a b : VertexId) : Prop :=
  ∃ e, g.Has e ∧ e.horizontal = true ∧ e.origin.id = a ∧ e.target.id = b

/-- The two vertices are the ends of an edge, in either order. -/
def Linked (g : Graph) (a b : VertexId) : Prop := g.Joins a b ∨ g.Joins b a

theorem Linked.symm (h : g.Linked a b) : g.Linked b a := Or.symm h

theorem Onward.linked (h : g.Onward a b) : g.Linked a b := by
  obtain ⟨e, he, -, ho, ht⟩ := h
  exact Or.inl ⟨e, he, ho, ht⟩

theorem linked_of_onward (h : Relation.ReflTransGen g.Onward a b) :
    Relation.ReflTransGen g.Linked a b := by
  induction h with
  | refl => exact .refl
  | tail _ hstep ih => exact ih.tail hstep.linked

theorem linked_reverse (h : Relation.ReflTransGen g.Linked a b) :
    Relation.ReflTransGen g.Linked b a := by
  induction h with
  | refl => exact .refl
  | tail _ hstep ih => exact .head hstep.symm ih

theorem Wired.onward_iff (h : g.Wired) :
    g.Onward a b ↔ ∃ e, g.edgeAt? a .outgoingHorizontal = some e ∧ e.target.id = b := by
  have hslot : ∀ e, g.edgeAt? a .outgoingHorizontal = some e ↔
      g.Has e ∧ e.horizontal = true ∧ e.origin.id = a := fun e => h.edgeAt?_atOrigin (b := true)
  simp only [hslot]
  constructor
  · rintro ⟨e, he, hh, ho, ht⟩
    exact ⟨e, ⟨he, hh, ho⟩, ht⟩
  · rintro ⟨e, ⟨he, hh, ho⟩, ht⟩
    exact ⟨e, he, hh, ho, ht⟩

theorem Wired.onward_iff_into (h : g.Wired) :
    g.Onward a b ↔ ∃ e, g.edgeAt? b .incomingHorizontal = some e ∧ e.origin.id = a := by
  have hslot : ∀ e, g.edgeAt? b .incomingHorizontal = some e ↔
      g.Has e ∧ e.horizontal = true ∧ e.target.id = b := fun e => h.edgeAt?_atTarget (b := true)
  simp only [hslot]
  constructor
  · rintro ⟨e, he, hh, ho, ht⟩
    exact ⟨e, ⟨he, hh, ht⟩, ho⟩
  · rintro ⟨e, ⟨he, hh, ht⟩, ho⟩
    exact ⟨e, he, hh, ho, ht⟩

/-- One vertex at most comes before a vertex. -/
theorem Wired.before_unique (h : g.Wired) (ha : g.Onward a c) (hb : g.Onward b c) : a = b := by
  obtain ⟨e, he, rfl⟩ := h.onward_iff_into.1 ha
  obtain ⟨e', he', rfl⟩ := h.onward_iff_into.1 hb
  obtain rfl := Option.some.inj (he.symm.trans he')
  rfl

/-- One vertex at most comes after a vertex. -/
theorem Wired.after_unique (h : g.Wired) (hb : g.Onward a b) (hc : g.Onward a c) : b = c := by
  obtain ⟨e, he, rfl⟩ := h.onward_iff.1 hb
  obtain ⟨e', he', rfl⟩ := h.onward_iff.1 hc
  obtain rfl := Option.some.inj (he.symm.trans he')
  rfl

/-- Nothing comes before the head of a chain. -/
theorem Wired.not_onward_head (h : g.Wired) (hb : g.edgeAt? b .incomingHorizontal = none) :
    ¬g.Onward a b := by
  intro hab
  obtain ⟨e, he, -⟩ := h.onward_iff_into.1 hab
  rw [hb] at he
  exact absurd he (by simp)

/-! ## § 2. Going back -/

/-- Going back ends where no horizontal edge arrives. -/
theorem Wired.rewind_eq_ok (h : g.Wired) {start current head : VertexId} {steps : Nat}
    (hok : g.rewind start current steps = .ok head) :
    Relation.ReflTransGen g.Onward head current ∧ g.edgeAt? head .incomingHorizontal = none := by
  induction steps generalizing current with
  | zero => exact absurd hok (by simp [rewind])
  | succ n ih =>
    unfold rewind at hok
    split at hok
    · rename_i hnone
      obtain rfl := Except.ok.inj hok
      exact ⟨.refl, hnone⟩
    · rename_i e he
      split at hok
      · exact absurd hok (by simp)
      · obtain ⟨hlead, hnone⟩ := ih hok
        exact ⟨hlead.tail (h.onward_iff_into.2 ⟨e, he, rfl⟩), hnone⟩

theorem Wired.headOf_eq_ok (h : g.Wired) {head : VertexId} (hok : g.headOf v = .ok head) :
    Relation.ReflTransGen g.Onward head v ∧ g.edgeAt? head .incomingHorizontal = none := by
  unfold headOf at hok
  split at hok
  · exact absurd hok (by simp)
  · split at hok
    · exact h.rewind_eq_ok hok
    · exact absurd hok (by simp)

/-! ## § 3. Heads of sound graphs -/

/-- With as many steps as places, going back ends before it runs out of them. -/
theorem Sound.rewind_ok (h : g.Sound) {start : VertexId} (steps : Nat) :
    ∀ {current : VertexId}, g.contains current = true → g.place current < steps →
      g.place current ≤ g.place start →
        ∃ head, g.rewind start current steps = .ok head ∧ g.contains head = true := by
  induction steps with
  | zero =>
    intro current _ hlt _
    exact absurd hlt (Nat.not_lt_zero _)
  | succ n ih =>
    intro current hin hlt hle
    unfold rewind
    split
    · exact ⟨current, rfl, hin⟩
    · rename_i e hinto
      obtain ⟨hhas, hh, rfl⟩ := h.into_iff.1 hinto
      have hplace := h.place_lt hhas hh
      have hne : ¬e.origin.id = start := by
        intro heq
        rw [heq] at hplace
        exact absurd hplace (Nat.not_lt.2 hle)
      rw [if_neg hne]
      apply ih (h.drawn hhas).contains_origin
      · omega
      · omega

/-- A chain has no more places than there are vertices. -/
theorem Sound.place_le (h : g.Sound) (v : VertexId) : g.place v ≤ g.vertices.size := by
  unfold place
  split
  · rename_i w hw
    have hsub : g.chainOf w ⊆ g.vertexIds := by
      intro u hu
      obtain ⟨x, hx⟩ := vertex?_isSome_of_contains ((h.mem_chain w u).1 hu).1
      exact mem_vertexIds_of_vertex? hx
    calc (g.chainOf w).idxOf v ≤ (g.chainOf w).length := List.idxOf_le_length
      _ ≤ g.vertexIds.length := ((h.nodup w).subperm hsub).length_le
      _ = g.vertices.size := by simp [vertexIds]
  · exact Nat.zero_le _

/-- A vertex of a chain has a head, which is in a chain too. -/
theorem Sound.headOf_ok (h : g.Sound) (hv : g.contains v = true) :
    ∃ head, g.headOf v = .ok head ∧ g.contains head = true := by
  have hrewind : ∃ head, g.rewind v v (g.vertices.size + 1) = .ok head ∧
      g.contains head = true := by
    apply h.rewind_ok _ hv _ (Nat.le_refl _)
    exact Nat.lt_succ_of_le (h.place_le v)
  obtain ⟨head, hok, hhead⟩ := hrewind
  obtain ⟨u, hu⟩ := vertex?_isSome_of_contains hv
  obtain ⟨r, hr, -⟩ := vertex?_eq_some_iff.1 hu
  refine ⟨head, ?_, hhead⟩
  have hin : r.inGraph = true := by simpa [contains, hr] using hv
  simp only [headOf, hr, hin, if_true, hok]

theorem head?_eq (g : Graph) (w : WorkerId) : g.head? w = (g.chainOf w).head? := by
  simp only [head?, chainOf, Option.bind_eq_bind]
  cases g.timelines[w.index]? with
  | none => rfl
  | some t => simp [List.head?_eq_getElem?]

/-- A vertex without a vertex before it is the first one of its chain. -/
theorem Sound.head?_of_first (h : g.Sound) {w : WorkerId} {head : VertexId}
    (hmem : head ∈ g.chainOf w) (hnone : g.edgeAt? head .incomingHorizontal = none) :
    g.head? w = some head := by
  obtain ⟨s, t, hchain⟩ := List.append_of_mem hmem
  rcases List.eq_nil_or_concat s with rfl | ⟨s', p, rfl⟩
  · rw [head?_eq, hchain]
    rfl
  · have hnb : [p, head] <:+: g.chainOf w := ⟨s', t, by rw [hchain]; simp⟩
    obtain ⟨e, he, -⟩ := h.into_of_neighbours hnb
    rw [hnone] at he
    exact absurd he (by simp)

/-- In a sound graph the vertices of a chain, and no others, have a head, and it is the first one of
the chain. -/
theorem Sound.headOf_eq_ok_iff (h : g.Sound) {head : VertexId} :
    g.headOf v = .ok head ↔
      g.contains v = true ∧ ∃ w, g.parent? v = some w ∧ g.head? w = some head := by
  have hfirst : ∀ {head}, g.contains v = true → g.headOf v = .ok head →
      ∃ w, g.parent? v = some w ∧ g.head? w = some head := by
    intro head hv hok
    obtain ⟨u, hu⟩ := vertex?_isSome_of_contains hv
    have hparent : g.parent? v = some u.worker := by rw [parent?_eq, hu]; rfl
    obtain ⟨hlead, hnone⟩ := h.wired.headOf_eq_ok hok
    refine ⟨u.worker, hparent, h.head?_of_first ?_ hnone⟩
    -- going back along horizontal edges does not leave the chain
    clear hok hnone
    induction hlead using Relation.ReflTransGen.head_induction_on with
    | refl => exact (h.mem_chain u.worker v).2 ⟨hv, hparent⟩
    | head hstep _ ih =>
      obtain ⟨e, he, hh, rfl, rfl⟩ := hstep
      have hd := h.drawn he
      obtain ⟨ho, ht⟩ := mem_of_neighbours (hd.neighbours hh)
      have hsame := ((h.mem_chain _ _).1 ht).2.symm.trans ((h.mem_chain _ _).1 ih).2
      rwa [Option.some.inj hsame] at ho
  constructor
  · intro hok
    have hv : g.contains v = true := by
      unfold headOf at hok
      split at hok
      · exact absurd hok (by simp)
      · rename_i r hr
        split at hok
        · rename_i hin
          simp [contains, hr, hin]
        · exact absurd hok (by simp)
    exact ⟨hv, hfirst hv hok⟩
  · rintro ⟨hv, w, hw, hhead⟩
    obtain ⟨head', hok, -⟩ := h.headOf_ok hv
    obtain ⟨w', hw', hhead'⟩ := hfirst hv hok
    obtain rfl := Option.some.inj (hw.symm.trans hw')
    rw [hok, Option.some.inj (hhead.symm.trans hhead')]

end Graph

end CausalPath
