import CausalPath.Proofs.Search.Course

/-!
# What a wait is explained by

A walk goes back along edges, and from the end of a wait to the start of the wakeup chosen for it.
`Graph.Feeds` is that relation, read forward. A wait in whose window a search comes back to it feeds
itself; when wakeups arrive where the waits end, it lies on a cycle of edges.
-/

namespace CausalPath

namespace Graph

variable {g : Graph} {bound : Time} {t t' : Trail} {v v' : Vertex} {e : Edge} {a b : VertexId}

/-! ## § 1. Feeding -/

/-- An edge leads from the first vertex to the second, or the wakeup chosen for a wait that ends at
the second starts at the first. -/
def Feeds (g : Graph) (a b : VertexId) : Prop :=
  g.Joins a b ∨ ∃ e w, g.Has e ∧ e.state.isMatchable = true ∧
    g.wakeup e.target.id = .ok (some w) ∧ w.origin.id = a ∧ e.target.id = b

/-- The wakeup chosen for a wait arrives where the wait ends. -/
def WakesAtEnd (g : Graph) : Prop :=
  ∀ e w, g.Has e → e.state.isMatchable = true → g.wakeup e.target.id = .ok (some w) →
    w.target.id = e.target.id

theorem Sound.has_of_wakeup (h : g.Sound) {w : Edge} (hw : g.wakeup a = .ok (some w)) :
    g.Has w := by
  obtain ⟨j, -, hj⟩ := wakeup_arrives hw
  exact (h.wake_iff.1 hj).1

/-- Then nothing but edges feeds a vertex. -/
theorem Sound.joins_of_feeds (h : g.Sound) (hend : g.WakesAtEnd) (hf : g.Feeds a b) :
    g.Joins a b := by
  rcases hf with hj | ⟨e, w, he, hmatch, hw, rfl, rfl⟩
  · exact hj
  · exact ⟨w, h.has_of_wakeup hw, rfl, hend e w he hmatch hw⟩

/-- All that a walk reads feeds what it started from. -/
theorem Sound.closed_feeds (h : g.Sound) (r : VertexId) :
    g.Closed (fun _ => True) (fun v => Relation.ReflTransGen g.Feeds v r) := by
  constructor
  · intro v e hv he
    obtain ⟨hhas, -, rfl⟩ := h.into_iff.1 he
    exact ⟨trivial, .head (Or.inl ⟨e, hhas, rfl, rfl⟩) hv⟩
  · intro v e hv he
    obtain ⟨hhas, -, rfl⟩ := h.wake_iff.1 he
    exact ⟨trivial, .head (Or.inl ⟨e, hhas, rfl, rfl⟩) hv⟩
  · intro v e w hv he hmatch hw
    obtain ⟨hhas, -, rfl⟩ := h.into_iff.1 he
    exact ⟨trivial, .head (Or.inr ⟨e, w, hhas, hmatch, hw, rfl, rfl⟩) hv⟩

/-! ## § 2. Moves -/

variable {low : Time} {P : Edge → Prop} {Q : VertexId → Prop} {At : Vertex → Prop}

theorem comeBack_within {u : Trail} (hg : g.ClosedAfter low P Q At) (hu : u.Within P Q)
    (hback : u.comeBack g = some (t', v')) : t'.Within P Q ∧ At v' := by
  obtain ⟨x, hx, heq⟩ := Option.map_eq_some_iff.1 hback
  obtain ⟨rfl, rfl⟩ := Prod.mk.inj heq
  obtain ⟨hwithin, hat⟩ := hu.backtrack_at hg rfl
  refine ⟨⟨?_, hwithin.forks⟩, hat x hx⟩
  intro e he
  exact absurd he List.not_mem_nil

/-- Where a walk does not end is after the bound. -/
theorem ClosedAfter.late_of_not_ends (hg : g.ClosedAfter low P Q At) (hle : low ≤ bound) (hv : At v)
    (hends : ¬g.endsAt bound v = true) : Q v.id := by
  refine hg.late hv (Nat.lt_of_le_of_lt hle (Nat.lt_of_not_le fun hlow => hends ?_))
  simp [endsAt, hlow]

/-- A move stays where the readings stay. -/
theorem hop_within (hg : g.ClosedAfter low P Q At) (hle : low ≤ bound) (ht : t.Within P Q)
    (hv : At v) (hhop : g.hop bound t v = some (t', v')) : t'.Within P Q ∧ At v' := by
  unfold hop at hhop
  split at hhop
  · exact absurd hhop (by simp)
  · rename_i hends
    have hQ := hg.late_of_not_ends hle hv hends
    split at hhop
    · exact comeBack_within hg ht hhop
    · split at hhop
      · exact comeBack_within hg (ht.visit hQ) hhop
      · rename_i e hinto
        obtain ⟨rfl, rfl⟩ := Prod.mk.inj (Option.some.inj hhop)
        exact ⟨ht.visit hQ, (hg.into hQ hinto).2⟩

/-- The waits that a walk finds end where its readings stay. -/
theorem Sound.finds_within (h : g.Sound) (hg : g.ClosedAfter low P Q At) (hle : low ≤ bound)
    (hf : g.Finds bound t v e) (ht : t.Within P Q) (hv : At v) : Q e.target.id := by
  induction hf with
  | @here t v e hwait =>
    obtain ⟨-, -, hid⟩ := h.into_iff.1 (waitAt_eq_some hwait).1
    rw [hid]
    refine hg.late_of_not_ends hle hv fun hends => ?_
    exact absurd hwait (by simp [waitAt, hends])
  | later hhop hrest ih =>
    obtain ⟨ht', hv'⟩ := hop_within hg hle ht hv hhop
    exact ih ht' hv'

theorem within_fresh : Trail.fresh.Within P Q :=
  ⟨fun _ he => absurd he List.not_mem_nil, fun _ hf => absurd hf List.not_mem_nil⟩

/-! ## § 3. Windows -/

/-- The window is that of a wait of the graph. -/
def Opens (g : Graph) (W : Window) : Prop := g.Has W.wait ∧ W.wait.state.isMatchable = true

theorem Sound.nests_feeds (h : g.Sound) {W W' : Window} (hW : g.Opens W) (hn : g.Nests W W') :
    g.Opens W' ∧ Relation.TransGen g.Feeds W'.wait.target.id W.wait.target.id := by
  obtain ⟨w, e, hw, hfinds, rfl⟩ := hn
  obtain ⟨u, -, hmatch⟩ := hfinds.into
  have hfirst : g.Feeds w.origin.id W.wait.target.id :=
    Or.inr ⟨W.wait, w, hW.1, hW.2, hw, rfl, rfl⟩
  have hclosed := (h.closed_feeds w.origin.id).after 0
  have hfeeds := h.finds_within hclosed (Nat.zero_le _) hfinds within_fresh .refl
  exact ⟨⟨h.has_of_finds hfinds, hmatch⟩, .tail' hfeeds hfirst⟩

theorem Sound.opens_of_nested (h : g.Sound) {W W' : Window} (hW : g.Opens W)
    (hn : Relation.ReflTransGen g.Nests W W') : g.Opens W' := by
  induction hn with
  | refl => exact hW
  | tail _ hlast ih => exact (h.nests_feeds ih hlast).1

theorem Sound.nested_feeds (h : g.Sound) {W W' : Window} (hW : g.Opens W)
    (hn : Relation.TransGen g.Nests W W') :
    Relation.TransGen g.Feeds W'.wait.target.id W.wait.target.id := by
  induction hn with
  | single hlast => exact (h.nests_feeds hW hlast).2
  | tail hfront hlast ih =>
    have hopen := h.opens_of_nested hW hfront.to_reflTransGen
    exact (h.nests_feeds hopen hlast).2.trans ih

/-- A wait that recurs feeds itself. -/
theorem Sound.recurs_feeds (h : g.Sound) {W : Window} (hW : g.Opens W) (hr : g.Recurs W e) :
    Relation.TransGen g.Feeds e.target.id e.target.id := by
  obtain ⟨V, V', hV, hVV', rfl, hwait⟩ := hr
  have hfeeds := h.nested_feeds (h.opens_of_nested hW hV) hVV'
  rw [hwait] at hfeeds
  exact hfeeds

end Graph

end CausalPath
