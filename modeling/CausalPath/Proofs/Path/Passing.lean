import CausalPath.Proofs.Path.Sources
import CausalPath.Proofs.Search.Instant

/-!
# Passing between workers

Within one instant a path can pass from one worker to another along an edge that takes no time, by
the glue at the start of a wait, and over a gap in the explanation of a wait, from the edge before
the gap to where the edge after it starts. Unless a wait starts and ends at the instant, the links
of a critical path within the instant are such passes.
-/

namespace CausalPath

namespace Graph

/-- The trail explains a wait of the graph. -/
structure Explains (g : Graph) (b : Edge) (trail : List Edge) : Prop where
  has : g.Has b
  wait : b.horizontal = true ∧ b.state.isMatchable = true
  resolve : g.resolve b.origin.time [] b = .ok trail

/-- A path can pass from the first worker to the second within an instant. -/
inductive Passes (g : Graph) (instant : Time) : WorkerId → WorkerId → Prop
  | edge {e : Edge} (has : g.Has e) (origin : e.origin.time = instant)
      (target : e.target.time = instant) (away : e.target.worker ≠ e.origin.worker) :
      Passes g instant e.origin.worker e.target.worker
  | glue {b first : Edge} {rest : List Edge} (explains : g.Explains b (first :: rest))
      (start : b.origin.time = instant) (away : first.origin.worker ≠ b.origin.worker) :
      Passes g instant b.origin.worker first.origin.worker
  | gap {b e e' : Edge} {trail : List Edge} (explains : g.Explains b trail)
      (next : [e, e'] <:+: trail) (apart : e.target.id ≠ e'.origin.id)
      (arrives : e.target.time = instant) (under : e'.origin.time ≤ instant)
      (away : e'.origin.worker ≠ e.target.worker) :
      Passes g instant e.target.worker e'.origin.worker

/-- A movement to another worker within an instant is a pass. -/
def Hands (g : Graph) (instant : Time) (c : Cursor) (m : Move) : Prop :=
  m.worker ≠ c.worker → c.time = instant → m.time ≤ instant →
    g.Passes instant c.worker m.worker

variable {g : Graph} {instant bound : Time} {w : WorkerId} {b e p : Edge} {c : Cursor}
  {trail rest : List Edge}

/-! ## § 1. Movements -/

/-- A movement along an edge within an instant is a pass if the edge takes no time. -/
theorem Sound.edge_hands (h : g.Sound) (he : g.Has e)
    (hinstant : c.time = instant → e.target.time ≤ instant → e.origin.time = instant)
    (hworker : c.worker = e.origin.worker) : g.Hands instant c e.move := by
  intro haway hc hm
  have ho := hinstant hc hm
  have ht : e.target.time = instant := Nat.le_antisymm hm (ho ▸ (h.drawn he).forward)
  rw [hworker] at haway ⊢
  exact .edge he ho ht haway

/-- From the end of an edge of a trail on, the movements within an instant are passes. -/
theorem Sound.trail_hands (h : g.Sound) (hb : g.Explains b trail) (harr : g.Arrivals bound trail)
    (hprompt : Prompt instant bound trail) (hsuffix : p :: rest <:+ trail) :
    (Cursor.mk p.target.worker p.target.time).Along (g.Hands instant)
      (trailMoves (some p) rest) := by
  apply h.trail_along harr.has harr.sorted _ _ hsuffix
  · intro e he
    exact h.edge_hands (harr.has e he) (fun hc _ => hc) rfl
  · intro p e hnext hapart
    have hle : p.target.time ≤ e.target.time := by
      simpa using harr.sorted.sublist hnext.sublist
    have hpair : p.target.time = instant → e.target.time = instant → e.origin.time = instant := by
      simpa using hprompt.pairs.sublist hnext.sublist
    constructor
    · intro haway hc hm
      exact .gap hb hnext hapart hc (Nat.le_trans (Nat.le_max_right _ _) hm) haway
    · refine h.edge_hands (harr.has e (hnext.subset (by simp))) ?_ rfl
      -- the path comes to the instant at the end of the one edge or at the start of the other
      intro hc hm
      have hc : max p.target.time e.origin.time = instant := hc
      rcases Nat.le_total p.target.time e.origin.time with hpo | hop
      · rwa [Nat.max_eq_right hpo] at hc
      · rw [Nat.max_eq_left hop] at hc
        exact hpair hc (Nat.le_antisymm hm (hc ▸ hle))

/-- At an instant without momentary waits, the movements of a step are passes. -/
theorem Takes.moves_hands (h : g.Sound) (heps : g.EpsilonInstant)
    (hno : ∀ b, ¬g.Momentary instant b) {s : PathStep} (ht : g.Takes s) (hhas : g.Has s.edge)
    (hchain : s.edge.horizontal = true) (hworker : s.edge.origin.worker = w) :
    (s.cursor w).Along (g.Hands instant) (s.moves w) := by
  have hd := h.drawn hhas
  cases s with
  | copy e => exact ⟨fun haway => absurd rfl haway, trivial⟩
  | resolved b trail =>
    obtain ⟨hne, hmatch, hres⟩ := ht
    cases trail with
    | nil => exact absurd rfl hne
    | cons first rest =>
      have hb : g.Explains b (first :: rest) := ⟨hhas, ⟨hchain, hmatch⟩, hres⟩
      have harr := (h.resolve_arrivals heps hhas hd.forward hres).1
      rw [Nat.max_self] at harr
      have hprompt := h.resolve_prompt heps hno hhas ⟨hchain, hmatch⟩ (Nat.le_refl _) hres
      have hfirst : g.Has first := harr.has first List.mem_cons_self
      have hupTo : b.origin.time ≤ first.target.time := harr.first first List.mem_cons_self
      -- at the start of the wait no edge of its explanation has arrived
      have hstart : b.origin.time = instant → first.target.time ≤ instant →
          first.origin.time = instant := by
        intro hc hm
        have hlt := hprompt.after first List.mem_cons_self (Nat.le_antisymm hm (hc ▸ hupTo))
        exact absurd hc (Nat.ne_of_lt hlt)
      apply h.explained_along hfirst hupTo _ _ _ _
        (h.trail_hands hb harr hprompt (List.suffix_refl _))
      · intro hown
        exact h.edge_hands hfirst hstart hown.symm
      · intro _ haway hc _
        rw [← hworker] at haway ⊢
        exact .glue hb hc haway
      · exact fun haway => absurd rfl haway
      · refine h.edge_hands hfirst ?_ rfl
        intro hc hm
        have hc : max b.origin.time first.origin.time = instant := hc
        rcases Nat.le_total b.origin.time first.origin.time with hle | hge
        · rwa [Nat.max_eq_right hle] at hc
        · rw [Nat.max_eq_left hge] at hc
          exact hstart hc hm

end Graph

/-! ## § 2. Links -/

open CausalPath.Graph

/-- At an instant without momentary waits, a link of a critical path within the instant is a pass
between its workers. -/
theorem links_pass {g : Graph} (h : g.Sound) (heps : g.EpsilonInstant) {instant : Time}
    (hno : ∀ b, ¬g.Momentary instant b) {start : VertexId} {stop : Option VertexId}
    {cancelled : Bool} {p : CriticalPath} (hok : g.criticalPath start stop cancelled = .ok p)
    {x : PathLink} (hx : x ∈ p.links) (horigin : x.originTime = instant)
    (htarget : x.targetTime = instant) :
    ∃ a b, g.worker? a = some x.origin ∧ g.worker? b = some x.target ∧ g.Passes instant a b := by
  obtain ⟨s, -, -, -, -, hs, -⟩ := criticalPath_eq_ok hok
  obtain ⟨t, ht, hhas, hh, hworker, k, hk, hkx⟩ := mem_links h heps hs hok hx
  obtain ⟨c, m, hm, hkm⟩ :=
    (ht.moves_hands h heps hno hhas hh hworker).of_mem_crossings hk
  unfold Cursor.crossing at hkm
  split at hkm
  · exact absurd hkm List.not_mem_nil
  · rename_i haway
    obtain rfl := List.mem_singleton.1 hkm
    simp only [Crossing.link?, Option.bind_eq_bind, Option.bind_eq_some_iff, Option.pure_def,
      Option.some.injEq] at hkx
    obtain ⟨y, hy, z, hz, rfl⟩ := hkx
    refine ⟨c.worker, m.worker, hy, hz, hm haway horigin ?_⟩
    exact Nat.le_trans (Nat.le_max_left _ _) (Nat.le_of_eq htarget)

end CausalPath
