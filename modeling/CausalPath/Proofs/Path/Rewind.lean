import CausalPath.Path.Compute
import CausalPath.Proofs.Search.Walk

/-!
# Rewinding a chain

The search walks the chain of its worker backward and takes at most one step per edge. `Rewinds` is
that walk without its bookkeeping: where it starts, where it ends, and the steps in between, oldest
first. In a sound graph the edges of the steps follow each other in time.
-/

namespace CausalPath

/-- The edge of the worker's own chain that a step is about. -/
def PathStep.edge : PathStep → Edge
  | .copy e => e
  | .resolved b _ => b

namespace Graph

variable {g : Graph} {bound : Option Time} {v o : Vertex} {steps : List PathStep}

/-! ## § 1. The walk -/

/-- The chain leads back from the first vertex to the second, by these steps. -/
inductive Rewinds (g : Graph) (bound : Option Time) : Vertex → Vertex → List PathStep → Prop
  | stop {v : Vertex}
      (hstop : bound.any (v.time ≤ ·) = true ∨ g.edgeAt? v.id .incomingHorizontal = none) :
      Rewinds g bound v v []
  | back {v : Vertex} {e : Edge} {s : List PathStep} {o : Vertex} {steps : List PathStep}
      (hlow : bound.any (v.time ≤ ·) = false)
      (hinto : g.edgeAt? v.id .incomingHorizontal = some e) (hstep : g.stepFor e = .ok s)
      (hrest : Rewinds g bound e.origin o steps) : Rewinds g bound v o (steps ++ s)

/-- A walk that stops where it starts takes no step. -/
theorem Rewinds.of_stop (hr : g.Rewinds bound v o steps)
    (hstop : bound.any (v.time ≤ ·) = true ∨ g.edgeAt? v.id .incomingHorizontal = none) :
    o = v ∧ steps = [] := by
  cases hr with
  | stop => exact ⟨rfl, rfl⟩
  | back hlow hinto =>
    rcases hstop with hlow' | hnone
    · rw [hlow] at hlow'
      exact absurd hlow' (by simp)
    · rw [hinto] at hnone
      exact absurd hnone (by simp)

/-- A walk that goes on takes the edge into its start last. -/
theorem Rewinds.of_back (hr : g.Rewinds bound v o steps)
    (hlow : bound.any (v.time ≤ ·) = false) {e : Edge}
    (hinto : g.edgeAt? v.id .incomingHorizontal = some e) :
    ∃ older s, steps = older ++ s ∧ g.stepFor e = .ok s ∧ g.Rewinds bound e.origin o older := by
  cases hr with
  | stop hstop =>
    rcases hstop with hlow' | hnone
    · rw [hlow] at hlow'
      exact absurd hlow' (by simp)
    · rw [hinto] at hnone
      exact absurd hnone (by simp)
  | back _ hinto' hstep hrest =>
    obtain rfl := Option.some.inj (hinto.symm.trans hinto')
    exact ⟨_, _, rfl, hstep, hrest⟩

theorem ownSteps_eq_ok {seen : List VertexId} {later r : List PathStep}
    (hok : g.ownSteps bound seen later v = .ok (o, r)) :
    ∃ steps, r = steps ++ later ∧ g.Rewinds bound v o steps := by
  fun_induction ownSteps g bound seen later v with
  | case1 => exact absurd hok (by simp)
  | case2 seen later v hseen hlow =>
    obtain ⟨rfl, rfl⟩ := Prod.mk.inj (Except.ok.inj hok)
    exact ⟨[], rfl, .stop (Or.inl hlow)⟩
  | case3 seen later v hseen hlow hinto =>
    obtain ⟨rfl, rfl⟩ := Prod.mk.inj (Except.ok.inj hok)
    exact ⟨[], rfl, .stop (Or.inr hinto)⟩
  | case4 => exact absurd hok (by simp)
  | case5 seen later v hseen hlow e hinto s hstep ih =>
    obtain ⟨steps, rfl, hrest⟩ := ih hok
    refine ⟨steps ++ s, by simp, .back ?_ hinto hstep hrest⟩
    simpa using hlow

/-! ## § 2. Steps -/

/-- Filler takes no step; a wait is resolved unless its explanation is empty. -/
theorem stepFor_eq_ok {e : Edge} {s : List PathStep} (hok : g.stepFor e = .ok s) :
    s = [] ∨ (s = [.copy e] ∧ e.state ≠ .noEdge) ∨
      ∃ trail, s = [.resolved e trail] ∧ trail ≠ [] ∧ e.state.isMatchable = true ∧
        g.resolve e.origin.time [] e = .ok trail := by
  unfold stepFor at hok
  split at hok
  · exact Or.inl (Except.ok.inj hok).symm
  · rename_i hstate
    split at hok
    · rename_i hmatch
      split at hok
      · exact absurd hok (by simp)
      · exact Or.inr (Or.inl ⟨(Except.ok.inj hok).symm, hstate⟩)
      · rename_i trail hne hres
        exact Or.inr (Or.inr ⟨trail, (Except.ok.inj hok).symm, hne, hmatch, hres⟩)
    · exact Or.inr (Or.inl ⟨(Except.ok.inj hok).symm, hstate⟩)

/-- What a step of the walk is: a copied edge, or a wait with an explanation. -/
def Takes (g : Graph) : PathStep → Prop
  | .copy e => e.state ≠ .noEdge
  | .resolved b trail => trail ≠ [] ∧ b.state.isMatchable = true ∧
      g.resolve b.origin.time [] b = .ok trail

theorem takes_of_stepFor {e : Edge} {s : List PathStep} (hok : g.stepFor e = .ok s) :
    ∀ x ∈ s, x.edge = e ∧ g.Takes x := by
  intro x hx
  rcases stepFor_eq_ok hok with rfl | ⟨rfl, hstate⟩ | ⟨trail, rfl, htrail⟩
  · exact absurd hx List.not_mem_nil
  · rw [List.mem_singleton.1 hx]
    exact ⟨rfl, hstate⟩
  · rw [List.mem_singleton.1 hx]
    exact ⟨rfl, htrail⟩

/-- An edge of the chain takes at most one step. -/
theorem length_of_stepFor {e : Edge} {s : List PathStep} (hok : g.stepFor e = .ok s) :
    s.length ≤ 1 := by
  rcases stepFor_eq_ok hok with rfl | ⟨rfl, -⟩ | ⟨trail, rfl, -⟩ <;> simp

theorem Rewinds.takes (hr : g.Rewinds bound v o steps) : ∀ x ∈ steps, g.Takes x := by
  induction hr with
  | stop => simp
  | back hlow hinto hstep hrest ih =>
    intro x hx
    rcases List.mem_append.1 hx with hx | hx
    · exact ih x hx
    · exact (takes_of_stepFor hstep x hx).2

/-! ## § 3. The walk in a sound graph -/

/-- The vertex that a walk is at, and every edge it has taken. -/
theorem Rewinds.within (h : g.Sound) (hr : g.Rewinds bound v o steps)
    (hv : g.vertex? v.id = some v) :
    g.vertex? o.id = some o ∧ o.worker = v.worker ∧ o.time ≤ v.time ∧
      ∀ x ∈ steps, g.Has x.edge ∧ x.edge.horizontal = true ∧ x.edge.origin.worker = v.worker ∧
        x.edge.target.worker = v.worker ∧ o.time ≤ x.edge.origin.time ∧
        x.edge.target.time ≤ v.time := by
  induction hr with
  | stop => exact ⟨hv, rfl, Nat.le_refl _, by simp⟩
  | @back v e s o steps hlow hinto hstep hrest ih =>
    obtain ⟨hhas, hh, htarget⟩ := h.into_vertex hv hinto
    have hd := h.drawn hhas
    have hworker : e.origin.worker = v.worker := (hd.worker hh).trans (by rw [htarget])
    have hforward : e.origin.time ≤ v.time := by
      rw [← htarget]
      exact hd.forward
    obtain ⟨ho, how, hot, hall⟩ := ih hd.origin
    refine ⟨ho, how.trans hworker, Nat.le_trans hot hforward, ?_⟩
    intro x hx
    rcases List.mem_append.1 hx with hx | hx
    · obtain ⟨h₁, h₂, h₃, h₄, h₅, h₆⟩ := hall x hx
      exact ⟨h₁, h₂, h₃.trans hworker, h₄.trans hworker, h₅, Nat.le_trans h₆ hforward⟩
    · rw [(takes_of_stepFor hstep x hx).1]
      exact ⟨hhas, hh, hworker, by rw [htarget], hot, Nat.le_of_eq (by rw [htarget])⟩

/-- The edges of the steps follow each other in time. -/
theorem Rewinds.sorted (h : g.Sound) (hr : g.Rewinds bound v o steps)
    (hv : g.vertex? v.id = some v) :
    steps.Pairwise fun x y => x.edge.target.time ≤ y.edge.origin.time := by
  induction hr with
  | stop => exact List.Pairwise.nil
  | @back v e s o steps hlow hinto hstep hrest ih =>
    have hd := h.drawn (h.into_iff.1 hinto).1
    refine List.pairwise_append.2 ⟨ih hd.origin, ?_, ?_⟩
    · have hlen := length_of_stepFor hstep
      match s, hlen with
      | [], _ => exact List.Pairwise.nil
      | [x], _ => exact List.pairwise_singleton _ _
    · intro x hx y hy
      obtain ⟨-, -, -, hall⟩ := hrest.within h hd.origin
      rw [(takes_of_stepFor hstep y hy).1]
      exact (hall x hx).2.2.2.2.2

/-! ## § 4. Where the walk ends -/

/-- Of a chain, nothing lies between neighbours. -/
theorem Sound.before_or_after (h : g.Sound) {w : WorkerId} {a b m : VertexId}
    (hab : [a, b] <:+: g.chainOf w) (hm : m ∈ g.chainOf w) :
    m = a ∨ m = b ∨ g.NoLater m a ∨ g.NoLater b m := by
  obtain ⟨s, t, hst⟩ := hab
  have hsorted := h.sorted w
  rw [← hst] at hsorted hm
  rw [List.append_assoc] at hsorted hm
  obtain ⟨-, hright, hcross⟩ := List.pairwise_append.1 hsorted
  rcases List.mem_append.1 hm with hm | hm
  · exact Or.inr (Or.inr (Or.inl (hcross m hm a (by simp))))
  · simp only [List.cons_append, List.nil_append, List.mem_cons] at hm hright
    rcases hm with rfl | rfl | hm
    · exact Or.inl rfl
    · exact Or.inr (Or.inl rfl)
    · have htail := (List.pairwise_cons.1 hright).2
      exact Or.inr (Or.inr (Or.inr ((List.pairwise_cons.1 htail).1 m hm)))

/-- A vertex of a chain that no edge of the chain reaches is its head. -/
theorem Sound.head_of_no_into (h : g.Sound) {w : WorkerId} {u : VertexId} (hu : u ∈ g.chainOf w)
    (hnone : g.edgeAt? u .incomingHorizontal = none) : (g.chainOf w).head? = some u := by
  obtain ⟨s, t, hst⟩ := List.append_of_mem hu
  rcases List.eq_nil_or_concat s with rfl | ⟨s', a, rfl⟩
  · rw [hst]
    rfl
  · -- the vertex before it is joined to it
    have hnb : [a, u] <:+: g.chainOf w := ⟨s', t, by rw [hst]; simp⟩
    obtain ⟨i, x, hx, hh, ho, ht⟩ := (h.neighbours a u).1 ⟨w, hnb⟩
    obtain ⟨p, q, hp, hq, -, he⟩ := h.edge?_of_record hx
    have hinto := h.into_iff.2 ⟨has_of_edge? he, hh, (vertex?_id hq).trans ht⟩
    rw [hnone] at hinto
    exact absurd hinto (by simp)

theorem NoLater.le {a b : VertexId} {p q : Vertex} (hab : g.NoLater a b)
    (ha : g.vertex? a = some p) (hb : g.vertex? b = some q) : p.time ≤ q.time := by
  obtain ⟨s, t, hs, ht, hst⟩ := hab
  rw [time?_eq, ha] at hs
  rw [time?_eq, hb] at ht
  obtain rfl := Option.some.inj hs
  obtain rfl := Option.some.inj ht
  exact hst

/-- Nothing of a chain is earlier than its head. -/
theorem Sound.head_first (h : g.Sound) {w : WorkerId} {c m : VertexId} {p q : Vertex}
    (hc : (g.chainOf w).head? = some c) (hm : m ∈ g.chainOf w) (hp : g.vertex? c = some p)
    (hq : g.vertex? m = some q) : p.time ≤ q.time := by
  obtain ⟨t, ht⟩ := List.head?_eq_some_iff.1 hc
  have hsorted := h.sorted w
  rw [ht] at hsorted hm
  rcases List.mem_cons.1 hm with rfl | hm
  · obtain rfl := Option.some.inj (hp.symm.trans hq)
    exact Nat.le_refl _
  · exact ((List.pairwise_cons.1 hsorted).1 m hm).le hp hq

theorem Sound.mem_own_chain (h : g.Sound) (hv : g.vertex? v.id = some v)
    (hin : g.contains v.id = true) : v.id ∈ g.chainOf v.worker := by
  rw [h.mem_chain]
  exact ⟨hin, by rw [parent?_eq, hv]; rfl⟩

/-- Without a bound the walk ends at the head of the chain. -/
theorem Rewinds.ends_at_head (h : g.Sound) (hr : g.Rewinds none v o steps)
    (hv : g.vertex? v.id = some v) (hin : g.contains v.id = true) :
    (g.chainOf v.worker).head? = some o.id := by
  induction hr with
  | stop hstop =>
    apply h.head_of_no_into (h.mem_own_chain hv hin)
    exact hstop.resolve_left (by simp)
  | @back v e s o steps hlow hinto hstep hrest ih =>
    obtain ⟨hhas, hh, htarget⟩ := h.into_vertex hv hinto
    have hd := h.drawn hhas
    have hchain := ih hd.origin hd.contains_origin
    rw [hd.worker hh, htarget] at hchain
    exact hchain

/-- With a vertex of the chain as bound, the walk ends at the bound's time. -/
theorem Rewinds.ends_at_bound (h : g.Sound) {m : Vertex} (hr : g.Rewinds (some m.time) v o steps)
    (hv : g.vertex? v.id = some v) (hin : g.contains v.id = true)
    (hm : g.vertex? m.id = some m) (hmem : m.id ∈ g.chainOf v.worker) (hle : m.time ≤ v.time) :
    o.time = m.time := by
  induction hr with
  | @stop v hstop =>
    apply Nat.le_antisymm _ hle
    rcases hstop with hlow | hnone
    · simpa using hlow
    · have hhead := h.head_of_no_into (h.mem_own_chain hv hin) hnone
      exact h.head_first hhead hmem hv hm
  | @back v e s o steps hlow hinto hstep hrest ih =>
    obtain ⟨hhas, hh, htarget⟩ := h.into_vertex hv hinto
    have hd := h.drawn hhas
    have hworker : e.origin.worker = v.worker := (hd.worker hh).trans (by rw [htarget])
    have hlt : m.time < v.time := by simpa using hlow
    apply ih hd.origin hd.contains_origin (hworker ▸ hmem)
    -- the bound is earlier than `v`, so in the chain it is at the vertex before `v` or before it
    have hnb := hd.neighbours hh
    rw [hworker] at hnb
    rcases h.before_or_after hnb hmem with heq | heq | hno | hno
    · rw [heq, hd.origin] at hm
      obtain rfl := Option.some.inj hm
      exact Nat.le_refl _
    · rw [heq, hd.target, htarget] at hm
      obtain rfl := Option.some.inj hm
      exact absurd hlt (Nat.lt_irrefl _)
    · exact hno.le hm hd.origin
    · have hvm := hno.le hd.target hm
      rw [htarget] at hvm
      exact absurd hlt (Nat.not_lt.2 hvm)

end Graph

end CausalPath
