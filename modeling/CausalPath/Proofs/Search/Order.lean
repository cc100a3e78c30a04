import CausalPath.Proofs.Path.Rewind

/-!
# Searches along a chain end by themselves

In a sound store a horizontal edge leads from one place of a chain to the next, so whoever walks
along a chain, in either direction, never comes to a vertex twice. The look for a wakeup therefore
never fails, and neither does the walk back along the chain of a worker on its own account.
-/

namespace CausalPath

namespace Graph

variable {g : Graph}

/-! ## § 1. Places -/

/-- The place of a vertex in the chain of its worker. -/
def place (g : Graph) (v : VertexId) : Nat :=
  match g.parent? v with
  | some w => (g.chainOf w).idxOf v
  | none => 0

theorem idxOf_lt_of_neighbours {l : List VertexId} {a b : VertexId} (hn : l.Nodup)
    (hab : [a, b] <:+: l) : l.idxOf a < l.idxOf b := by
  obtain ⟨s, t, rfl⟩ := hab
  rw [List.append_assoc] at hn ⊢
  obtain ⟨-, hright, hcross⟩ := List.nodup_append.1 hn
  have ha : a ∉ s := fun hm => hcross a hm a (by simp) rfl
  have hb : b ∉ s := fun hm => hcross b hm b (by simp) rfl
  have hne : a ≠ b := by
    rintro rfl
    simp at hright
  rw [List.idxOf_append_of_notMem ha, List.idxOf_append_of_notMem hb]
  have hne' : (a == b) = false := by simpa using hne
  simp [List.idxOf_cons, hne']

/-- A horizontal edge leads to a later place. -/
theorem Sound.place_lt (h : g.Sound) {e : Edge} (he : g.Has e) (hh : e.horizontal = true) :
    g.place e.origin.id < g.place e.target.id := by
  have hd := h.drawn he
  have ho : g.parent? e.origin.id = some e.origin.worker := by rw [parent?_eq, hd.origin]; rfl
  have ht : g.parent? e.target.id = some e.origin.worker := by
    rw [parent?_eq, hd.target, hd.worker hh]
    rfl
  simp only [place, ho, ht]
  exact idxOf_lt_of_neighbours (h.nodup _) (hd.neighbours hh)

/-! ## § 2. Wakeups -/

theorem Sound.wakeupFrom_ok (h : g.Sound) (seen : List VertexId) (best : Option Edge)
    (current : VertexId) (hseen : ∀ v ∈ seen, g.place v < g.place current) :
    ∃ w, g.wakeupFrom seen best current = .ok w := by
  fun_induction wakeupFrom g seen best current with
  | case1 seen best current hmem => exact absurd (hseen current hmem) (Nat.lt_irrefl _)
  | case2 seen best current hmem best' hnext => exact ⟨best', rfl⟩
  | case3 seen best current hmem best' next hnext hinst ih =>
    apply ih
    obtain ⟨hhas, hh, rfl⟩ := h.onward_iff.1 hnext
    have hlt := h.place_lt hhas hh
    intro v hv
    rcases List.mem_cons.1 hv with rfl | hv
    · exact hlt
    · exact Nat.lt_trans (hseen v hv) hlt
  | case4 seen best current hmem best' next hnext hinst => exact ⟨best', rfl⟩

/-- Whether a wakeup is known is always answered. -/
theorem Sound.wakeup_ok (h : g.Sound) (v : VertexId) : ∃ w, g.wakeup v = .ok w :=
  h.wakeupFrom_ok [] none v (by simp)

/-! ## § 3. The walk back along a chain -/

/-- The edges of its own chain that a search takes on its way back. -/
inductive Behind (g : Graph) (bound : Option Time) : Vertex → Edge → Prop
  | here {v : Vertex} {e : Edge} (hlow : bound.any (v.time ≤ ·) = false)
      (hinto : g.edgeAt? v.id .incomingHorizontal = some e) : Behind g bound v e
  | back {v : Vertex} {e e' : Edge} (hlow : bound.any (v.time ≤ ·) = false)
      (hinto : g.edgeAt? v.id .incomingHorizontal = some e)
      (hrest : Behind g bound e.origin e') : Behind g bound v e'

theorem Sound.has_of_behind (h : g.Sound) {bound : Option Time} {v : Vertex} {e : Edge}
    (hb : g.Behind bound v e) : g.Has e ∧ e.horizontal = true := by
  induction hb with
  | here _ hinto => exact ⟨(h.into_iff.1 hinto).1, (h.into_iff.1 hinto).2.1⟩
  | back _ _ _ ih => exact ih

/-- The walk back fails only with the step of an edge. -/
theorem Sound.ownSteps_eq_error (h : g.Sound) {bound : Option Time} {seen : List VertexId}
    {later : List PathStep} {v : Vertex} {err : PathError} (hv : g.vertex? v.id = some v)
    (hseen : ∀ u ∈ seen, g.place v.id < g.place u)
    (herr : g.ownSteps bound seen later v = .error err) :
    ∃ e, g.Behind bound v e ∧ g.stepFor e = .error err := by
  fun_induction ownSteps g bound seen later v with
  | case1 seen later v hmem => exact absurd (hseen v.id hmem) (Nat.lt_irrefl _)
  | case2 => exact absurd herr (by simp)
  | case3 => exact absurd herr (by simp)
  | case4 seen later v hmem hlow e hinto err' hstep =>
    obtain rfl := Except.error.inj herr
    exact ⟨e, .here (by simpa using hlow) hinto, hstep⟩
  | case5 seen later v hmem hlow e hinto s hstep ih =>
    obtain ⟨hhas, hh, rfl⟩ := h.into_vertex hv hinto
    have hlt := h.place_lt hhas hh
    have hseen' : ∀ u ∈ e.target.id :: seen, g.place e.origin.id < g.place u := by
      intro u hu
      rcases List.mem_cons.1 hu with rfl | hu
      · exact hlt
      · exact Nat.lt_trans hlt (hseen u hu)
    obtain ⟨e', hbehind, herr'⟩ := ih (h.drawn hhas).origin hseen' herr
    exact ⟨e', .back (by simpa using hlow) hinto hbehind, herr'⟩

/-- A walk back that ends has taken the step of every edge on its way. -/
theorem Rewinds.stepFor_ok {bound : Option Time} {v o : Vertex} {steps : List PathStep}
    (hr : g.Rewinds bound v o steps) {e : Edge} (hb : g.Behind bound v e) :
    ∃ s, g.stepFor e = .ok s := by
  induction hb generalizing o steps with
  | here hlow hinto =>
    obtain ⟨older, s, -, hstep, -⟩ := hr.of_back hlow hinto
    exact ⟨s, hstep⟩
  | back hlow hinto hrest ih =>
    obtain ⟨older, s, -, -, holder⟩ := hr.of_back hlow hinto
    exact ih holder

end Graph

end CausalPath
