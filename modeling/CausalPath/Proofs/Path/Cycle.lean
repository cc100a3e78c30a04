import CausalPath.Proofs.Draft.Refusal
import CausalPath.Proofs.Path.Leading
import CausalPath.Proofs.Search.Feeds

/-!
# Reported cycles

A critical path reports a cycle exactly if a wait of the chain has an explanation that comes back
to a wait it is explaining. That takes a cycle of edges when wakeups arrive where the waits end;
`crossed` is a graph without cycles whose wakeups arrive later, and which reports one.
-/

namespace CausalPath

namespace Graph

variable {g : Graph} {start v : VertexId} {stop : Option VertexId} {cancelled : Bool}

/-! ## § 1. Errors of a search -/

theorem stepFor_eq_error {e : Edge} {err : PathError} (herr : g.stepFor e = .error err) :
    e.state.isMatchable = true ∧ g.resolve e.origin.time [] e = .error err := by
  unfold stepFor at herr
  split at herr
  · exact absurd herr (by simp)
  · split at herr
    · rename_i hmatch
      split at herr
      · rename_i err' hres
        obtain rfl := Except.error.inj herr
        exact ⟨hmatch, hres⟩
      · exact absurd herr (by simp)
      · exact absurd herr (by simp)
    · exact absurd herr (by simp)

theorem stepFor_wait {e : Edge} {s : List PathStep} (hmatch : e.state.isMatchable = true)
    (hok : g.stepFor e = .ok s) : ∃ trail, g.resolve e.origin.time [] e = .ok trail := by
  have hstate : e.state ≠ .noEdge := by
    intro hno
    rw [hno] at hmatch
    exact absurd hmatch (by decide)
  unfold stepFor at hok
  rw [if_neg hstate, if_pos hmatch] at hok
  split at hok
  · exact absurd hok (by simp)
  · rename_i hres
    exact ⟨_, hres⟩
  · rename_i trail _ hres
    exact ⟨trail, hres⟩

/-- The search itself fails so; the other errors are about its ends or come from the draft. -/
def OfSearch (err : PathError) : Prop :=
  ∃ v, err = .cycleDetected v ∨ err = .endlessScan v

theorem startOf_ne_search {err : PathError} (hsearch : OfSearch err) :
    g.startOf start ≠ .error err := by
  obtain ⟨v, rfl | rfl⟩ := hsearch
  all_goals
    unfold startOf
    split
    · simp
    · split <;> simp

theorem boundOf_ne_search {err : PathError} (hsearch : OfSearch err) :
    g.boundOf stop ≠ .error err := by
  obtain ⟨v, rfl | rfl⟩ := hsearch
  all_goals
    unfold boundOf
    split
    · simp
    · split <;> simp

/-- The search fails in the walk back along the chain or not at all. -/
theorem criticalPath_eq_error {err : PathError} (hsearch : OfSearch err) :
    g.criticalPath start stop cancelled = .error err ↔
      ∃ s bound, g.startOf start = .ok s ∧ g.boundOf stop = .ok bound ∧ cancelled = false ∧
        g.ownSteps bound [] [] s = .error err := by
  unfold criticalPath
  constructor
  · intro herr
    rcases bind_eq_error.1 herr with herr | ⟨s, hs, herr⟩
    · exact absurd herr (startOf_ne_search hsearch)
    rcases bind_eq_error.1 herr with herr | ⟨bound, hbound, herr⟩
    · exact absurd herr (boundOf_ne_search hsearch)
    rcases guard_eq_error.1 herr with ⟨-, rfl⟩ | ⟨hgo, herr⟩
    · obtain ⟨v, hno | hno⟩ := hsearch <;> exact absurd hno (by simp)
    rcases bind_eq_error.1 herr with herr | ⟨⟨oldest, steps⟩, -, herr⟩
    · exact ⟨s, bound, hs, hbound, by simpa using hgo, herr⟩
    have hrefused : ∃ r, err = .graph r := by
      rcases bind_eq_error.1 herr with herr | ⟨⟨home, d⟩, -, herr⟩
      · exact g.draftPath_refusesOnly s oldest steps _ herr
      · exact d.finish_refusesOnly _ herr
    obtain ⟨r, rfl⟩ := hrefused
    obtain ⟨v, hno | hno⟩ := hsearch <;> exact absurd hno (by simp)
  · rintro ⟨s, bound, hs, hbound, rfl, herr⟩
    refine bind_eq_error.2 (Or.inr ⟨s, hs, bind_eq_error.2 (Or.inr ⟨bound, hbound, ?_⟩)⟩)
    exact guard_eq_error.2 (Or.inr ⟨by simp, bind_eq_error.2 (Or.inl herr)⟩)

/-- A cycle is reported by the walk back along the chain or not at all. -/
theorem criticalPath_eq_cycle : g.criticalPath start stop cancelled = .error (.cycleDetected v) ↔
    ∃ s bound, g.startOf start = .ok s ∧ g.boundOf stop = .ok bound ∧ cancelled = false ∧
      g.ownSteps bound [] [] s = .error (.cycleDetected v) :=
  criticalPath_eq_error ⟨v, Or.inl rfl⟩

/-- The walk back from `start` takes a wait whose explanation comes back to this one. -/
def ComesBackTo (g : Graph) (start : VertexId) (stop : Option VertexId) (e : Edge) : Prop :=
  ∃ s bound b, g.startOf start = .ok s ∧ g.boundOf stop = .ok bound ∧ g.Behind bound s b ∧
    b.state.isMatchable = true ∧ g.Recurs ⟨b.origin.time, b⟩ e

/-- The wait at whose end a cycle is reported is one that the search comes back to. -/
theorem Sound.comesBackTo_of_cycle (h : g.Sound)
    (herr : g.criticalPath start stop cancelled = .error (.cycleDetected v)) :
    ∃ e, g.ComesBackTo start stop e ∧ e.target.id = v := by
  obtain ⟨s, bound, hs, hbound, -, hown⟩ := criticalPath_eq_cycle.1 herr
  have hvertex := (startOf_eq_ok hs).1
  obtain rfl := vertex?_id hvertex
  obtain ⟨b, hb, hstep⟩ := h.ownSteps_eq_error hvertex (by simp) hown
  obtain ⟨hmatch, hres⟩ := stepFor_eq_error hstep
  obtain ⟨e, hv, hrec⟩ := h.resolve_eq_error (h.has_of_behind hb).1 hres
  rw [Window.under_self] at hrec
  exact ⟨e, ⟨s, bound, b, hs, hbound, hb, hmatch, hrec⟩, (PathError.cycleDetected.inj hv).symm⟩

/-- A search that comes back to a wait reports a cycle. -/
theorem Sound.cycle_of_comesBackTo (h : g.Sound) {e : Edge} (hc : g.ComesBackTo start stop e) :
    ∃ v, g.criticalPath start stop false = .error (.cycleDetected v) := by
  obtain ⟨s, bound, b, hs, hbound, hb, hmatch, hrec⟩ := hc
  have hvertex := (startOf_eq_ok hs).1
  obtain rfl := vertex?_id hvertex
  cases hown : g.ownSteps bound [] [] s with
  | error err =>
    obtain ⟨b', hb', hstep⟩ := h.ownSteps_eq_error hvertex (by simp) hown
    obtain ⟨-, hres⟩ := stepFor_eq_error hstep
    obtain ⟨e', rfl, -⟩ := h.resolve_eq_error (h.has_of_behind hb').1 hres
    exact ⟨_, criticalPath_eq_cycle.2 ⟨s, bound, hs, hbound, rfl, hown⟩⟩
  | ok r =>
    -- a walk back that ends has explained the wait, so all its windows were left again
    obtain ⟨steps, -, hr⟩ := ownSteps_eq_ok (o := r.1) (r := r.2) hown
    obtain ⟨x, hstep⟩ := hr.stepFor_ok hb
    obtain ⟨trail, hres⟩ := stepFor_wait hmatch hstep
    have hsettled := settled_of_resolve hres
    rw [Window.under_self] at hsettled
    exact absurd hrec hsettled.not_recurs

/-- A report needs a wait that feeds itself. -/
theorem Sound.feeds_of_cycle (h : g.Sound)
    (herr : g.criticalPath start stop cancelled = .error (.cycleDetected v)) :
    Relation.TransGen g.Feeds v v := by
  obtain ⟨e, ⟨s, bound, b, -, -, hb, hmatch, hrec⟩, rfl⟩ := h.comesBackTo_of_cycle herr
  exact h.recurs_feeds ⟨(h.has_of_behind hb).1, hmatch⟩ hrec

/-- Edges that all lead to a higher rank make no cycle. -/
theorem acyclic_of_rank (rank : VertexId → Nat)
    (hrank : ∀ e ∈ g.edgeList, rank e.origin.id < rank e.target.id) (v : VertexId) :
    ¬Relation.TransGen g.Joins v v := by
  intro hcycle
  have hlt : ∀ {a b}, Relation.TransGen g.Joins a b → rank a < rank b := by
    intro a b hab
    induction hab with
    | single hstep =>
      obtain ⟨e, he, rfl, rfl⟩ := hstep
      exact hrank e (mem_edgeList.2 he)
    | tail _ hstep ih =>
      obtain ⟨e, he, rfl, rfl⟩ := hstep
      exact Nat.lt_trans ih (hrank e (mem_edgeList.2 he))
  exact Nat.lt_irrefl _ (hlt hcycle)

end Graph

/-! ## § 2. When a cycle is reported -/

open CausalPath.Graph in
/-- A critical path reports a cycle exactly if its search comes back to a wait that it is
explaining. The wait at whose end it is reported feeds itself, so a graph without cycles whose
wakeups arrive where the waits end has no report. -/
theorem cycleDetected_iff_comesBackTo {g : Graph} (hbuilt : g.Built) (start : VertexId)
    (stop : Option VertexId) :
    ((∃ v, g.criticalPath start stop false = .error (.cycleDetected v)) ↔
      ∃ e, g.ComesBackTo start stop e) ∧
    (∀ cancelled v, g.criticalPath start stop cancelled = .error (.cycleDetected v) →
      (∃ e, g.ComesBackTo start stop e ∧ e.target.id = v) ∧ Relation.TransGen g.Feeds v v) ∧
    (g.WakesAtEnd → (∀ v, ¬Relation.TransGen g.Joins v v) → ∀ cancelled v,
      g.criticalPath start stop cancelled ≠ .error (.cycleDetected v)) := by
  have h := hbuilt.sound
  refine ⟨⟨?_, ?_⟩, ?_, ?_⟩
  · rintro ⟨v, herr⟩
    obtain ⟨e, he, -⟩ := h.comesBackTo_of_cycle herr
    exact ⟨e, he⟩
  · rintro ⟨e, he⟩
    exact h.cycle_of_comesBackTo he
  · intro cancelled v herr
    exact ⟨h.comesBackTo_of_cycle herr, h.feeds_of_cycle herr⟩
  · intro hend hacyclic cancelled v herr
    -- then whatever feeds a vertex is joined to it by an edge
    have hjoins : ∀ a b, g.Feeds a b → g.Joins a b := fun _ _ => h.joins_of_feeds hend
    exact hacyclic v (Relation.TransGen.mono hjoins _ _ (h.feeds_of_cycle herr))

/-- Two workers that were both blocked until 10 and then woke each other. -/
def crossed : Graph :=
  Mutation.runAll
    [.addWorker (Worker.thread "h" 1 "a"), .createVertex ⟨0⟩ 0, .add ⟨0⟩, .createVertex ⟨0⟩ 10,
      .append ⟨1⟩ .blocked none, .createVertex ⟨0⟩ 10, .append ⟨2⟩ .running none,
      .addWorker (Worker.thread "h" 2 "b"), .createVertex ⟨1⟩ 0, .add ⟨3⟩, .createVertex ⟨1⟩ 10,
      .append ⟨4⟩ .blocked none, .createVertex ⟨1⟩ 10, .append ⟨5⟩ .running none,
      .linkVertical ⟨1⟩ ⟨5⟩ .default none, .linkVertical ⟨4⟩ ⟨2⟩ .default none]
    (Graph.new 0)

theorem crossed_cycle : crossed.criticalPath ⟨2⟩ none false = .error (.cycleDetected ⟨1⟩) := by
  cbv

/-- The search of `crossed` comes back to the wait of the first worker. -/
theorem cycleDetected_iff_comesBackTo_of_crossed :
    crossed.Built ∧ (∃ e, crossed.ComesBackTo ⟨2⟩ none e ∧ e.target.id = ⟨1⟩) ∧
      Relation.TransGen crossed.Feeds ⟨1⟩ ⟨1⟩ := by
  have hbuilt : crossed.Built := ⟨0, _, rfl⟩
  obtain ⟨-, hreport, -⟩ := cycleDetected_iff_comesBackTo hbuilt ⟨2⟩ none
  exact ⟨hbuilt, hreport false ⟨1⟩ crossed_cycle⟩

open CausalPath.Graph in
/-- The edges of `crossed` make no cycle, yet its critical path reports one. -/
theorem not_all_reported_cycles_exist : crossed.Built ∧ crossed.contains ⟨2⟩ = true ∧
    (∀ v, ¬Relation.TransGen crossed.Joins v v) ∧
      crossed.criticalPath ⟨2⟩ none false = .error (.cycleDetected ⟨1⟩) := by
  refine ⟨⟨0, _, rfl⟩, by cbv, ?_, crossed_cycle⟩
  -- the blockings end in the second vertices of the chains, the links in the third
  have hranked : (crossed.edgeList.all fun e =>
      decide (e.origin.id.index % 3 < e.target.id.index % 3)) = true := by cbv
  apply acyclic_of_rank fun v => v.index % 3
  intro e he
  simpa using List.all_eq_true.1 hranked e he

end CausalPath
