import CausalPath.Path.Compute
import CausalPath.Proofs.Guards

/-!
# Failures of drafts

Writing a path fails with a refusal of the output store or not at all, so every other error of a
critical path comes from the search.
-/

namespace CausalPath

/-- The computation fails with refusals of a store only. -/
def RefusesOnly {α : Type} (x : Except PathError α) : Prop :=
  ∀ err, x = .error err → ∃ r, err = .graph r

namespace RefusesOnly

variable {α β : Type} {x : Except PathError α}

theorem ok (a : α) : RefusesOnly (.ok a) := by
  intro err herr
  exact absurd herr (by simp)

theorem refused (r : GraphError) : RefusesOnly (.error (.graph r) : Except PathError α) := by
  intro err herr
  exact ⟨r, (Except.error.inj herr).symm⟩

theorem bind {f : α → Except PathError β} (hx : RefusesOnly x) (hf : ∀ a, RefusesOnly (f a)) :
    RefusesOnly (x >>= f) := by
  intro err herr
  rcases bind_eq_error.1 herr with h | ⟨a, -, h⟩
  · exact hx err h
  · exact hf a err h

theorem ofStore (y : Except GraphError α) : RefusesOnly (Draft.store y) := by
  cases y with
  | ok a => exact ok a
  | error e => exact refused e

end RefusesOnly

namespace Draft

open RefusesOnly

variable (d : Draft) (source : Graph)

theorem outWorker_refusesOnly (w : WorkerId) : RefusesOnly (d.outWorker source w) := by
  unfold outWorker
  split
  · exact ok _
  · split
    · exact refused _
    · refine (ofStore _).bind ?_
      rintro ⟨i, graph⟩
      exact ok _

theorem put_refusesOnly (i : WorkerId) (t : Time) (s : EdgeState) (q : Option String) :
    RefusesOnly (d.put i t s q) := by
  refine (ofStore _).bind ?_
  rintro ⟨v, graph⟩
  refine (ofStore _).bind ?_
  rintro ⟨last, graph'⟩
  exact ok _

theorem ensure_refusesOnly (w : WorkerId) (t : Time) : RefusesOnly (d.ensure source w t) := by
  refine (d.outWorker_refusesOnly source w).bind ?_
  rintro ⟨i, d₁⟩
  dsimp only
  split
  · split
    · exact ok _
    · exact d₁.put_refusesOnly _ _ _ _
  · exact d₁.put_refusesOnly _ _ _ _

theorem segment_refusesOnly (w : WorkerId) (t : Time) (s : EdgeState) (q : Option String) :
    RefusesOnly (d.segment source w t s q) := by
  refine (d.outWorker_refusesOnly source w).bind ?_
  rintro ⟨i, d₁⟩
  exact d₁.put_refusesOnly _ _ _ _

theorem connect_refusesOnly (a b : Vertex) (s : EdgeState) (q : Option String) :
    RefusesOnly (d.connect a b s q) := by
  unfold connect
  split
  · refine (ofStore _).bind ?_
    rintro ⟨i, graph⟩
    exact ok _
  · exact ok _

theorem advance_refusesOnly (a : Anchor) (w : WorkerId) (t : Time) (s : EdgeState)
    (q : Option String) : RefusesOnly (d.advance source a w t s q) := by
  unfold advance
  split
  · exact (d.segment_refusesOnly source w t s q).bind fun _ => ok _
  · refine (d.ensure_refusesOnly source w _).bind ?_
    rintro ⟨v, d₁⟩
    exact (d₁.connect_refusesOnly _ _ _ _).bind fun _ => ok _

theorem follow_refusesOnly (trail : List Edge) :
    ∀ (d : Draft) (a : Anchor) (previous : Option Edge),
      RefusesOnly (d.follow source a previous trail) := by
  induction trail with
  | nil =>
    intro d a previous
    exact ok _
  | cons e rest ih =>
    intro d a previous
    have hrest : ∀ (a : Anchor) (d : Draft), RefusesOnly
        (d.advance source a e.target.worker e.target.time e.state e.qualifier >>= fun x =>
          x.2.follow source x.1 (some e) rest) := fun a d =>
      (d.advance_refusesOnly source a _ _ _ _).bind fun _ => ih _ _ _
    unfold follow
    split
    · split
      · exact hrest a d
      · exact (d.advance_refusesOnly source a _ _ _ _).bind fun _ => hrest _ _
    · exact hrest a d

theorem explain_refusesOnly (w : WorkerId) (b : Edge) (trail : List Edge) :
    RefusesOnly (d.explain source w b trail) := by
  unfold explain
  split
  · exact ok _
  · rename_i first rest
    refine bind ?_ fun _ => follow_refusesOnly source _ _ _ _
    unfold enter
    refine (d.ensure_refusesOnly source w _).bind ?_
    rintro ⟨v, d₁⟩
    dsimp only
    split
    · exact ok _
    · refine (d₁.ensure_refusesOnly source _ _).bind ?_
      rintro ⟨glue, d₂⟩
      refine (d₂.connect_refusesOnly _ _ _ _).bind ?_
      intro d₃
      dsimp only
      split
      · exact d₃.advance_refusesOnly source _ _ _ _ _
      · exact ok _

theorem steps_refusesOnly (w : WorkerId) (steps : List PathStep) :
    ∀ d : Draft, RefusesOnly (d.steps source w steps) := by
  induction steps with
  | nil =>
    intro d
    exact ok _
  | cons s rest ih =>
    intro d
    refine bind ?_ fun _ => ih _
    cases s with
    | copy e =>
      refine (d.ensure_refusesOnly source w _).bind ?_
      rintro ⟨v, d₁⟩
      exact (d₁.segment_refusesOnly source w _ _ _).bind fun _ => ok _
    | resolved b trail => exact d.explain_refusesOnly source w b trail

theorem finish_refusesOnly : RefusesOnly d.finish := by
  unfold finish
  split
  · exact ok _
  · exact refused _

end Draft

theorem Graph.draftPath_refusesOnly (g : Graph) (start oldest : Vertex) (steps : List PathStep) :
    RefusesOnly (g.draftPath start oldest steps) := by
  refine (Draft.ensure_refusesOnly _ g _ _).bind ?_
  rintro ⟨v, d⟩
  exact (Draft.steps_refusesOnly g _ steps d).bind fun _ => Draft.ensure_refusesOnly _ g _ _

end CausalPath
