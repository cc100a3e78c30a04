import CausalPath.Proofs.Store.Closing
import Mathlib.Data.List.Permutation

/-!
# What a refused call leaves behind

Every check of a store comes before its first write, with one exception: a link between workers puts
a target that is in no chain yet into its chain, and checks the edge only then. A refused call has
changed the store exactly if it is such a link, and the change is that of an append.
-/

namespace CausalPath

namespace Graph

variable {g g' : Graph} {a b : VertexId} {s : EdgeState} {q : Option String}

/-! ## § 1. Links that strand their target -/

/-- A link between workers whose target can join its chain and whose edge is not admitted. -/
def Strands (g : Graph) : Mutation → Prop
  | .link a b s q => g.contains a = true ∧ g.parent? a ≠ g.parent? b ∧
      (∃ x g', g.add b = .ok (x, g')) ∧ ¬g.Admits ⟨a, b, s, q, false⟩
  | _ => False

/-- A horizontal edge takes no slot of a vertical one. -/
theorem not_meets_of_vertical {x y : EdgeRecord} (hx : x.horizontal = true)
    (hy : y.horizontal = false) {v : VertexId} {d : Direction} (hm : y.Meets v d) :
    ¬x.Meets v d := by
  rintro (⟨-, rfl⟩ | ⟨-, rfl⟩) <;> rcases hm with ⟨-, hd⟩ | ⟨-, hd⟩ <;> rw [hx, hy] at hd <;>
    exact absurd hd (by decide)

theorem extend_time? (h : g.Sound) {x : Option EdgeId} (hok : g.extend b s q = .ok (x, g'))
    (v : VertexId) : g'.time? v = g.time? v := by
  obtain ⟨u, -, -, ⟨-, -, rfl⟩ | ⟨tail, -, -, -, rfl⟩⟩ := h.inside.extend_eq_ok hok
  · rw [time?_pushChain]
  · rw [time?_pushChain, time?_pushEdge]

/-- An append takes horizontal slots only, so it decides nothing about vertical edges. -/
theorem admits_extend_iff (h : g.Sound) {x : Option EdgeId} (hok : g.extend b s q = .ok (x, g'))
    {y : EdgeRecord} (hy : y.horizontal = false) : g'.Admits y ↔ g.Admits y := by
  have hslot : ∀ v d, y.Meets v d → g'.slot? v d = g.slot? v d := by
    intro v d hm
    obtain ⟨u, hu, -, ⟨-, -, rfl⟩ | ⟨tail, htail, -, -, rfl⟩⟩ := h.inside.extend_eq_ok hok
    · rw [slot?_pushChain]
    · have htc := Sound.isSome_of_contains (h.contains_tail htail)
      have hno := not_meets_of_vertical (x := ⟨tail, b, s, q, true⟩) rfl hy hm
      rw [slot?_pushChain, slot?_pushEdge htc (by simp [hu]), if_neg hno]
  have htime := extend_time? h hok
  constructor
  · rintro ⟨hne, hfree, hforward⟩
    exact ⟨hne, fun v d hm => (hslot v d hm).symm.trans (hfree v d hm),
      hforward.of_time? (htime _).symm (htime _).symm⟩
  · rintro ⟨hne, hfree, hforward⟩
    exact ⟨hne, fun v d hm => (hslot v d hm).trans (hfree v d hm),
      hforward.of_time? (htime _) (htime _)⟩

/-! ## § 2. Refusals -/

theorem insertEdge_eq_error {x : EdgeRecord} : (∃ e, g.insertEdge x = .error e) ↔ ¬g.Admits x := by
  constructor
  · rintro ⟨e, herr⟩ hadm
    rw [insertEdge_eq_ok.2 ⟨hadm, rfl, rfl⟩] at herr
    exact absurd herr (by simp)
  · intro hno
    cases hins : g.insertEdge x with
    | error e => exact ⟨e, rfl⟩
    | ok p =>
      obtain ⟨e, g'⟩ := p
      exact absurd (insertEdge_eq_ok.1 hins).1 hno

theorem eq_of_orKeep_error {α : Type} {r : Except GraphError (α × Graph)} {e : GraphError}
    (herr : (g.orKeep r).1 = .error e) : r = .error e ∧ (g.orKeep r).2 = g := by
  cases r with
  | error e' => exact ⟨congrArg Except.error (Except.error.inj herr), rfl⟩
  | ok p => exact absurd herr (by simp [orKeep])

/-- Within one worker a vertex that follows another always gets an edge. -/
theorem extend_draws (h : g.Sound) (ha : g.contains a = true) (hw : g.parent? a = g.parent? b)
    {x : Option EdgeId} (hok : g.extend b s q = .ok (x, g')) : x ≠ none := by
  obtain ⟨u, hu, -, ⟨hempty, -, -⟩ | ⟨tail, -, -, rfl, -⟩⟩ := h.inside.extend_eq_ok hok
  · have hparent : g.parent? a = some u.worker := by
      rw [hw, parent?_eq, hu]
      rfl
    have hmem := (h.mem_chain u.worker a).2 ⟨ha, hparent⟩
    rw [hempty] at hmem
    exact absurd hmem List.not_mem_nil
  · simp

theorem parent?_of_record {v : VertexId} {r : VertexRecord} (hr : g.vertices[v.index]? = some r) :
    g.parent? v = some r.worker := by
  simp [parent?, hr]

/-- An append changes the store. -/
theorem ne_of_extend (h : g.Sound) {x : Option EdgeId} (hok : g.extend b s q = .ok (x, g')) :
    g' ≠ g := by
  rintro rfl
  obtain ⟨-, -, hout, -⟩ := h.inside.extend_eq_ok hok
  rw [(h.inside.extend_keeps hok).2.1] at hout
  exact absurd hout (by simp)

/-- A link that strands its target is refused, and leaves the store of the append. -/
theorem link_of_strands (h : g.Sound) (hs : g.Strands (.link a b s q)) :
    (∃ e, (g.link a b s q).1 = .error e) ∧ g.contains b = false ∧
      ∃ x, g.add b = .ok (x, (g.link a b s q).2) := by
  obtain ⟨ha, hw, ⟨x, g', hadd⟩, hno⟩ := hs
  obtain ⟨hopen, hext⟩ := append_eq_ok.1 hadd
  obtain ⟨u, hu, hout, -⟩ := h.inside.extend_eq_ok hext
  obtain ⟨ra, hra, hain⟩ : ∃ r, g.vertices[a.index]? = some r ∧ r.inGraph = true := by
    rwa [contains, Option.any_eq_true] at ha
  obtain ⟨rb, hrb, -⟩ := vertex?_eq_some_iff.1 hu
  have hbin : rb.inGraph = false := by simpa [contains, hrb] using hout
  have hne : ra.worker ≠ rb.worker := by
    intro heq
    apply hw
    rw [parent?_of_record hra, parent?_of_record hrb, heq]
  obtain ⟨e, herr⟩ := insertEdge_eq_error.2 (mt (admits_extend_iff h hext rfl).1 hno)
  have hlink : g.link a b s q = (.error e, g') := by
    unfold link
    rw [requireOpen_eq_ok (u := ()).2 hopen, recordInGraph_eq_ok.2 ⟨hra, hain⟩, record_eq_ok.2 hrb]
    simp only [bind, Except.bind, pure, Except.pure, hne, hbin, hext, herr, orKeep]
    simp
  rw [hlink]
  exact ⟨⟨e, rfl⟩, hout, x, hadd⟩

/-- A refused link that changed the store has stranded its target. -/
theorem strands_of_link (h : g.Sound) : ∀ {e : GraphError}, (g.link a b s q).1 = .error e →
    (g.link a b s q).2 ≠ g → g.Strands (.link a b s q) := by
  unfold link
  split
  · intro _ _ hne
    exact absurd rfl hne
  · rename_i ra rb hread
    simp only [bind_eq_ok, requireOpen_eq_ok, recordInGraph_eq_ok, record_eq_ok, pure_eq_ok,
      Prod.mk.injEq] at hread
    obtain ⟨-, hopen, _, ⟨hra, hain⟩, _, hrb, rfl, rfl⟩ := hread
    have ha : g.contains a = true := contains_of_record hra hain
    split
    · rename_i hw
      have hparent : g.parent? a = g.parent? b := by
        rw [parent?_of_record hra, parent?_of_record hrb, hw]
      split
      · intro _ _ hne
        exact absurd rfl hne
      · split
        · intro _ _ hne
          exact absurd rfl hne
        · intro _ herr
          exact absurd herr (by simp)
        · rename_i hext
          intro _ _ _
          exact absurd rfl (extend_draws h ha hparent hext)
    · rename_i hw
      split
      · intro e herr hne
        exact absurd (eq_of_orKeep_error herr).2 hne
      · split
        · intro _ _ hne
          exact absurd rfl hne
        · rename_i x g₁ hext
          intro e herr _
          refine ⟨ha, ?_, ⟨x, g₁, append_eq_ok.2 ⟨hopen, hext⟩⟩, ?_⟩
          · rw [parent?_of_record hra, parent?_of_record hrb]
            exact fun heq => hw (Option.some.inj heq)
          · rw [← admits_extend_iff h hext rfl]
            exact insertEdge_eq_error.1 ⟨e, (eq_of_orKeep_error herr).1⟩

/-- A store is closed unless it takes no calls, and then it stays. -/
theorem close_eq_error (h : g.Sound) {stop : Time} {e : GraphError}
    (herr : (g.close stop).1 = .error e) : (g.close stop).2 = g := by
  by_cases hopen : g.phase = .building
  · rw [h.close_ok hopen stop] at herr
    exact absurd herr (by simp)
  · unfold close
    split
    · rfl
    · rename_i hread
      exact absurd (requireOpen_eq_ok.1 hread) hopen

end Graph

namespace Mutation

theorem lift_eq_error {α : Type} {f : α → Answer} {r : Except GraphError α × Graph}
    {e : GraphError} : (run.lift f r).1 = .error e ↔ r.1 = .error e := by
  obtain ⟨r, g⟩ := r
  cases r with
  | error e' => simp [run.lift, Except.map]
  | ok a => simp [run.lift, Except.map]

open CausalPath.Graph

/-- A refused call that is not a link leaves the store as it was. -/
theorem run_keeps {g : Graph} (h : g.Sound) {m : Mutation} {e : GraphError}
    (herr : (m.run g).1 = .error e) (hne : (m.run g).2 ≠ g) : g.Strands m := by
  cases m with
  | addWorker w => exact absurd (eq_of_orKeep_error (lift_eq_error.1 herr)).2 hne
  | createVertex w t => exact absurd (eq_of_orKeep_error (lift_eq_error.1 herr)).2 hne
  | append v s q => exact absurd (eq_of_orKeep_error (lift_eq_error.1 herr)).2 hne
  | add v => exact absurd (eq_of_orKeep_error (lift_eq_error.1 herr)).2 hne
  | link a b s q => exact strands_of_link h (lift_eq_error.1 herr) hne
  | linkVertical a b s q => exact absurd (eq_of_orKeep_error (lift_eq_error.1 herr)).2 hne
  | close t => exact absurd (close_eq_error h (lift_eq_error.1 herr)) hne

end Mutation

namespace Graph

/-! ## § 3. Which refused calls change a store -/

/-- Whatever calls a store has seen, a refused call has changed it exactly if it is a link that
strands its target: a vertex that was in no chain and is at the end of its chain now, as if it had
been appended. -/
theorem refused_changes_iff (start : Time) (ms : List Mutation) (m : Mutation) :
    let g := Mutation.runAll ms (Graph.new start)
    (((∃ e, (m.run g).1 = .error e) ∧ (m.run g).2 ≠ g) ↔ g.Strands m) ∧
      ∀ a b s q, m = .link a b s q → g.Strands m →
        g.contains b = false ∧ ∃ x, g.add b = .ok (x, (m.run g).2) := by
  intro g
  have h : g.Sound := Built.sound ⟨start, ms, rfl⟩
  refine ⟨⟨?_, ?_⟩, ?_⟩
  · rintro ⟨⟨e, herr⟩, hne⟩
    exact Mutation.run_keeps h herr hne
  · intro hs
    cases m with
    | link a b s q =>
      obtain ⟨⟨e, herr⟩, -, x, hadd⟩ := link_of_strands h hs
      exact ⟨⟨e, Mutation.lift_eq_error.2 herr⟩, ne_of_extend h (append_eq_ok.1 hadd).2⟩
    | _ => exact absurd hs id
  · rintro a b s q rfl hs
    exact (link_of_strands h hs).2

/-- Two workers, the first with a vertex at 10, and a vertex at 5 for the second. -/
def lagging : Graph :=
  Mutation.runAll
    [.addWorker (Worker.thread "h" 1 "a"), .addWorker (Worker.thread "h" 2 "b"),
      .createVertex ⟨0⟩ 10, .add ⟨0⟩, .createVertex ⟨1⟩ 5]
    (Graph.new 0)

/-- The link back in time from the first worker of `lagging` to the second is refused, and the
vertex of the second is in its chain from then on. -/
theorem not_all_refusals_keep : lagging.Built ∧ lagging.contains ⟨1⟩ = false ∧
    ((Mutation.link ⟨0⟩ ⟨1⟩ .default none).run lagging).1 = .error (.invalidTimestamp ⟨1⟩ 5 10) ∧
      ((Mutation.link ⟨0⟩ ⟨1⟩ .default none).run lagging).2.contains ⟨1⟩ = true ∧
        ((Mutation.link ⟨0⟩ ⟨1⟩ .default none).run lagging).2 ≠ lagging := by
  refine ⟨⟨0, _, rfl⟩, by cbv, by cbv, by cbv, ?_⟩
  intro heq
  have hin : ((Mutation.link ⟨0⟩ ⟨1⟩ .default none).run lagging).2.contains ⟨1⟩ = true := by cbv
  have hout : lagging.contains ⟨1⟩ = false := by cbv
  rw [heq, hout] at hin
  exact absurd hin (by simp)

end Graph

end CausalPath
