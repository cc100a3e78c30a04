import CausalPath.Proofs.Path.Acyclic
import CausalPath.Proofs.Path.Outcome
import CausalPath.Proofs.Store.Closing

/-!
# Calm graphs

In a calm graph instantaneous edges do not follow each other, and no wakeup arrives where a chain
arrives without taking time. Then a wakeup is chosen only where the wait ends and the edges make no
cycle, so every search gives a path.
-/

namespace CausalPath

namespace Graph

variable {g g' : Graph} {e : Edge} {v a b : VertexId}

/-! ## § 1. Instantaneous edges -/

/-- No edge at the vertex is instantaneous. -/
def Still (g : Graph) (v : VertexId) : Prop :=
  ∀ e, g.Has e → e.origin.id = v ∨ e.target.id = v → e.duration ≠ 0

/-- Instantaneous edges lie apart from each other and from wakeups, and no hop is in a chain. -/
structure Calm (g : Graph) : Prop where
  /-- Where an instantaneous edge arrives none leaves. -/
  apart : ∀ e e', g.Has e → g.Has e' → e.duration = 0 → e'.duration = 0 →
    e.target.id ≠ e'.origin.id
  /-- Where a chain arrives instantaneously no wakeup arrives. -/
  unwoken : ∀ e e', g.Has e → g.Has e' → e.horizontal = true → e.duration = 0 →
    e'.horizontal = false → e'.target.id ≠ e.target.id
  unhopped : ∀ e, g.Has e → e.horizontal = true → e.state ≠ .epsilon

theorem Still.add (h : g.Still v) (hedges : ∀ e', g'.Has e' → g.Has e' ∨ e' = e)
    (hoff : e.duration = 0 → e.origin.id ≠ v ∧ e.target.id ≠ v) : g'.Still v := by
  intro e' he' hat hzero
  rcases hedges e' he' with hold | rfl
  · exact h e' hold hat hzero
  · obtain ⟨ho, ht⟩ := hoff hzero
    exact hat.elim ho ht

/-- An edge keeps a graph calm if its target is still when it is a wakeup, and both its ends are
still when it is instantaneous. -/
theorem Calm.add (h : g.Calm) (hedges : ∀ e', g'.Has e' → g.Has e' ∨ e' = e)
    (hdistinct : e.target.id ≠ e.origin.id)
    (hwakes : e.horizontal = false → g.Still e.target.id)
    (hinstant : e.duration = 0 → g.Still e.origin.id ∧ g.Still e.target.id)
    (hlast : e.horizontal = true → e.duration = 0 → ∀ e', g.Has e' → e'.target.id ≠ e.target.id)
    (hstate : e.horizontal = true → e.state ≠ .epsilon) : g'.Calm where
  apart a b ha hb hza hzb := by
    rcases hedges a ha with ha | rfl <;> rcases hedges b hb with hb | rfl
    · exact h.apart a b ha hb hza hzb
    · intro heq
      exact (hinstant hzb).1 a ha (Or.inr heq) hza
    · intro heq
      exact (hinstant hza).2 b hb (Or.inl heq.symm) hzb
    · exact hdistinct
  unwoken a b ha hb hh hz hv := by
    rcases hedges a ha with ha | rfl <;> rcases hedges b hb with hb | rfl
    · exact h.unwoken a b ha hb hh hz hv
    · intro heq
      exact hwakes hv a ha (Or.inr heq.symm) hz
    · exact hlast hh hz b hb
    · rw [hh] at hv
      exact absurd hv (by simp)
  unhopped a ha hh := by
    rcases hedges a ha with ha | rfl
    · exact h.unhopped a ha hh
    · exact hstate hh

theorem Calm.of_subset (h : g.Calm) (hedges : ∀ e, g'.Has e → g.Has e) : g'.Calm where
  apart a b ha hb := h.apart a b (hedges a ha) (hedges b hb)
  unwoken a b ha hb := h.unwoken a b (hedges a ha) (hedges b hb)
  unhopped a ha := h.unhopped a (hedges a ha)

theorem calm_new (start : Time) : (Graph.new start).Calm where
  apart e _ he := by simp [Has, edge?, new] at he
  unwoken e _ he := by simp [Has, edge?, new] at he
  unhopped e he := by simp [Has, edge?, new] at he

/-- Filler takes time, so it keeps a graph calm. -/
theorem Pads.calm {stop : Time} (hp : Pads stop g g') (h : g.Calm) : g'.Calm := by
  have hedges : ∀ e, g'.Has e → g.Has e ∨ (e.horizontal = true ∧ e.state = .noEdge ∧
      0 < e.duration) := by
    intro e he
    rcases hp.filler e (mem_edgeList.2 he) with hold | ⟨hh, hs, hd, -⟩
    · exact Or.inl (mem_edgeList.1 hold)
    · exact Or.inr ⟨hh, hs, hd⟩
  have hinstant : ∀ e, g'.Has e → e.duration = 0 → g.Has e := by
    intro e he hz
    rcases hedges e he with hold | ⟨-, -, hd⟩
    · exact hold
    · exact absurd hz (Nat.ne_of_gt hd)
  refine ⟨?_, ?_, ?_⟩
  · intro a b ha hb hza hzb
    exact h.apart a b (hinstant a ha hza) (hinstant b hb hzb) hza hzb
  · intro a b ha hb hh hz hv
    rcases hedges b hb with hb | ⟨hh', -⟩
    · exact h.unwoken a b (hinstant a ha hz) hb hh hz hv
    · rw [hh'] at hv
      exact absurd hv (by simp)
  · intro a ha hh
    rcases hedges a ha with ha | ⟨-, hs, -⟩
    · exact h.unhopped a ha hh
    · simp [hs]

/-! ## § 2. Nothing feeds itself -/

/-- In a calm graph a wakeup is chosen only where the wait ends. -/
theorem Calm.wakesAtEnd (hc : g.Calm) (h : g.Sound) : g.WakesAtEnd := by
  intro e w he hmatch hw
  obtain ⟨j, hj, harr⟩ := wakeup_arrives hw
  obtain ⟨hwhas, hwv, rfl⟩ := h.wake_iff.1 harr
  rcases Relation.ReflTransGen.cases_tail hj with heq | ⟨i, -, x, hx, hinst, hid⟩
  · exact heq
  · -- the wait would lead on to the wakeup by an instantaneous edge of the chain
    obtain ⟨hxhas, hxh, -⟩ := h.onward_iff.1 hx
    have hzero : x.duration = 0 := by
      simp only [isInstant, Bool.decide_or, Bool.or_eq_true, decide_eq_true_eq] at hinst
      exact hinst.resolve_right (hc.unhopped x hxhas hxh)
    exact absurd hid.symm (hc.unwoken x w hxhas hwhas hxh hzero hwv)

/-- An edge that its target leads back from is instantaneous. -/
theorem Sound.duration_of_leads (h : g.Sound) (he : g.Has e)
    (hback : Relation.ReflTransGen g.Joins e.target.id e.origin.id) : e.duration = 0 := by
  have hd := h.drawn he
  have hjoin : g.Joins e.origin.id e.target.id := ⟨e, he, rfl, rfl⟩
  rcases Relation.reflTransGen_iff_eq_or_transGen.1 hback with heq | hback
  · exact absurd heq hd.distinct
  · have htime := h.time?_of_leads (.single hjoin) hback
    rw [time?_eq, time?_eq, hd.origin, hd.target] at htime
    have htime : e.origin.time = e.target.time := Option.some.inj htime
    rw [Edge.duration, htime, Nat.sub_self]

/-- The edges of a calm graph make no cycle. -/
theorem Calm.acyclic (hc : g.Calm) (h : g.Sound) (v : VertexId) :
    ¬Relation.TransGen g.Joins v v := by
  intro hcycle
  -- the edges that arrive at and leave a vertex of a cycle are both instantaneous
  obtain ⟨b, hvb, e, he, rfl, het⟩ := Relation.TransGen.tail'_iff.1 hcycle
  obtain ⟨c, ⟨e', he', heo, rfl⟩, hrest⟩ := Relation.TransGen.head'_iff.1 hcycle
  have hzero := h.duration_of_leads he (by rwa [het])
  have hzero' := h.duration_of_leads he' (by rwa [heo])
  exact hc.apart e e' he he' hzero hzero' (het.trans heo.symm)

/-! ## § 3. Every search gives a path -/

/-- In a calm graph every search with a start in a chain gives a path. -/
theorem Sound.criticalPath_of_calm (h : g.Sound) (hc : g.Calm) {start : VertexId}
    (hin : g.contains start = true) : ∃ p, g.criticalPath start none false = .ok p := by
  obtain ⟨s, hs⟩ := vertex?_isSome_of_contains hin
  have hstart : g.startOf start = .ok s := by simp [startOf, hs, hin]
  have hbound : g.boundOf none = .ok none := rfl
  rcases h.criticalPath_ok_or_cycle hstart hbound with hok | ⟨v, herr⟩
  · exact hok
  · have hjoins : ∀ a b, g.Feeds a b → g.Joins a b := fun _ _ => h.joins_of_feeds (hc.wakesAtEnd h)
    exact absurd (Relation.TransGen.mono hjoins _ _ (h.feeds_of_cycle herr)) (hc.acyclic h v)

/-- In a calm graph every worker has a path. -/
theorem Sound.workerPath_of_calm (h : g.Sound) (hc : g.Calm) (w : WorkerId) :
    ∃ p, g.workerPath w false = .ok p := by
  unfold workerPath
  split
  · rename_i tail htail
    rw [tail?_eq] at htail
    exact h.criticalPath_of_calm hc (h.contains_tail htail)
  · exact (Draft.mirrors_new g g.startTime).finish_ok

end Graph

end CausalPath
