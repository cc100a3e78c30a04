import CausalPath.Proofs.Scan.Heads
import CausalPath.Proofs.Store.Restored
import Mathlib.Data.List.Chain

/-!
# Retracing a chain

Slots leave no choice in going back along horizontal edges, and no two vertices have the same one
before them. So in a finite graph going back ends at a head or comes back to where it started; it
cannot run into a loop further up. The search for a head therefore always ends by itself, never by
its bound on steps, in restored graphs too, where chains may lead back to themselves.
-/

namespace CausalPath

namespace Graph

/-! ## § 1. How going back ends -/

/-- How going back along horizontal edges ends. -/
inductive Retraced
  /-- At a vertex that no horizontal edge leads to. -/
  | head (v : VertexId)
  /-- At the start, met again. -/
  | returned
  /-- Nowhere within the steps that were given. -/
  | spent
  deriving DecidableEq, Repr

def Retraced.answer (start : VertexId) : Retraced → Except GraphError VertexId
  | .head v => .ok v
  | .returned => .error (.cycleDetected start)
  | .spent => .error (.cycleDetected start)

/-- Goes back from `current` for at most the given number of steps, and tells the ways in which that
ends apart. -/
def retrace (g : Graph) (start current : VertexId) : Nat → Retraced
  | 0 => .spent
  | steps + 1 =>
    match g.edgeAt? current .incomingHorizontal with
    | none => .head current
    | some e => if e.origin.id = start then .returned else g.retrace start e.origin.id steps

variable {g : Graph} {start current head p v : VertexId}

theorem rewind_eq (g : Graph) (start : VertexId) (steps : Nat) : ∀ current : VertexId,
    g.rewind start current steps = (g.retrace start current steps).answer start := by
  induction steps with
  | zero =>
    intro current
    rfl
  | succ steps ih =>
    intro current
    unfold rewind retrace
    cases g.edgeAt? current .incomingHorizontal with
    | none => rfl
    | some e =>
      dsimp only
      split
      · rfl
      · exact ih e.origin.id

theorem headOf_eq (hv : g.contains v = true) :
    g.headOf v = (g.retrace v v (g.vertices.size + 1)).answer v := by
  obtain ⟨r, hr, hin⟩ := Option.any_eq_true _ _ |>.1 hv
  rw [headOf, hr]
  dsimp only
  rw [if_pos hin, rewind_eq]

/-! ## § 2. Cycles -/

/-- Coming back to the start closes a cycle. -/
theorem Wired.cycle_of_returned (h : g.Wired) {steps : Nat} :
    ∀ {current : VertexId}, g.retrace start current steps = .returned →
      Relation.ReflTransGen g.Onward current start → Relation.TransGen g.Onward start start := by
  induction steps with
  | zero =>
    intro current hret _
    exact absurd hret (by simp [retrace])
  | succ steps ih =>
    intro current hret hlead
    unfold retrace at hret
    split at hret
    · exact absurd hret (by simp)
    · rename_i e he
      have hstep : g.Onward e.origin.id current := h.onward_iff_into.2 ⟨e, he, rfl⟩
      split at hret
      · rename_i hstart
        exact .head' (hstart ▸ hstep) hlead
      · exact ih hret (.head hstep hlead)

/-- What a head leads to is on no cycle: going back around one would never leave it. -/
theorem Wired.not_cycle_of_head (h : g.Wired) (hlead : Relation.ReflTransGen g.Onward head v)
    (hnone : g.edgeAt? head .incomingHorizontal = none) : ¬Relation.TransGen g.Onward v v := by
  induction hlead with
  | refl =>
    intro hcycle
    obtain ⟨a, -, hlast⟩ := Relation.TransGen.tail'_iff.1 hcycle
    exact h.not_onward_head hnone hlast
  | @tail b c _ hstep ih =>
    intro hcycle
    obtain ⟨a, hfront, hlast⟩ := Relation.TransGen.tail'_iff.1 hcycle
    obtain rfl := h.before_unique hlast hstep
    exact ih (.head' hstep hfront)

/-! ## § 3. The bound on steps -/

theorem Onward.mem_vertexIds (h : g.Onward p v) : p ∈ g.vertexIds := by
  obtain ⟨e, he, -, rfl, -⟩ := h
  obtain ⟨x, -, ho, -, -⟩ := edge?_eq_some_iff.1 he
  rw [vertex?_id ho]
  exact mem_vertexIds_of_vertex? ho

/-- Going back does not come to a vertex of its own trail other than the first one. -/
theorem Wired.not_mem_trail (h : g.Wired) {trail : List VertexId}
    (hchain : (current :: trail).IsChain g.Onward) (hnodup : (current :: trail).Nodup)
    (hp : g.Onward p current) (hne : (current :: trail).getLast? ≠ some p) :
    p ∉ current :: trail := by
  intro hmem
  obtain ⟨s, t, hsplit⟩ := List.append_of_mem hmem
  cases t with
  | nil => exact hne (by rw [hsplit]; simp)
  | cons q t =>
    -- the edge from `p` leads to the next vertex of the trail, so that is `current` once more
    rw [hsplit] at hchain
    have hnext := (List.isChain_append_cons_cons.1 hchain).2.1
    obtain rfl := h.after_unique hnext hp
    cases s with
    | nil =>
      obtain ⟨rfl, rfl⟩ := List.cons.inj hsplit
      simp at hnodup
    | cons x s =>
      obtain ⟨rfl, rfl⟩ := List.cons.inj hsplit
      simp at hnodup

/-- The trail of going back has no vertex twice, so as many steps as vertices are enough. -/
theorem Wired.retrace_ne_spent (h : g.Wired) (steps : Nat) :
    ∀ (current : VertexId) (trail : List VertexId), (current :: trail).IsChain g.Onward →
      (current :: trail).Nodup → (current :: trail).getLast? = some start →
      current :: trail ⊆ g.vertexIds → g.vertices.size ≤ trail.length + steps →
        g.retrace start current steps ≠ .spent := by
  induction steps with
  | zero =>
    intro current trail _ hnodup _ hsub hle
    have hlength := (hnodup.subperm hsub).length_le
    simp only [List.length_cons, vertexIds, List.length_map, List.length_range] at hlength
    omega
  | succ steps ih =>
    intro current trail hchain hnodup hlast hsub hle
    unfold retrace
    split
    · simp
    · rename_i e he
      split
      · simp
      · rename_i hne
        have hstep : g.Onward e.origin.id current := h.onward_iff_into.2 ⟨e, he, rfl⟩
        have hnew : e.origin.id ∉ current :: trail := by
          apply h.not_mem_trail hchain hnodup hstep
          rw [hlast]
          exact fun heq => hne (Option.some.inj heq).symm
        apply ih e.origin.id (current :: trail)
        · exact List.isChain_cons_cons.2 ⟨hstep, hchain⟩
        · exact List.nodup_cons.2 ⟨hnew, hnodup⟩
        · rwa [List.getLast?_cons_cons]
        · exact List.cons_subset.2 ⟨hstep.mem_vertexIds, hsub⟩
        · rw [List.length_cons]
          omega

theorem Wired.retrace_start_ne_spent (h : g.Wired) (hv : g.contains v = true) :
    g.retrace v v (g.vertices.size + 1) ≠ .spent := by
  obtain ⟨u, hu⟩ := vertex?_isSome_of_contains hv
  have hmem : v ∈ g.vertexIds := mem_vertexIds_of_vertex? hu
  exact h.retrace_ne_spent _ v [] (by simp) (by simp) rfl (by simpa using hmem) (by simp)

/-! ## § 4. Heads are found exactly -/

/-- In a graph that was built by calls or restored from an image, the search for the head of a
vertex of a chain tells what is there: a head, which no horizontal edge leads to and from which the
vertex is reached along horizontal edges, unless the vertex is on a horizontal cycle, and else that
cycle. It never ends by its bound on steps. In a built graph there are no such cycles, and the head
is the first vertex of the worker's chain. -/
theorem headOf_exact (hg : g.Built ∨ ∃ image : Snapshot, image.restore = .ok g)
    (hv : g.contains v = true) :
    ((∃ head, g.headOf v = .ok head) ↔ ¬Relation.TransGen g.Onward v v) ∧
      (∀ head, g.headOf v = .ok head → g.edgeAt? head .incomingHorizontal = none ∧
        Relation.ReflTransGen g.Onward head v) ∧
      (Relation.TransGen g.Onward v v → g.headOf v = .error (.cycleDetected v)) ∧
      (g.headOf v = (g.retrace v v (g.vertices.size + 1)).answer v ∧
        g.retrace v v (g.vertices.size + 1) ≠ .spent) ∧
      (g.Built → ∃ w head, g.parent? v = some w ∧ g.head? w = some head ∧
        g.headOf v = .ok head) := by
  have hw : g.Wired := by
    rcases hg with hbuilt | ⟨image, himage⟩
    · exact hbuilt.sound.wired
    · exact Snapshot.wired_of_restore himage
  have hne := hw.retrace_start_ne_spent hv
  have hread := headOf_eq hv
  have hfound : ∀ head, g.headOf v = .ok head → g.edgeAt? head .incomingHorizontal = none ∧
      Relation.ReflTransGen g.Onward head v :=
    fun head hok => (hw.headOf_eq_ok hok).symm
  have hclear : ∀ head, g.headOf v = .ok head → ¬Relation.TransGen g.Onward v v :=
    fun head hok => hw.not_cycle_of_head (hfound head hok).2 (hfound head hok).1
  have hends : (∃ head, g.headOf v = .ok head) ∨
      (Relation.TransGen g.Onward v v ∧ g.headOf v = .error (.cycleDetected v)) := by
    cases hret : g.retrace v v (g.vertices.size + 1) with
    | head u => exact Or.inl ⟨u, hread.trans (by rw [hret]; rfl)⟩
    | returned => exact Or.inr ⟨hw.cycle_of_returned hret .refl, hread.trans (by rw [hret]; rfl)⟩
    | spent => exact absurd hret hne
  refine ⟨⟨fun ⟨head, hok⟩ => hclear head hok, ?_⟩, hfound, ?_, ⟨hread, hne⟩, ?_⟩
  · intro hno
    exact hends.resolve_right fun hcycle => hno hcycle.1
  · intro hcycle
    exact (hends.resolve_left fun ⟨head, hok⟩ => hclear head hok hcycle).2
  · intro hbuilt
    obtain ⟨head, hok, -⟩ := hbuilt.sound.headOf_ok hv
    obtain ⟨-, w, hparent, hfirst⟩ := hbuilt.sound.headOf_eq_ok_iff.1 hok
    exact ⟨w, head, hparent, hfirst, hok⟩

end Graph

/-- A chain that loops back on itself, and one that does not. -/
def Snapshot.halfLooped : Snapshot where
  version := 1
  startTime := 0
  endTime := none
  done := false
  workers := [.thread "h" 1 "a", .thread "h" 2 "b"]
  vertices := [⟨0, 0, true⟩, ⟨0, 10, true⟩, ⟨1, 5, true⟩, ⟨1, 10, true⟩]
  timelines := [[0, 1], [2, 3]]
  edges := [⟨0, 1, 4, none, true⟩, ⟨1, 0, 4, none, true⟩, ⟨2, 3, 4, none, true⟩]

open CausalPath.Graph in
/-- On the looped chain the search finds the cycle, and on the other the head. -/
theorem headOf_exact_of_halfLooped : ∃ g, Snapshot.halfLooped.restore = .ok g ∧
    g.contains ⟨1⟩ = true ∧ g.headOf ⟨1⟩ = .error (.cycleDetected ⟨1⟩) ∧
      g.contains ⟨3⟩ = true ∧ ¬Relation.TransGen g.Onward ⟨3⟩ ⟨3⟩ ∧
        Relation.ReflTransGen g.Onward ⟨2⟩ ⟨3⟩ := by
  obtain ⟨g, hok, hin, hout, hforth, hback, hhead⟩ : ∃ g, Snapshot.halfLooped.restore = .ok g ∧
      g.contains ⟨1⟩ = true ∧ g.contains ⟨3⟩ = true ∧
      g.edge? ⟨0⟩ = some ⟨⟨0⟩, ⟨⟨0⟩, ⟨0⟩, 0⟩, ⟨⟨1⟩, ⟨0⟩, 10⟩, .running, none, true⟩ ∧
      g.edge? ⟨1⟩ = some ⟨⟨1⟩, ⟨⟨1⟩, ⟨0⟩, 10⟩, ⟨⟨0⟩, ⟨0⟩, 0⟩, .running, none, true⟩ ∧
      g.headOf ⟨3⟩ = .ok ⟨2⟩ :=
    ⟨_, rfl, by decide, by decide, by decide, by decide, by decide⟩
  have hcycle : Relation.TransGen g.Onward ⟨1⟩ ⟨1⟩ :=
    .head ⟨_, has_of_edge? hback, rfl, rfl, rfl⟩ (.single ⟨_, has_of_edge? hforth, rfl, rfl, rfl⟩)
  obtain ⟨-, -, hlooped, -⟩ := headOf_exact (Or.inr ⟨_, hok⟩) hin
  obtain ⟨hclear, hfound, -⟩ := headOf_exact (Or.inr ⟨_, hok⟩) hout
  exact ⟨g, hok, hin, hlooped hcycle, hout, hclear.1 ⟨_, hhead⟩, (hfound _ hhead).2⟩

end CausalPath
