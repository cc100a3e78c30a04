import CausalPath.Proofs.Store.Invariant

/-!
# What growth keeps

A store only ever gains workers, vertices, edges and places in chains. What it shows of a vertex, of
an edge and of a worker stays what it was, and a chain is extended at its end.
-/

namespace CausalPath

namespace Graph

variable {g g' g'' : Graph} {v : VertexId} {e : Edge}

/-- The second store has all that the first has. -/
structure Keeps (g g' : Graph) : Prop where
  startTime : g'.startTime = g.startTime
  vertex? : ∀ v u, g.vertex? v = some u → g'.vertex? v = some u
  contains : ∀ v, g.contains v = true → g'.contains v = true
  edgeRecord? : ∀ i x, g.edgeRecord? i = some x → g'.edgeRecord? i = some x
  worker? : ∀ w x, g.worker? w = some x → g'.worker? w = some x
  chainOf : ∀ w, g.chainOf w <+: g'.chainOf w

theorem Keeps.refl (g : Graph) : g.Keeps g :=
  ⟨rfl, fun _ _ h => h, fun _ h => h, fun _ _ h => h, fun _ _ h => h, fun _ => List.prefix_rfl⟩

theorem Keeps.trans (h : g.Keeps g') (h' : g'.Keeps g'') : g.Keeps g'' :=
  ⟨h'.startTime.trans h.startTime, fun v u hu => h'.vertex? v u (h.vertex? v u hu),
    fun v hv => h'.contains v (h.contains v hv),
    fun i x hx => h'.edgeRecord? i x (h.edgeRecord? i x hx),
    fun w x hx => h'.worker? w x (h.worker? w x hx), fun w => (h.chainOf w).trans (h'.chainOf w)⟩

theorem Keeps.isSome_worker? (h : g.Keeps g') {w : WorkerId} (hw : (g.worker? w).isSome) :
    (g'.worker? w).isSome := by
  obtain ⟨x, hx⟩ := Option.isSome_iff_exists.1 hw
  rw [h.worker? w x hx]
  rfl

theorem Keeps.findWorker? (hk : g.Keeps g') (h : g.Sound) (h' : g'.Sound) {k : WorkerKey}
    {w : WorkerId} (hw : g.findWorker? k = some w) : g'.findWorker? k = some w := by
  obtain ⟨x, hx, hkey⟩ := (h.found_iff k w).1 hw
  exact (h'.found_iff k w).2 ⟨x, hk.worker? w x hx, hkey⟩

/-! ## § 1. Steps -/

theorem keeps_pushEdge (g : Graph) (x : EdgeRecord) : g.Keeps (g.pushEdge x) := by
  refine ⟨rfl, ?_, ?_, fun i y hy => edgeRecord?_pushEdge_of_some hy, ?_, fun _ => List.prefix_rfl⟩
  · intro v u hu
    rw [vertex?_pushEdge, hu]
  · intro v hv
    rw [contains_pushEdge, hv]
  · intro w y hy
    rw [worker?_pushEdge, hy]

theorem keeps_pushChain {w : WorkerId} (hv : (g.vertex? v).isSome) (hw : (g.worker? w).isSome) :
    g.Keeps (g.pushChain w v) := by
  refine ⟨rfl, ?_, ?_, fun _ _ h => h, ?_, ?_⟩
  · intro a u hu
    rw [vertex?_pushChain, hu]
  · intro a ha
    rw [contains_pushChain w hv, ha, Bool.or_true]
  · intro i y hy
    rw [worker?_pushChain, hy]
  · intro i
    rw [chainOf_pushChain v hw]
    split
    · rename_i hi
      rw [hi]
      exact List.prefix_append _ _
    · exact List.prefix_rfl

/-- Every step of a store keeps what the store has. -/
theorem Step.keeps (h : g.Sound) (hs : Step g g') : g.Keeps g' := by
  cases hs with
  | register w =>
    refine ⟨rfl, fun _ _ h => h, fun _ h => h, fun _ _ h => h,
      fun _ _ => worker?_pushWorker_of_some w, fun i => ?_⟩
    exact (chainOf_pushWorker g w i).symm ▸ List.prefix_rfl
  | create w t =>
    refine ⟨rfl, fun v u hu => vertex?_pushVertex_of_some w t hu, ?_, fun _ _ h => h,
      fun _ _ h => h, fun _ => List.prefix_rfl⟩
    intro v hv
    rw [contains_pushVertex, hv]
  | enter v u _ hv _ _ => exact keeps_pushChain (by simp [hv]) (h.registered _ _ hv)
  | extend v u tail s q _ hv _ _ _ =>
    refine (keeps_pushEdge g ⟨tail, v, s, q, true⟩).trans (keeps_pushChain ?_ ?_)
    · simp [hv]
    · rw [worker?_pushEdge]
      exact h.registered _ _ hv
  | join x => exact keeps_pushEdge g x
  | finish stop =>
    exact ⟨rfl, fun _ _ h => h, fun _ h => h, fun _ _ h => h, fun _ _ h => h,
      fun _ => List.prefix_rfl⟩

theorem Grows.keeps (h : g.Sound) (hs : Grows g g') : g.Keeps g' := by
  induction hs with
  | refl => exact .refl g
  | tail hfront hlast ih => exact ih.trans (hlast.keeps (Grows.sound hfront h))

end Graph

end CausalPath
