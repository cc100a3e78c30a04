import CausalPath.Proofs.Scan.Heads
import CausalPath.Proofs.Search.Agreement
import CausalPath.Proofs.Store.RoundTrip
import Mathlib.Data.List.Find

/-!
# Answers stay

A graph is read while it still grows. What it has once answered it answers for ever: vertices, edges,
workers and chains are only ever added, a slot is filled once, and a chain gets longer at its end
only. A graph that is closed does not change any more, whatever it is asked to do.
-/

namespace CausalPath

namespace Graph

variable {g g' : Graph}

/-! ## § 1. Answers of a growing graph -/

/-- The second graph gives every answer that the first one gives, and its lists go on from those of
the first. -/
structure Confirms (g g' : Graph) : Prop where
  vertex? : ∀ v u, g.vertex? v = some u → g'.vertex? v = some u
  edge? : ∀ i e, g.edge? i = some e → g'.edge? i = some e
  worker? : ∀ w x, g.worker? w = some x → g'.worker? w = some x
  findWorker? : ∀ k w, g.findWorker? k = some w → g'.findWorker? k = some w
  parent? : ∀ v w, g.parent? v = some w → g'.parent? v = some w
  head? : ∀ w v, g.head? w = some v → g'.head? w = some v
  vertexAt? : ∀ w t v, g.vertexAt? w t = some v → g'.vertexAt? w t = some v
  edgeAt? : ∀ v d e, g.edgeAt? v d = some e → g'.edgeAt? v d = some e
  headOf : ∀ v head, g.headOf v = .ok head → g'.headOf v = .ok head
  contains : ∀ v, g.contains v = true → g'.contains v = true
  chainOf : ∀ w, g.chainOf w <+: g'.chainOf w
  edgeList : g.edgeList <+: g'.edgeList
  workers : g.workers <+: g'.workers

theorem Keeps.edge? (hk : g.Keeps g') {i : EdgeId} {e : Edge} (he : g.edge? i = some e) :
    g'.edge? i = some e := by
  have hhas := hk.has (has_of_edge? he)
  rwa [Has, (edge?_id he).1] at hhas

theorem Keeps.parent? (hk : g.Keeps g') {v : VertexId} {w : WorkerId}
    (hw : g.parent? v = some w) : g'.parent? v = some w := by
  rw [parent?_eq, Option.map_eq_some_iff] at hw ⊢
  obtain ⟨u, hu, rfl⟩ := hw
  exact ⟨u, hk.vertex? v u hu, rfl⟩

theorem Keeps.head? (hk : g.Keeps g') {w : WorkerId} {v : VertexId} (hv : g.head? w = some v) :
    g'.head? w = some v := by
  rw [head?_eq] at hv ⊢
  obtain ⟨added, hchain⟩ := hk.chainOf w
  rw [← hchain, List.head?_append, hv, Option.some_or]

/-- In a chain that is in time order, the search finds the first vertex from a time on. -/
theorem Sound.vertexAt?_eq (h : g.Sound) (w : WorkerId) (t : Time) :
    g.vertexAt? w t = (g.chainOf w).find? fun v => (g.time? v).any (t ≤ ·) := by
  cases hl : g.timelines[w.index]? with
  | none => simp [Graph.vertexAt?, Graph.chainOf, hl]
  | some l =>
    have hsorted := h.sorted w
    have hshown := fun v hv => vertex?_isSome_of_contains ((h.mem_chain w v).1 hv).1
    have hlisted : g.chainOf w = l.chain.toList := by rw [Graph.chainOf, hl]
    rw [hlisted] at hsorted hshown ⊢
    have hpart : l.chain.toList.Pairwise fun a b =>
        (g.time? b).any (· < t) = true → (g.time? a).any (· < t) = true := by
      refine hsorted.imp ?_
      rintro a b ⟨s, r, hs, hr, hsr⟩
      simp only [hs, hr, Option.any_some, decide_eq_true_eq]
      exact Nat.lt_of_le_of_lt hsr
    have hsearch : g.vertexAt? w t =
        l.chain[partitionPoint (fun v => (g.time? v).any (· < t)) l.chain 0 l.chain.size]? := by
      rw [Graph.vertexAt?, hl]
      rfl
    rw [hsearch, partitionPoint_eq_findIdx hpart, ← Array.getElem?_toList,
      ← List.find?_eq_getElem?_findIdx]
    refine List.find?_congr fun v hv => ?_
    obtain ⟨u, hu⟩ := hshown v hv
    simp only [time?_eq, hu, Option.map_some, Option.any_some, ← decide_not, Nat.not_lt]

/-- The first vertex of a chain from a time on stays the first one when the chain gets longer. -/
theorem Keeps.vertexAt? (hk : g.Keeps g') (h : g.Sound) (h' : g'.Sound) {w : WorkerId} {t : Time}
    {v : VertexId} (hv : g.vertexAt? w t = some v) : g'.vertexAt? w t = some v := by
  obtain ⟨added, hchain⟩ := hk.chainOf w
  have htimes : ∀ u ∈ g.chainOf w, (g.time? u).any (t ≤ ·) = (g'.time? u).any (t ≤ ·) := by
    intro u hu
    obtain ⟨x, hx⟩ := vertex?_isSome_of_contains ((h.mem_chain w u).1 hu).1
    rw [time?_eq, time?_eq, hx, hk.vertex? u x hx]
  rw [h.vertexAt?_eq, List.find?_congr htimes] at hv
  rw [h'.vertexAt?_eq, ← hchain, List.find?_append, hv, Option.some_or]

/-- A slot holds one edge for ever. -/
theorem Keeps.edgeAt? (hk : g.Keeps g') (h : g.Sound) (h' : g'.Sound) {v : VertexId}
    {d : Direction} {e : Edge} (he : g.edgeAt? v d = some e) : g'.edgeAt? v d = some e := by
  obtain ⟨hhas, hmeets⟩ := h.wired.edgeAt?_eq_some_iff.1 he
  exact h'.wired.edgeAt?_eq_some_iff.2 ⟨hk.has hhas, hmeets⟩

theorem Keeps.headOf (hk : g.Keeps g') (h : g.Sound) (h' : g'.Sound) {v head : VertexId}
    (hhead : g.headOf v = .ok head) : g'.headOf v = .ok head := by
  obtain ⟨hv, w, hw, hfirst⟩ := h.headOf_eq_ok_iff.1 hhead
  exact h'.headOf_eq_ok_iff.2 ⟨hk.contains v hv, w, hk.parent? hw, hk.head? hfirst⟩

theorem Keeps.edgeList (hk : g.Keeps g') (h : g.Sound) : g.edgeList <+: g'.edgeList := by
  have hstored : ∀ i < g.edges.size, ∃ x, g.edgeRecord? ⟨i⟩ = some x :=
    fun i hi => ⟨g.edges[i], Array.getElem?_eq_getElem hi⟩
  have hsize : g.edges.size ≤ g'.edges.size := by
    by_contra hlt
    obtain ⟨x, hx⟩ := hstored g'.edges.size (Nat.lt_of_not_le hlt)
    obtain ⟨hin, -⟩ := Array.getElem?_eq_some_iff.1 (hk.edgeRecord? _ x hx)
    exact absurd hin (Nat.lt_irrefl _)
  have hshown : ∀ i ∈ List.range g.edges.size, g.edge? ⟨i⟩ = g'.edge? ⟨i⟩ := by
    intro i hi
    obtain ⟨x, hx⟩ := hstored i (List.mem_range.1 hi)
    obtain ⟨a, b, -, -, -, he⟩ := h.edge?_of_record hx
    rw [he, hk.edge? he]
  obtain ⟨n, hn⟩ := Nat.exists_eq_add_of_le hsize
  rw [edgeList_eq, edgeList_eq, hn, List.range_add, List.filterMap_append,
    List.filterMap_congr hshown]
  exact List.prefix_append _ _

theorem Keeps.workers (hk : g.Keeps g') : g.workers <+: g'.workers := by
  rw [List.prefix_iff_getElem?]
  intro i hi
  have hx : g.worker? ⟨i⟩ = some g.workers[i] := by
    rw [← getElem?_workers, List.getElem?_eq_getElem hi]
  rw [getElem?_workers, hk.worker? _ _ hx]

/-- A store that has all that another has gives all answers that the other gives. -/
theorem Keeps.confirms (hk : g.Keeps g') (h : g.Sound) (h' : g'.Sound) : g.Confirms g' where
  vertex? := hk.vertex?
  edge? _ _ := hk.edge?
  worker? := hk.worker?
  findWorker? _ _ := hk.findWorker? h h'
  parent? _ _ := hk.parent?
  head? _ _ := hk.head?
  vertexAt? _ _ _ := hk.vertexAt? h h'
  edgeAt? _ _ _ := hk.edgeAt? h h'
  headOf _ _ := hk.headOf h h'
  contains := hk.contains
  chainOf := hk.chainOf
  edgeList := hk.edgeList h
  workers := hk.workers

/-! ## § 2. Closed graphs -/

theorem requireOpen_of_closed (h : g.phase = .closed) : g.requireOpen = .error .closed := by
  rw [requireOpen, h]

theorem close_eq_ok {stop : Time} (hok : (g.close stop).1 = .ok ()) :
    (g.close stop).2.phase = .closed := by
  unfold close at hok ⊢
  split
  · rename_i hread
    rw [hread] at hok
    exact absurd hok (by simp)
  · rename_i hread
    rw [hread] at hok
    dsimp only at hok
    split
    · rename_i hclose
      rw [hclose] at hok
      exact absurd hok (by simp)
    · rfl

end Graph

namespace Mutation

open CausalPath.Graph

variable {g : Graph}

/-- What a closed graph answers to a call: a worker whose key is known has its id, and all else is
refused. -/
def whenClosed (g : Graph) : Mutation → Except GraphError Answer
  | .addWorker w =>
    match g.findWorker? w.key with
    | some id => .ok (.worker id)
    | none => .error .closed
  | _ => .error .closed

/-- A closed graph stays as it is. -/
theorem run_of_closed (h : g.phase = .closed) (m : Mutation) : m.run g = (m.whenClosed g, g) := by
  have hread := requireOpen_of_closed h
  cases m with
  | addWorker w =>
    simp only [run, run.lift, Graph.addWorker, whenClosed]
    cases g.findWorker? w.key with
    | none =>
      rw [hread]
      rfl
    | some id => rfl
  | createVertex w t =>
    simp only [run, run.lift, Graph.createVertex, hread]
    rfl
  | append v s q =>
    simp only [run, run.lift, Graph.append, hread]
    rfl
  | add v =>
    simp only [run, run.lift, Graph.add, Graph.append, hread]
    rfl
  | link a b s q =>
    simp only [run, run.lift, Graph.link, hread]
    rfl
  | linkVertical a b s q =>
    simp only [run, run.lift, Graph.linkVertical, hread]
    rfl
  | close stop =>
    simp only [run, run.lift, Graph.close, hread]
    rfl

theorem runAll_of_closed (h : g.phase = .closed) (ms : List Mutation) : runAll ms g = g := by
  induction ms with
  | nil => rfl
  | cons m rest ih =>
    show runAll rest (m.run g).2 = g
    rw [run_of_closed h]
    exact ih

end Mutation

namespace Graph

/-- Whatever calls a graph has seen, and whatever calls follow, refused ones included: the answers
that it has given to readers stay as they are. And when it has been closed, calls change nothing:
a worker whose key is known is given its id, and all else is refused. -/
theorem answers_stay (start : Time) (ms later : List Mutation) :
    let g := Mutation.runAll ms (Graph.new start)
    g.Confirms (Mutation.runAll later g) ∧
      ∀ stop closed, (Mutation.close stop).run g = (.ok .done, closed) →
        Mutation.runAll later closed = closed ∧
          ∀ m : Mutation, m.run closed = (m.whenClosed closed, closed) := by
  intro g
  have h : g.Sound := Built.sound ⟨start, ms, rfl⟩
  have hgrows : Grows g (Mutation.runAll later g) := Mutation.runAll_grows later h
  refine ⟨(hgrows.keeps h).confirms h (hgrows.sound h), ?_⟩
  intro stop closed hclose
  have hphase : closed.phase = .closed := by
    have hok : (g.close stop).1 = .ok () := by
      have hdone := congrArg Prod.fst hclose
      cases hres : (g.close stop).1 with
      | error e => simp [Mutation.run, Mutation.run.lift, hres, Except.map] at hdone
      | ok a => rfl
    have hafter : (g.close stop).2 = closed := congrArg Prod.snd hclose
    rw [← hafter]
    exact close_eq_ok hok
  exact ⟨Mutation.runAll_of_closed hphase later, Mutation.run_of_closed hphase⟩

end Graph

end CausalPath
