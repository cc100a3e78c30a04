import CausalPath.Proofs.Store.Sound
import Mathlib.Logic.Relation

/-!
# Steps of a store

`Step` lists the six ways in which a store ever changes, each with all that is checked before it.
Every step keeps a store sound, so every invariant of runs is a case analysis over six cases.
-/

namespace CausalPath

namespace Graph

variable {g g' : Graph}

/-! ## § 1. The steps -/

/-- The last vertex of a chain. -/
def last? (g : Graph) (w : WorkerId) : Option Vertex := (g.chainOf w).getLast?.bind g.vertex?

/-- What is checked before an edge is added. -/
structure Admits (g : Graph) (x : EdgeRecord) : Prop where
  distinct : x.origin ≠ x.target
  free : ∀ v d, x.Meets v d → g.slot? v d = none
  forward : g.NoLater x.origin x.target

/-- One change of a store. -/
inductive Step : Graph → Graph → Prop
  /-- A worker with a new key is registered. -/
  | register {g : Graph} (w : Worker) (hopen : g.phase = .building)
      (hnew : g.findWorker? w.key = none) : Step g (g.pushWorker w)
  /-- A vertex is created, not before the tail of its worker. -/
  | create {g : Graph} (w : WorkerId) (t : Time) (hopen : g.phase = .building)
      (hw : (g.worker? w).isSome) (hlate : ∀ u, g.last? w = some u → u.time ≤ t) :
      Step g (g.pushVertex w t)
  /-- A vertex starts the chain of its worker. -/
  | enter {g : Graph} (v : VertexId) (u : Vertex) (hopen : g.phase = .building)
      (hv : g.vertex? v = some u) (hout : g.contains v = false) (hempty : g.chainOf u.worker = []) :
      Step g (g.pushChain u.worker v)
  /-- A vertex follows the tail of its worker's chain. -/
  | extend {g : Graph} (v : VertexId) (u : Vertex) (tail : VertexId) (s : EdgeState)
      (q : Option String) (hopen : g.phase = .building) (hv : g.vertex? v = some u)
      (hout : g.contains v = false) (htail : (g.chainOf u.worker).getLast? = some tail)
      (hle : g.NoLater tail v) :
      Step g ((g.pushEdge ⟨tail, v, s, q, true⟩).pushChain u.worker v)
  /-- A vertical edge is added between vertices of chains. -/
  | join {g : Graph} (x : EdgeRecord) (hopen : g.phase = .building) (hx : x.horizontal = false)
      (ho : g.contains x.origin = true) (ht : g.contains x.target = true) (hadm : g.Admits x) :
      Step g (g.pushEdge x)
  /-- The store is closed. -/
  | finish {g : Graph} (stop : Time) (hopen : g.phase = .building) :
      Step g { g with endTime := some stop, phase := .closed }

/-- A store that some steps lead to. -/
abbrev Grows : Graph → Graph → Prop := Relation.ReflTransGen Step

/-! ## § 2. Every step keeps a store sound -/

theorem time?_pushEdge (g : Graph) (x : EdgeRecord) (v : VertexId) :
    (g.pushEdge x).time? v = g.time? v := by
  simp [time?_eq]

theorem time?_pushChain (g : Graph) (w : WorkerId) (v u : VertexId) :
    (g.pushChain w v).time? u = g.time? u := by
  simp [time?_eq]

theorem time?_pushVertex_of_some {v : VertexId} {t : Time} (w : WorkerId) (t' : Time)
    (h : g.time? v = some t) : (g.pushVertex w t').time? v = some t := by
  rw [time?_eq, Option.map_eq_some_iff] at h
  obtain ⟨u, hu, rfl⟩ := h
  rw [time?_eq, vertex?_pushVertex_of_some w t' hu]
  rfl

/-- A new edge goes where no slot held an edge, so the slots still hold what meets them. -/
theorem slot_iff_pushEdge {x : EdgeRecord} (ho : (g.vertex? x.origin).isSome)
    (ht : (g.vertex? x.target).isSome) (hfree : ∀ v d, x.Meets v d → g.slot? v d = none)
    (h : ∀ v d e, g.slot? v d = some e ↔ ∃ y, g.edgeRecord? e = some y ∧ y.Meets v d)
    (v : VertexId) (d : Direction) (e : EdgeId) :
    (g.pushEdge x).slot? v d = some e ↔
      ∃ y, (g.pushEdge x).edgeRecord? e = some y ∧ y.Meets v d := by
  rw [slot?_pushEdge ho ht]
  constructor
  · intro hs
    split at hs
    · rename_i hm
      obtain rfl := Option.some.inj hs
      exact ⟨x, by rw [edgeRecord?_pushEdge, if_pos rfl], hm⟩
    · obtain ⟨y, hy, hm⟩ := (h v d e).1 hs
      exact ⟨y, edgeRecord?_pushEdge_of_some hy, hm⟩
  · rintro ⟨y, hy, hm⟩
    rw [edgeRecord?_pushEdge] at hy
    by_cases he : e = g.nextEdge
    · rw [if_pos he] at hy
      obtain rfl := Option.some.inj hy
      rw [if_pos hm, he]
    · rw [if_neg he] at hy
      have hs := (h v d e).2 ⟨y, hy, hm⟩
      have hno : ¬x.Meets v d := by
        intro hx
        rw [hfree v d hx] at hs
        exact absurd hs (by simp)
      rw [if_neg hno, hs]

theorem Joined.pushEdge {a b : VertexId} (h : g.Joined a b) (x : EdgeRecord) :
    (g.pushEdge x).Joined a b := by
  obtain ⟨e, y, hy, hh⟩ := h
  exact ⟨e, y, edgeRecord?_pushEdge_of_some hy, hh⟩

theorem joined_pushEdge_iff {a b : VertexId} {x : EdgeRecord} :
    (g.pushEdge x).Joined a b ↔
      g.Joined a b ∨ (x.horizontal = true ∧ x.origin = a ∧ x.target = b) := by
  constructor
  · rintro ⟨e, y, hy, hh⟩
    rw [edgeRecord?_pushEdge] at hy
    split at hy
    · obtain rfl := Option.some.inj hy
      exact Or.inr hh
    · exact Or.inl ⟨e, y, hy, hh⟩
  · rintro (h | h)
    · exact h.pushEdge x
    · exact ⟨g.nextEdge, x, by rw [edgeRecord?_pushEdge, if_pos rfl], h⟩

namespace Sound

theorem isSome_of_contains {v : VertexId} (h : g.contains v = true) : (g.vertex? v).isSome := by
  obtain ⟨u, hu⟩ := vertex?_isSome_of_contains h
  simp [hu]

theorem register (h : g.Sound) {w : Worker} (hnew : g.findWorker? w.key = none) :
    (g.pushWorker w).Sound where
  mem_chain i v := by
    rw [chainOf_pushWorker]
    exact h.mem_chain i v
  nodup i := by
    rw [chainOf_pushWorker]
    exact h.nodup i
  sorted i := by
    rw [chainOf_pushWorker]
    exact h.sorted i
  neighbours a b := by
    simp only [chainOf_pushWorker]
    exact h.neighbours a b
  slot_iff := h.slot_iff
  ends := h.ends
  found_iff k i := by
    rw [findWorker?_pushWorker]
    by_cases hk : w.key = k
    · rw [if_pos hk, worker?_pushWorker]
      constructor
      · intro hi
        exact ⟨w, if_pos (Option.some.inj hi).symm, hk⟩
      · rintro ⟨x, hx, hkey⟩
        split at hx
        · rename_i hi
          rw [hi]
        · -- no worker has had the key yet
          have hold := (h.found_iff k i).2 ⟨x, hx, hkey⟩
          rw [← hk, hnew] at hold
          exact absurd hold (by simp)
    · rw [if_neg hk, h.found_iff]
      constructor
      · rintro ⟨x, hx, hkey⟩
        exact ⟨x, worker?_pushWorker_of_some w hx, hkey⟩
      · rintro ⟨x, hx, hkey⟩
        rw [worker?_pushWorker] at hx
        split at hx
        · exact absurd (Option.some.inj hx ▸ hkey) hk
        · exact ⟨x, hx, hkey⟩
  registered v u hu := by
    rw [worker?_pushWorker]
    split
    · rfl
    · exact h.registered v u hu

theorem create (h : g.Sound) {w : WorkerId} (hw : (g.worker? w).isSome) (t : Time) :
    (g.pushVertex w t).Sound where
  mem_chain i v := by
    rw [chainOf_pushVertex, contains_pushVertex, h.mem_chain, parent?_eq, parent?_eq]
    constructor
    · rintro ⟨hc, hp⟩
      obtain ⟨u, hu⟩ := vertex?_isSome_of_contains hc
      rw [vertex?_pushVertex_of_some w t hu, ← hu]
      exact ⟨hc, hp⟩
    · rintro ⟨hc, hp⟩
      obtain ⟨u, hu⟩ := vertex?_isSome_of_contains hc
      rw [vertex?_pushVertex_of_some w t hu, ← hu] at hp
      exact ⟨hc, hp⟩
  nodup := h.nodup
  sorted i := by
    refine (h.sorted i).imp ?_
    rintro a b ⟨s, r, hs, hr, hsr⟩
    exact ⟨s, r, time?_pushVertex_of_some w t hs, time?_pushVertex_of_some w t hr, hsr⟩
  neighbours := h.neighbours
  slot_iff v d e := by
    rw [slot?_pushVertex]
    exact h.slot_iff v d e
  ends e x hx := by
    obtain ⟨hne, ho, ht, s, r, hs, hr, hsr⟩ := h.ends e x hx
    refine ⟨hne, ?_, ?_, s, r, time?_pushVertex_of_some w t hs, time?_pushVertex_of_some w t hr, hsr⟩
    · rw [contains_pushVertex, ho]
    · rw [contains_pushVertex, ht]
  found_iff := h.found_iff
  registered v u hu := by
    rw [vertex?_pushVertex] at hu
    split at hu
    · obtain rfl := Option.some.inj hu
      exact hw
    · exact h.registered v u hu

/-- Membership in the chains after a vertex has joined the chain of its worker. -/
theorem mem_chain_pushChain (h : g.Sound) {v : VertexId} {u : Vertex} (hv : g.vertex? v = some u)
    (i : WorkerId) (a : VertexId) :
    a ∈ (g.pushChain u.worker v).chainOf i ↔
      (g.pushChain u.worker v).contains a = true ∧
        (g.pushChain u.worker v).parent? a = some i := by
  have hw := h.registered v u hv
  have hsome : (g.vertex? v).isSome := by simp [hv]
  rw [chainOf_pushChain v hw, contains_pushChain _ hsome, parent?_eq, vertex?_pushChain, ← parent?_eq]
  have hp : g.parent? v = some u.worker := by rw [parent?_eq, hv]; rfl
  by_cases hav : a = v
  · subst hav
    rw [hp]
    by_cases hi : i = u.worker
    · simp [hi]
    · have hi' : ¬u.worker = i := fun e => hi e.symm
      have hno : a ∉ g.chainOf i := by
        intro hmem
        have := ((h.mem_chain i a).1 hmem).2
        rw [hp] at this
        exact hi' (Option.some.inj this)
      simp [hi, hi', hno]
  · have hmem := h.mem_chain i a
    by_cases hi : i = u.worker
    · subst hi
      simp [hav, hmem]
    · simp [hi, hav, hmem]

theorem nodup_pushChain (h : g.Sound) {v : VertexId} {u : Vertex} (hv : g.vertex? v = some u)
    (hout : g.contains v = false) (i : WorkerId) :
    ((g.pushChain u.worker v).chainOf i).Nodup := by
  rw [chainOf_pushChain v (h.registered v u hv)]
  split
  · refine List.nodup_append.2 ⟨h.nodup _, by simp, ?_⟩
    rintro a ha b hb rfl
    rw [List.mem_singleton.1 hb, h.mem_chain, hout] at ha
    exact absurd ha.1 (by simp)
  · exact h.nodup i

theorem enter (h : g.Sound) {v : VertexId} {u : Vertex} (hv : g.vertex? v = some u)
    (hout : g.contains v = false) (hempty : g.chainOf u.worker = []) :
    (g.pushChain u.worker v).Sound where
  mem_chain := h.mem_chain_pushChain hv
  nodup := h.nodup_pushChain hv hout
  sorted i := by
    rw [chainOf_pushChain v (h.registered v u hv)]
    split
    · rw [hempty]
      exact List.pairwise_singleton _ _
    · refine (h.sorted i).imp ?_
      intro a b hab
      exact hab.of_time? (time?_pushChain _ _ _ _) (time?_pushChain _ _ _ _)
  neighbours a b := by
    refine Iff.trans ⟨?_, ?_⟩ (h.neighbours a b)
    · rintro ⟨i, hi⟩
      rw [chainOf_pushChain v (h.registered v u hv)] at hi
      split at hi
      · rw [hempty] at hi
        exact absurd hi.length_le (by simp)
      · exact ⟨i, hi⟩
    · rintro ⟨i, hi⟩
      refine ⟨i, ?_⟩
      rw [chainOf_pushChain v (h.registered v u hv)]
      split
      · rename_i hiw
        rw [hiw, hempty] at hi
        exact absurd hi.length_le (by simp)
      · exact hi
  slot_iff a d e := by
    rw [slot?_pushChain]
    exact h.slot_iff a d e
  ends e x hx := by
    obtain ⟨hne, ho, ht, hle⟩ := h.ends e x hx
    have hsome : (g.vertex? v).isSome := by simp [hv]
    refine ⟨hne, ?_, ?_, hle.of_time? (time?_pushChain _ _ _ _) (time?_pushChain _ _ _ _)⟩
    · simp [contains_pushChain _ hsome, ho]
    · simp [contains_pushChain _ hsome, ht]
  found_iff k i := by
    rw [worker?_pushChain]
    exact h.found_iff k i
  registered a b hb := by
    rw [vertex?_pushChain] at hb
    rw [worker?_pushChain]
    exact h.registered a b hb

theorem join (h : g.Sound) {x : EdgeRecord} (hx : x.horizontal = false)
    (ho : g.contains x.origin = true) (ht : g.contains x.target = true) (hadm : g.Admits x) :
    (g.pushEdge x).Sound where
  mem_chain i v := by
    rw [chainOf_pushEdge, contains_pushEdge, parent?_eq, vertex?_pushEdge, ← parent?_eq]
    exact h.mem_chain i v
  nodup := h.nodup
  sorted i := by
    refine (h.sorted i).imp ?_
    intro a b hab
    exact hab.of_time? (time?_pushEdge _ _ _) (time?_pushEdge _ _ _)
  neighbours a b := by
    rw [joined_pushEdge_iff, hx]
    simp only [chainOf_pushEdge, h.neighbours]
    simp
  slot_iff := slot_iff_pushEdge (isSome_of_contains ho) (isSome_of_contains ht) hadm.free h.slot_iff
  ends e y hy := by
    simp only [contains_pushEdge]
    rw [edgeRecord?_pushEdge] at hy
    split at hy
    · obtain rfl := Option.some.inj hy
      exact ⟨hadm.distinct, ho, ht,
        hadm.forward.of_time? (time?_pushEdge _ _ _) (time?_pushEdge _ _ _)⟩
    · obtain ⟨hne, ho', ht', hle⟩ := h.ends e y hy
      exact ⟨hne, ho', ht', hle.of_time? (time?_pushEdge _ _ _) (time?_pushEdge _ _ _)⟩
  found_iff := h.found_iff
  registered v u hu := by
    rw [vertex?_pushEdge] at hu
    exact h.registered v u hu

theorem extend (h : g.Sound) {v tail : VertexId} {u : Vertex} (hv : g.vertex? v = some u)
    (hout : g.contains v = false) (htail : (g.chainOf u.worker).getLast? = some tail)
    (hle : g.NoLater tail v) (s : EdgeState) (q : Option String) :
    ((g.pushEdge ⟨tail, v, s, q, true⟩).pushChain u.worker v).Sound := by
  have htc := h.contains_tail htail
  have hsome : (g.vertex? v).isSome := by simp [hv]
  have hw := h.registered v u hv
  have hne : tail ≠ v := by
    rintro rfl
    rw [htc] at hout
    exact absurd hout (by simp)
  -- the new edge changes neither chains nor flags, so these are those of the longer chain alone
  have hchain : ∀ i, ((g.pushEdge ⟨tail, v, s, q, true⟩).pushChain u.worker v).chainOf i =
      (g.pushChain u.worker v).chainOf i := fun i => rfl
  have hcont : ∀ a, ((g.pushEdge ⟨tail, v, s, q, true⟩).pushChain u.worker v).contains a =
      (g.pushChain u.worker v).contains a := by
    intro a
    rw [contains_pushChain _ (by simpa using hsome), contains_pushChain _ hsome, contains_pushEdge]
  have htime : ∀ a, ((g.pushEdge ⟨tail, v, s, q, true⟩).pushChain u.worker v).time? a =
      g.time? a := by
    intro a
    rw [time?_pushChain, time?_pushEdge]
  constructor
  · intro i a
    rw [hchain, hcont, parent?_eq, vertex?_pushChain, vertex?_pushEdge, ← vertex?_pushChain,
      ← parent?_eq]
    exact h.mem_chain_pushChain hv i a
  · intro i
    rw [hchain]
    exact h.nodup_pushChain hv hout i
  · intro i
    rw [hchain, chainOf_pushChain v hw]
    split
    · refine List.pairwise_append.2 ⟨?_, List.pairwise_singleton _ _, ?_⟩
      · exact (h.sorted _).imp fun hab => hab.of_time? (htime _) (htime _)
      · intro a ha b hb
        rw [List.mem_singleton.1 hb]
        rcases rel_last (h.sorted _) htail ha with rfl | hat
        · exact hle.of_time? (htime _) (htime _)
        · exact (hat.trans hle).of_time? (htime _) (htime _)
    · exact (h.sorted i).imp fun hab => hab.of_time? (htime _) (htime _)
  · intro a b
    show _ ↔ (g.pushEdge ⟨tail, v, s, q, true⟩).Joined a b
    rw [joined_pushEdge_iff, ← h.neighbours]
    simp only [hchain, chainOf_pushChain v hw]
    constructor
    · rintro ⟨i, hi⟩
      split at hi
      · rcases neighbours_concat.1 hi with hold | ⟨hlast, rfl⟩
        · exact Or.inl ⟨_, hold⟩
        · exact Or.inr ⟨trivial, Option.some.inj (htail.symm.trans hlast), rfl⟩
      · exact Or.inl ⟨i, hi⟩
    · rintro (⟨i, hi⟩ | ⟨-, rfl, rfl⟩)
      · refine ⟨i, ?_⟩
        split
        · rename_i hiw
          subst hiw
          exact neighbours_concat.2 (Or.inl hi)
        · exact hi
      · exact ⟨u.worker, by rw [if_pos rfl]; exact neighbours_concat.2 (Or.inr ⟨htail, rfl⟩)⟩
  · intro a d e
    rw [slot?_pushChain]
    refine slot_iff_pushEdge (isSome_of_contains htc) hsome ?_ h.slot_iff a d e
    rintro b d' (⟨rfl, rfl⟩ | ⟨rfl, rfl⟩)
    · exact h.slot?_tail htail
    · exact h.slot?_eq_none hout _
  · intro e y hy
    rw [edgeRecord?_pushChain, edgeRecord?_pushEdge] at hy
    simp only [hcont, contains_pushChain _ hsome]
    split at hy
    · obtain rfl := Option.some.inj hy
      exact ⟨hne, by simp [htc], by simp, hle.of_time? (htime _) (htime _)⟩
    · obtain ⟨hne', ho, ht, hle'⟩ := h.ends e y hy
      exact ⟨hne', by simp [ho], by simp [ht], hle'.of_time? (htime _) (htime _)⟩
  · intro k i
    rw [worker?_pushChain, worker?_pushEdge]
    exact h.found_iff k i
  · intro a b hb
    rw [vertex?_pushChain, vertex?_pushEdge] at hb
    rw [worker?_pushChain, worker?_pushEdge]
    exact h.registered a b hb

/-- Closing a store changes none of the structures that have to agree. -/
theorem finish (h : g.Sound) (stop : Time) :
    ({ g with endTime := some stop, phase := .closed } : Graph).Sound :=
  ⟨h.mem_chain, h.nodup, h.sorted, h.neighbours, h.slot_iff, h.ends, h.found_iff, h.registered⟩

end Sound

/-- Every step keeps a store sound. -/
theorem Step.sound (hs : Step g g') (h : g.Sound) : g'.Sound := by
  cases hs with
  | register w _ hnew => exact h.register hnew
  | create w t _ hw _ => exact h.create hw t
  | enter v u _ hv hout hempty => exact h.enter hv hout hempty
  | extend v u tail s q _ hv hout htail hle => exact h.extend hv hout htail hle s q
  | join x _ hx ho ht hadm => exact h.join hx ho ht hadm
  | finish stop _ => exact h.finish stop

theorem Grows.sound (hs : Grows g g') (h : g.Sound) : g'.Sound := by
  induction hs with
  | refl => exact h
  | tail _ hstep ih => exact hstep.sound ih

/-- A new store is sound. -/
theorem sound_new (start : Time) : (Graph.new start).Sound where
  mem_chain w v := by simp [chainOf, contains, new]
  nodup w := by simp [chainOf, new]
  sorted w := by simp [chainOf, new]
  neighbours a b := by
    constructor
    · rintro ⟨w, hw⟩
      simp [chainOf, new] at hw
    · rintro ⟨e, x, hx, -⟩
      simp [edgeRecord?, new] at hx
  slot_iff v d e := by simp [slot?, edgeRecord?, new]
  ends e x hx := by simp [edgeRecord?, new] at hx
  found_iff k w := by simp [findWorker?, worker?, new]
  registered v u hu := by simp [vertex?, new] at hu

end Graph

end CausalPath
