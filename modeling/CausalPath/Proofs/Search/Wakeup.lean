import CausalPath.Path.Search
import CausalPath.Proofs.Store.Listing

/-!
# Wakeups of sound graphs

What a search reads in a sound graph: an edge in a slot is an edge of the graph that meets the slot,
so its ends are vertices of chains and it does not go back in time. The wakeup of a wait arrives at
the end of the wait, or at a vertex that instantaneous edges lead to from there.
-/

namespace CausalPath

/-- The edge takes this slot of this vertex. -/
def Edge.Meets (e : Edge) (v : VertexId) (d : Direction) : Prop :=
  (v = e.origin.id ∧ d = .atOrigin e.horizontal) ∨ (v = e.target.id ∧ d = .atTarget e.horizontal)

namespace Graph

variable {g : Graph} {v : VertexId} {e : Edge}

/-! ## § 1. Edges of a sound graph -/

/-- The edge is one of the graph's. -/
def Has (g : Graph) (e : Edge) : Prop := g.edge? e.id = some e

/-- An edge of the graph leads from one vertex to the other. -/
def Joins (g : Graph) (a b : VertexId) : Prop := ∃ e, g.Has e ∧ e.origin.id = a ∧ e.target.id = b

/-- What a sound graph says about one of its edges. -/
structure Drawn (g : Graph) (e : Edge) : Prop where
  origin : g.vertex? e.origin.id = some e.origin
  target : g.vertex? e.target.id = some e.target
  contains_origin : g.contains e.origin.id = true
  contains_target : g.contains e.target.id = true
  distinct : e.origin.id ≠ e.target.id
  forward : e.origin.time ≤ e.target.time
  /-- A horizontal edge joins neighbours of one chain. -/
  neighbours : e.horizontal = true → [e.origin.id, e.target.id] <:+: g.chainOf e.origin.worker
  worker : e.horizontal = true → e.origin.worker = e.target.worker

theorem has_of_edge? {i : EdgeId} (h : g.edge? i = some e) : g.Has e := by
  obtain rfl := (edge?_id h).1
  exact h

theorem Sound.drawn (h : g.Sound) (he : g.Has e) : g.Drawn e := by
  obtain ⟨x, hx, ho, ht, heq⟩ := edge?_eq_some_iff.1 he
  have hoid : x.origin = e.origin.id := (vertex?_id ho).symm
  have htid : x.target = e.target.id := (vertex?_id ht).symm
  have hh : e.horizontal = x.horizontal := by rw [heq]
  rw [hoid] at ho
  rw [htid] at ht
  obtain ⟨hne, hco, hct, s, t, hs, hts, hst⟩ := h.ends e.id x hx
  rw [hoid, htid] at hne
  rw [hoid] at hco hs
  rw [htid] at hct hts
  have hforward : e.origin.time ≤ e.target.time := by
    rw [time?_eq, ho] at hs
    rw [time?_eq, ht] at hts
    obtain rfl := Option.some.inj hs
    obtain rfl := Option.some.inj hts
    exact hst
  -- the worker of a neighbour is the worker whose chain it is in
  have hchain : e.horizontal = true →
      [e.origin.id, e.target.id] <:+: g.chainOf e.origin.worker ∧
        e.origin.worker = e.target.worker := by
    intro hor
    obtain ⟨w, hw⟩ := (h.neighbours e.origin.id e.target.id).2
      ⟨e.id, x, hx, hh.symm.trans hor, hoid, htid⟩
    obtain ⟨hmo, hmt⟩ := mem_of_neighbours hw
    have hwo := ((h.mem_chain w _).1 hmo).2
    have hwt := ((h.mem_chain w _).1 hmt).2
    rw [parent?_eq, ho] at hwo
    rw [parent?_eq, ht] at hwt
    have hwo' : e.origin.worker = w := Option.some.inj hwo
    have hwt' : e.target.worker = w := Option.some.inj hwt
    rw [hwo', hwt']
    exact ⟨hw, rfl⟩
  exact ⟨ho, ht, hco, hct, hne, hforward, fun hor => (hchain hor).1, fun hor => (hchain hor).2⟩

/-- The slots of a graph hold the edges that meet them, and every edge has two ends. -/
structure Wired (g : Graph) : Prop where
  slot_iff : ∀ v d i, g.slot? v d = some i ↔ ∃ x, g.edgeRecord? i = some x ∧ x.Meets v d
  ends : ∀ i x, g.edgeRecord? i = some x →
    (g.vertex? x.origin).isSome ∧ (g.vertex? x.target).isSome

theorem Sound.wired (h : g.Sound) : g.Wired where
  slot_iff := h.slot_iff
  ends i x hx := by
    obtain ⟨a, b, ha, hb, -⟩ := h.edge?_of_record hx
    rw [ha, hb]
    exact ⟨rfl, rfl⟩

/-- A slot shows the edge that meets it. -/
theorem Wired.edgeAt?_eq_some_iff (h : g.Wired) {d : Direction} :
    g.edgeAt? v d = some e ↔ g.Has e ∧ e.Meets v d := by
  rw [edgeAt?_eq, Option.bind_eq_some_iff]
  constructor
  · rintro ⟨i, hi, he⟩
    obtain ⟨x, hx, hm⟩ := (h.slot_iff v d i).1 hi
    obtain ⟨y, hy, ho, ht, heq⟩ := edge?_eq_some_iff.1 he
    obtain rfl := Option.some.inj (hx.symm.trans hy)
    have hh : e.horizontal = x.horizontal := by rw [heq]
    refine ⟨has_of_edge? he, ?_⟩
    unfold Edge.Meets
    rw [vertex?_id ho, vertex?_id ht, hh]
    exact hm
  · rintro ⟨he, hm⟩
    obtain ⟨x, hx, ho, ht, heq⟩ := edge?_eq_some_iff.1 he
    have hh : e.horizontal = x.horizontal := by rw [heq]
    refine ⟨e.id, (h.slot_iff v d e.id).2 ⟨x, hx, ?_⟩, he⟩
    unfold Edge.Meets at hm
    rw [vertex?_id ho, vertex?_id ht, hh] at hm
    exact hm

theorem Wired.edgeAt?_atTarget (h : g.Wired) {b : Bool} :
    g.edgeAt? v (.atTarget b) = some e ↔ g.Has e ∧ e.horizontal = b ∧ e.target.id = v := by
  rw [h.edgeAt?_eq_some_iff]
  constructor
  · rintro ⟨he, ⟨-, hd⟩ | ⟨hv, hd⟩⟩
    · exact absurd hd.symm (Direction.atOrigin_ne_atTarget _ _)
    · exact ⟨he, (Direction.atTarget_inj hd).symm, hv.symm⟩
  · rintro ⟨he, rfl, rfl⟩
    exact ⟨he, Or.inr ⟨rfl, rfl⟩⟩

theorem Wired.edgeAt?_atOrigin (h : g.Wired) {b : Bool} :
    g.edgeAt? v (.atOrigin b) = some e ↔ g.Has e ∧ e.horizontal = b ∧ e.origin.id = v := by
  rw [h.edgeAt?_eq_some_iff]
  constructor
  · rintro ⟨he, ⟨hv, hd⟩ | ⟨-, hd⟩⟩
    · exact ⟨he, (Direction.atOrigin_inj hd).symm, hv.symm⟩
    · exact absurd hd (Direction.atOrigin_ne_atTarget _ _)
  · rintro ⟨he, rfl, rfl⟩
    exact ⟨he, Or.inl ⟨rfl, rfl⟩⟩

theorem Sound.edgeAt?_atTarget (h : g.Sound) {b : Bool} :
    g.edgeAt? v (.atTarget b) = some e ↔ g.Has e ∧ e.horizontal = b ∧ e.target.id = v :=
  h.wired.edgeAt?_atTarget

theorem Sound.edgeAt?_atOrigin (h : g.Sound) {b : Bool} :
    g.edgeAt? v (.atOrigin b) = some e ↔ g.Has e ∧ e.horizontal = b ∧ e.origin.id = v :=
  h.wired.edgeAt?_atOrigin

/-- The edge by which the chain reaches a vertex. -/
theorem Sound.into_iff (h : g.Sound) :
    g.edgeAt? v .incomingHorizontal = some e ↔ g.Has e ∧ e.horizontal = true ∧ e.target.id = v :=
  h.edgeAt?_atTarget (b := true)

/-- The wakeup that arrives at a vertex. -/
theorem Sound.wake_iff (h : g.Sound) :
    g.edgeAt? v .incomingVertical = some e ↔ g.Has e ∧ e.horizontal = false ∧ e.target.id = v :=
  h.edgeAt?_atTarget (b := false)

/-- The edge by which the chain leaves a vertex. -/
theorem Sound.onward_iff (h : g.Sound) :
    g.edgeAt? v .outgoingHorizontal = some e ↔ g.Has e ∧ e.horizontal = true ∧ e.origin.id = v :=
  h.edgeAt?_atOrigin (b := true)

/-- A vertex is known by its id. -/
theorem vertex_eq_of_id {u u' : Vertex} (hu : g.vertex? u.id = some u)
    (hu' : g.vertex? u'.id = some u') (hid : u.id = u'.id) : u = u' := by
  rw [hid, hu'] at hu
  exact (Option.some.inj hu).symm

theorem Sound.into_vertex (h : g.Sound) {u : Vertex} (hu : g.vertex? u.id = some u)
    (he : g.edgeAt? u.id .incomingHorizontal = some e) :
    g.Has e ∧ e.horizontal = true ∧ e.target = u := by
  obtain ⟨hhas, hh, hid⟩ := h.into_iff.1 he
  exact ⟨hhas, hh, vertex_eq_of_id (h.drawn hhas).target hu hid⟩

theorem Sound.wake_vertex (h : g.Sound) {u : Vertex} (hu : g.vertex? u.id = some u)
    (he : g.edgeAt? u.id .incomingVertical = some e) :
    g.Has e ∧ e.horizontal = false ∧ e.target = u := by
  obtain ⟨hhas, hh, hid⟩ := h.wake_iff.1 he
  exact ⟨hhas, hh, vertex_eq_of_id (h.drawn hhas).target hu hid⟩

/-! ## § 2. Wakeups -/

/-- An instantaneous edge leads from one vertex to the next. -/
def Instantly (g : Graph) (a b : VertexId) : Prop :=
  ∃ e, g.edgeAt? a .outgoingHorizontal = some e ∧ isInstant e = true ∧ e.target.id = b

/-- Hops between vertices take no time. -/
def EpsilonInstant (g : Graph) : Prop :=
  ∀ e, g.Has e → e.horizontal = true → e.state = .epsilon → e.duration = 0

/-- Whether hops take no time can be read off the edges. -/
theorem epsilonInstant_iff : g.EpsilonInstant ↔
    (g.edgeList.all fun e => !e.horizontal || e.state ≠ .epsilon || e.duration = 0) = true := by
  simp only [EpsilonInstant, List.all_eq_true, mem_edgeList, Has, Bool.or_eq_true,
    Bool.not_eq_true', decide_eq_true_eq]
  constructor
  · intro h e he
    cases hh : e.horizontal with
    | false => exact Or.inl (Or.inl rfl)
    | true =>
      by_cases hs : e.state = .epsilon
      · exact Or.inr (h e he hh hs)
      · exact Or.inl (Or.inr hs)
  · intro h e he hh hs
    rcases h e he with (hno | hno) | hzero
    · rw [hh] at hno
      exact absurd hno (by simp)
    · exact absurd hs hno
    · exact hzero

theorem laterWakeup_cases {best candidate : Option Edge} {w : Edge}
    (h : laterWakeup best candidate = some w) : best = some w ∨ candidate = some w := by
  unfold laterWakeup at h
  split at h
  · split at h
    · exact Or.inr h
    · exact Or.inl h
  · exact Or.inr h
  · exact Or.inl h

/-- The wakeup chosen is the best so far, or arrives where instantaneous edges lead. -/
theorem wakeupFrom_cases {w : Edge} (seen : List VertexId) (best : Option Edge)
    (current : VertexId) (h : g.wakeupFrom seen best current = .ok (some w)) :
    best = some w ∨ ∃ j, Relation.ReflTransGen g.Instantly current j ∧
      g.edgeAt? j .incomingVertical = some w := by
  fun_induction wakeupFrom g seen best current with
  | case1 seen best current hseen => exact absurd h (by simp)
  | case2 seen best current hseen best' hnext =>
    rcases laterWakeup_cases (Except.ok.inj h) with hb | hc
    · exact Or.inl hb
    · exact Or.inr ⟨current, .refl, hc⟩
  | case3 seen best current hseen best' next hnext hinst ih =>
    rcases ih h with hb | ⟨j, hj, hw⟩
    · rcases laterWakeup_cases hb with hb | hc
      · exact Or.inl hb
      · exact Or.inr ⟨current, .refl, hc⟩
    · exact Or.inr ⟨j, hj.head ⟨next, hnext, hinst, rfl⟩, hw⟩
  | case4 seen best current hseen best' next hnext hinst =>
    rcases laterWakeup_cases (Except.ok.inj h) with hb | hc
    · exact Or.inl hb
    · exact Or.inr ⟨current, .refl, hc⟩

/-- The wakeup of a wait arrives at its junction. -/
theorem wakeup_arrives {w : Edge} (h : g.wakeup v = .ok (some w)) :
    ∃ j, Relation.ReflTransGen g.Instantly v j ∧ g.edgeAt? j .incomingVertical = some w := by
  rcases wakeupFrom_cases [] none v h with hb | hj
  · exact absurd hb (by simp)
  · exact hj

theorem Sound.instantly_time (h : g.Sound) (heps : g.EpsilonInstant) {a b : VertexId}
    (hab : g.Instantly a b) : g.time? b = g.time? a := by
  obtain ⟨e, he, hinst, rfl⟩ := hab
  obtain ⟨hhas, hh, rfl⟩ := h.onward_iff.1 he
  have hd := h.drawn hhas
  have hzero : e.duration = 0 := by
    simp only [isInstant, Bool.decide_or, Bool.or_eq_true, decide_eq_true_eq] at hinst
    rcases hinst with h0 | hs
    · exact h0
    · exact heps e hhas hh hs
  have hle : e.target.time ≤ e.origin.time := Nat.le_of_sub_eq_zero hzero
  rw [time?_eq, time?_eq, hd.origin, hd.target]
  exact congrArg some (Nat.le_antisymm hle hd.forward)

theorem Sound.junction_time (h : g.Sound) (heps : g.EpsilonInstant) {a b : VertexId}
    (hab : Relation.ReflTransGen g.Instantly a b) : g.time? b = g.time? a := by
  induction hab with
  | refl => rfl
  | tail _ hstep ih => exact (h.instantly_time heps hstep).trans ih

/-- The junction of a wait is at the instant at which the wait ended. -/
theorem Sound.wakeup_time (h : g.Sound) (heps : g.EpsilonInstant) {w : Edge}
    (hw : g.wakeup v = .ok (some w)) : g.time? v = some w.target.time := by
  obtain ⟨j, hj, harr⟩ := wakeup_arrives hw
  obtain ⟨hhas, -, rfl⟩ := h.wake_iff.1 harr
  rw [← h.junction_time heps hj, time?_eq, (h.drawn hhas).target]
  rfl

end Graph

end CausalPath
