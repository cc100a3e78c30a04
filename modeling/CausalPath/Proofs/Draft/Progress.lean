import CausalPath.Proofs.Draft.Homing
import CausalPath.Proofs.Store.Closing

/-!
# Drafts are never refused

Every operation of a draft asks its store for something that the store grants: a vertex no earlier
than the tail of its chain, a link between free slots of vertices that are in chains. So writing a
path over registered workers always succeeds.
-/

namespace CausalPath

namespace Draft

variable {source : Graph} {d d' : Draft} {w : WorkerId}

/-! ## § 1. Places of a draft -/

/-- The vertex is in a chain of a draft of the source. -/
structure Stands (source : Graph) (d : Draft) (v : Vertex) : Prop extends d.Mirrors source where
  shown : d.graph.vertex? v.id = some v
  inChain : d.graph.contains v.id = true

theorem Stands.of_last (hm : d.Mirrors source) {i : WorkerId} {v : Vertex}
    (hlast : d.graph.last? i = some v) : d.Stands source v := by
  obtain ⟨htail, hshown⟩ := Graph.last?_eq_some_iff.1 hlast
  exact ⟨hm, hshown, hm.sound.contains_tail htail⟩

theorem Stands.mono {v : Vertex} (h : d.Stands source v) (he : d.Extends d')
    (hm : d'.Mirrors source) : d'.Stands source v :=
  ⟨hm, he.vertex? _ _ h.shown, he.contains _ h.inChain⟩

/-- A worker of the source has an output worker. -/
theorem outWorker_ok (h : d.Mirrors source) (hw : (source.worker? w).isSome) :
    ∃ i d', d.outWorker source w = .ok (i, d') := by
  obtain ⟨x, hx⟩ := Option.isSome_iff_exists.1 hw
  unfold outWorker
  cases hi : d.workers.get? w with
  | some i => exact ⟨i, d, rfl⟩
  | none =>
    -- a worker is registered under its key, or found under it
    have hadd : ∃ i g, d.graph.addWorker x = .ok (i, g) := by
      unfold Graph.addWorker
      split
      · exact ⟨_, _, rfl⟩
      · rw [Graph.requireOpen_eq_ok (u := ()).2 h.opened]
        exact ⟨_, _, rfl⟩
    obtain ⟨i, g, hadd⟩ := hadd
    rw [hx]
    exact ⟨i, _, bind_eq_ok.2 ⟨(i, g), store_eq_ok.2 hadd, rfl⟩⟩

theorem put_ok (h : d.Mirrors source) {i : WorkerId} (hi : (d.graph.worker? i).isSome) {t : Time}
    (hlate : ∀ tail, d.graph.last? i = some tail → tail.time ≤ t) (s : EdgeState)
    (q : Option String) : ∃ v d', d.put i t s q = .ok (v, d') := by
  obtain ⟨a, hext⟩ := h.sound.extend_new_ok hi hlate s q
  refine ⟨⟨d.graph.nextVertex, i, t⟩, { d with graph := d.graph.grown i t s q }, ?_⟩
  unfold put
  simp only [bind_eq_ok, store_eq_ok, pure_eq_ok, Prod.exists]
  exact ⟨_, _, Graph.createVertex_eq_ok.2 ⟨h.opened, hi, hlate, rfl, rfl⟩, a, _,
    Graph.append_eq_ok.2 ⟨h.opened, hext⟩, rfl⟩

/-- What is put stands at the end of its chain. -/
theorem put_stands (h : d.Mirrors source) {i : WorkerId} {t : Time} {s : EdgeState}
    {q : Option String} {v : Vertex} (hok : d.put i t s q = .ok (v, d')) :
    d'.Stands source v := by
  have hm := h.put hok
  obtain ⟨rfl, rfl, hi, -⟩ := put_eq_ok h.sound hok
  refine .of_last (i := i) hm ?_
  rw [Graph.last?_grown h.sound hi, if_pos rfl]

theorem Mirrors.isSome_output (h : d.Mirrors source) {i : WorkerId}
    (hi : d.workers.get? w = some i) : (d.graph.worker? i).isSome := by
  obtain ⟨x, -, hx⟩ := h.named w i hi
  rw [hx]
  rfl

theorem ensure_ok (hs : source.Sound) (h : d.Mirrors source) (hw : (source.worker? w).isSome)
    (t : Time) : ∃ v d', d.ensure source w t = .ok (v, d') := by
  obtain ⟨i, d₁, hout⟩ := outWorker_ok h hw
  obtain ⟨-, hm, hi⟩ := outWorker_spec hs h hout
  unfold ensure
  simp only [bind_eq_ok, Prod.exists]
  cases htail : d₁.graph.last? i with
  | none =>
    obtain ⟨v, d₂, hput⟩ := put_ok hm (hm.isSome_output hi) (t := t) (by simp [htail]) .noEdge none
    exact ⟨v, d₂, i, d₁, hout, by rw [tail?_eq, htail]; exact hput⟩
  | some tail =>
    by_cases hle : t ≤ tail.time
    · exact ⟨tail, d₁, i, d₁, hout, by rw [tail?_eq, htail]; exact if_pos hle⟩
    · have hlate : ∀ u, d₁.graph.last? i = some u → u.time ≤ t := by
        intro u hu
        obtain rfl := Option.some.inj (htail.symm.trans hu)
        exact Nat.le_of_not_le hle
      obtain ⟨v, d₂, hput⟩ := put_ok hm (hm.isSome_output hi) hlate .noEdge none
      exact ⟨v, d₂, i, d₁, hout, by rw [tail?_eq, htail]; exact (if_neg hle).trans hput⟩

theorem ensure_stands (hs : source.Sound) (h : d.Mirrors source) {t : Time} {v : Vertex}
    (hok : d.ensure source w t = .ok (v, d')) : d'.Stands source v := by
  obtain ⟨d₁, i, -, hm, -, ⟨rfl, hlast, -⟩ | ⟨-, hput⟩⟩ := ensure_cases hs h hok
  · exact .of_last hm hlast
  · exact put_stands hm hput

theorem segment_ok (hs : source.Sound) (h : d.Mirrors source) (hw : (source.worker? w).isSome)
    (t : Time) (s : EdgeState) (q : Option String) :
    ∃ v d', d.segment source w t s q = .ok (v, d') := by
  obtain ⟨i, d₁, hout⟩ := outWorker_ok h hw
  obtain ⟨-, hm, hi⟩ := outWorker_spec hs h hout
  -- the segment ends no earlier than the tail it starts from
  have hlate : ∀ u, d₁.graph.last? i = some u →
      u.time ≤ ((d₁.tail? i).map (·.time)).elim t (max t) := by
    intro u hu
    rw [tail?_eq, hu]
    exact Nat.le_max_right _ _
  obtain ⟨v, d₂, hput⟩ := put_ok hm (hm.isSome_output hi) hlate s q
  refine ⟨v, d₂, ?_⟩
  unfold segment
  simp only [bind_eq_ok, Prod.exists]
  exact ⟨i, d₁, hout, hput⟩

theorem segment_stands (hs : source.Sound) (h : d.Mirrors source) {t : Time} {s : EdgeState}
    {q : Option String} {v : Vertex} (hok : d.segment source w t s q = .ok (v, d')) :
    d'.Stands source v := by
  obtain ⟨d₁, i, -, hm, -, hput⟩ := segment_cases hs h hok
  exact put_stands hm hput

/-- A link between vertices of chains is added or left out. -/
theorem Stands.connect_ok {a b : Vertex} (ha : d.Stands source a) (hb : d.Stands source b)
    (s : EdgeState) (q : Option String) :
    ∃ d', d.connect a b s q = .ok d' ∧ d'.Stands source b := by
  have hlinked : ∃ d', d.connect a b s q = .ok d' := by
    unfold connect
    split
    · rename_i hfree
      obtain ⟨hne, hout, hin, hle⟩ := hfree
      -- a slot that shows no edge holds none
      have hslot : ∀ v dir, (d.graph.edgeAt? v dir).isNone = true → d.graph.slot? v dir = none := by
        intro v dir hnone
        cases hslot : d.graph.slot? v dir with
        | none => rfl
        | some i =>
          obtain ⟨x, hx, -⟩ := (ha.sound.slot_iff v dir i).1 hslot
          obtain ⟨p, r, -, -, -, he⟩ := ha.sound.edge?_of_record hx
          rw [Graph.edgeAt?_eq, hslot, Option.bind_some, he] at hnone
          exact absurd hnone (by simp)
      have hadm : d.graph.Admits ⟨a.id, b.id, s, q, false⟩ := by
        refine ⟨hne, ?_, a.time, b.time, by rw [Graph.time?_eq, ha.shown]; rfl,
          by rw [Graph.time?_eq, hb.shown]; rfl, hle⟩
        rintro v dir (⟨rfl, rfl⟩ | ⟨rfl, rfl⟩)
        · exact hslot a.id .outgoingVertical hout
        · exact hslot b.id .incomingVertical hin
      refine ⟨{ d with graph := d.graph.pushEdge ⟨a.id, b.id, s, q, false⟩ }, ?_⟩
      simp only [bind_eq_ok, store_eq_ok, pure_eq_ok, Prod.exists]
      exact ⟨_, _, Graph.linkVertical_eq_ok.2 ⟨ha.opened, ha.inChain, hb.inChain, hadm, rfl, rfl⟩,
        rfl⟩
    · exact ⟨_, rfl⟩
  obtain ⟨d', hcon⟩ := hlinked
  obtain ⟨hext, -⟩ := connect_link ha.shown hb.shown hcon
  exact ⟨d', hcon, hb.mono hext (hb.toMirrors.connect hcon)⟩

/-! ## § 2. Movements -/

/-- Whatever leads on to a registered worker can be written. -/
theorem Stands.advance_ok (hs : source.Sound) {a : Anchor} (h : d.Stands source a.vertex)
    (hw : (source.worker? w).isSome) (t : Time) (s : EdgeState) (q : Option String) :
    ∃ a' d', d.advance source a w t s q = .ok (a', d') ∧ d'.Stands source a'.vertex := by
  unfold Draft.advance
  split
  · obtain ⟨v, d₁, hseg⟩ := segment_ok hs h.toMirrors hw t s q
    exact ⟨⟨w, v⟩, d₁, bind_eq_ok.2 ⟨(v, d₁), hseg, rfl⟩, segment_stands hs h.toMirrors hseg⟩
  · obtain ⟨v, d₁, hens⟩ := ensure_ok hs h.toMirrors hw (max t a.vertex.time)
    have hv := ensure_stands hs h.toMirrors hens
    have ha := h.mono (ensure_extends hs h.toMirrors hens) hv.toMirrors
    obtain ⟨d₂, hcon, hv₂⟩ := ha.connect_ok hv s q
    exact ⟨⟨w, v⟩, d₂, bind_eq_ok.2 ⟨(v, d₁), hens, bind_eq_ok.2 ⟨d₂, hcon, rfl⟩⟩, hv₂⟩

theorem Stands.go_ok (hs : source.Sound) (ms : List Move) :
    ∀ {d : Draft} {a : Anchor}, d.Stands source a.vertex →
      (∀ m ∈ ms, (source.worker? m.worker).isSome) →
        ∃ a' d', d.go source a ms = .ok (a', d') ∧ d'.Stands source a'.vertex := by
  induction ms with
  | nil =>
    intro d a h _
    exact ⟨a, d, rfl, h⟩
  | cons m rest ih =>
    intro d a h hws
    obtain ⟨a₁, d₁, hadv, h₁⟩ :=
      h.advance_ok hs (hws m List.mem_cons_self) m.time m.state m.qualifier
    obtain ⟨a', d', hgo, h'⟩ := ih h₁ fun m' hm' => hws m' (List.mem_cons_of_mem _ hm')
    refine ⟨a', d', ?_, h'⟩
    simp only [Draft.go, bind_eq_ok, Prod.exists]
    exact ⟨a₁, d₁, hadv, hgo⟩

end Draft

end CausalPath
