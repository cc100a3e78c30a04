import CausalPath.Proofs.Draft.Steps

/-!
# Where the pieces of a draft lead

A path is one causal chain when every piece of it leads to where the path arrives. While a draft is
written, each of its vertices leads to one of three places: the tail of the home worker, the start
of a link that was left out on another worker, or a place from which the writing goes on. `Homing`
is that invariant; `Homing.go` keeps it along movements.
-/

namespace CausalPath

namespace Graph

variable {g g' : Graph} {a b c : VertexId}

/-! ## § 1. Leading -/

/-- Edges lead from the first vertex to the second. -/
def Leads (g : Graph) : VertexId → VertexId → Prop := Relation.ReflTransGen g.Joins

theorem Leads.refl (g : Graph) (a : VertexId) : g.Leads a a := Relation.ReflTransGen.refl

theorem Leads.trans (hab : g.Leads a b) (hbc : g.Leads b c) : g.Leads a c :=
  Relation.ReflTransGen.trans hab hbc

theorem leads_of_has {e : Edge} (he : g.Has e) : g.Leads e.origin.id e.target.id :=
  Relation.ReflTransGen.single ⟨e, he, rfl, rfl⟩

theorem leads_of_ends (h : (a, b) ∈ g.edgeList.map fun e => (e.origin.id, e.target.id)) :
    g.Leads a b := by
  obtain ⟨e, he, hends⟩ := List.mem_map.1 h
  obtain ⟨rfl, rfl⟩ := Prod.mk.inj hends
  exact leads_of_has (mem_edgeList.1 he)

theorem Leads.mono (hhas : ∀ e, g.Has e → g'.Has e) (hab : g.Leads a b) : g'.Leads a b := by
  refine Relation.ReflTransGen.mono ?_ _ _ hab
  rintro x y ⟨e, he, hxy⟩
  exact ⟨e, hhas e he, hxy⟩

/-- What edges lead to from a set that they do not leave is in the set. -/
theorem Leads.mem {S : List VertexId}
    (hS : ∀ e ∈ g.edgeList, e.origin.id ∈ S → e.target.id ∈ S) (hab : g.Leads a b) (ha : a ∈ S) :
    b ∈ S := by
  induction hab with
  | refl => exact ha
  | tail _ hstep ih =>
    obtain ⟨e, he, rfl, rfl⟩ := hstep
    exact hS e (mem_edgeList.2 he) ih

end Graph

namespace Draft

variable {source : Graph} {d d' d'' : Draft} {i j : WorkerId} {C C' : VertexId → Prop}

/-! ## § 2. What a draft keeps -/

/-- The second draft has all that the first has. -/
structure Extends (d d' : Draft) : Prop where
  vertex? : ∀ v u, d.graph.vertex? v = some u → d'.graph.vertex? v = some u
  contains : ∀ v, d.graph.contains v = true → d'.graph.contains v = true
  has : ∀ e, d.graph.Has e → d'.graph.Has e
  workers : ∀ w i, d.workers.get? w = some i → d'.workers.get? w = some i
  leftOut : ∀ l ∈ d.leftOut, l ∈ d'.leftOut

theorem Extends.refl (d : Draft) : d.Extends d :=
  ⟨fun _ _ h => h, fun _ h => h, fun _ h => h, fun _ _ h => h, fun _ h => h⟩

theorem Extends.trans (h : d.Extends d') (h' : d'.Extends d'') : d.Extends d'' :=
  ⟨fun v u hu => h'.vertex? v u (h.vertex? v u hu),
    fun v hv => h'.contains v (h.contains v hv), fun e he => h'.has e (h.has e he),
    fun w i hi => h'.workers w i (h.workers w i hi), fun l hl => h'.leftOut l (h.leftOut l hl)⟩

theorem Enlists.has_iff (h : d.Enlists d') (e : Edge) : d'.graph.Has e ↔ d.graph.Has e := by
  unfold Graph.Has
  rw [← Graph.mem_edgeList, ← Graph.mem_edgeList, h.edgeList]

theorem Enlists.extends (h : d.Enlists d') : d.Extends d' := by
  refine ⟨?_, ?_, fun e he => (h.has_iff e).2 he, h.workers, ?_⟩
  · intro v u hu
    rw [h.vertex?, hu]
  · intro v hv
    rw [h.contains, hv]
  · intro l hl
    rw [h.leftOut]
    exact hl

/-- A list of edges that only grows at its end keeps its edges. -/
theorem has_of_append {g g' : Graph} {l : List Edge} (h : g'.edgeList = g.edgeList ++ l)
    (e : Edge) (he : g.Has e) : g'.Has e := by
  unfold Graph.Has
  rw [← Graph.mem_edgeList, h]
  exact List.mem_append_left _ (Graph.mem_edgeList.2 he)

theorem put_extends (h : d.graph.Sound) {t : Time} {s : EdgeState} {q : Option String} {v : Vertex}
    (hok : d.put i t s q = .ok (v, d')) : d.Extends d' := by
  obtain ⟨-, rfl, -⟩ := put_eq_ok h hok
  refine ⟨fun v u hu => Graph.vertex?_grown_of_some hu, ?_,
    has_of_append (Graph.edgeList_grown h), fun _ _ h => h, fun _ h => h⟩
  intro v hv
  rw [Graph.contains_grown, hv, Bool.or_true]

theorem ensure_extends (hs : source.Sound) (h : d.Mirrors source) {w : WorkerId} {t : Time}
    {v : Vertex} (hok : d.ensure source w t = .ok (v, d')) : d.Extends d' := by
  obtain ⟨d₁, i, henl, hm, -, ⟨rfl, -⟩ | ⟨-, hput⟩⟩ := ensure_cases hs h hok
  · exact henl.extends
  · exact henl.extends.trans (put_extends hm.sound hput)

/-- An edge takes a slot that the link needs. -/
def Taken (d : Draft) (l : Vertex × Vertex) : Prop :=
  ∃ e, d.graph.Has e ∧ e.horizontal = false ∧ (e.origin.id = l.1.id ∨ e.target.id = l.2.id)

/-- Between different vertices and forward in time, only another link stands in the way. -/
theorem taken_of_not_free (h : d.graph.Sound) {x y : Vertex} (hne : x.id ≠ y.id)
    (hle : x.time ≤ y.time) (hfree : ¬d.Free x y) : d.Taken (x, y) := by
  cases hout : d.graph.edgeAt? x.id .outgoingVertical with
  | some e =>
    obtain ⟨hhas, hh, ho⟩ := (h.edgeAt?_atOrigin (b := false)).1 hout
    exact ⟨e, hhas, hh, Or.inl ho⟩
  | none =>
    cases hin : d.graph.edgeAt? y.id .incomingVertical with
    | some e =>
      obtain ⟨hhas, hh, ht⟩ := h.wake_iff.1 hin
      exact ⟨e, hhas, hh, Or.inr ht⟩
    | none => exact absurd ⟨hne, by rw [hout]; rfl, by rw [hin]; rfl, hle⟩ hfree

theorem Taken.mono {l : Vertex × Vertex} (he : d.Extends d') (h : d.Taken l) : d'.Taken l := by
  obtain ⟨e, hhas, hslot⟩ := h
  exact ⟨e, he.has e hhas, hslot⟩

/-- The edge that a link adds. -/
theorem connect_link {x y : Vertex} {s : EdgeState} {q : Option String}
    (hx : d.graph.vertex? x.id = some x) (hy : d.graph.vertex? y.id = some y)
    (hok : d.connect x y s q = .ok d') :
    d.Extends d' ∧ (((x, y) ∈ d'.leftOut ∧ ¬d.Free x y) ∨ d'.graph.Leads x.id y.id) := by
  rcases connect_eq_ok hok with ⟨rfl, hfree⟩ | ⟨-, -, -, rfl⟩
  · refine ⟨⟨fun _ _ h => h, fun _ h => h, fun _ h => h, fun _ _ h => h, ?_⟩,
      Or.inl ⟨by simp, hfree⟩⟩
    intro l hl
    exact List.mem_append_left _ hl
  · have hlist := Graph.edgeList_pushEdge (x := ⟨x.id, y.id, s, q, false⟩) hx hy
    refine ⟨⟨?_, ?_, has_of_append hlist, fun _ _ h => h, fun _ h => h⟩, Or.inr ?_⟩
    · intro v u hu
      rw [Graph.vertex?_pushEdge, hu]
    · intro v hv
      rw [Graph.contains_pushEdge, hv]
    · exact Graph.leads_of_has (e := ⟨d.graph.nextEdge, x, y, s, q, false⟩)
        (Graph.mem_edgeList.1 (by rw [hlist]; simp))

/-! ## § 3. The invariant -/

/-- A link that starts here, away from home, was left out since its slots were taken. -/
def Lost (i : WorkerId) (d : Draft) (b : VertexId) : Prop :=
  d.graph.contains b = true ∧ ∃ l ∈ d.leftOut, l.1.id = b ∧ l.1.worker ≠ i ∧ d.Taken l

/-- The vertex leads home, or to where a link was left out, or to a place of `C`. -/
def Held (i : WorkerId) (C : VertexId → Prop) (d : Draft) (v : VertexId) : Prop :=
  (∃ u, d.graph.last? i = some u ∧ d.graph.Leads v u.id) ∨
    ∃ b, (d.Lost i b ∨ C b) ∧ d.graph.Leads v b

/-- Every vertex of a chain leads to one of these places. -/
def Homing (i : WorkerId) (C : VertexId → Prop) (d : Draft) : Prop :=
  ∀ v, d.graph.contains v = true → d.Held i C v

theorem Held.before {a b : VertexId} (h : d.Held i C b) (hab : d.graph.Leads a b) :
    d.Held i C a := by
  rcases h with ⟨u, hu, hlead⟩ | ⟨b', hb', hlead⟩
  · exact Or.inl ⟨u, hu, hab.trans hlead⟩
  · exact Or.inr ⟨b', hb', hab.trans hlead⟩

theorem held_of_place {b : VertexId} (hb : C b) : d.Held i C b :=
  Or.inr ⟨b, Or.inr hb, .refl _ b⟩

theorem held_of_tail {u : Vertex} (hu : d.graph.last? i = some u) : d.Held i C u.id :=
  Or.inl ⟨u, hu, .refl _ u.id⟩

theorem Lost.mono {b : VertexId} (he : d.Extends d') (h : d.Lost i b) : d'.Lost i b := by
  obtain ⟨hin, l, hl, hb, haway, htaken⟩ := h
  exact ⟨he.contains b hin, l, he.leftOut l hl, hb, haway, htaken.mono he⟩

/-- Places may be given up for places that they lead to. -/
theorem Homing.redirect (h : d.Homing i C) (hC : ∀ b, C b → d.Held i C' b) : d.Homing i C' := by
  intro v hv
  rcases h v hv with htail | ⟨b, hlost | hb, hlead⟩
  · exact Or.inl htail
  · exact Or.inr ⟨b, Or.inl hlost, hlead⟩
  · exact (hC b hb).before hlead

theorem Homing.enlists (h : d.Homing i C) (he : d.Enlists d') : d'.Homing i C := by
  intro v hv
  rw [he.contains] at hv
  rcases h v hv with ⟨u, hu, hlead⟩ | ⟨b, hb, hlead⟩
  · exact Or.inl ⟨u, by rw [he.last?, hu], hlead.mono he.extends.has⟩
  · exact Or.inr ⟨b, hb.imp (Lost.mono he.extends) id, hlead.mono he.extends.has⟩

/-- The old tail of a chain leads to the vertex put after it. -/
theorem put_leads (h : d.graph.Sound) {t : Time} {s : EdgeState} {q : Option String} {v u : Vertex}
    (hok : d.put i t s q = .ok (v, d')) (hu : d.graph.last? i = some u) :
    d'.graph.Leads u.id v.id := by
  obtain ⟨rfl, rfl, -⟩ := put_eq_ok h hok
  apply Graph.leads_of_has (e := ⟨d.graph.nextEdge, u, d.graph.grownVertex i t, s, q, true⟩)
  apply Graph.mem_edgeList.1
  rw [Graph.edgeList_grown h, Graph.grownEdges, hu]
  simp

/-- A vertex that is put is one more place. -/
theorem Homing.put (hm : d.graph.Sound) (h : d.Homing i C) {t : Time} {s : EdgeState}
    {q : Option String} {v : Vertex} (hok : d.put j t s q = .ok (v, d')) :
    d'.Homing i fun b => C b ∨ b = v.id := by
  have hext := put_extends hm hok
  have hlead := fun u hu => put_leads (u := u) hm hok hu
  obtain ⟨rfl, rfl, hj, -⟩ := put_eq_ok hm hok
  intro x hx
  rw [Graph.contains_grown, Bool.or_eq_true, decide_eq_true_eq] at hx
  rcases hx with rfl | hx
  · exact held_of_place (Or.inr rfl)
  · rcases h x hx with ⟨u, hu, hux⟩ | ⟨b, hb, hbx⟩
    · by_cases hij : i = j
      · -- the home chain itself has grown, from the tail that `x` leads to
        subst hij
        exact (held_of_place (Or.inr rfl)).before ((hux.mono hext.has).trans (hlead u hu))
      · refine Or.inl ⟨u, ?_, hux.mono hext.has⟩
        rw [Graph.last?_grown hm hj, if_neg hij, hu]
    · exact Or.inr ⟨b, hb.imp (Lost.mono hext) Or.inl, hbx.mono hext.has⟩

theorem Homing.ensure (hs : source.Sound) (hm : d.Mirrors source) (h : d.Homing i C)
    {w : WorkerId} {t : Time} {v : Vertex} (hok : d.ensure source w t = .ok (v, d')) :
    d'.Homing i fun b => C b ∨ b = v.id := by
  obtain ⟨d₁, k, henl, hm₁, -, ⟨rfl, -⟩ | ⟨-, hput⟩⟩ := ensure_cases hs hm hok
  · exact (h.enlists henl).redirect fun b hb => held_of_place (Or.inl hb)
  · exact (h.enlists henl).put hm₁.sound hput

/-- Bringing up one worker leaves the tails of the others. -/
theorem ensure_last? (hs : source.Sound) (hm : d.Mirrors source) {w w' : WorkerId} {t : Time}
    {v : Vertex} (hok : d.ensure source w t = .ok (v, d')) (hw : w ≠ w')
    (hj : d.workers.get? w' = some j) : d'.graph.last? j = d.graph.last? j := by
  obtain ⟨d₁, k, henl, hm₁, hk, ⟨rfl, -⟩ | ⟨-, hput⟩⟩ := ensure_cases hs hm hok
  · exact henl.last? j
  · have hne : j ≠ k := by
      rintro rfl
      exact hw (hm₁.inj hs hk (henl.workers _ _ hj))
    obtain ⟨-, rfl, hworker, -⟩ := put_eq_ok hm₁.sound hput
    rw [Graph.last?_grown hm₁.sound hworker, if_neg hne, henl.last?]

theorem At.vertex? {a : Anchor} {c : Cursor} (h : d.At source a c) :
    d.graph.vertex? a.vertex.id = some a.vertex :=
  (Graph.last?_eq_some_iff.1 h.last).2

theorem At.contains {a : Anchor} {c : Cursor} (h : d.At source a c) :
    d.graph.contains a.vertex.id = true := by
  have htail := (Graph.last?_eq_some_iff.1 h.last).1
  exact ((h.sound.mem_chain _ _).1 (List.mem_of_getLast? htail)).1

theorem Homing.connect (h : d.Homing i C) {x y : Vertex} {s : EdgeState} {q : Option String}
    (he : d.Extends d') (hok : d.connect x y s q = .ok d') : d'.Homing i C := by
  obtain ⟨hlast, hcontains⟩ := connect_keeps hok
  intro v hv
  rw [hcontains] at hv
  rcases h v hv with ⟨u, hu, hlead⟩ | ⟨b, hb, hlead⟩
  · exact Or.inl ⟨u, by rw [hlast, hu], hlead.mono he.has⟩
  · exact Or.inr ⟨b, hb.imp (Lost.mono he) id, hlead.mono he.has⟩

/-! ## § 4. Movements -/

/-- A movement gives up the anchor for the place it leads to. -/
theorem Homing.advance (hs : source.Sound) {a a' : Anchor} {c : Cursor} (hat : d.At source a c)
    (h : d.Homing i fun b => C b ∨ b = a.vertex.id) {m : Move}
    (hok : d.advance source a m.worker m.time m.state m.qualifier = .ok (a', d')) :
    d.Extends d' ∧ d'.Homing i fun b => C b ∨ b = a'.vertex.id := by
  unfold Draft.advance at hok
  split at hok
  · rename_i hw
    simp only [bind_eq_ok, Prod.exists, pure_eq_ok, Prod.mk.injEq] at hok
    obtain ⟨v, d₁, hseg, rfl, rfl⟩ := hok
    obtain ⟨d₂, k, henl, hm, hk, hput⟩ := segment_cases hs hat.toMirrors hseg
    have hout := henl.workers _ _ hat.output
    rw [← hw, hk] at hout
    obtain rfl := Option.some.inj hout
    have hlast : d₂.graph.last? a.vertex.worker = some a.vertex := by rw [henl.last?, hat.last]
    refine ⟨henl.extends.trans (put_extends hm.sound hput), ?_⟩
    refine ((h.enlists henl).put hm.sound hput).redirect ?_
    rintro b ((hb | rfl) | rfl)
    · exact held_of_place (Or.inl hb)
    · exact (held_of_place (Or.inr rfl)).before (put_leads hm.sound hput hlast)
    · exact held_of_place (Or.inr rfl)
  · rename_i hw
    simp only [bind_eq_ok, Prod.exists, pure_eq_ok, Prod.mk.injEq] at hok
    obtain ⟨v, d₁, hens, d₂, hcon, rfl, rfl⟩ := hok
    have hext := ensure_extends hs hat.toMirrors hens
    have hnow : c.time ≤ max m.time a.vertex.time := by
      rw [hat.time]
      exact Nat.le_max_right _ _
    have hat₁ := (hat.toPaced.ensure hs hnow hens).1
    obtain ⟨hext', hlink⟩ :=
      connect_link (hext.vertex? _ _ hat.vertex?) hat₁.vertex? hcon
    refine ⟨hext.trans hext', ?_⟩
    refine ((h.ensure hs hat.toMirrors hens).connect hext' hcon).redirect ?_
    rintro b ((hb | rfl) | rfl)
    · exact held_of_place (Or.inl hb)
    · rcases hlink with ⟨hleft, hfree⟩ | hlead
      · by_cases hhome : a.vertex.worker = i
        · -- at home, the anchor is still the tail
          have htail := ensure_last? hs hat.toMirrors hens hw hat.output
          rw [← (connect_keeps hcon).1, hat.last, hhome] at htail
          exact held_of_tail htail
        · have hin := hext'.contains _ (hext.contains _ hat.contains)
          -- the ends are on different workers, the second one no earlier than the first
          have hne : a.vertex.id ≠ v.id := by
            intro heq
            have hsame := hext.vertex? _ _ hat.vertex?
            rw [heq, hat₁.vertex?] at hsame
            have hout := hat₁.output
            rw [Option.some.inj hsame] at hout
            exact hw (hat₁.inj hs hout (hext.workers _ _ hat.output))
          have hle : a.vertex.time ≤ v.time := by
            rw [hat₁.time]
            exact Nat.le_max_right _ _
          have htaken := (taken_of_not_free hat₁.sound hne hle hfree).mono hext'
          exact Or.inr ⟨_, Or.inl ⟨hin, _, hleft, rfl, hhome, htaken⟩, .refl _ _⟩
      · exact (held_of_place (Or.inr rfl)).before hlead
    · exact held_of_place (Or.inr rfl)

theorem Homing.go (hs : source.Sound) (ms : List Move) :
    ∀ {d : Draft} {a : Anchor} {c : Cursor} {d' : Draft} {a' : Anchor}, d.At source a c →
      (d.Homing i fun b => C b ∨ b = a.vertex.id) → d.go source a ms = .ok (a', d') →
        d.Extends d' ∧ d'.Homing i fun b => C b ∨ b = a'.vertex.id := by
  induction ms with
  | nil =>
    intro d a c d' a' _ h hok
    obtain ⟨rfl, rfl⟩ := go_nil.1 hok
    exact ⟨.refl d, h⟩
  | cons m rest ih =>
    intro d a c d' a' hat h hok
    simp only [Draft.go, bind_eq_ok, Prod.exists] at hok
    obtain ⟨a₁, d₁, hadv, hrest⟩ := hok
    obtain ⟨hext, h₁⟩ := h.advance hs hat hadv
    obtain ⟨hext', h'⟩ := ih (hat.advance hs hadv).1 h₁ hrest
    exact ⟨hext.trans hext', h'⟩

end Draft

end CausalPath
