import CausalPath.Path.Draft
import CausalPath.Proofs.Store.Listing

/-!
# Drafts mirror their sources

The chains of a draft stand for workers of a source graph: the table of the draft names the output
worker of a source worker, and it names every output worker. Each operation of a draft is read here
as what it does to the output graph. Registering a worker adds neither a vertex nor an edge, and
every other operation puts vertices at the ends of chains and links between them.
-/

namespace CausalPath

namespace Draft

variable {source : Graph} {d d' : Draft}

/-- The output workers of a draft are copies of workers of the source, named by its table. -/
structure Mirrors (source : Graph) (d : Draft) : Prop where
  sound : d.graph.Sound
  opened : d.graph.phase = .building
  /-- The table names copies. -/
  named : ∀ w i, d.workers.get? w = some i →
    ∃ x, source.worker? w = some x ∧ d.graph.worker? i = some x
  /-- The table names every output worker. -/
  listed : ∀ i, (d.graph.worker? i).isSome → ∃ w, d.workers.get? w = some i

theorem store_eq_ok {α : Type} {x : Except GraphError α} {a : α} :
    store x = .ok a ↔ x = .ok a := by
  cases x <;> simp [store]

theorem tail?_eq (d : Draft) (i : WorkerId) : d.tail? i = d.graph.last? i := by
  rw [Draft.tail?, Graph.tail?_eq, Graph.last?]

theorem mirrors_new (source : Graph) (t : Time) : (Draft.new t).Mirrors source where
  sound := Graph.sound_new t
  opened := rfl
  named w i hi := by
    simp [Draft.new] at hi
  listed i hi := by
    simp [Draft.new, Graph.new, Graph.worker?] at hi

/-- Two source workers never share an output worker. -/
theorem Mirrors.inj (hs : source.Sound) (h : d.Mirrors source) {w w' : WorkerId} {i : WorkerId}
    (hw : d.workers.get? w = some i) (hw' : d.workers.get? w' = some i) : w = w' := by
  obtain ⟨x, hx, hxi⟩ := h.named w i hw
  obtain ⟨y, hy, hyi⟩ := h.named w' i hw'
  obtain rfl := Option.some.inj (hxi.symm.trans hyi)
  exact hs.eq_of_key hx hy rfl

/-! ## § 1. Registering workers -/

/-- The second draft has all that the first has, and possibly more workers. -/
structure Enlists (d d' : Draft) : Prop where
  vertex? : ∀ v, d'.graph.vertex? v = d.graph.vertex? v
  contains : ∀ v, d'.graph.contains v = d.graph.contains v
  chainOf : ∀ i, d'.graph.chainOf i = d.graph.chainOf i
  edgeList : d'.graph.edgeList = d.graph.edgeList
  workers : ∀ w i, d.workers.get? w = some i → d'.workers.get? w = some i
  worker? : ∀ i x, d.graph.worker? i = some x → d'.graph.worker? i = some x
  leftOut : d'.leftOut = d.leftOut

theorem Enlists.refl (d : Draft) : d.Enlists d :=
  ⟨fun _ => rfl, fun _ => rfl, fun _ => rfl, rfl, fun _ _ h => h, fun _ _ h => h, rfl⟩

theorem Enlists.last? (h : d.Enlists d') (i : WorkerId) : d'.graph.last? i = d.graph.last? i := by
  have hv : d'.graph.vertex? = d.graph.vertex? := funext h.vertex?
  rw [Graph.last?, Graph.last?, h.chainOf, hv]

/-- A source worker that the table does not name has no copy in the draft. -/
theorem Mirrors.fresh (hs : source.Sound) (h : d.Mirrors source) {w : WorkerId} {x : Worker}
    (hw : d.workers.get? w = none) (hx : source.worker? w = some x) (i : WorkerId) (y : Worker)
    (hy : d.graph.worker? i = some y) : y.key ≠ x.key := by
  intro hkey
  obtain ⟨w', hw'⟩ := h.listed i (by simp [hy])
  obtain ⟨z, hz, hzi⟩ := h.named w' i hw'
  obtain rfl := Option.some.inj (hy.symm.trans hzi)
  obtain rfl := hs.eq_of_key hz hx hkey
  rw [hw] at hw'
  exact absurd hw' (by simp)

theorem outWorker_spec (hs : source.Sound) (h : d.Mirrors source) {w i : WorkerId}
    (hok : d.outWorker source w = .ok (i, d')) :
    d.Enlists d' ∧ d'.Mirrors source ∧ d'.workers.get? w = some i := by
  unfold outWorker at hok
  split at hok
  · rename_i j hj
    obtain ⟨rfl, rfl⟩ := Prod.mk.inj (Except.ok.inj hok)
    exact ⟨.refl d, h, hj⟩
  · rename_i hnone
    split at hok
    · exact absurd hok (by simp)
    · rename_i x hx
      simp only [bind_eq_ok, store_eq_ok, pure_eq_ok, Prod.exists, Prod.mk.injEq] at hok
      obtain ⟨j, g', hadd, rfl, rfl⟩ := hok
      -- no worker of the draft has the key of the new one, so it is registered
      have hfind : d.graph.findWorker? x.key = none := by
        cases hk : d.graph.findWorker? x.key with
        | none => rfl
        | some j' =>
          obtain ⟨y, hy, hkey⟩ := (h.sound.found_iff _ _).1 hk
          exact absurd hkey (h.fresh hs hnone hx j' y hy)
      unfold Graph.addWorker at hadd
      rw [hfind] at hadd
      simp only [bind_eq_ok, Graph.requireOpen_eq_ok, pure_eq_ok, Prod.mk.injEq] at hadd
      obtain ⟨-, hopen, rfl, rfl⟩ := hadd
      have hworker := Graph.worker?_pushWorker d.graph x
      refine ⟨⟨fun _ => rfl, fun _ => rfl, Graph.chainOf_pushWorker d.graph x, rfl, ?_, ?_, rfl⟩,
        ⟨h.sound.register hfind, hopen, ?_, ?_⟩, by simp⟩
      · intro w' i hi
        rw [Table.get?_insert, if_neg, hi]
        rintro rfl
        rw [hnone] at hi
        exact absurd hi (by simp)
      · intro i y hy
        exact Graph.worker?_pushWorker_of_some x hy
      · intro w' i hi
        rw [Table.get?_insert] at hi
        split at hi
        · rename_i hww
          obtain rfl := Option.some.inj hi
          exact ⟨x, hww ▸ hx, by rw [hworker, if_pos rfl]⟩
        · obtain ⟨y, hy, hyi⟩ := h.named w' i hi
          exact ⟨y, hy, Graph.worker?_pushWorker_of_some x hyi⟩
      · intro i hi
        by_cases hnew : i = d.graph.nextWorker
        · exact ⟨w, by simp [hnew]⟩
        · rw [hworker, if_neg hnew] at hi
          obtain ⟨w', hw'⟩ := h.listed i hi
          refine ⟨w', ?_⟩
          rw [Table.get?_insert, if_neg, hw']
          rintro rfl
          rw [hnone] at hw'
          exact absurd hw' (by simp)

/-! ## § 2. Putting vertices -/

theorem put_eq_ok (h : d.graph.Sound) {i : WorkerId} {t : Time} {s : EdgeState}
    {q : Option String} {v : Vertex} (hok : d.put i t s q = .ok (v, d')) :
    v = d.graph.grownVertex i t ∧ d' = { d with graph := d.graph.grown i t s q } ∧
      (d.graph.worker? i).isSome ∧ (∀ tail, d.graph.last? i = some tail → tail.time ≤ t) ∧
      (d.graph.grown i t s q).Sound ∧ (d.graph.grown i t s q).phase = .building := by
  unfold put at hok
  simp only [bind_eq_ok, store_eq_ok, pure_eq_ok, Prod.exists, Prod.mk.injEq] at hok
  obtain ⟨v', g₁, hcreate, a, g₂, happend, rfl, rfl⟩ := hok
  obtain ⟨hopen, hi, hlate, rfl, rfl⟩ := Graph.createVertex_eq_ok.1 hcreate
  obtain ⟨hopen', hext⟩ := Graph.append_eq_ok.1 happend
  have hsound := h.create hi t
  have hg : g₂ = d.graph.grown i t s q := Graph.grown_of_extend h hi hext
  have hstep := hsound.inside.extend_step hopen hext
  have hphase := (hsound.inside.extend_keeps hext).1
  subst hg
  exact ⟨rfl, rfl, hi, hlate, hstep.sound hsound, hphase.trans hopen⟩

theorem Mirrors.put (h : d.Mirrors source) {i : WorkerId} {t : Time} {s : EdgeState}
    {q : Option String} {v : Vertex} (hok : d.put i t s q = .ok (v, d')) : d'.Mirrors source := by
  obtain ⟨-, rfl, -, -, hsound, hphase⟩ := put_eq_ok h.sound hok
  refine ⟨hsound, hphase, ?_, ?_⟩
  · intro w j hj
    obtain ⟨x, hx, hxj⟩ := h.named w j hj
    exact ⟨x, hx, by rw [Graph.worker?_grown, hxj]⟩
  · intro j hj
    rw [Graph.worker?_grown] at hj
    exact h.listed j hj

/-- The tail of a worker is late enough, or a new tail is put. -/
theorem ensure_cases (hs : source.Sound) (h : d.Mirrors source) {w : WorkerId} {t : Time}
    {v : Vertex} (hok : d.ensure source w t = .ok (v, d')) :
    ∃ d₁ i, d.Enlists d₁ ∧ d₁.Mirrors source ∧ d₁.workers.get? w = some i ∧
      ((d' = d₁ ∧ d₁.graph.last? i = some v ∧ t ≤ v.time) ∨
        ((∀ u, d₁.graph.last? i = some u → u.time < t) ∧ d₁.put i t .noEdge none = .ok (v, d'))) := by
  unfold ensure at hok
  simp only [bind_eq_ok, Prod.exists] at hok
  obtain ⟨i, d₁, hout, hok⟩ := hok
  obtain ⟨henl, hm, hi⟩ := outWorker_spec hs h hout
  refine ⟨d₁, i, henl, hm, hi, ?_⟩
  rw [tail?_eq] at hok
  split at hok
  · rename_i tail htail
    split at hok
    · rename_i hle
      obtain ⟨rfl, rfl⟩ := Prod.mk.inj (pure_eq_ok.1 hok)
      exact Or.inl ⟨rfl, htail, hle⟩
    · rename_i hlt
      refine Or.inr ⟨?_, hok⟩
      intro u hu
      obtain rfl := Option.some.inj (htail.symm.trans hu)
      exact Nat.lt_of_not_le hlt
  · rename_i hnone
    refine Or.inr ⟨?_, hok⟩
    intro u hu
    rw [hnone] at hu
    exact absurd hu (by simp)

/-- A segment always puts a new tail. -/
theorem segment_cases (hs : source.Sound) (h : d.Mirrors source) {w : WorkerId} {t : Time}
    {s : EdgeState} {q : Option String} {v : Vertex}
    (hok : d.segment source w t s q = .ok (v, d')) :
    ∃ d₁ i, d.Enlists d₁ ∧ d₁.Mirrors source ∧ d₁.workers.get? w = some i ∧
      d₁.put i (((d₁.graph.last? i).map (·.time)).elim t (max t)) s q = .ok (v, d') := by
  unfold segment at hok
  simp only [bind_eq_ok, Prod.exists, tail?_eq] at hok
  obtain ⟨i, d₁, hout, hok⟩ := hok
  obtain ⟨henl, hm, hi⟩ := outWorker_spec hs h hout
  exact ⟨d₁, i, henl, hm, hi, hok⟩

/-! ## § 3. Links -/

/-- Nothing stands in the way of a link. -/
def Free (d : Draft) (a b : Vertex) : Prop :=
  a.id ≠ b.id ∧ (d.graph.edgeAt? a.id .outgoingVertical).isNone ∧
    (d.graph.edgeAt? b.id .incomingVertical).isNone ∧ a.time ≤ b.time

/-- A link is added with both ends known, or left out and noted. -/
theorem connect_eq_ok {a b : Vertex} {s : EdgeState} {q : Option String}
    (hok : d.connect a b s q = .ok d') :
    (d' = { d with leftOut := d.leftOut ++ [(a, b)] } ∧ ¬d.Free a b) ∨
      (d.graph.Admits ⟨a.id, b.id, s, q, false⟩ ∧ d.graph.contains a.id = true ∧
        d.graph.contains b.id = true ∧
        d' = { d with graph := d.graph.pushEdge ⟨a.id, b.id, s, q, false⟩ }) := by
  unfold connect at hok
  split at hok
  · right
    simp only [bind_eq_ok, store_eq_ok, pure_eq_ok, Prod.exists] at hok
    obtain ⟨e, g', hlink, rfl⟩ := hok
    obtain ⟨-, ha, hb, hadm, -, rfl⟩ := Graph.linkVertical_eq_ok.1 hlink
    exact ⟨hadm, ha, hb, rfl⟩
  · rename_i hfree
    exact Or.inl ⟨(Except.ok.inj hok).symm, hfree⟩

theorem Mirrors.connect (h : d.Mirrors source) {a b : Vertex} {s : EdgeState} {q : Option String}
    (hok : d.connect a b s q = .ok d') : d'.Mirrors source := by
  rcases connect_eq_ok hok with ⟨rfl, -⟩ | ⟨hadm, ha, hb, rfl⟩
  · exact ⟨h.sound, h.opened, h.named, h.listed⟩
  · exact ⟨h.sound.join rfl ha hb hadm, h.opened, h.named, h.listed⟩

end Draft

end CausalPath
