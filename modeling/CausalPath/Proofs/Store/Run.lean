import CausalPath.Proofs.Guards
import CausalPath.Proofs.Store.Inside

/-!
# Runs of a store

Every call of a store, refused or not, leads to the next store by a run of steps. So whatever calls
a graph has seen, its structures agree: `store_invariant` says so in full.
-/

namespace CausalPath

namespace Graph

variable {g g' : Graph}

/-! ## § 1. What the checks of a store check -/

theorem requireOpen_eq_ok {u : Unit} : g.requireOpen = .ok u ↔ g.phase = .building := by
  unfold requireOpen
  split <;> simp_all

theorem record_eq_ok {v : VertexId} {r : VertexRecord} :
    g.record v = .ok r ↔ g.vertices[v.index]? = some r := by
  unfold record
  split <;> simp_all

theorem recordInGraph_eq_ok {v : VertexId} {r : VertexRecord} :
    g.recordInGraph v = .ok r ↔ g.vertices[v.index]? = some r ∧ r.inGraph = true := by
  unfold recordInGraph record
  cases hr : g.vertices[v.index]? with
  | none => simp
  | some r' =>
    dsimp only
    constructor
    · intro h
      split at h
      · rename_i hin
        obtain rfl := Except.ok.inj h
        exact ⟨rfl, hin⟩
      · exact absurd h (by simp)
    · rintro ⟨h, hin⟩
      obtain rfl := Option.some.inj h
      rw [if_pos hin]

theorem requireFree_eq_ok {v : VertexId} {d : Direction} {u : Unit} :
    g.requireFree v d = .ok u ↔ (∃ r, g.vertices[v.index]? = some r) ∧ g.slot? v d = none := by
  unfold requireFree record slot?
  cases hr : g.vertices[v.index]? with
  | none => simp
  | some r =>
    dsimp only
    cases hs : r.slots.get d with
    | none => simp [hs]
    | some e => simp [hs]

theorem time?_eq_some_iff {v : VertexId} {t : Time} :
    g.time? v = some t ↔ ∃ r, g.vertices[v.index]? = some r ∧ r.time = t := by
  simp [time?]

/-- An edge is added exactly when it is admitted. -/
theorem insertEdge_eq_ok {x : EdgeRecord} {e : EdgeId} :
    g.insertEdge x = .ok (e, g') ↔ g.Admits x ∧ e = g.nextEdge ∧ g' = g.pushEdge x := by
  unfold insertEdge
  simp only [bind_eq_ok, guard_eq_ok, record_eq_ok, requireFree_eq_ok, pure_eq_ok, Prod.mk.injEq]
  constructor
  · rintro ⟨hne, -, ⟨-, hfo⟩, -, ⟨-, hft⟩, a, ha, b, hb, hle, rfl, rfl⟩
    refine ⟨⟨hne, ?_, ?_⟩, rfl, rfl⟩
    · rintro v d (⟨rfl, rfl⟩ | ⟨rfl, rfl⟩)
      · exact hfo
      · exact hft
    · exact ⟨a.time, b.time, time?_eq_some_iff.2 ⟨a, ha, rfl⟩, time?_eq_some_iff.2 ⟨b, hb, rfl⟩,
        Nat.le_of_not_lt hle⟩
  · rintro ⟨⟨hne, hfree, s, t, hs, ht, hst⟩, rfl, rfl⟩
    obtain ⟨a, ha, rfl⟩ := time?_eq_some_iff.1 hs
    obtain ⟨b, hb, rfl⟩ := time?_eq_some_iff.1 ht
    exact ⟨hne, (), ⟨⟨a, ha⟩, hfree _ _ (Or.inl ⟨rfl, rfl⟩)⟩, (),
      ⟨⟨b, hb⟩, hfree _ _ (Or.inr ⟨rfl, rfl⟩)⟩, a, ha, b, hb, Nat.not_lt.2 hst, rfl, rfl⟩

theorem tailOf_eq_ok {w : WorkerId} {a : Option Vertex} :
    g.tailOf w = .ok a ↔ (g.worker? w).isSome ∧ a = g.last? w := by
  unfold tailOf last? worker? chainOf
  cases ht : g.timelines[w.index]? with
  | none => simp
  | some t =>
    simp only [Option.map_some, Option.isSome_some, true_and, Except.ok.injEq,
      Array.getLast?_toList]
    exact eq_comm

/-! ## § 2. Calls are runs of steps -/

/-- What an append does: it starts a chain, or follows its tail by a new edge. -/
theorem Inside.extend_eq_ok (h : g.Inside) {v : VertexId} {s : EdgeState} {q : Option String}
    {a : Option EdgeId} (hok : g.extend v s q = .ok (a, g')) :
    ∃ u, g.vertex? v = some u ∧ g.contains v = false ∧
      ((g.chainOf u.worker = [] ∧ a = none ∧ g' = g.pushChain u.worker v) ∨
        ∃ tail, (g.chainOf u.worker).getLast? = some tail ∧ g.NoLater tail v ∧
          a = some g.nextEdge ∧
          g' = (g.pushEdge ⟨tail, v, s, q, true⟩).pushChain u.worker v) := by
  unfold extend at hok
  simp only [bind_eq_ok, guard_eq_ok, record_eq_ok, tailOf_eq_ok] at hok
  obtain ⟨r, hr, hout, t, ⟨-, rfl⟩, hok⟩ := hok
  refine ⟨⟨v, r.worker, r.time⟩, vertex?_eq_some_iff.2 ⟨r, hr, rfl⟩, ?_, ?_⟩
  · simpa [contains, hr] using hout
  · cases hlast : g.last? r.worker with
    | none =>
      rw [hlast] at hok
      left
      simp only [pure_eq_ok, Prod.mk.injEq] at hok
      refine ⟨?_, hok.1.symm, hok.2.symm⟩
      -- the tail of a chain exists, so only an empty chain has no last vertex
      cases htail : (g.chainOf r.worker).getLast? with
      | none => exact List.getLast?_eq_none_iff.1 htail
      | some tail =>
        obtain ⟨u, hu⟩ := Option.isSome_iff_exists.1 (h.chain _ _ (List.mem_of_getLast? htail))
        rw [last?, htail, Option.bind_some, hu] at hlast
        exact absurd hlast (by simp)
    | some u =>
      rw [hlast] at hok
      right
      simp only [guard_eq_ok, bind_eq_ok, Prod.exists, pure_eq_ok, Prod.mk.injEq] at hok
      obtain ⟨-, e, g₁, hins, rfl, rfl⟩ := hok
      obtain ⟨hadm, rfl, rfl⟩ := insertEdge_eq_ok.1 hins
      rw [last?, Option.bind_eq_some_iff] at hlast
      obtain ⟨tail, htail, hu⟩ := hlast
      obtain rfl := vertex?_id hu
      exact ⟨u.id, htail, hadm.forward, rfl, rfl⟩

theorem Inside.extend_step (h : g.Inside) (hopen : g.phase = .building) {v : VertexId} {s : EdgeState}
    {q : Option String} {a : Option EdgeId} (hok : g.extend v s q = .ok (a, g')) :
    Step g g' := by
  obtain ⟨u, hu, hout, ⟨hempty, -, rfl⟩ | ⟨tail, htail, hle, -, rfl⟩⟩ := h.extend_eq_ok hok
  · exact Step.enter v u hopen hu hout hempty
  · exact Step.extend v u tail s q hopen hu hout htail hle

theorem Step.phase (hs : Step g g') : g'.phase = .building ∨ g'.phase = .closed := by
  cases hs with
  | finish => exact Or.inr rfl
  | _ => left; assumption

theorem addWorker_grows {w : Worker} {i : WorkerId} (hok : g.addWorker w = .ok (i, g')) :
    Grows g g' := by
  unfold addWorker at hok
  split at hok
  · simp only [Except.ok.injEq, Prod.mk.injEq] at hok
    rw [hok.2]
  · rename_i hnone
    simp only [bind_eq_ok, requireOpen_eq_ok, pure_eq_ok, Prod.mk.injEq] at hok
    obtain ⟨-, hopen, -, rfl⟩ := hok
    exact .single (Step.register w hopen hnone)

theorem createVertex_eq_ok {w : WorkerId} {t : Time} {v : VertexId} :
    g.createVertex w t = .ok (v, g') ↔ g.phase = .building ∧ (g.worker? w).isSome ∧
      (∀ u, g.last? w = some u → u.time ≤ t) ∧ v = g.nextVertex ∧ g' = g.pushVertex w t := by
  unfold createVertex
  simp only [bind_eq_ok, requireOpen_eq_ok, tailOf_eq_ok]
  constructor
  · rintro ⟨-, hopen, a, ⟨hw, rfl⟩, hok⟩
    refine ⟨hopen, hw, ?_⟩
    cases hlast : g.last? w with
    | none =>
      rw [hlast] at hok
      simp only [pure_eq_ok, Prod.mk.injEq] at hok
      exact ⟨by simp, hok.1.symm, hok.2.symm⟩
    | some u =>
      rw [hlast] at hok
      simp only [guard_eq_ok, pure_eq_ok, Prod.mk.injEq] at hok
      refine ⟨?_, hok.2.1.symm, hok.2.2.symm⟩
      intro u' hu'
      obtain rfl := Option.some.inj hu'
      exact Nat.le_of_not_lt hok.1
  · rintro ⟨hopen, hw, hlate, rfl, rfl⟩
    refine ⟨(), hopen, g.last? w, ⟨hw, rfl⟩, ?_⟩
    cases hlast : g.last? w with
    | none => rfl
    | some u =>
      have hle := hlate u hlast
      simp only [guard_eq_ok, pure_eq_ok]
      exact ⟨Nat.not_lt.2 hle, trivial⟩

theorem createVertex_grows {w : WorkerId} {t : Time} {v : VertexId}
    (hok : g.createVertex w t = .ok (v, g')) : Grows g g' := by
  obtain ⟨hopen, hw, hlate, -, rfl⟩ := createVertex_eq_ok.1 hok
  exact .single (Step.create w t hopen hw hlate)

theorem append_eq_ok {v : VertexId} {s : EdgeState} {q : Option String} {a : Option EdgeId} :
    g.append v s q = .ok (a, g') ↔ g.phase = .building ∧ g.extend v s q = .ok (a, g') := by
  unfold append
  simp only [bind_eq_ok, requireOpen_eq_ok]
  exact ⟨fun ⟨_, h₁, h₂⟩ => ⟨h₁, h₂⟩, fun ⟨h₁, h₂⟩ => ⟨(), h₁, h₂⟩⟩

theorem Inside.append_grows (h : g.Inside) {v : VertexId} {s : EdgeState} {q : Option String}
    {a : Option EdgeId} (hok : g.append v s q = .ok (a, g')) : Grows g g' := by
  obtain ⟨hopen, hext⟩ := append_eq_ok.1 hok
  exact .single (h.extend_step hopen hext)

theorem contains_of_record {v : VertexId} {r : VertexRecord} (hr : g.vertices[v.index]? = some r)
    (hin : r.inGraph = true) : g.contains v = true := by
  simp [contains, hr, hin]

theorem linkVertical_eq_ok {a b : VertexId} {s : EdgeState} {q : Option String} {e : EdgeId} :
    g.linkVertical a b s q = .ok (e, g') ↔ g.phase = .building ∧ g.contains a = true ∧
      g.contains b = true ∧ g.Admits ⟨a, b, s, q, false⟩ ∧ e = g.nextEdge ∧
      g' = g.pushEdge ⟨a, b, s, q, false⟩ := by
  unfold linkVertical
  simp only [bind_eq_ok, requireOpen_eq_ok, recordInGraph_eq_ok, insertEdge_eq_ok]
  constructor
  · rintro ⟨-, hopen, ra, ⟨ha, hain⟩, rb, ⟨hb, hbin⟩, hadm⟩
    exact ⟨hopen, contains_of_record ha hain, contains_of_record hb hbin, hadm⟩
  · rintro ⟨hopen, ha, hb, hadm⟩
    simp only [contains, Option.any_eq_true] at ha hb
    obtain ⟨ra, hra⟩ := ha
    obtain ⟨rb, hrb⟩ := hb
    exact ⟨(), hopen, ra, hra, rb, hrb, hadm⟩

theorem linkVertical_grows {a b : VertexId} {s : EdgeState} {q : Option String} {e : EdgeId}
    (hok : g.linkVertical a b s q = .ok (e, g')) : Grows g g' := by
  obtain ⟨hopen, ha, hb, hadm, -, rfl⟩ := linkVertical_eq_ok.1 hok
  exact .single (Step.join _ hopen rfl ha hb hadm)

/-- What is left of a store once a vertex has joined its chain. -/
theorem Inside.extend_keeps (h : g.Inside) {v : VertexId} {s : EdgeState} {q : Option String}
    {a : Option EdgeId} (hok : g.extend v s q = .ok (a, g')) :
    g'.phase = g.phase ∧ g'.contains v = true ∧
      ∀ u, g.contains u = true → g'.contains u = true := by
  obtain ⟨x, hx, -, ⟨-, -, rfl⟩ | ⟨tail, -, -, -, rfl⟩⟩ := h.extend_eq_ok hok
  · have hsome : (g.vertex? v).isSome := by simp [hx]
    refine ⟨rfl, by simp [contains_pushChain _ hsome], ?_⟩
    intro u hu
    simp [contains_pushChain _ hsome, hu]
  · have hsome : ((g.pushEdge ⟨tail, v, s, q, true⟩).vertex? v).isSome := by simp [hx]
    refine ⟨rfl, by simp [contains_pushChain _ hsome], ?_⟩
    intro u hu
    simp [contains_pushChain _ hsome, hu]

theorem insertEdge_grows (hopen : g.phase = .building) {x : EdgeRecord} {e : EdgeId}
    (hx : x.horizontal = false) (ho : g.contains x.origin = true)
    (ht : g.contains x.target = true) (hok : g.insertEdge x = .ok (e, g')) : Grows g g' := by
  obtain ⟨hadm, -, rfl⟩ := insertEdge_eq_ok.1 hok
  exact .single (Step.join x hopen hx ho ht hadm)

/-- A call that is refused leaves the store it met. -/
theorem orKeep_grows {α : Type} {r : Except GraphError (α × Graph)}
    (h : ∀ a g', r = .ok (a, g') → Grows g g') : Grows g (g.orKeep r).2 := by
  cases r with
  | error e => exact .refl
  | ok p =>
    obtain ⟨a, g'⟩ := p
    exact h a g' rfl

/-- A link whose edge is refused may already have put its target into a chain. -/
theorem Inside.link_grows (h : g.Inside) (a b : VertexId) (s : EdgeState) (q : Option String) :
    Grows g (g.link a b s q).2 := by
  unfold link
  split
  · exact .refl
  · rename_i ra rb hread
    simp only [bind_eq_ok, requireOpen_eq_ok, recordInGraph_eq_ok, record_eq_ok, pure_eq_ok,
      Prod.mk.injEq] at hread
    obtain ⟨-, hopen, _, ⟨hra, hain⟩, _, hrb, rfl, rfl⟩ := hread
    have ha : g.contains a = true := contains_of_record hra hain
    split
    · split
      · exact .refl
      · split
        · exact .refl
        · rename_i hext
          exact .single (h.extend_step hopen hext)
        · rename_i hext
          exact .single (h.extend_step hopen hext)
    · split
      · rename_i hbin
        have hb : g.contains b = true := contains_of_record hrb hbin
        exact orKeep_grows fun e g' hok => insertEdge_grows hopen rfl ha hb hok
      · split
        · exact .refl
        · rename_i g₁ hext
          obtain ⟨hphase, hb, hkeep⟩ := h.extend_keeps hext
          refine Relation.ReflTransGen.trans (.single (h.extend_step hopen hext)) ?_
          exact orKeep_grows fun e g' hok =>
            insertEdge_grows (hphase.trans hopen) rfl (hkeep a ha) hb hok

theorem Inside.closeChain_grows (h : g.Inside) (hopen : g.phase = .building) (stop : Time)
    (w : WorkerId) :
    Grows g (g.closeChain stop w).2 ∧ (g.closeChain stop w).2.phase = .building := by
  unfold closeChain
  split
  · exact ⟨.refl, hopen⟩
  · exact ⟨.refl, hopen⟩
  · rename_i tail htail
    obtain ⟨hw, hlast⟩ := tailOf_eq_ok.1 htail
    split
    · exact ⟨.refl, hopen⟩
    · rename_i hlate
      have hstep : Step g (g.pushVertex w stop) := by
        refine Step.create w stop hopen hw ?_
        intro u hu
        obtain rfl := Option.some.inj (hlast.trans hu)
        exact Nat.le_of_not_le hlate
      have hgrown := hstep.inside h
      dsimp only
      split
      · exact ⟨.single hstep, hopen⟩
      · rename_i hext
        refine ⟨Relation.ReflTransGen.trans (.single hstep) (.single ?_), ?_⟩
        · exact hgrown.extend_step hopen hext
        · exact (hgrown.extend_keeps hext).1.trans hopen

theorem Inside.closeChains_grows (stop : Time) (ws : List WorkerId) :
    ∀ {g : Graph}, g.Inside → g.phase = .building →
      Grows g (g.closeChains stop ws).2 ∧ (g.closeChains stop ws).2.phase = .building := by
  induction ws with
  | nil =>
    intro g _ hopen
    exact ⟨.refl, hopen⟩
  | cons w rest ih =>
    intro g h hopen
    obtain ⟨hgrows, hphase⟩ := h.closeChain_grows hopen stop w
    unfold closeChains
    split
    · rename_i hclose
      rw [hclose] at hgrows hphase
      exact ⟨hgrows, hphase⟩
    · rename_i hclose
      rw [hclose] at hgrows hphase
      obtain ⟨hrest, hphase'⟩ := ih (hgrows.inside h) hphase
      exact ⟨hgrows.trans hrest, hphase'⟩

theorem Inside.close_grows (h : g.Inside) (stop : Time) : Grows g (g.close stop).2 := by
  unfold close
  split
  · exact .refl
  · rename_i hread
    have hopen := requireOpen_eq_ok.1 hread
    obtain ⟨hgrows, hphase⟩ := Inside.closeChains_grows stop g.workerIds h hopen
    split
    · rename_i hclose
      rw [hclose] at hgrows
      exact hgrows
    · rename_i hclose
      rw [hclose] at hgrows hphase
      exact hgrows.tail (Step.finish stop hphase)

end Graph

open CausalPath.Graph in
/-- Whatever a call answers, the store after it is a run of steps away. -/
theorem Mutation.run_grows {g : Graph} (h : g.Inside) (m : Mutation) : Grows g (m.run g).2 := by
  cases m with
  | addWorker w => exact orKeep_grows fun _ _ hok => addWorker_grows hok
  | createVertex w t => exact orKeep_grows fun _ _ hok => createVertex_grows hok
  | append v s q => exact orKeep_grows fun _ _ hok => h.append_grows hok
  | add v => exact orKeep_grows fun _ _ hok => h.append_grows hok
  | link a b s q => exact h.link_grows a b s q
  | linkVertical a b s q => exact orKeep_grows fun _ _ hok => linkVertical_grows hok
  | close t => exact h.close_grows t

open CausalPath.Graph in
theorem Mutation.runAll_grows_of_inside (ms : List Mutation) :
    ∀ {g : Graph}, g.Inside → Grows g (Mutation.runAll ms g) := by
  induction ms with
  | nil =>
    intro g _
    exact .refl
  | cons m rest ih =>
    intro g h
    have hstep := m.run_grows h
    exact hstep.trans (ih (hstep.inside h))

open CausalPath.Graph in
theorem Mutation.runAll_grows (ms : List Mutation) {g : Graph} (h : g.Sound) :
    Grows g (Mutation.runAll ms g) :=
  Mutation.runAll_grows_of_inside ms h.inside

theorem Graph.close_grows {g : Graph} (h : g.Sound) (stop : Time) : g.Grows (g.close stop).2 :=
  h.inside.close_grows stop

end CausalPath
