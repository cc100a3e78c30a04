import CausalPath.Proofs.Store.Growth
import CausalPath.Proofs.Store.Listing

/-!
# Closing a store

A vertex that is no earlier than the tail of its chain is never refused a place after the tail. So
an open store can always be closed; to close it puts filler after the tails of chains, up to the end
of the trace, and nothing else.
-/

namespace CausalPath

namespace Graph

variable {g g' g'' : Graph} {stop : Time}

/-! ## § 1. Growing is granted -/

/-- A vertex that is in no chain joins its chain, unless it is earlier than the tail. -/
theorem Sound.extend_ok (h : g.Sound) {v : VertexId} {u : Vertex} (hv : g.vertex? v = some u)
    (hout : g.contains v = false) (hlate : ∀ tail, g.last? u.worker = some tail → tail.time ≤ u.time)
    (s : EdgeState) (q : Option String) : ∃ a g', g.extend v s q = .ok (a, g') := by
  obtain ⟨r, hr, rfl⟩ := vertex?_eq_some_iff.1 hv
  have hworker := h.registered _ _ hv
  have hnot : ¬r.inGraph = true := by simpa [contains, hr] using hout
  cases hlast : g.last? r.worker with
  | none =>
    refine ⟨none, g.pushChain r.worker v, ?_⟩
    unfold Graph.extend
    simp only [bind_eq_ok, guard_eq_ok, record_eq_ok, tailOf_eq_ok]
    exact ⟨r, hr, hnot, none, ⟨hworker, hlast.symm⟩, rfl⟩
  | some tail =>
    obtain ⟨htail, hshown⟩ := last?_eq_some_iff.1 hlast
    have hle := hlate tail hlast
    have hadm : g.Admits ⟨tail.id, v, s, q, true⟩ := by
      refine ⟨?_, ?_, tail.time, r.time, by rw [time?_eq, hshown]; rfl, by rw [time?_eq, hv]; rfl, hle⟩
      · intro heq
        have heq : tail.id = v := heq
        rw [← heq, h.contains_tail htail] at hout
        exact absurd hout (by simp)
      · rintro a d (⟨rfl, rfl⟩ | ⟨rfl, rfl⟩)
        · exact h.slot?_tail htail
        · exact h.slot?_eq_none hout _
    refine ⟨some g.nextEdge, (g.pushEdge ⟨tail.id, v, s, q, true⟩).pushChain r.worker v, ?_⟩
    unfold Graph.extend
    simp only [bind_eq_ok, guard_eq_ok, record_eq_ok, tailOf_eq_ok]
    refine ⟨r, hr, hnot, some tail, ⟨hworker, hlast.symm⟩, ?_⟩
    simp only [guard_eq_ok, bind_eq_ok, Prod.exists, pure_eq_ok]
    exact ⟨Nat.not_lt.2 hle, _, _, insertEdge_eq_ok.2 ⟨hadm, rfl, rfl⟩, rfl⟩

/-- A new vertex that is no earlier than the tail joins its chain. -/
theorem Sound.extend_new_ok (h : g.Sound) {w : WorkerId} {t : Time} (hw : (g.worker? w).isSome)
    (hlate : ∀ tail, g.last? w = some tail → tail.time ≤ t) (s : EdgeState) (q : Option String) :
    ∃ a, (g.pushVertex w t).extend g.nextVertex s q = .ok (a, g.grown w t s q) := by
  have hnew : (g.pushVertex w t).vertex? g.nextVertex = some ⟨g.nextVertex, w, t⟩ := by
    rw [vertex?_pushVertex, if_pos rfl]
  have hout : (g.pushVertex w t).contains g.nextVertex = false := by
    rw [contains_pushVertex]
    simp [contains, nextVertex]
  have hlast : ∀ tail, (g.pushVertex w t).last? w = some tail → tail.time ≤ t := by
    intro tail htail
    obtain ⟨hchain, hshown⟩ := last?_eq_some_iff.1 htail
    obtain ⟨u, hu⟩ := vertex?_isSome_of_contains (h.contains_tail hchain)
    rw [vertex?_pushVertex_of_some w t hu] at hshown
    obtain rfl := Option.some.inj hshown
    exact hlate u (last?_eq_some_iff.2 ⟨hchain, hu⟩)
  obtain ⟨a, g', hok⟩ := (h.create hw t).extend_ok hnew hout hlast s q
  obtain rfl := grown_of_extend h hw hok
  exact ⟨a, hok⟩

/-! ## § 2. Closing is granted -/

/-- The chain of a worker, if it has one, ends before `stop`. -/
def endsBefore (g : Graph) (stop : Time) (w : WorkerId) : Bool :=
  (g.last? w).any (·.time < stop)

theorem endsBefore_iff {w : WorkerId} :
    g.endsBefore stop w = true ↔ ∃ tail, g.last? w = some tail ∧ tail.time < stop := by
  simp only [endsBefore, Option.any_eq_true, decide_eq_true_eq]

/-- To close a chain is granted, and grows the chain if it ends before `stop`. -/
theorem Sound.closeChain_eq (h : g.Sound) (stop : Time) {w : WorkerId}
    (hw : (g.worker? w).isSome) :
    g.closeChain stop w =
      (.ok (), if g.endsBefore stop w then g.grown w stop .noEdge none else g) := by
  have hread : g.tailOf w = .ok (g.last? w) := tailOf_eq_ok.2 ⟨hw, rfl⟩
  unfold closeChain endsBefore
  rw [hread]
  cases hlast : g.last? w with
  | none => rfl
  | some tail =>
    by_cases hlate : stop ≤ tail.time
    · simp [hlate, Nat.not_lt.2 hlate]
    · have hearlier : ∀ u, g.last? w = some u → u.time ≤ stop := by
        intro u hu
        obtain rfl := Option.some.inj (hlast.symm.trans hu)
        exact Nat.le_of_not_le hlate
      obtain ⟨a, hok⟩ := h.extend_new_ok hw hearlier .noEdge none
      simp [hlate, Nat.lt_of_not_le hlate, hok]

theorem Sound.closeChain_ok (h : g.Sound) (stop : Time) {w : WorkerId}
    (hw : (g.worker? w).isSome) : (g.closeChain stop w).1 = .ok () :=
  congrArg Prod.fst (h.closeChain_eq stop hw)

theorem Sound.closeChains_ok (stop : Time) (ws : List WorkerId) :
    ∀ {g : Graph}, g.Sound → g.phase = .building → (∀ w ∈ ws, (g.worker? w).isSome) →
      (g.closeChains stop ws).1 = .ok () := by
  induction ws with
  | nil =>
    intro g _ _ _
    rfl
  | cons w rest ih =>
    intro g h hopen hws
    obtain ⟨hgrows, hphase⟩ := h.inside.closeChain_grows hopen stop w
    have hok := h.closeChain_ok stop (hws w List.mem_cons_self)
    unfold closeChains
    split
    · rename_i hclose
      rw [hclose] at hok
      exact hok
    · rename_i g₁ hclose
      rw [hclose] at hgrows hphase
      refine ih (hgrows.sound h) hphase ?_
      intro w' hw'
      exact (Grows.keeps h hgrows).isSome_worker? (hws w' (List.mem_cons_of_mem _ hw'))

theorem isSome_of_mem_workerIds {w : WorkerId} (hw : w ∈ g.workerIds) : (g.worker? w).isSome := by
  obtain ⟨i, hi, rfl⟩ := List.mem_map.1 hw
  simp [worker?, List.mem_range.1 hi]

/-- A store that takes calls can be closed at any time. -/
theorem Sound.close_ok (h : g.Sound) (hopen : g.phase = .building) (stop : Time) :
    (g.close stop).1 = .ok () := by
  have hok := closeChains_ok stop g.workerIds h hopen fun w => isSome_of_mem_workerIds
  have hread : g.requireOpen = .ok () := requireOpen_eq_ok.2 hopen
  unfold close
  rw [hread]
  dsimp only
  split
  · rename_i hclose
    rw [hclose] at hok
    exact hok
  · rfl

/-! ## § 3. What closing adds -/

/-- The second store has the first one's edges and, after tails of chains, filler that takes the
time up to `stop`. -/
structure Pads (stop : Time) (g g' : Graph) : Prop where
  keeps : g.Keeps g'
  filler : ∀ e ∈ g'.edgeList, e ∈ g.edgeList ∨ (e.horizontal = true ∧ e.state = .noEdge ∧
    0 < e.duration ∧ g.contains e.target.id = false)
  chainOf : ∀ w, g'.chainOf w = g.chainOf w ∨ ∃ tail n, g.last? w = some tail ∧
    tail.time < stop ∧ g'.vertex? n = some ⟨n, w, stop⟩ ∧ g'.chainOf w = g.chainOf w ++ [n]
  times : ∀ v t, g'.time? v = some t → g.time? v = some t ∨ t = stop

theorem Pads.refl (g : Graph) : Pads stop g g :=
  ⟨.refl g, fun _ he => Or.inl he, fun _ => Or.inl rfl, fun _ _ ht => Or.inl ht⟩

/-- A chain that is as it was has the tail that it had. -/
theorem Keeps.last?_of_chainOf (h : g.Sound) (hk : g.Keeps g') {w : WorkerId}
    (hchain : g'.chainOf w = g.chainOf w) : g'.last? w = g.last? w := by
  rw [last?, last?, hchain]
  cases htail : (g.chainOf w).getLast? with
  | none => rfl
  | some v =>
    obtain ⟨u, hu⟩ := vertex?_isSome_of_contains (h.contains_tail htail)
    rw [Option.bind_some, Option.bind_some, hu, hk.vertex? v u hu]

theorem Pads.trans (hg : g.Sound) (h : Pads stop g g') (h' : Pads stop g' g'') :
    Pads stop g g'' := by
  refine ⟨h.keeps.trans h'.keeps, ?_, ?_, ?_⟩
  · intro e he
    rcases h'.filler e he with he | ⟨hh, hs, hd, hout⟩
    · exact h.filler e he
    · refine Or.inr ⟨hh, hs, hd, ?_⟩
      cases hin : g.contains e.target.id with
      | false => rfl
      | true =>
        rw [h.keeps.contains _ hin] at hout
        exact absurd hout (by simp)
  · intro w
    rcases h.chainOf w with hw | ⟨tail, n, hlast, hlt, hn, hw⟩
    · rw [← hw]
      rcases h'.chainOf w with hw' | ⟨tail, n, hlast, hrest⟩
      · exact Or.inl hw'
      · exact Or.inr ⟨tail, n, (h.keeps.last?_of_chainOf hg hw).symm.trans hlast, hrest⟩
    · right
      rcases h'.chainOf w with hw' | ⟨tail', n', hlast', hlt', -⟩
      · exact ⟨tail, n, hlast, hlt, h'.keeps.vertex? n _ hn, hw'.trans hw⟩
      · -- the chain ends at `stop` already
        have hlast : g'.last? w = some ⟨n, w, stop⟩ :=
          last?_eq_some_iff.2 ⟨by rw [hw, List.getLast?_concat], hn⟩
        obtain rfl := Option.some.inj (hlast.symm.trans hlast')
        exact absurd hlt' (Nat.lt_irrefl _)
  · intro v t ht
    rcases h'.times v t ht with ht | ht
    · exact h.times v t ht
    · exact Or.inr ht

theorem Sound.grown_pads (h : g.Sound) {w : WorkerId} {tail : Vertex}
    (hlast : g.last? w = some tail) (hlt : tail.time < stop) :
    Pads stop g (g.grown w stop .noEdge none) := by
  obtain ⟨htail, hshown⟩ := last?_eq_some_iff.1 hlast
  have hw : (g.worker? w).isSome := h.isSome_worker?_of_last? hlast
  refine ⟨⟨?_, fun v u hu => vertex?_grown_of_some hu, ?_, ?_, ?_, ?_⟩, ?_, ?_, ?_⟩
  · rw [grown, hlast]
    rfl
  · intro v hv
    rw [contains_grown, hv, Bool.or_true]
  · intro i x hx
    rw [grown, hlast]
    exact edgeRecord?_pushEdge_of_some hx
  · intro i x hx
    rw [worker?_grown, hx]
  · intro i
    rw [chainOf_grown hw]
    split
    · rename_i hi
      rw [hi]
      exact List.prefix_append _ _
    · exact List.prefix_rfl
  · intro e he
    rw [edgeList_grown h, List.mem_append, grownEdges, hlast] at he
    rcases he with he | he
    · exact Or.inl he
    · obtain rfl := List.mem_singleton.1 he
      refine Or.inr ⟨rfl, rfl, Nat.sub_pos_of_lt hlt, ?_⟩
      simp [grownVertex, contains, nextVertex]
  · intro i
    rw [chainOf_grown hw]
    split
    · rename_i hi
      subst hi
      exact Or.inr ⟨tail, g.nextVertex, hlast, hlt, vertex?_grown_new g i stop .noEdge none, rfl⟩
    · exact Or.inl rfl
  · intro v t ht
    exact (time?_grown_cases ht).symm.imp_right And.right

theorem Sound.closeChain_pads (h : g.Sound) {w : WorkerId} (hw : (g.worker? w).isSome) :
    Pads stop g (g.closeChain stop w).2 := by
  rw [h.closeChain_eq stop hw]
  dsimp only
  split
  · rename_i hlags
    obtain ⟨tail, hlast, hlt⟩ := endsBefore_iff.1 hlags
    exact h.grown_pads hlast hlt
  · exact .refl g

theorem Sound.closeChains_pads (ws : List WorkerId) :
    ∀ {g : Graph}, g.Sound → g.phase = .building → (∀ w ∈ ws, (g.worker? w).isSome) →
      Pads stop g (g.closeChains stop ws).2 := by
  induction ws with
  | nil =>
    intro g _ _ _
    exact .refl g
  | cons w rest ih =>
    intro g h hopen hws
    obtain ⟨hgrows, hphase⟩ := h.inside.closeChain_grows hopen stop w
    have hpads : Pads stop g (g.closeChain stop w).2 :=
      h.closeChain_pads (hws w List.mem_cons_self)
    unfold closeChains
    split
    · rename_i hclose
      rw [hclose] at hpads
      exact hpads
    · rename_i g₁ hclose
      rw [hclose] at hgrows hphase hpads
      refine hpads.trans h (ih (hgrows.sound h) hphase ?_)
      intro w' hw'
      exact hpads.keeps.isSome_worker? (hws w' (List.mem_cons_of_mem _ hw'))

/-- To close a store pads its chains; a store that is not open stays as it is. -/
theorem Sound.close_pads (h : g.Sound) (stop : Time) : Pads stop g (g.close stop).2 := by
  unfold close
  split
  · exact .refl g
  · rename_i hread
    have hopen := requireOpen_eq_ok.1 hread
    have hpads : Pads stop g (g.closeChains stop g.workerIds).2 :=
      closeChains_pads g.workerIds h hopen fun w => isSome_of_mem_workerIds
    split
    · rename_i hclose
      rw [hclose] at hpads
      exact hpads
    · rename_i hclose
      rw [hclose] at hpads
      exact ⟨⟨hpads.keeps.startTime, hpads.keeps.vertex?, hpads.keeps.contains,
        hpads.keeps.edgeRecord?, hpads.keeps.worker?, hpads.keeps.chainOf⟩, hpads.filler,
        hpads.chainOf, hpads.times⟩

/-! ## § 4. Where closed chains end -/

/-- The chain of a worker, if it has one, ends no earlier than `stop`. -/
def Reaches (g : Graph) (stop : Time) (w : WorkerId) : Prop :=
  ∀ tail, g.last? w = some tail → stop ≤ tail.time

/-- A chain that ends late enough is not padded. -/
theorem Pads.reaches (h : g.Sound) (hp : Pads stop g g') {w : WorkerId} (hw : g.Reaches stop w) :
    g'.Reaches stop w := by
  rcases hp.chainOf w with hchain | ⟨tail, n, hlast, hlt, -⟩
  · intro tail htail
    exact hw tail ((hp.keeps.last?_of_chainOf h hchain).symm.trans htail)
  · exact absurd hlt (Nat.not_lt.2 (hw tail hlast))

theorem Sound.closeChain_reaches (h : g.Sound) {w : WorkerId} (hw : (g.worker? w).isSome) :
    (g.closeChain stop w).2.Reaches stop w := by
  rw [h.closeChain_eq stop hw]
  intro tail htail
  dsimp only at htail
  split at htail
  · rw [last?_grown h hw, if_pos rfl] at htail
    exact Nat.le_of_eq (congrArg Vertex.time (Option.some.inj htail))
  · rename_i hlags
    exact Nat.le_of_not_lt fun hlt => hlags (endsBefore_iff.2 ⟨tail, htail, hlt⟩)

theorem Sound.closeChains_reaches (ws : List WorkerId) :
    ∀ {g : Graph}, g.Sound → g.phase = .building → (∀ w ∈ ws, (g.worker? w).isSome) →
      ∀ w ∈ ws, (g.closeChains stop ws).2.Reaches stop w := by
  induction ws with
  | nil =>
    intro g _ _ _ w hw
    exact absurd hw List.not_mem_nil
  | cons x rest ih =>
    intro g h hopen hws w hw
    have hx := hws x List.mem_cons_self
    obtain ⟨hgrows, hphase⟩ := h.inside.closeChain_grows hopen stop x
    have hok := h.closeChain_ok stop hx
    have hreaches : (g.closeChain stop x).2.Reaches stop x := h.closeChain_reaches hx
    have hpads : Pads stop g (g.closeChain stop x).2 := h.closeChain_pads hx
    unfold closeChains
    split
    · rename_i hclose
      rw [hclose] at hok
      exact absurd hok (by simp)
    · rename_i g₁ hclose
      rw [hclose] at hgrows hphase hreaches hpads
      have hrest : ∀ w' ∈ rest, (g₁.worker? w').isSome := by
        intro w' hw'
        exact hpads.keeps.isSome_worker? (hws w' (List.mem_cons_of_mem _ hw'))
      rcases List.mem_cons.1 hw with rfl | hw
      · exact (closeChains_pads rest (hgrows.sound h) hphase hrest).reaches (hgrows.sound h)
          hreaches
      · exact ih (hgrows.sound h) hphase hrest w hw

/-- When a store is closed no chain ends earlier. -/
theorem Sound.close_reaches (h : g.Sound) (hopen : g.phase = .building) (stop : Time)
    (w : WorkerId) : (g.close stop).2.Reaches stop w := by
  have hok := closeChains_ok stop g.workerIds h hopen fun w => isSome_of_mem_workerIds
  have hreaches : ∀ w ∈ g.workerIds, (g.closeChains stop g.workerIds).2.Reaches stop w :=
    closeChains_reaches g.workerIds h hopen fun w => isSome_of_mem_workerIds
  have hread : g.requireOpen = .ok () := requireOpen_eq_ok.2 hopen
  have hpads := h.close_pads stop
  by_cases hw : w ∈ g.workerIds
  · unfold close
    rw [hread]
    dsimp only
    split
    · rename_i hclose
      rw [hclose] at hok
      exact absurd hok (by simp)
    · rename_i hclose
      rw [hclose] at hreaches
      exact hreaches w hw
  · -- a worker that is not registered has no chain
    have hempty : g.chainOf w = [] := by
      have hsize : ¬w.index < g.timelines.size := by
        intro hlt
        exact hw (List.mem_map.2 ⟨w.index, List.mem_range.2 hlt, rfl⟩)
      simp [chainOf, hsize]
    have hlast : g.last? w = none := by simp [last?, hempty]
    refine hpads.reaches h ?_
    intro tail htail
    exact absurd (hlast.symm.trans htail) (by simp)

end Graph

end CausalPath
