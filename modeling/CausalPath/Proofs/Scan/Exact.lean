import CausalPath.Proofs.Path.Segments
import CausalPath.Proofs.Scan.Items
import CausalPath.Proofs.Store.Restored

/-!
# What a scan visits

A scan that is not cut short visits the vertices that edges link to its start, in either direction,
and no others. It lists them chain by chain, each chain from its head to its end, and with every
vertex the edges that leave it. `scan_exact` says so of graphs that were built and of graphs that
were restored; of the first kind it adds that no scan from a vertex of a chain is cut short.
-/

namespace CausalPath

namespace Graph

variable {g : Graph} {seen queue : List VertexId} {cursor : Option VertexId} {s : Scan}

/-! ## § 1. Chains under way -/

/-- The vertices of a chain from a place on to its end. -/
inductive Runs (g : Graph) : Option VertexId → List Vertex → Prop
  | done : Runs g none []
  | step {v : Vertex} {rest : List Vertex} (hv : g.vertex? v.id = some v)
      (hrest : Runs g ((g.edgeAt? v.id .outgoingHorizontal).map (·.target.id)) rest) :
      Runs g (some v.id) (v :: rest)

/-- The vertices of a chain from its head to its end. -/
def Whole (g : Graph) (chain : List Vertex) : Prop :=
  ∃ head, g.edgeAt? head .incomingHorizontal = none ∧ g.Runs (some head) chain

/-- What has been seen is whole chains, and the chain under way up to the cursor. -/
structure Scanning (g : Graph) (seen : List VertexId) (cursor : Option VertexId) : Prop where
  fresh : ∀ v, cursor = some v → v ∉ seen
  before : ∀ a b, g.Onward a b → b ∈ seen ∨ cursor = some b → a ∈ seen
  after : ∀ a b, g.Onward a b → a ∈ seen → b ∈ seen ∨ cursor = some b

theorem scanning_nil (g : Graph) : g.Scanning [] none := by
  constructor
  · intro v hv
    exact absurd hv (by simp)
  · rintro a b - (hb | hb)
    · exact absurd hb List.not_mem_nil
    · exact absurd hb (by simp)
  · intro a b _ ha
    exact absurd ha List.not_mem_nil

/-- Between chains, what has been seen is left by no horizontal edge. -/
theorem Scanning.leads (h : g.Scanning seen none) {a b : VertexId}
    (hab : Relation.ReflTransGen g.Onward a b) (ha : a ∈ seen) : b ∈ seen := by
  induction hab with
  | refl => exact ha
  | tail _ hstep ih => exact (h.after _ _ hstep ih).resolve_right (by simp)

/-- A chain that was not seen is entered at its head. -/
theorem Scanning.enter (hw : g.Wired) (h : g.Scanning seen none) {v head : VertexId}
    (hv : v ∉ seen) (hhead : g.headOf v = .ok head) : g.Scanning seen (some head) := by
  obtain ⟨hlead, hnone⟩ := hw.headOf_eq_ok hhead
  constructor
  · intro u hu
    obtain rfl := Option.some.inj hu
    exact fun hmem => hv (h.leads hlead hmem)
  · rintro a b hab (hb | hb)
    · exact h.before a b hab (Or.inl hb)
    · obtain rfl := Option.some.inj hb
      exact absurd hab (hw.not_onward_head hnone)
  · intro a b hab ha
    exact (h.after a b hab ha).imp_right fun hb => absurd hb (by simp)

/-- The cursor goes on to the next vertex of its chain. -/
theorem Scanning.step (hw : g.Wired) {v : VertexId} (h : g.Scanning seen (some v)) :
    g.Scanning (v :: seen) ((g.edgeAt? v .outgoingHorizontal).map (·.target.id)) := by
  have hnext : ∀ b, (g.edgeAt? v .outgoingHorizontal).map (·.target.id) = some b ↔
      g.Onward v b := by
    intro b
    rw [Option.map_eq_some_iff, hw.onward_iff]
  have hfresh := h.fresh v rfl
  constructor
  · intro b hb hmem
    have hvb := (hnext b).1 hb
    -- otherwise the vertex before it, which is the one under way, would have been seen
    apply hfresh
    apply h.before v b hvb
    rcases List.mem_cons.1 hmem with rfl | hmem
    · exact Or.inr rfl
    · exact Or.inl hmem
  · rintro a b hab (hb | hb)
    · apply List.mem_cons_of_mem
      apply h.before a b hab
      rcases List.mem_cons.1 hb with rfl | hb
      · exact Or.inr rfl
      · exact Or.inl hb
    · rw [hw.before_unique hab ((hnext b).1 hb)]
      exact List.mem_cons_self
  · intro a b hab ha
    rcases List.mem_cons.1 ha with rfl | ha
    · exact Or.inr ((hnext b).2 hab)
    · rcases h.after a b hab ha with hb | hb
      · exact Or.inl (List.mem_cons_of_mem v hb)
      · obtain rfl := Option.some.inj hb
        exact Or.inl List.mem_cons_self

/-! ## § 2. Scans that are not cut short -/

/-- What a scan does from a cursor and a queue on: it ends the chain under way and goes through
whole chains, and comes to all that is linked to what it visits. -/
structure Scanned (g : Graph) (seen queue : List VertexId) (cursor : Option VertexId) (s : Scan) :
    Prop where
  items : ∃ (run : List Vertex) (chains : List (List Vertex)),
    s.items = run.flatMap g.stopItems ++ chains.flatMap g.chainItems ∧
      g.Runs cursor run ∧ ∀ c ∈ chains, g.Whole c
  under : ∀ v, cursor = some v → v ∈ s.visited
  queued : ∀ v ∈ queue, v ∈ seen ∨ v ∈ s.visited
  closed : ∀ a b, a ∈ s.visited → g.Linked a b → b ∈ seen ∨ b ∈ s.visited
  reached : ∀ b ∈ s.visited, ∃ a, (a ∈ queue ∨ cursor = some a) ∧
    Relation.ReflTransGen g.Linked a b

/-- After a vertex, the other ends of its vertical edges wait in the queue. -/
theorem Wired.mem_queue (hw : g.Wired) {v b : VertexId} :
    b ∈ ScanItem.ends (g.edgeAt? v .incomingVertical) (·.origin) ++
      (ScanItem.ends (g.edgeAt? v .outgoingVertical) (·.target) ++ queue) ↔
      (∃ e, g.Has e ∧ e.horizontal = false ∧ e.target.id = v ∧ e.origin.id = b) ∨
        (∃ e, g.Has e ∧ e.horizontal = false ∧ e.origin.id = v ∧ e.target.id = b) ∨
          b ∈ queue := by
  have hinto : ∀ e, g.edgeAt? v .incomingVertical = some e ↔
      g.Has e ∧ e.horizontal = false ∧ e.target.id = v := fun e => hw.edgeAt?_atTarget (b := false)
  have hout : ∀ e, g.edgeAt? v .outgoingVertical = some e ↔
      g.Has e ∧ e.horizontal = false ∧ e.origin.id = v := fun e => hw.edgeAt?_atOrigin (b := false)
  simp [ScanItem.ends, hinto, hout, and_assoc]

/-- The vertex under way, before the rest of the scan. -/
theorem Scanned.stop (hw : g.Wired) {v : VertexId} {here : Vertex} (hinv : g.Scanning seen (some v))
    (hv : g.vertex? v = some here)
    (h : g.Scanned (v :: seen)
      (ScanItem.ends (g.edgeAt? v .incomingVertical) (·.origin) ++
        (ScanItem.ends (g.edgeAt? v .outgoingVertical) (·.target) ++ queue))
      ((g.edgeAt? v .outgoingHorizontal).map (·.target.id)) s) :
    g.Scanned seen queue (some v) (.after (g.stopItems here) s) := by
  obtain rfl := vertex?_id hv
  have hvisited : (Scan.after (g.stopItems here) s).visited = here.id :: s.visited := by
    rw [Scan.visited_after, stopItems_vertices]
    rfl
  have hgrow : ∀ {b}, b ∈ here.id :: seen ∨ b ∈ s.visited →
      b ∈ seen ∨ b ∈ here.id :: s.visited := by
    rintro b (hb | hb)
    · rcases List.mem_cons.1 hb with rfl | hb
      · exact Or.inr List.mem_cons_self
      · exact Or.inl hb
    · exact Or.inr (List.mem_cons_of_mem _ hb)
  have hnext : ∀ b, (g.edgeAt? here.id .outgoingHorizontal).map (·.target.id) = some b ↔
      g.Onward here.id b := by
    intro b
    rw [Option.map_eq_some_iff, hw.onward_iff]
  refine ⟨?_, ?_, ?_, ?_, ?_⟩
  · obtain ⟨run, chains, hitems, hrun, hchains⟩ := h.items
    refine ⟨here :: run, chains, ?_, .step hv hrun, hchains⟩
    rw [Scan.after, hitems, List.flatMap_cons, List.append_assoc]
  · intro u hu
    obtain rfl := Option.some.inj hu
    rw [hvisited]
    exact List.mem_cons_self
  · intro u hu
    rw [hvisited]
    exact hgrow (h.queued u (hw.mem_queue.2 (Or.inr (Or.inr hu))))
  · intro a b ha hab
    rw [hvisited] at ha ⊢
    rcases List.mem_cons.1 ha with rfl | ha
    · rcases hab with ⟨e, he, ho, ht⟩ | ⟨e, he, ho, ht⟩
      · cases hh : e.horizontal with
        | true =>
          have hcursor := (hnext b).2 ⟨e, he, hh, ho, ht⟩
          exact Or.inr (List.mem_cons_of_mem _ (h.under b hcursor))
        | false => exact hgrow (h.queued b (hw.mem_queue.2 (Or.inr (Or.inl ⟨e, he, hh, ho, ht⟩))))
      · cases hh : e.horizontal with
        | true => exact Or.inl (hinv.before b here.id ⟨e, he, hh, ho, ht⟩ (Or.inr rfl))
        | false => exact hgrow (h.queued b (hw.mem_queue.2 (Or.inl ⟨e, he, hh, ht, ho⟩)))
    · exact hgrow (h.closed a b ha hab)
  · intro b hb
    rw [hvisited] at hb
    rcases List.mem_cons.1 hb with rfl | hb
    · exact ⟨_, Or.inr rfl, .refl⟩
    · obtain ⟨a, ha, hab⟩ := h.reached b hb
      rcases ha with ha | ha
      · rcases hw.mem_queue.1 ha with ⟨e, he, -, ht, ho⟩ | ⟨e, he, -, ho, ht⟩ | ha
        · exact ⟨_, Or.inr rfl, .head (Or.inr ⟨e, he, ho, ht⟩) hab⟩
        · exact ⟨_, Or.inr rfl, .head (Or.inl ⟨e, he, ho, ht⟩) hab⟩
        · exact ⟨a, Or.inl ha, hab⟩
      · exact ⟨_, Or.inr rfl, .head ((hnext a).1 ha).linked hab⟩

/-- A chain that was waiting, before the rest of the scan. -/
theorem Scanned.chain (hw : g.Wired) {v head : VertexId} {start : Vertex}
    (hinv : g.Scanning seen none) (hhead : g.headOf v = .ok head)
    (hstart : g.vertex? head = some start) (h : g.Scanned seen queue (some head) s) :
    g.Scanned seen (v :: queue) none (.after [.head start] s) := by
  obtain ⟨hlead, hnone⟩ := hw.headOf_eq_ok hhead
  have hvisited : (Scan.after [.head start] s).visited = s.visited := rfl
  refine ⟨?_, by simp, ?_, h.closed, ?_⟩
  · obtain ⟨run, chains, hitems, hrun, hchains⟩ := h.items
    refine ⟨[], run :: chains, ?_, .done, ?_⟩
    · generalize hcursor : some head = cursor at hrun
      cases hrun with
      | done => exact absurd hcursor (by simp)
      | @step u rest hu hrest =>
        obtain rfl := Option.some.inj hcursor
        obtain rfl := Option.some.inj (hstart.symm.trans hu)
        simp [Scan.after, hitems, chainItems]
    · intro c hc
      rcases List.mem_cons.1 hc with rfl | hc
      · exact ⟨head, hnone, hrun⟩
      · exact hchains c hc
  · intro u hu
    rw [hvisited]
    rcases List.mem_cons.1 hu with rfl | hu
    · -- the head was visited, and so is all that its chain leads to
      clear hhead hu
      induction hlead with
      | refl => exact Or.inr (h.under _ rfl)
      | tail _ hstep ih =>
        rcases ih with hseen | hmem
        · exact Or.inl ((hinv.after _ _ hstep hseen).resolve_right (by simp))
        · exact h.closed _ _ hmem hstep.linked
    · exact h.queued u hu
  · intro b hb
    obtain ⟨a, ha, hab⟩ := h.reached b hb
    rcases ha with ha | ha
    · exact ⟨a, Or.inl (List.mem_cons_of_mem v ha), hab⟩
    · obtain rfl := Option.some.inj ha
      exact ⟨v, Or.inl List.mem_cons_self, (linked_reverse (linked_of_onward hlead)).trans hab⟩

theorem Wired.scanFrom_scanned (h : g.Wired) (seen queue : List VertexId)
    (cursor : Option VertexId) (hinv : g.Scanning seen cursor)
    (hok : (g.scanFrom seen queue cursor).error = none) :
    g.Scanned seen queue cursor (g.scanFrom seen queue cursor) := by
  fun_induction scanFrom g seen queue cursor with
  | case1 seen queue v hseen ih => exact absurd hseen (hinv.fresh v rfl)
  | case2 => exact absurd hok (by simp)
  | case3 seen queue v hseen here hv out into next queue' ih =>
    rw [stopItems_eq hv]
    exact (ih (hinv.step h) hok).stop h hinv hv
  | case4 seen =>
    refine ⟨⟨[], [], rfl, .done, by simp⟩, by simp, by simp, ?_, ?_⟩
    · intro a b ha
      exact absurd ha List.not_mem_nil
    · intro b hb
      exact absurd hb List.not_mem_nil
  | case5 seen v rest hseen ih =>
    have hrest := ih hinv hok
    refine ⟨hrest.items, hrest.under, ?_, hrest.closed, ?_⟩
    · intro u hu
      rcases List.mem_cons.1 hu with rfl | hu
      · exact Or.inl hseen
      · exact hrest.queued u hu
    · intro b hb
      obtain ⟨a, ha, hab⟩ := hrest.reached b hb
      exact ⟨a, ha.imp_left (List.mem_cons_of_mem v), hab⟩
  | case6 => exact absurd hok (by simp)
  | case7 => exact absurd hok (by simp)
  | case8 seen v rest hseen head hhead start hstart ih =>
    exact (ih (hinv.enter h hseen hhead) hok).chain h hinv hhead hstart

/-! ## § 3. Ends of scans -/

/-- A scan yields four items at most for each vertex that it visits. -/
theorem Wired.length_scanFrom (h : g.Wired) (seen queue : List VertexId)
    (cursor : Option VertexId) (hinv : g.Scanning seen cursor)
    (hcursor : ∀ v, cursor = some v → (g.vertex? v).isSome) :
    (g.scanFrom seen queue cursor).items.length + (if cursor.isSome then 1 else 0) ≤
      4 * (g.scanFrom seen queue cursor).visited.length := by
  fun_induction scanFrom g seen queue cursor with
  | case1 seen queue v hseen ih => exact absurd hseen (hinv.fresh v rfl)
  | case2 seen queue v hseen hv =>
    have hsome := hcursor v rfl
    rw [hv] at hsome
    exact absurd hsome (by simp)
  | case3 seen queue v hseen here hv out into next queue' ih =>
    have hnext : ∀ b, next.map (·.target.id) = some b → (g.vertex? b).isSome := by
      intro b hb
      obtain ⟨e, he, rfl⟩ := Option.map_eq_some_iff.1 hb
      obtain ⟨hhas, -⟩ := h.edgeAt?_eq_some_iff.1 he
      obtain ⟨x, -, -, ht, -⟩ := edge?_eq_some_iff.1 hhas
      rw [vertex?_id ht, ht]
      rfl
    have hrest := ih (hinv.step h) hnext
    have hstop := g.length_stopItems here
    have hle := Nat.le_trans (Nat.le_add_right _ _) hrest
    rw [Scan.visited_after, stopItems_eq hv, stopItems_vertices]
    simp only [Scan.after, List.length_append, List.length_singleton, Option.isSome_some, if_true]
    omega
  | case4 => simp
  | case5 seen v rest hseen ih => exact ih hinv hcursor
  | case6 => simp
  | case7 => simp
  | case8 seen v rest hseen head hhead start hstart ih =>
    have hhere : ∀ u, some head = some u → (g.vertex? u).isSome := by
      rintro u hu
      obtain rfl := Option.some.inj hu
      rw [hstart]
      rfl
    have hrest := ih (hinv.enter h hseen hhead) hhere
    simp only [Option.isSome_some, if_true] at hrest
    have hvisited : ∀ s, (Scan.after [.head start] s).visited = s.visited := fun _ => rfl
    rw [hvisited]
    simpa [Scan.after, Nat.add_comm] using hrest

/-- From vertices of chains, a scan of a sound graph meets vertices of chains only. -/
theorem Sound.scanFrom_ok (h : g.Sound) (seen queue : List VertexId) (cursor : Option VertexId)
    (hqueue : ∀ v ∈ queue, g.contains v = true)
    (hcursor : ∀ v, cursor = some v → g.contains v = true) :
    (g.scanFrom seen queue cursor).error = none := by
  have hends : ∀ {v d e}, g.edgeAt? v d = some e → g.Drawn e := fun he =>
    h.drawn (h.wired.edgeAt?_eq_some_iff.1 he).1
  fun_induction scanFrom g seen queue cursor with
  | case1 seen queue v hseen ih => exact ih hqueue (by simp)
  | case2 seen queue v hseen hv =>
    obtain ⟨u, hu⟩ := vertex?_isSome_of_contains (hcursor v rfl)
    exact absurd (hv.symm.trans hu) (by simp)
  | case3 seen queue v hseen here hv out into next queue' ih =>
    apply ih
    · intro u hu
      simp only [queue', List.mem_append, ScanItem.ends, Option.mem_toList,
        Option.map_eq_some_iff] at hu
      rcases hu with ⟨e, he, rfl⟩ | ⟨e, he, rfl⟩ | hu
      · exact (hends he).contains_origin
      · exact (hends he).contains_target
      · exact hqueue u hu
    · intro u hu
      obtain ⟨e, he, rfl⟩ := Option.map_eq_some_iff.1 hu
      exact (hends he).contains_target
  | case4 => rfl
  | case5 seen v rest hseen ih =>
    exact ih (fun u hu => hqueue u (List.mem_cons_of_mem v hu)) hcursor
  | case6 seen v rest hseen e hhead =>
    obtain ⟨head, hok, -⟩ := h.headOf_ok (hqueue v List.mem_cons_self)
    exact absurd (hhead.symm.trans hok) (by simp)
  | case7 seen v rest hseen head hhead hstart =>
    obtain ⟨head', hok, hin⟩ := h.headOf_ok (hqueue v List.mem_cons_self)
    obtain rfl := Except.ok.inj (hhead.symm.trans hok)
    obtain ⟨u, hu⟩ := vertex?_isSome_of_contains hin
    exact absurd (hstart.symm.trans hu) (by simp)
  | case8 seen v rest hseen head hhead start hstart ih =>
    obtain ⟨head', hok, hin⟩ := h.headOf_ok (hqueue v List.mem_cons_self)
    obtain rfl := Except.ok.inj (hhead.symm.trans hok)
    apply ih
    · exact fun u hu => hqueue u (List.mem_cons_of_mem v hu)
    · intro u hu
      obtain rfl := Option.some.inj hu
      exact hin

theorem chainItems_vertices (g : Graph) (chain : List Vertex) :
    (g.chainItems chain).filterMap ScanItem.vertexId? = chain.map (·.id) := by
  have hstops : ∀ l : List Vertex,
      (l.flatMap g.stopItems).filterMap ScanItem.vertexId? = l.map (·.id) := by
    intro l
    rw [List.filterMap_flatMap]
    simp only [stopItems_vertices]
    exact List.map_eq_flatMap.symm
  cases chain with
  | nil => rfl
  | cons head rest => exact hstops (head :: rest)

/-! ## § 4. Scans from a start -/

theorem Wired.length_yields (h : g.Wired) (start : VertexId) :
    (g.scan start).yields.length ≤ 4 * g.vertices.size + 1 := by
  have hlength : (g.scan start).items.length + 0 ≤ 4 * (g.scan start).visited.length :=
    h.length_scanFrom [] [start] none (scanning_nil g) (by simp)
  have hsize : (g.scan start).visited.length ≤ g.vertices.size := by
    have hnodup := (g.scanFrom_once [] [start] none).1
    calc (g.scan start).visited.length ≤ g.vertexIds.length :=
          (hnodup.subperm (g.scanFrom_subset [] [start] none)).length_le
      _ = g.vertices.size := by simp [vertexIds]
  have herror : (g.scan start).error.toList.length ≤ 1 := by
    cases (g.scan start).error <;> simp
  simp only [Scan.yields, List.length_append, List.length_map]
  omega

theorem Wired.mem_visited_iff (h : g.Wired) {start : VertexId} (hok : (g.scan start).error = none)
    (v : VertexId) : v ∈ (g.scan start).visited ↔ Relation.ReflTransGen g.Linked start v := by
  have hscan := h.scanFrom_scanned [] [start] none (scanning_nil g) hok
  constructor
  · intro hv
    obtain ⟨a, ha, hav⟩ := hscan.reached v hv
    obtain rfl : a = start := by simpa using ha
    exact hav
  · intro hv
    induction hv with
    | refl => exact (hscan.queued start List.mem_cons_self).resolve_left List.not_mem_nil
    | tail _ hstep ih => exact (hscan.closed _ _ ih hstep).resolve_left List.not_mem_nil

/-- The items are those of whole chains, one after the other. -/
theorem Wired.items_eq_chains (h : g.Wired) {start : VertexId}
    (hok : (g.scan start).error = none) :
    ∃ chains : List (List Vertex), (g.scan start).items = chains.flatMap g.chainItems ∧
      (∀ c ∈ chains, g.Whole c) ∧ chains.flatten.map (·.id) = (g.scan start).visited := by
  have hscan := h.scanFrom_scanned [] [start] none (scanning_nil g) hok
  obtain ⟨run, chains, hitems, hrun, hchains⟩ := hscan.items
  obtain rfl : run = [] := by
    cases hrun
    rfl
  refine ⟨chains, hitems, hchains, ?_⟩
  show _ = (g.scanFrom [] [start] none).items.filterMap ScanItem.vertexId?
  rw [hitems, List.flatMap_nil, List.nil_append, List.filterMap_flatMap, List.map_flatten]
  simp [chainItems_vertices, List.flatMap]

/-- A scan of a graph ends, visits no vertex twice and reports each edge that leaves a visited
vertex once. If nothing cuts it short, it visits what is linked to its start, whole chain after
whole chain, each announced by its head; nothing cuts it short in a built graph. -/
theorem scan_exact (hg : g.Built ∨ ∃ image : Snapshot, image.restore = .ok g) (start : VertexId) :
    (g.scan start).yields.length ≤ 4 * g.vertices.size + 1 ∧
      (∀ y ∈ (g.scan start).yields.dropLast, ∃ item, y = .ok item) ∧
      (g.scan start).visited.Nodup ∧
      ((g.scan start).edges.Nodup ∧
        ∀ e, e ∈ (g.scan start).edges ↔ g.Has e ∧ e.origin.id ∈ (g.scan start).visited) ∧
      ((g.scan start).error = none →
        (∀ v, v ∈ (g.scan start).visited ↔ Relation.ReflTransGen g.Linked start v) ∧
        ∃ chains : List (List Vertex), (g.scan start).items = chains.flatMap g.chainItems ∧
          (∀ c ∈ chains, g.Whole c) ∧ chains.flatten.map (·.id) = (g.scan start).visited) ∧
      (g.Built → g.contains start = true → (g.scan start).error = none) := by
  have hw : g.Wired := by
    rcases hg with hbuilt | ⟨image, himage⟩
    · exact hbuilt.sound.wired
    · exact Snapshot.wired_of_restore himage
  refine ⟨hw.length_yields start, (g.scan start).ok_of_mem_dropLast,
    (g.scanFrom_once [] [start] none).1, hw.scanFrom_edges [] [start] none,
    fun hok => ⟨hw.mem_visited_iff hok, hw.items_eq_chains hok⟩, ?_⟩
  intro hbuilt hstart
  apply hbuilt.sound.scanFrom_ok
  · intro v hv
    obtain rfl := List.mem_singleton.1 hv
    exact hstart
  · intro v hv
    exact absurd hv (by simp)

/-- From the sleeper of `woken`, a scan comes to the first vertex of the one that woke it. -/
theorem scan_exact_of_woken : woken.contains ⟨0⟩ = true ∧ (woken.scan ⟨0⟩).error = none ∧
    ⟨2⟩ ∈ (woken.scan ⟨0⟩).visited := by
  have hbuilt : woken.Built := ⟨0, _, rfl⟩
  have hstart : woken.contains ⟨0⟩ = true := by cbv
  obtain ⟨-, -, -, -, hall, hok⟩ := scan_exact (Or.inl hbuilt) ⟨0⟩
  have herror := hok hbuilt hstart
  refine ⟨hstart, herror, ((hall herror).1 ⟨2⟩).2 ?_⟩
  -- along the wait, back along the wakeup, and back along the run before it
  have hwait : woken.Linked ⟨0⟩ ⟨1⟩ := Or.inl
    ⟨⟨⟨0⟩, ⟨⟨0⟩, ⟨0⟩, 0⟩, ⟨⟨1⟩, ⟨0⟩, 10⟩, .blocked, none, true⟩, by cbv, rfl, rfl⟩
  have hwakeup : woken.Linked ⟨1⟩ ⟨3⟩ := Or.inr
    ⟨⟨⟨2⟩, ⟨⟨3⟩, ⟨1⟩, 10⟩, ⟨⟨1⟩, ⟨0⟩, 10⟩, .default, none, false⟩, by cbv, rfl, rfl⟩
  have hrun : woken.Linked ⟨3⟩ ⟨2⟩ := Or.inr
    ⟨⟨⟨1⟩, ⟨⟨2⟩, ⟨1⟩, 4⟩, ⟨⟨3⟩, ⟨1⟩, 10⟩, .running, none, true⟩, by cbv, rfl, rfl⟩
  exact ((Relation.ReflTransGen.single hwait).tail hwakeup).tail hrun

end Graph

end CausalPath
