import CausalPath.Proofs.Build.Steps
import CausalPath.Proofs.Search.Agreement

/-!
# What a builder shows of one host

Workers, vertices and edges of a graph are numbered across all hosts. `HostView` is what a builder
shows of one host without these numbers: workers by kind, vertices by their place in a chain, CPUs
by number. What a graph shows of a host is kept when the graph grows, up to what was added.
-/

namespace CausalPath

open CausalPath.Graph

/-! ## § 1. Views -/

/-- A vertex of a chain, with the state and the label of the edge that the chain comes by. -/
structure Stop where
  time : Option Time
  arrival : Option (EdgeState × Option String)
  deriving DecidableEq

/-- A vertex by its place in a chain. -/
structure Place where
  worker : WorkerKind
  position : Nat
  deriving DecidableEq

/-- A vertical edge between two workers of a host. -/
structure HostEdge where
  origin : Place
  target : Place
  state : EdgeState
  qualifier : Option String
  deriving DecidableEq

/-- What a builder shows of a host. -/
@[ext]
structure HostView where
  worker : WorkerKind → Option Worker
  chain : WorkerKind → List Stop
  /-- In the order in which they were drawn. -/
  edges : List HostEdge
  status : WorkerKind → StatusPair
  running : Nat → Option WorkerKind
  contexts : Nat → ContextStack
  /-- Whether the CPU has a worker for its interrupts. -/
  kernel : Nat → Bool

namespace Graph

/-- A vertex as it shows in its chain. -/
def stop (g : Graph) (v : VertexId) : Stop :=
  ⟨g.time? v, (g.edgeAt? v .incomingHorizontal).map fun e => (e.state, e.qualifier)⟩

/-- The chain of the worker with a key. -/
def stops (g : Graph) (k : WorkerKey) : List Stop :=
  ((g.findWorker? k).map g.chainOf).getD [] |>.map g.stop

/-- The place of a vertex, if it is a vertex of the host. -/
def placeOn? (g : Graph) (host : String) (u : Vertex) : Option Place :=
  ((g.worker? u.worker).filter (·.host = host)).map fun x =>
    ⟨x.kind, (g.chainOf u.worker).idxOf u.id⟩

/-- A vertical edge, if it is one between two workers of the host. -/
def hostEdge? (g : Graph) (host : String) (e : Edge) : Option HostEdge :=
  if e.horizontal then none
  else
    (g.placeOn? host e.origin).bind fun origin =>
      (g.placeOn? host e.target).map fun target => ⟨origin, target, e.state, e.qualifier⟩

/-- The vertical edges between two workers of a host. -/
def hostEdges (g : Graph) (host : String) : List HostEdge :=
  g.edgeList.filterMap (g.hostEdge? host)

end Graph

/-- What a builder shows of a host. -/
def Builder.on (b : Builder) (host : String) : HostView where
  worker kind := (b.graph.findWorker? ⟨host, kind⟩).bind b.graph.worker?
  chain kind := b.graph.stops ⟨host, kind⟩
  edges := b.graph.hostEdges host
  status kind := ((b.graph.findWorker? ⟨host, kind⟩).map b.system.statusPair).getD default
  running n := (b.system.current? ⟨host, n⟩).bind fun w => (b.graph.worker? w).map (·.kind)
  contexts n := b.system.contextStack ⟨host, n⟩
  kernel n := (b.system.kernelWorker? ⟨host, n⟩).isSome

/-- No packet waits, what is known of a system is about its own workers, and no edge leads from one
host to another. -/
structure Builder.Housed (b : Builder) : Prop where
  idle : b.links = .empty
  running : ∀ c w, b.system.current? c = some w →
    ∃ kind, b.graph.findWorker? ⟨c.host, kind⟩ = some w
  kernels : ∀ c w, b.system.kernelWorker? c = some w →
    b.graph.findWorker? ⟨c.host, .kernel c.number⟩ = some w
  statuses : ∀ w p, b.system.statuses.get? w = some p → (b.graph.worker? w).isSome
  apart : ∀ e, b.graph.Has e → ∃ x y, b.graph.worker? e.origin.worker = some x ∧
    b.graph.worker? e.target.worker = some y ∧ x.host = y.host

/-! ## § 2. Workers by key -/

namespace Graph

variable {g g' : Graph} {k k' : WorkerKey} {w : WorkerId}

/-- The worker of a key has that key. -/
theorem Sound.worker?_of_find (h : g.Sound) (hw : g.findWorker? k = some w) :
    ∃ x, g.worker? w = some x ∧ x.key = k :=
  (h.found_iff k w).1 hw

theorem Sound.kind_of_find (h : g.Sound) (hw : g.findWorker? k = some w) :
    (g.worker? w).map (·.kind) = some k.kind := by
  obtain ⟨x, hx, rfl⟩ := h.worker?_of_find hw
  rw [hx]
  rfl

theorem Sound.isSome_of_find (h : g.Sound) (hw : g.findWorker? k = some w) :
    (g.worker? w).isSome := by
  obtain ⟨x, hx, -⟩ := h.worker?_of_find hw
  rw [hx]
  rfl

/-- A worker has one key. -/
theorem Sound.key_unique (h : g.Sound) (hw : g.findWorker? k = some w)
    (hw' : g.findWorker? k' = some w) : k = k' := by
  obtain ⟨x, hx, rfl⟩ := h.worker?_of_find hw
  obtain ⟨y, hy, rfl⟩ := h.worker?_of_find hw'
  rw [Option.some.inj (hx.symm.trans hy)]

/-- Graphs with the same workers find the same workers. -/
theorem Sound.findWorker?_congr (h : g.Sound) (h' : g'.Sound)
    (heq : ∀ i, g'.worker? i = g.worker? i) (k : WorkerKey) :
    g'.findWorker? k = g.findWorker? k := by
  apply Option.ext
  intro i
  rw [h.found_iff, h'.found_iff, heq]

/-- A worker that is added is found. -/
theorem findWorker?_addWorker {x : Worker} (hok : g.addWorker x = .ok (w, g')) :
    g'.findWorker? x.key = some w := by
  unfold addWorker at hok
  split at hok
  · rename_i hfind
    obtain ⟨rfl, rfl⟩ := Prod.mk.inj (Except.ok.inj hok)
    exact hfind
  · rename_i hnone
    simp only [bind_eq_ok, pure_eq_ok, Prod.mk.injEq] at hok
    obtain ⟨-, -, rfl, rfl⟩ := hok
    exact (findWorker?_pushWorker _ _ _).trans (if_pos rfl)

/-! ## § 3. What a larger graph shows -/

variable {e : Edge} {v : VertexId} {host : String}

/-- A vertex keeps its place in its chain. -/
theorem Keeps.placeOn? (hk : g.Keeps g') (h : g.Sound) {u : Vertex}
    (hu : g.vertex? u.id = some u) (hin : g.contains u.id = true) (host : String) :
    g'.placeOn? host u = g.placeOn? host u := by
  obtain ⟨x, hx⟩ := Option.isSome_iff_exists.1 (h.registered _ _ hu)
  have hmem : u.id ∈ g.chainOf u.worker := by
    refine (h.mem_chain u.worker u.id).2 ⟨hin, ?_⟩
    rw [parent?_eq, hu]
    rfl
  obtain ⟨later, hlater⟩ := hk.chainOf u.worker
  rw [Graph.placeOn?, Graph.placeOn?, hx, hk.worker? _ x hx, ← hlater,
    List.idxOf_append_of_mem hmem]

/-- A vertex has a place on the host of its worker, and on no other. -/
theorem placeOn?_eq_some {u : Vertex} {p : Place} (hp : g.placeOn? host u = some p) :
    ∃ x, g.worker? u.worker = some x ∧ x.host = host := by
  obtain ⟨x, hx, -⟩ := Option.map_eq_some_iff.1 hp
  obtain ⟨hx, hhost⟩ := Option.filter_eq_some_iff.1 hx
  exact ⟨x, hx, by simpa using hhost⟩

theorem placeOn?_elsewhere {u : Vertex} {p : Place} (hp : g.placeOn? host u = some p)
    {other : String} (hne : other ≠ host) : g.placeOn? other u = none := by
  obtain ⟨x, hx, hhost⟩ := placeOn?_eq_some hp
  rw [Option.eq_none_iff_forall_ne_some]
  intro q hq
  obtain ⟨y, hy, hother⟩ := placeOn?_eq_some hq
  obtain rfl := Option.some.inj (hx.symm.trans hy)
  exact hne (hother.symm.trans hhost)

theorem Keeps.hostEdge? (hk : g.Keeps g') (h : g.Sound) (he : g.Has e) (host : String) :
    g'.hostEdge? host e = g.hostEdge? host e := by
  have hd := h.drawn he
  rw [Graph.hostEdge?, Graph.hostEdge?, hk.placeOn? h hd.origin hd.contains_origin,
    hk.placeOn? h hd.target hd.contains_target]

/-- The vertical edges of a host are those that it had, then those among the new edges. -/
theorem Keeps.hostEdges (hk : g.Keeps g') (h : g.Sound) {l : List Edge}
    (hlist : g'.edgeList = g.edgeList ++ l) (host : String) :
    g'.hostEdges host = g.hostEdges host ++ l.filterMap (g'.hostEdge? host) := by
  rw [Graph.hostEdges, Graph.hostEdges, hlist, List.filterMap_append]
  congr 1
  apply List.filterMap_congr
  intro e he
  exact hk.hostEdge? h (mem_edgeList.1 he) host

/-- A vertex shows as before when no new edge of its chain arrives at it. -/
theorem Keeps.stop (hk : g.Keeps g') (h : g.Sound) (h' : g'.Sound) (hv : g.contains v = true)
    (hold : ∀ e, g'.Has e → e.horizontal = true → e.target.id = v → g.Has e) :
    g'.stop v = g.stop v := by
  obtain ⟨u, hu⟩ := vertex?_isSome_of_contains hv
  have harrival : g'.edgeAt? v .incomingHorizontal = g.edgeAt? v .incomingHorizontal := by
    apply Option.ext
    intro e
    rw [h.into_iff, h'.into_iff]
    constructor
    · rintro ⟨he, hh, htarget⟩
      exact ⟨hold e he hh htarget, hh, htarget⟩
    · rintro ⟨he, hh, htarget⟩
      exact ⟨hk.has he, hh, htarget⟩
  rw [Graph.stop, Graph.stop, time?_eq, time?_eq, hu, hk.vertex? v u hu, harrival]

/-- A chain shows as before when it has no new vertex and no new edge arrives at it. -/
theorem Keeps.stops (hk : g.Keeps g') (h : g.Sound) (h' : g'.Sound)
    (hfind : g'.findWorker? k = g.findWorker? k)
    (hchain : ∀ w, g.findWorker? k = some w → g'.chainOf w = g.chainOf w)
    (hold : ∀ e, g'.Has e → e.horizontal = true →
      (∃ w, g.findWorker? k = some w ∧ e.target.id ∈ g.chainOf w) → g.Has e) :
    g'.stops k = g.stops k := by
  rw [Graph.stops, Graph.stops, hfind]
  cases hw : g.findWorker? k with
  | none => rfl
  | some w =>
    simp only [Option.map_some, Option.getD_some, hchain w hw]
    apply List.map_congr_left
    intro v hv
    refine hk.stop h h' ((h.mem_chain w v).1 hv).1 ?_
    rintro e he hh rfl
    exact hold e he hh ⟨w, hw, hv⟩

/-! ## § 4. What a grown chain shows -/

variable {t : Time} {s : EdgeState} {q : Option String}

section Grown

variable (h : g.Sound) (hopen : g.phase = .building) (hw : (g.worker? w).isSome)
  (hlate : ∀ tail, g.last? w = some tail → tail.time ≤ t)

include h hopen hw hlate

/-- Growing a chain leaves the vertices before as they are. -/
theorem Sound.stop_grown {v : VertexId} (hv : g.contains v = true) :
    (g.grown w t s q).stop v = g.stop v := by
  have hgrows := h.grown_grows hopen hw hlate s q
  refine (hgrows.keeps h).stop h (hgrows.sound h) hv ?_
  rintro e he - rfl
  rcases h.has_grown he with hold | ⟨tail, -, rfl⟩
  · exact hold
  · obtain ⟨u, hu⟩ := vertex?_isSome_of_contains hv
    exact absurd rfl (ne_nextVertex hu)

/-- The edge of the growth arrives at the new vertex, unless the chain was empty. -/
theorem Sound.stop_grown_new :
    (g.grown w t s q).stop g.nextVertex =
      ⟨some t, if g.chainOf w = [] then none else some (s, q)⟩ := by
  have hs' := (h.grown_grows hopen hw hlate s q).sound h
  have htime : (g.grown w t s q).time? g.nextVertex = some t := by
    rw [time?_eq, vertex?_grown_new]
    rfl
  have harrival : (g.grown w t s q).edgeAt? g.nextVertex .incomingHorizontal =
      (g.last? w).map fun tail => ⟨g.nextEdge, tail, g.grownVertex w t, s, q, true⟩ := by
    apply Option.ext
    intro e
    rw [hs'.into_iff, Option.map_eq_some_iff]
    constructor
    · rintro ⟨he, -, htarget⟩
      rcases h.has_grown he with hold | ⟨tail, hlast, heq⟩
      · exact absurd htarget (h.ends_ne_nextVertex hold).2
      · exact ⟨tail, hlast, heq.symm⟩
    · rintro ⟨tail, hlast, rfl⟩
      refine ⟨mem_edgeList.1 ?_, rfl, rfl⟩
      rw [edgeList_grown h, grownEdges, hlast]
      simp
  have hempty : g.last? w = none ↔ g.chainOf w = [] := by
    constructor
    · intro hnone
      cases htail : (g.chainOf w).getLast? with
      | none => exact List.getLast?_eq_none_iff.1 htail
      | some v =>
        obtain ⟨u, hu⟩ := vertex?_isSome_of_contains (h.contains_tail htail)
        simp [last?, htail, hu] at hnone
    · intro hnil
      simp [last?, hnil]
  rw [stop, htime, harrival]
  cases hlast : g.last? w with
  | none => simp [hempty.1 hlast]
  | some tail =>
    have hne : g.chainOf w ≠ [] := fun hnil => by simp [hempty.2 hnil] at hlast
    simp [hne]

/-- The chain of the worker shows the new vertex, and the other chains are as before. -/
theorem Sound.stops_grown (hfind : g.findWorker? k = some w) (k' : WorkerKey) :
    (g.grown w t s q).stops k' = if k = k' then
      g.stops k ++ [⟨some t, if g.stops k = [] then none else some (s, q)⟩]
    else g.stops k' := by
  have hgrows := h.grown_grows hopen hw hlate s q
  have hfinds : (g.grown w t s q).findWorker? k' = g.findWorker? k' :=
    h.findWorker?_congr (hgrows.sound h) (worker?_grown g w t s q) k'
  have hold : ∀ i, (g.chainOf i).map (g.grown w t s q).stop = (g.chainOf i).map g.stop := by
    intro i
    apply List.map_congr_left
    intro v hv
    exact h.stop_grown hopen hw hlate ((h.mem_chain i v).1 hv).1
  rw [stops, hfinds]
  by_cases hk : k = k'
  · subst hk
    have hstops : g.stops k = (g.chainOf w).map g.stop := by rw [stops, hfind]; rfl
    rw [if_pos rfl, hstops, hfind, Option.map_some, Option.getD_some, chainOf_grown hw, if_pos rfl,
      List.map_append, hold, List.map_singleton, h.stop_grown_new hopen hw hlate]
    simp only [List.map_eq_nil_iff]
  · rw [if_neg hk, stops]
    cases hi : g.findWorker? k' with
    | none => rfl
    | some i =>
      have hne : i ≠ w := fun heq => hk (h.key_unique hfind (heq ▸ hi))
      rw [Option.map_some, Option.getD_some, chainOf_grown hw, if_neg hne, hold]
      rfl

end Grown

/-- The place of the new vertex is after the chain. -/
theorem Sound.placeOn?_grown (h : g.Sound) {kind : WorkerKind}
    (hfind : g.findWorker? ⟨host, kind⟩ = some w) :
    (g.grown w t s q).placeOn? host (g.grownVertex w t) =
      some ⟨kind, (g.stops ⟨host, kind⟩).length⟩ := by
  have hw := h.isSome_of_find hfind
  obtain ⟨x, hx, hkey⟩ := h.worker?_of_find hfind
  have hhost : x.host = host := congrArg WorkerKey.host hkey
  have hkind : x.kind = kind := congrArg WorkerKey.kind hkey
  have hnew : g.nextVertex ∉ g.chainOf w := by
    intro hmem
    obtain ⟨u, hu⟩ := vertex?_isSome_of_contains ((h.mem_chain w _).1 hmem).1
    exact ne_nextVertex hu rfl
  have hposition : (g.chainOf w ++ [g.nextVertex]).idxOf g.nextVertex = (g.chainOf w).length := by
    rw [List.idxOf_append_of_notMem hnew, List.idxOf_cons_self, Nat.add_zero]
  have hlength : (g.stops ⟨host, kind⟩).length = (g.chainOf w).length := by
    rw [stops, hfind, List.length_map]
    rfl
  have hplace : (g.grown w t s q).placeOn? host (g.grownVertex w t) =
      (((g.grown w t s q).worker? w).filter (·.host = host)).map fun x =>
        ⟨x.kind, ((g.grown w t s q).chainOf w).idxOf g.nextVertex⟩ := rfl
  rw [hplace, worker?_grown, hx, chainOf_grown hw, if_pos rfl, hposition, hlength]
  simp [hhost, hkind]

/-! ## § 5. What a drawn edge shows -/

section Drawn

variable {u v : Vertex} {label : Option String} (h : g.Sound)
  (hk : g.Keeps (g.pushEdge ⟨u.id, v.id, s, label, false⟩)) (hu : g.vertex? u.id = some u)
  (hv : g.vertex? v.id = some v)

include h hk hu hv

/-- A vertical edge is no arrival in a chain. -/
theorem Sound.stops_pushEdge (h' : (g.pushEdge ⟨u.id, v.id, s, label, false⟩).Sound)
    (k : WorkerKey) : (g.pushEdge ⟨u.id, v.id, s, label, false⟩).stops k = g.stops k := by
  have hfind := h.findWorker?_congr h' (worker?_pushEdge g _) k
  refine hk.stops h h' hfind (fun _ _ => rfl) fun e he hh _ => ?_
  rcases has_pushEdge hu hv he with hold | rfl
  · exact hold
  · exact absurd hh Bool.false_ne_true

/-- The edge shows on the host of both its ends, if there is one. -/
theorem Sound.hostEdges_pushEdge (huin : g.contains u.id = true) (hvin : g.contains v.id = true)
    (host : String) :
    (g.pushEdge ⟨u.id, v.id, s, label, false⟩).hostEdges host = g.hostEdges host ++
      ((g.placeOn? host u).bind fun p =>
        (g.placeOn? host v).map fun q => (⟨p, q, s, label⟩ : HostEdge)).toList := by
  have hedge : (g.pushEdge ⟨u.id, v.id, s, label, false⟩).hostEdge? host
      ⟨g.nextEdge, u, v, s, label, false⟩ = (g.placeOn? host u).bind fun p =>
        (g.placeOn? host v).map fun q => ⟨p, q, s, label⟩ := by
    rw [hostEdge?, hk.placeOn? h hu huin, hk.placeOn? h hv hvin]
    rfl
  rw [hk.hostEdges h (edgeList_pushEdge hu hv), List.filterMap_cons, hedge]
  cases (g.placeOn? host u).bind fun p =>
    (g.placeOn? host v).map fun q => (⟨p, q, s, label⟩ : HostEdge) <;> rfl

end Drawn

end Graph

end CausalPath
