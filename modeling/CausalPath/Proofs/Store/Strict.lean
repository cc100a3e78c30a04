import CausalPath.Graph.Scan
import CausalPath.Proofs.Store.Images

/-!
# No access is out of range

A look-up of the library answers `none` when an id names nothing. An id that a caller gives may be
of that kind. Where the store follows an id that it keeps itself, it takes what the id names to be
there. `Strict` tells the two apart: an id from outside is looked up, an id from inside is accessed,
and an access out of range has no result, neither an answer nor a refusal. A graph that was restored
from an image may be malformed in many ways, but it is `Inside`, and stays so whatever calls follow.
Main statement: every operation on such a graph has a result, which is the one of the library.
-/

namespace CausalPath

open CausalPath.Graph

/-! ## § 1. Strict operations -/

/-- What an operation comes to: an answer or a refusal, or nothing when an access was out of
range. -/
abbrev Strict (α : Type) := ExceptT GraphError Option α

namespace Strict

instance : MonadLift (Except GraphError) Strict := ⟨fun x => ExceptT.mk (some x)⟩

def access {α : Type} (o : Option α) : Strict α := ExceptT.lift o

/-- An edge with its two ends, which are accessed. -/
def edge (g : Graph) (e : EdgeId) : Option (Option Edge) :=
  match g.edges[e.index]? with
  | none => some none
  | some x => do
    let origin ← g.vertex? x.origin
    let target ← g.vertex? x.target
    return some ⟨e, origin, target, x.state, x.qualifier, x.horizontal⟩

/-- The edge in a slot of a vertex. -/
def edgeAt (g : Graph) (v : VertexId) (d : Direction) : Option (Option Edge) :=
  match g.vertices[v.index]? with
  | none => some none
  | some r =>
    match r.slots.get d with
    | none => some none
    | some e => do return some (← (← edge g e))

def edgeList (g : Graph) : Option (List Edge) := do
  return (← g.edgeIds.mapM (edge g)).reduceOption

/-- The first vertex of a chain that is not before a time. A search by halves reads some vertices of
the chain; here all of them are accessed. -/
def vertexAt (g : Graph) (w : WorkerId) (t : Time) : Option (Option VertexId) :=
  match g.timelines[w.index]? with
  | none => some none
  | some l => do
    let chain := (← l.chain.toList.mapM g.vertex?).toArray
    return chain[partitionPoint (·.time < t) chain 0 chain.size]?.map (·.id)

/-- The last vertex of a chain, which is accessed. -/
def tail (g : Graph) (w : WorkerId) : Strict (Option Vertex) :=
  match g.timelines[w.index]? with
  | none => throw (.unknownWorker w)
  | some l =>
    match l.chain.back? with
    | none => return none
    | some v => do return some (← access (g.vertex? v))

/-- Follows incoming horizontal edges; the vertex under way and its edge are accessed. -/
def rewind (g : Graph) (start current : VertexId) : Nat → Strict VertexId
  | 0 => throw (.cycleDetected start)
  | steps + 1 => do
    let r ← access g.vertices[current.index]?
    match r.slots.get .incomingHorizontal with
    | none => return current
    | some e =>
      let x ← access g.edges[e.index]?
      if x.origin = start then
        throw (.cycleDetected start)
      rewind g start x.origin steps

def headOf (g : Graph) (v : VertexId) : Strict VertexId := do
  let _ ← g.recordInGraph v
  rewind g v v (g.vertices.size + 1)

/-- Fills a slot of a vertex that is accessed. -/
def fill (g : Graph) (v : VertexId) (d : Direction) (e : EdgeId) : Option Graph :=
  if v.index < g.vertices.size then some (g.setSlot v d e) else none

/-- Puts a vertex at the end of a chain; both are accessed. -/
def enter (g : Graph) (w : WorkerId) (v : VertexId) : Option Graph :=
  if v.index < g.vertices.size ∧ w.index < g.timelines.size then some (g.pushChain w v) else none

def insertEdge (g : Graph) (x : EdgeRecord) : Strict (EdgeId × Graph) := do
  if x.origin = x.target then
    throw (.selfLoop x.origin)
  g.requireFree x.origin (.atOrigin x.horizontal)
  g.requireFree x.target (.atTarget x.horizontal)
  let a ← g.record x.origin
  let b ← g.record x.target
  if b.time < a.time then
    throw (.invalidTimestamp b.worker b.time a.time)
  let half ← access (fill g x.origin (.atOrigin x.horizontal) g.nextEdge)
  let full ← access (fill half x.target (.atTarget x.horizontal) g.nextEdge)
  return (g.nextEdge, { full with edges := full.edges.push x })

def extend (g : Graph) (v : VertexId) (s : EdgeState) (q : Option String) :
    Strict (Option EdgeId × Graph) := do
  let r ← g.record v
  if r.inGraph then
    throw (.alreadyInGraph v)
  match ← tail g r.worker with
  | none => return (none, ← access (enter g r.worker v))
  | some last =>
    if r.time < last.time then
      throw (.invalidTimestamp r.worker r.time last.time)
    let (e, g') ← insertEdge g ⟨last.id, v, s, q, true⟩
    return (some e, ← access (enter g' r.worker v))

def createVertex (g : Graph) (w : WorkerId) (t : Time) : Strict (VertexId × Graph) := do
  g.requireOpen
  match ← tail g w with
  | some last =>
    if t < last.time then
      throw (.invalidTimestamp w t last.time)
    return (g.nextVertex, g.pushVertex w t)
  | none => return (g.nextVertex, g.pushVertex w t)

def append (g : Graph) (v : VertexId) (s : EdgeState) (q : Option String) :
    Strict (Option EdgeId × Graph) := do
  g.requireOpen
  extend g v s q

def linkVertical (g : Graph) (origin target : VertexId) (s : EdgeState) (q : Option String) :
    Strict (EdgeId × Graph) := do
  g.requireOpen
  let _ ← g.recordInGraph origin
  let _ ← g.recordInGraph target
  insertEdge g ⟨origin, target, s, q, false⟩

/-- Links two vertices; see `Graph.link`. -/
def link (g : Graph) (origin target : VertexId) (s : EdgeState) (q : Option String) :
    Option (Except GraphError EdgeId × Graph) :=
  match (do g.requireOpen; return (← g.recordInGraph origin, ← g.record target)) with
  | .error e => some (.error e, g)
  | .ok (a, b) =>
    if a.worker = b.worker then
      if b.inGraph then
        some (.error (.alreadyInGraph target), g)
      else
        (extend g target s q).run.map fun
          | .error e => (.error e, g)
          | .ok (some e, g') => (.ok e, g')
          | .ok (none, g') => (.error (.vertexNotInGraph origin), g')
    else if b.inGraph then
      (insertEdge g ⟨origin, target, s, q, false⟩).run.map g.orKeep
    else
      (extend g target .noEdge none).run.bind fun
        | .error e => some (.error e, g)
        | .ok (_, g') => (insertEdge g' ⟨origin, target, s, q, false⟩).run.map g'.orKeep

def closeChain (g : Graph) (stop : Time) (w : WorkerId) :
    Option (Except GraphError Unit × Graph) :=
  (tail g w).run.bind fun
    | .error e => some (.error e, g)
    | .ok none => some (.ok (), g)
    | .ok (some last) =>
      if stop ≤ last.time then
        some (.ok (), g)
      else
        let grown := g.pushVertex w stop
        (extend grown g.nextVertex .noEdge none).run.map fun
          | .error e => (.error e, grown)
          | .ok (_, g') => (.ok (), g')

def closeChains (g : Graph) (stop : Time) :
    List WorkerId → Option (Except GraphError Unit × Graph)
  | [] => some (.ok (), g)
  | w :: rest =>
    (closeChain g stop w).bind fun
      | (.error e, g') => some (.error e, g')
      | (.ok (), g') => closeChains g' stop rest

def close (g : Graph) (stop : Time) : Option (Except GraphError Unit × Graph) :=
  match g.requireOpen with
  | .error e => some (.error e, g)
  | .ok () =>
    (closeChains g stop g.workerIds).map fun
      | (.error e, g') => (.error e, g')
      | (.ok (), g') => (.ok (), { g' with endTime := some stop, phase := .closed })

/-- Meets a graph with a call. To register a worker is to access nothing. -/
def call (m : Mutation) (g : Graph) : Option (Except GraphError Mutation.Answer × Graph) :=
  match m with
  | .addWorker w => some ((Mutation.addWorker w).run g)
  | .createVertex w t =>
    (createVertex g w t).run.map fun r => Mutation.run.lift .vertex (g.orKeep r)
  | .append v s q => (append g v s q).run.map fun r => Mutation.run.lift .appended (g.orKeep r)
  | .add v => (append g v .noEdge none).run.map fun r => Mutation.run.lift .appended (g.orKeep r)
  | .link a b s q => (link g a b s q).map (Mutation.run.lift .edge)
  | .linkVertical a b s q =>
    (linkVertical g a b s q).run.map fun r => Mutation.run.lift .edge (g.orKeep r)
  | .close t => (close g t).map (Mutation.run.lift fun _ => .done)

/-- What one step of a scan comes to. -/
inductive ScanStep
  | done
  | stop (e : GraphError)
  | next (items : List ScanItem) (seen queue : List VertexId) (cursor : Option VertexId)

/-- One step of a scan; see `Graph.scanFrom`. -/
def scanStep (g : Graph) (seen queue : List VertexId) (cursor : Option VertexId) :
    Option ScanStep :=
  match cursor with
  | some v =>
    if v ∈ seen then
      some (.next [] seen queue none)
    else
      match g.vertex? v with
      | none => some (.stop (.unknownVertex v))
      | some here => do
        let out ← edgeAt g v .outgoingVertical
        let into ← edgeAt g v .incomingVertical
        let next ← edgeAt g v .outgoingHorizontal
        return .next ([.vertex here] ++ out.toList.map .edge ++ next.toList.map .edge) (v :: seen)
          (ScanItem.ends into (·.origin) ++ (ScanItem.ends out (·.target) ++ queue))
          (next.map (·.target.id))
  | none =>
    match queue with
    | [] => some .done
    | v :: rest =>
      if v ∈ seen then
        some (.next [] seen rest none)
      else do
        match ← (headOf g v).run with
        | .error e => return .stop e
        | .ok head =>
          match g.vertex? head with
          | none => return .stop (.unknownVertex head)
          | some start => return .next [.head start] seen rest (some head)

/-- The scan that goes on after a step. -/
def ScanStep.follow (g : Graph) : ScanStep → Scan
  | .done => ⟨[], none⟩
  | .stop e => ⟨[], some e⟩
  | .next items seen queue cursor => Scan.after items (g.scanFrom seen queue cursor)

end Strict

/-! ## § 2. Strict operations have results -/

namespace Strict

variable {α β : Type} {g : Graph}

theorem run_bind {x : Strict α} {y : Except GraphError α} {f : α → Strict β}
    {k : α → Except GraphError β} (hx : x.run = some y)
    (hf : ∀ a, y = .ok a → (f a).run = some (k a)) : (x >>= f).run = some (y >>= k) := by
  cases y with
  | error e =>
    have hstop : (x >>= f).run = some (.error e) := by
      rw [ExceptT.run_bind, hx]
      rfl
    exact hstop
  | ok a =>
    have hgo : (x >>= f).run = (f a).run := by
      rw [ExceptT.run_bind, hx]
      rfl
    rw [hgo, hf a rfl]
    rfl

theorem run_access {o : Option α} {a : α} (h : o = some a) (f : α → Strict β) :
    (access o >>= f).run = (f a).run := by
  subst h
  rfl

theorem tail_run (h : g.Inside) (w : WorkerId) : (tail g w).run = some (g.tailOf w) := by
  unfold tail tailOf
  cases hl : g.timelines[w.index]? with
  | none => rfl
  | some l =>
    dsimp only
    cases hv : l.chain.back? with
    | none => rfl
    | some v =>
      have hmem : v ∈ g.chainOf w := by
        rw [chainOf, hl, Array.mem_toList_iff]
        exact Array.mem_of_back? hv
      obtain ⟨u, hu⟩ := Option.isSome_iff_exists.1 (h.chain w v hmem)
      rw [run_access hu, Option.bind_some, hu]
      rfl

theorem index_lt_of_record {v : VertexId} {r : VertexRecord} (h : g.record v = .ok r) :
    v.index < g.vertices.size :=
  (Array.getElem?_eq_some_iff.1 (record_eq_ok.1 h)).1

theorem insertEdge_run (g : Graph) (x : EdgeRecord) :
    (insertEdge g x).run = some (g.insertEdge x) := by
  unfold insertEdge Graph.insertEdge
  split
  · rfl
  · refine run_bind rfl fun _ _ => run_bind rfl fun _ _ => run_bind rfl fun a ha =>
      run_bind rfl fun b hb => ?_
    split
    · rfl
    · have horigin : fill g x.origin (.atOrigin x.horizontal) g.nextEdge =
          some (g.setSlot x.origin (.atOrigin x.horizontal) g.nextEdge) :=
        if_pos (index_lt_of_record ha)
      have htarget : ∀ half : Graph, half = g.setSlot x.origin (.atOrigin x.horizontal) g.nextEdge →
          fill half x.target (.atTarget x.horizontal) g.nextEdge =
            some (half.setSlot x.target (.atTarget x.horizontal) g.nextEdge) := by
        rintro half rfl
        exact if_pos (by simpa [setSlot] using index_lt_of_record hb)
      rw [run_access horigin, run_access (htarget _ rfl)]
      rfl

theorem enter_eq {w : WorkerId} {v : VertexId} (hv : (g.vertex? v).isSome)
    (hw : (g.worker? w).isSome) : enter g w v = some (g.pushChain w v) := by
  simp only [vertex?, worker?, Option.isSome_map] at hv hw
  obtain ⟨r, hr⟩ := Option.isSome_iff_exists.1 hv
  obtain ⟨l, hl⟩ := Option.isSome_iff_exists.1 hw
  exact if_pos ⟨(Array.getElem?_eq_some_iff.1 hr).1, (Array.getElem?_eq_some_iff.1 hl).1⟩

theorem extend_run (h : g.Inside) (v : VertexId) (s : EdgeState) (q : Option String) :
    (extend g v s q).run = some (g.extend v s q) := by
  unfold extend Graph.extend
  refine run_bind rfl fun r hr => ?_
  have hv : (g.vertex? v).isSome := by simp [vertex?, record_eq_ok.1 hr]
  split
  · rfl
  · refine run_bind (tail_run h r.worker) fun a ha => ?_
    have hw : (g.worker? r.worker).isSome := (tailOf_eq_ok.1 ha).1
    cases a with
    | none =>
      dsimp only
      rw [run_access (enter_eq hv hw)]
      rfl
    | some last =>
      dsimp only
      split
      · rfl
      · refine run_bind (insertEdge_run g _) fun p hp => ?_
        obtain ⟨e, g'⟩ := p
        obtain ⟨-, -, rfl⟩ := insertEdge_eq_ok.1 hp
        dsimp only
        rw [run_access (enter_eq (by simpa using hv) (by simpa using hw))]
        rfl

theorem createVertex_run (h : g.Inside) (w : WorkerId) (t : Time) :
    (createVertex g w t).run = some (g.createVertex w t) := by
  unfold createVertex Graph.createVertex
  refine run_bind rfl fun _ _ => run_bind (tail_run h w) fun a _ => ?_
  cases a with
  | none => rfl
  | some last =>
    dsimp only
    split <;> rfl

theorem append_run (h : g.Inside) (v : VertexId) (s : EdgeState) (q : Option String) :
    (append g v s q).run = some (g.append v s q) :=
  run_bind rfl fun _ _ => extend_run h v s q

theorem linkVertical_run (g : Graph) (a b : VertexId) (s : EdgeState) (q : Option String) :
    (linkVertical g a b s q).run = some (g.linkVertical a b s q) :=
  run_bind rfl fun _ _ => run_bind rfl fun _ _ => run_bind rfl fun _ _ => insertEdge_run g _

theorem link_eq (h : g.Inside) (a b : VertexId) (s : EdgeState) (q : Option String) :
    link g a b s q = some (g.link a b s q) := by
  unfold link Graph.link
  generalize (do g.requireOpen; return (← g.recordInGraph a, ← g.record b) :
    Except GraphError (VertexRecord × VertexRecord)) = read
  cases read with
  | error e => rfl
  | ok ends =>
    obtain ⟨ra, rb⟩ := ends
    dsimp only
    by_cases hsame : ra.worker = rb.worker
    · rw [if_pos hsame, if_pos hsame]
      by_cases hin : rb.inGraph = true
      · rw [if_pos hin, if_pos hin]
      · rw [if_neg hin, if_neg hin, extend_run h]
        rfl
    · rw [if_neg hsame, if_neg hsame]
      by_cases hin : rb.inGraph = true
      · rw [if_pos hin, if_pos hin, insertEdge_run]
        rfl
      · rw [if_neg hin, if_neg hin, extend_run h, Option.bind_some]
        cases g.extend b .noEdge none with
        | error e => rfl
        | ok grown =>
          dsimp only
          rw [insertEdge_run]
          rfl

theorem closeChain_eq (h : g.Inside) (stop : Time) (w : WorkerId) :
    closeChain g stop w = some (g.closeChain stop w) := by
  unfold closeChain Graph.closeChain
  rw [tail_run h, Option.bind_some]
  cases htail : g.tailOf w with
  | error e => rfl
  | ok tail =>
    cases tail with
    | none => rfl
    | some last =>
      dsimp only
      by_cases hle : stop ≤ last.time
      · rw [if_pos hle, if_pos hle]
      · have hgrown : (g.pushVertex w stop).Inside := h.create stop (tailOf_eq_ok.1 htail).1
        rw [if_neg hle, if_neg hle, extend_run hgrown]
        rfl

theorem closeChains_eq (stop : Time) (ws : List WorkerId) :
    ∀ {g : Graph}, g.Inside → g.phase = .building →
      closeChains g stop ws = some (g.closeChains stop ws) := by
  induction ws with
  | nil =>
    intro g _ _
    rfl
  | cons w rest ih =>
    intro g h hopen
    obtain ⟨hgrows, hphase⟩ := h.closeChain_grows hopen stop w
    unfold closeChains Graph.closeChains
    rw [closeChain_eq h, Option.bind_some]
    revert hgrows hphase
    obtain ⟨outcome, g'⟩ := g.closeChain stop w
    intro hgrows hphase
    cases outcome with
    | error e => rfl
    | ok _ => exact ih (hgrows.inside h) hphase

theorem close_eq (h : g.Inside) (stop : Time) : close g stop = some (g.close stop) := by
  unfold close Graph.close
  cases hread : g.requireOpen with
  | error e => rfl
  | ok _ =>
    dsimp only
    rw [closeChains_eq stop _ h (requireOpen_eq_ok.1 hread)]
    rfl

theorem call_eq (h : g.Inside) (m : Mutation) : call m g = some (m.run g) := by
  cases m with
  | addWorker w => rfl
  | createVertex w t => rw [call, createVertex_run h]; rfl
  | append v s q => rw [call, append_run h]; rfl
  | add v => rw [call, append_run h]; rfl
  | link a b s q => rw [call, link_eq h]; rfl
  | linkVertical a b s q => rw [call, linkVertical_run]; rfl
  | close t => rw [call, close_eq h]; rfl

/-! ## § 3. Strict queries -/

theorem exists_ends (h : g.Inside) {e : EdgeId} {x : EdgeRecord} (hx : g.edgeRecord? e = some x) :
    ∃ a b, g.vertex? x.origin = some a ∧ g.vertex? x.target = some b := by
  obtain ⟨ho, ht⟩ := h.ends e x hx
  obtain ⟨a, ha⟩ := Option.isSome_iff_exists.1 ho
  obtain ⟨b, hb⟩ := Option.isSome_iff_exists.1 ht
  exact ⟨a, b, ha, hb⟩

theorem edge_eq (h : g.Inside) (e : EdgeId) : edge g e = some (g.edge? e) := by
  unfold edge edge?
  cases hx : g.edges[e.index]? with
  | none => rfl
  | some x =>
    obtain ⟨a, b, ha, hb⟩ := exists_ends h hx
    simp [ha, hb]

/-- What a slot holds is shown, with both its ends. -/
theorem exists_edge (h : g.Inside) {v : VertexId} {d : Direction} {e : EdgeId}
    (he : g.slot? v d = some e) :
    ∃ x a b, g.edges[e.index]? = some x ∧ g.vertex? x.origin = some a ∧
      g.edge? e = some ⟨e, a, b, x.state, x.qualifier, x.horizontal⟩ := by
  obtain ⟨x, hx⟩ := Option.isSome_iff_exists.1 (h.slot v d e he)
  obtain ⟨a, b, ha, hb⟩ := exists_ends h hx
  exact ⟨x, a, b, hx, ha, edge?_eq_some_iff.2 ⟨x, hx, ha, hb, rfl⟩⟩

theorem edgeAt_eq (h : g.Inside) (v : VertexId) (d : Direction) :
    edgeAt g v d = some (g.edgeAt? v d) := by
  unfold edgeAt edgeAt?
  cases hr : g.vertices[v.index]? with
  | none => rfl
  | some r =>
    dsimp only
    cases hs : r.slots.get d with
    | none => simp [hs]
    | some e =>
      have hslot : g.slot? v d = some e := by rw [slot?, hr, Option.bind_some, hs]
      obtain ⟨x, a, b, -, -, hshown⟩ := exists_edge h hslot
      simp [hs, edge_eq h, hshown]

theorem edgeList_eq (h : g.Inside) : edgeList g = some g.edgeList := by
  have hread : edge g = fun e => pure (g.edge? e) := funext (edge_eq h)
  rw [edgeList, hread, List.mapM_pure]
  simp [Graph.edgeList, List.reduceOption, List.filterMap_map]

/-- The vertices of a chain, read one by one, are those at the same places. -/
theorem getElem?_read {vs : List VertexId} (hvs : ∀ v ∈ vs, (g.vertex? v).isSome) :
    ∃ us, vs.mapM g.vertex? = some us ∧ us.length = vs.length ∧
      ∀ i : Nat, us[i]? = vs[i]?.bind g.vertex? := by
  induction vs with
  | nil => exact ⟨[], rfl, rfl, fun i => rfl⟩
  | cons v rest ih =>
    obtain ⟨u, hu⟩ := Option.isSome_iff_exists.1 (hvs v List.mem_cons_self)
    obtain ⟨us, hus, hlength, hread⟩ := ih fun v' hv' => hvs v' (List.mem_cons_of_mem v hv')
    refine ⟨u :: us, by rw [List.mapM_cons, hu, hus]; rfl, by simp [hlength], fun i => ?_⟩
    cases i with
    | zero => simp [hu]
    | succ i => simpa using hread i

/-- A search of the vertices of a chain ends where a search of their ids does. -/
theorem vertexAt_eq (h : g.Inside) (w : WorkerId) (t : Time) :
    vertexAt g w t = some (g.vertexAt? w t) := by
  unfold vertexAt vertexAt?
  cases hl : g.timelines[w.index]? with
  | none => rfl
  | some l =>
    have hvs : ∀ v ∈ l.chain.toList, (g.vertex? v).isSome := by
      intro v hv
      exact h.chain w v (by rwa [chainOf, hl])
    obtain ⟨us, hus, hlength, hread⟩ := getElem?_read hvs
    have hsize : us.toArray.size = l.chain.size := by simpa using hlength
    have hat : ∀ i : Nat, us.toArray[i]? = l.chain[i]?.bind g.vertex? := by
      intro i
      simpa using hread i
    have hpass : ∀ i : Nat, us.toArray[i]?.any (·.time < t) =
        l.chain[i]?.any fun v => (g.time? v).any (· < t) := by
      intro i
      rw [hat]
      cases l.chain[i]? with
      | none => rfl
      | some v =>
        rw [Option.bind_some, Option.any_some, time?_eq]
        cases g.vertex? v <;> rfl
    dsimp only
    rw [hus]
    simp only [Option.bind_eq_bind, Option.bind_some, Option.pure_def, Option.some.injEq,
      partitionPoint_congr hpass, hsize, hat, Option.map_bind]
    -- what the search ends at is read, if it is in the chain
    generalize partitionPoint (fun v => (g.time? v).any (· < t)) l.chain 0 l.chain.size = n
    cases hv : l.chain[n]? with
    | none => rfl
    | some v =>
      have hmem : v ∈ l.chain.toList := Array.mem_toList_iff.2 (Array.mem_of_getElem? hv)
      obtain ⟨u, hu⟩ := Option.isSome_iff_exists.1 (hvs v hmem)
      simp [hu, vertex?_id hu]

/-- A walk that starts inside stays inside: the ends of an edge in a slot are there. -/
theorem rewind_run (h : g.Inside) (start : VertexId) (steps : Nat) :
    ∀ {current : VertexId}, (g.vertex? current).isSome →
      (rewind g start current steps).run = some (g.rewind start current steps) := by
  induction steps with
  | zero =>
    intro current _
    rfl
  | succ steps ih =>
    intro current hcurrent
    obtain ⟨u, hu⟩ := Option.isSome_iff_exists.1 hcurrent
    obtain ⟨r, hr, -⟩ := vertex?_eq_some_iff.1 hu
    have hslot : g.slot? current .incomingHorizontal = r.slots.get .incomingHorizontal := by
      rw [slot?, hr, Option.bind_some]
    unfold rewind Graph.rewind
    rw [run_access hr, edgeAt?_eq, hslot]
    cases hs : r.slots.get .incomingHorizontal with
    | none => rfl
    | some e =>
      obtain ⟨x, a, b, hx, ha, hshown⟩ := exists_edge h (hslot.trans hs)
      rw [Option.bind_some, hshown]
      dsimp only
      rw [run_access hx, vertex?_id ha]
      split
      · rfl
      · exact ih (by simp [ha])

theorem headOf_run (h : g.Inside) (v : VertexId) : (headOf g v).run = some (g.headOf v) := by
  have hread : g.headOf v = (do
      let _ ← g.recordInGraph v
      g.rewind v v (g.vertices.size + 1)) := by
    unfold Graph.headOf recordInGraph record
    cases g.vertices[v.index]? with
    | none => rfl
    | some r =>
      dsimp only
      split <;> rfl
  rw [hread]
  refine run_bind rfl fun r hr => rewind_run h v _ ?_
  simp [vertex?, (recordInGraph_eq_ok.1 hr).1]

/-! ## § 4. Strict scans -/

/-- A step of a scan has a result, and the scan goes on from there. -/
theorem scanStep_eq (h : g.Inside) (seen queue : List VertexId) (cursor : Option VertexId) :
    ∃ step, scanStep g seen queue cursor = some step ∧
      g.scanFrom seen queue cursor = step.follow g := by
  unfold scanFrom
  cases cursor with
  | some v =>
    unfold scanStep
    dsimp only
    by_cases hseen : v ∈ seen
    · rw [if_pos hseen, if_pos hseen]
      exact ⟨_, rfl, rfl⟩
    · rw [if_neg hseen, if_neg hseen]
      cases hv : g.vertex? v with
      | none => exact ⟨_, rfl, rfl⟩
      | some here =>
        simp only [edgeAt_eq h]
        exact ⟨_, rfl, rfl⟩
  | none =>
    cases queue with
    | nil => exact ⟨_, rfl, rfl⟩
    | cons v rest =>
      unfold scanStep
      dsimp only
      by_cases hseen : v ∈ seen
      · rw [if_pos hseen, if_pos hseen]
        exact ⟨_, rfl, rfl⟩
      · rw [if_neg hseen, if_neg hseen, headOf_run h]
        cases g.headOf v with
        | error e => exact ⟨_, rfl, rfl⟩
        | ok head =>
          cases hh : g.vertex? head with
          | none => exact ⟨.stop (.unknownVertex head), by simp [hh], by simp [hh, ScanStep.follow]⟩
          | some start =>
            exact ⟨.next [.head start] seen rest (some head), by simp [hh],
              by simp [hh, ScanStep.follow]⟩

end Strict

/-! ## § 5. Restored graphs -/

/-- Every operation on a graph has a result, the one of the library, so no access is out of range.
What is not listed only looks up what it is given: workers, vertices, heads and tails, and sizes. -/
structure Graph.InRange (g : Graph) : Prop where
  call : ∀ m : Mutation, Strict.call m g = some (m.run g)
  edge : ∀ e, Strict.edge g e = some (g.edge? e)
  edgeAt : ∀ v d, Strict.edgeAt g v d = some (g.edgeAt? v d)
  edgeList : Strict.edgeList g = some g.edgeList
  vertexAt : ∀ w t, Strict.vertexAt g w t = some (g.vertexAt? w t)
  headOf : ∀ v, (Strict.headOf g v).run = some (g.headOf v)
  scan : ∀ seen queue cursor, ∃ step, Strict.scanStep g seen queue cursor = some step ∧
    g.scanFrom seen queue cursor = step.follow g

theorem Graph.Inside.inRange {g : Graph} (h : g.Inside) : g.InRange where
  call := Strict.call_eq h
  edge := Strict.edge_eq h
  edgeAt := Strict.edgeAt_eq h
  edgeList := Strict.edgeList_eq h
  vertexAt := Strict.vertexAt_eq h
  headOf := Strict.headOf_run h
  scan := Strict.scanStep_eq h

/-- An edge between vertices that are not there: to show it is to access them. -/
example :
    Strict.edge { Graph.new 0 with edges := #[⟨⟨0⟩, ⟨1⟩, .running, none, true⟩] } ⟨0⟩ = none :=
  rfl

theorem Snapshot.inside_of_restore {s : Snapshot} {g : Graph} (hok : s.restore = .ok g) :
    g.Inside := by
  have h := checked_of_restore hok
  have hwired := wired_of_restore hok
  refine ⟨?_, ?_, ?_, hwired.ends⟩
  · intro v u hu
    rw [vertex?_of_restore hok, Option.map_eq_some_iff] at hu
    obtain ⟨r, hr, rfl⟩ := hu
    have hworkers : g.workers = s.workers := congrArg Snapshot.workers (snapshot_of_restore hok)
    rw [← getElem?_workers, hworkers]
    simpa using h.owned r (List.mem_of_getElem? hr)
  · intro w v hv
    unfold chainOf at hv
    cases hl : g.timelines[w.index]? with
    | none => simp [hl] at hv
    | some l =>
      rw [hl] at hv
      have hlisted : s.timelines[w.index]? = some (l.chain.toList.map (·.index)) := by
        simp [← timelines_of_restore hok, hl]
      obtain ⟨r, hr, -⟩ := h.listed _ _ hlisted v.index (List.mem_map_of_mem hv)
      simp [vertex?_of_restore hok, hr]
  · intro v d e he
    obtain ⟨x, hx, -⟩ := (hwired.slot_iff v d e).1 he
    simp [hx]

/-- A graph that was restored from an image, then met by calls, and perhaps disposed of. -/
inductive Reopened : Graph → Prop
  | restore {s : Snapshot} {g : Graph} (hok : s.restore = .ok g) : Reopened g
  | call {g : Graph} (m : Mutation) (h : Reopened g) : Reopened (m.run g).2
  | dispose {g : Graph} (h : Reopened g) : Reopened g.dispose

theorem Reopened.inside {g : Graph} (h : Reopened g) : g.Inside := by
  induction h with
  | restore hok => exact Snapshot.inside_of_restore hok
  | call m _ ih => exact (m.run_grows ih).inside ih
  | @dispose g _ _ => exact g.inside_dispose

/-- Whatever image a graph was restored from, and whatever calls it has seen since: every call,
query and step of a scan has a result, for any ids that it is given. -/
theorem reopened_in_range {g : Graph} (h : Reopened g) : g.InRange := h.inside.inRange

/-- A chain that leads back to its start: it cannot be closed, for its tail has an edge to follow,
and it has no head. Both are refusals. -/
theorem reopened_in_range_of_looped : ∃ g g', Snapshot.looped.restore = .ok g ∧
    (Mutation.close 20).run g = (.error (.edgeSlotOccupied ⟨1⟩ .outgoingHorizontal), g') ∧
    Reopened g' ∧ (Strict.headOf g' ⟨0⟩).run = some (.error (.cycleDetected ⟨0⟩)) := by
  obtain ⟨g, hok⟩ : ∃ g, Snapshot.looped.restore = .ok g := ⟨_, rfl⟩
  have hreopened : Reopened ((Mutation.close 20).run g).2 := .call _ (.restore hok)
  have hrun := (reopened_in_range hreopened).headOf ⟨0⟩
  obtain rfl := Except.ok.inj hok
  exact ⟨_, _, rfl, rfl, hreopened, hrun.trans (by decide)⟩

end CausalPath
