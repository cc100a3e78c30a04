import CausalPath.Path.Compute
import CausalPath.Proofs.Draft.Mirror
import CausalPath.Proofs.Path.Moves

/-!
# Drafts follow cursors

A draft is written at the pace of a cursor: no chain of it goes beyond the cursor's time, and the
anchor is the tail of the cursor's worker, at that time. So an operation of the draft never has to
choose between the time it is asked for and the time of a tail, and the segments that it adds are
the pieces that the cursor writes.
-/

namespace CausalPath

/-- The segments of an output graph, in the order in which they were written. -/
def Graph.written (g : Graph) : List PathSegment :=
  g.edgeList.filterMap (CriticalPath.mk g).segment?

/-- A piece as a segment: filler is none. -/
def Piece.segment? (source : Graph) (p : Piece) : Option PathSegment :=
  if p.state = .noEdge then
    none
  else
    (source.worker? p.worker).map (⟨·, p.start, p.stop, p.state, p.qualifier⟩)

namespace Graph

variable {g g' : Graph}

/-! ## § 1. Segments after a write -/

/-- Registered workers stay what they are, so the segments of old edges do too. -/
theorem Sound.segment?_congr (h : g.Sound)
    (hworker : ∀ i x, g.worker? i = some x → g'.worker? i = some x) :
    ∀ e ∈ g.edgeList, (CriticalPath.mk g').segment? e = (CriticalPath.mk g).segment? e := by
  intro e he
  have hd := h.drawn (mem_edgeList.1 he)
  obtain ⟨x, hx⟩ := Option.isSome_iff_exists.1 (h.registered _ _ hd.origin)
  have hx' := hworker _ _ hx
  simp only [CriticalPath.segment?, hx, hx']

theorem Sound.written_congr (h : g.Sound) (hlist : g'.edgeList = g.edgeList)
    (hworker : ∀ i x, g.worker? i = some x → g'.worker? i = some x) : g'.written = g.written := by
  rw [written, written, hlist]
  exact List.filterMap_congr (h.segment?_congr hworker)

/-- A link is no segment. -/
theorem Sound.written_link (h : g.Sound) {x : EdgeRecord} (hx : x.horizontal = false)
    (ho : g.contains x.origin = true) (ht : g.contains x.target = true) :
    (g.pushEdge x).written = g.written := by
  obtain ⟨a, ha⟩ := vertex?_isSome_of_contains ho
  obtain ⟨b, hb⟩ := vertex?_isSome_of_contains ht
  rw [written, written, edgeList_pushEdge ha hb, List.filterMap_append]
  have hworker : ∀ i y, g.worker? i = some y → (g.pushEdge x).worker? i = some y := by
    intro i y hy
    rw [worker?_pushEdge, hy]
  rw [List.filterMap_congr (h.segment?_congr hworker)]
  simp [CriticalPath.segment?, hx]

/-- The segment of an edge that a grown chain gains. -/
theorem Sound.written_grown (h : g.Sound) {w : WorkerId} {t : Time} {s : EdgeState}
    {q : Option String} :
    (g.grown w t s q).written =
      g.written ++ (g.grownEdges w t s q).filterMap (CriticalPath.mk g).segment? := by
  rw [written, edgeList_grown h, List.filterMap_append]
  have hworker : ∀ e, (CriticalPath.mk (g.grown w t s q)).segment? e =
      (CriticalPath.mk g).segment? e := by
    intro e
    simp only [CriticalPath.segment?, worker?_grown]
  congr 1
  · exact List.filterMap_congr fun e _ => hworker e
  · exact List.filterMap_congr fun e _ => hworker e

theorem Sound.written_filler (h : g.Sound) {w : WorkerId} {t : Time} {q : Option String} :
    (g.grown w t .noEdge q).written = g.written := by
  rw [h.written_grown, grownEdges]
  cases g.last? w with
  | none => simp
  | some tail => simp [CriticalPath.segment?]

end Graph

namespace Draft

variable {source : Graph} {d d' : Draft} {now : Time}

/-! ## § 2. Pace -/

/-- No chain of the draft goes beyond a time. -/
structure Paced (source : Graph) (now : Time) (d : Draft) : Prop extends d.Mirrors source where
  late : ∀ i u, d.graph.last? i = some u → u.time ≤ now

/-- The draft is written up to a cursor, and the anchor is the place there. -/
structure At (source : Graph) (d : Draft) (a : Anchor) (c : Cursor) : Prop
    extends d.Paced source c.time where
  worker : a.worker = c.worker
  output : d.workers.get? a.worker = some a.vertex.worker
  last : d.graph.last? a.vertex.worker = some a.vertex
  time : a.vertex.time = c.time

theorem paced_new (source : Graph) (t : Time) : (Draft.new t).Paced source 0 := by
  refine ⟨mirrors_new source t, ?_⟩
  intro i u hu
  simp [Graph.last?, Draft.new, Graph.new, Graph.chainOf] at hu

theorem Paced.mono {later : Time} (h : d.Paced source now) (hle : now ≤ later) :
    d.Paced source later :=
  ⟨h.toMirrors, fun i u hu => Nat.le_trans (h.late i u hu) hle⟩

/-- No vertex of the draft goes beyond the time either. -/
theorem Paced.time_le (h : d.Paced source now) {v : VertexId} {u : Vertex}
    (hin : d.graph.contains v = true) (hu : d.graph.vertex? v = some u) : u.time ≤ now := by
  obtain rfl := Graph.vertex?_id hu
  have hmem : u.id ∈ d.graph.chainOf u.worker :=
    (h.sound.mem_chain _ _).2 ⟨hin, by rw [Graph.parent?_eq, hu]; rfl⟩
  obtain ⟨v, hv⟩ := Option.isSome_iff_exists.1 (List.getLast?_isSome.2 (List.ne_nil_of_mem hmem))
  obtain ⟨tail, htail⟩ := Graph.vertex?_isSome_of_contains (h.sound.contains_tail hv)
  obtain rfl := Graph.vertex?_id htail
  have hlast := h.late _ _ (Graph.last?_eq_some_iff.2 ⟨hv, htail⟩)
  rcases Graph.rel_last (h.sound.sorted _) hv hmem with heq | hle
  · obtain rfl := Option.some.inj (hu.symm.trans (heq ▸ htail))
    exact hlast
  · exact Nat.le_trans (hle.le hu htail) hlast

theorem Enlists.paced {d₁ : Draft} (he : d.Enlists d₁) (hm : d₁.Mirrors source)
    (h : d.Paced source now) : d₁.Paced source now := by
  refine ⟨hm, ?_⟩
  intro i u hu
  rw [he.last?] at hu
  exact h.late i u hu

theorem Enlists.written {d₁ : Draft} (he : d.Enlists d₁) (h : d.Mirrors source) :
    d₁.graph.written = d.graph.written :=
  h.sound.written_congr he.edgeList he.worker?

/-- A vertex that is put is the new place, if nothing goes beyond it. -/
theorem Paced.put (h : d.Paced source now) {w i : WorkerId} (hw : d.workers.get? w = some i)
    {t : Time} (ht : now ≤ t) {s : EdgeState} {q : Option String} {v : Vertex}
    (hok : d.put i t s q = .ok (v, d')) : d'.At source ⟨w, v⟩ ⟨w, t⟩ := by
  have hm := h.toMirrors.put hok
  obtain ⟨rfl, rfl, hi, -, -, -⟩ := put_eq_ok h.sound hok
  have hlast := Graph.last?_grown (t := t) (s := s) (q := q) h.sound hi
  refine ⟨⟨hm, ?_⟩, rfl, hw, ?_, rfl⟩
  · intro j u hu
    rw [hlast] at hu
    split at hu
    · obtain rfl := Option.some.inj hu
      exact Nat.le_refl t
    · exact Nat.le_trans (h.late j u hu) ht
  · rw [hlast]
    exact if_pos rfl

/-- A worker is brought up to the present or a later time, by filler. -/
theorem Paced.ensure (hs : source.Sound) (h : d.Paced source now) {w : WorkerId} {t : Time}
    (ht : now ≤ t) {v : Vertex} (hok : d.ensure source w t = .ok (v, d')) :
    d'.At source ⟨w, v⟩ ⟨w, t⟩ ∧ d'.graph.written = d.graph.written := by
  obtain ⟨d₁, i, henl, hm, hi, hcase⟩ := ensure_cases hs h.toMirrors hok
  have hpaced := henl.paced hm h
  rcases hcase with ⟨rfl, hlast, hle⟩ | ⟨-, hput⟩
  · -- the tail is at the present, since it is neither earlier nor later
    have hlate := hpaced.late i v hlast
    obtain rfl : i = v.worker := by
      have hv := (Graph.last?_eq_some_iff.1 hlast).1
      have hmem := (hm.sound.mem_chain i v.id).1 (List.mem_of_getLast? hv)
      rw [Graph.parent?_eq, (Graph.last?_eq_some_iff.1 hlast).2] at hmem
      exact (Option.some.inj hmem.2).symm
    exact ⟨⟨hpaced.mono ht, rfl, hi, hlast, Nat.le_antisymm (Nat.le_trans hlate ht) hle⟩,
      henl.written h.toMirrors⟩
  · refine ⟨hpaced.put hi ht hput, ?_⟩
    obtain ⟨-, rfl, -⟩ := put_eq_ok hm.sound hput
    exact hm.sound.written_filler.trans (henl.written h.toMirrors)

/-! ## § 3. Movements -/

/-- A segment on the worker of the anchor. -/
theorem At.segment (hs : source.Sound) {a : Anchor} {c : Cursor} (h : d.At source a c) {m : Move}
    (hw : m.worker = c.worker) {v : Vertex}
    (hok : d.segment source m.worker m.time m.state m.qualifier = .ok (v, d')) :
    d'.At source ⟨m.worker, v⟩ (c.after m) ∧
      d'.graph.written = d.graph.written ++ (c.piece m).filterMap (Piece.segment? source) := by
  obtain ⟨d₁, i, henl, hm, hi, hput⟩ := segment_cases hs h.toMirrors hok
  have hpaced := henl.paced hm h.toPaced
  obtain rfl : i = a.vertex.worker := by
    have hout := henl.workers _ _ h.output
    rw [h.worker, ← hw, hi] at hout
    exact Option.some.inj hout
  -- the tail of the anchor's worker is the anchor, so the segment starts at the cursor
  have hlast : d₁.graph.last? a.vertex.worker = some a.vertex := by rw [henl.last?, h.last]
  rw [hlast] at hput
  simp only [Option.map_some, Option.elim_some, h.time] at hput
  refine ⟨hpaced.put hi (Nat.le_max_right _ _) hput, ?_⟩
  obtain ⟨-, rfl, -⟩ := put_eq_ok hm.sound hput
  obtain ⟨x, hx, hxi⟩ := hm.named _ _ hi
  have hnew : d₁.graph.grownEdges a.vertex.worker (max m.time c.time) m.state m.qualifier =
      [⟨d₁.graph.nextEdge, a.vertex, d₁.graph.grownVertex a.vertex.worker (max m.time c.time),
        m.state, m.qualifier, true⟩] := by
    rw [Graph.grownEdges, hlast]
    rfl
  rw [hm.sound.written_grown, henl.written h.toMirrors, hnew, Cursor.piece, if_pos hw]
  congr 1
  by_cases hstate : m.state = .noEdge
  · simp [CriticalPath.segment?, Piece.segment?, hstate]
  · simp [CriticalPath.segment?, Piece.segment?, hstate, hx, hxi, Graph.grownVertex, h.time,
      Cursor.after]

/-- The chains and their vertices stay. -/
theorem connect_keeps {x y : Vertex} {s : EdgeState} {q : Option String}
    (hok : d.connect x y s q = .ok d') :
    (∀ k, d'.graph.last? k = d.graph.last? k) ∧
      ∀ v, d'.graph.contains v = d.graph.contains v := by
  rcases connect_eq_ok hok with ⟨rfl, -⟩ | ⟨-, -, -, rfl⟩
  · exact ⟨fun _ => rfl, fun _ => rfl⟩
  · refine ⟨?_, Graph.contains_pushEdge d.graph ⟨x.id, y.id, s, q, false⟩⟩
    intro k
    have hv := funext (Graph.vertex?_pushEdge d.graph ⟨x.id, y.id, s, q, false⟩)
    rw [Graph.last?, Graph.last?, Graph.chainOf_pushEdge, hv]

theorem connect_written {x y : Vertex} {s : EdgeState} {q : Option String}
    (hd : d.graph.Sound) (hok : d.connect x y s q = .ok d') :
    d'.graph.written = d.graph.written := by
  rcases connect_eq_ok hok with ⟨rfl, -⟩ | ⟨-, hx, hy, rfl⟩
  · rfl
  · exact hd.written_link rfl hx hy

theorem connect_workers {x y : Vertex} {s : EdgeState} {q : Option String}
    (hok : d.connect x y s q = .ok d') : d'.workers = d.workers := by
  rcases connect_eq_ok hok with ⟨rfl, -⟩ | ⟨-, -, -, rfl⟩ <;> rfl

theorem At.connect {a : Anchor} {c : Cursor} (h : d.At source a c) {x y : Vertex} {s : EdgeState}
    {q : Option String} (hok : d.connect x y s q = .ok d') :
    d'.At source a c ∧ d'.graph.written = d.graph.written := by
  obtain ⟨hlast, -⟩ := connect_keeps hok
  refine ⟨⟨⟨h.toMirrors.connect hok, ?_⟩, h.worker, ?_, ?_, h.time⟩, connect_written h.sound hok⟩
  · intro i u hu
    rw [hlast] at hu
    exact h.late i u hu
  · rw [connect_workers hok]
    exact h.output
  · rw [hlast]
    exact h.last

/-- A draft moves as its cursor does, and writes the same. -/
theorem At.advance (hs : source.Sound) {a a' : Anchor} {c : Cursor} (h : d.At source a c)
    {m : Move} (hok : d.advance source a m.worker m.time m.state m.qualifier = .ok (a', d')) :
    d'.At source a' (c.after m) ∧
      d'.graph.written = d.graph.written ++ (c.piece m).filterMap (Piece.segment? source) := by
  unfold Draft.advance at hok
  split at hok
  · rename_i hw
    simp only [bind_eq_ok, Prod.exists, pure_eq_ok, Prod.mk.injEq] at hok
    obtain ⟨v, d₁, hseg, rfl, rfl⟩ := hok
    exact h.segment hs (hw.trans h.worker) hseg
  · rename_i hw
    simp only [bind_eq_ok, Prod.exists, pure_eq_ok, Prod.mk.injEq] at hok
    obtain ⟨v, d₁, hens, d₂, hcon, rfl, rfl⟩ := hok
    rw [h.time] at hens
    obtain ⟨h₁, hwritten₁⟩ := h.toPaced.ensure hs (Nat.le_max_right m.time c.time) hens
    obtain ⟨h₂, hwritten₂⟩ := h₁.connect hcon
    refine ⟨h₂, ?_⟩
    rw [hwritten₂, hwritten₁, Cursor.piece, if_neg]
    · simp
    · rw [← h.worker]
      exact hw

/-- Makes movements one after the other. -/
def go (d : Draft) (source : Graph) (a : Anchor) : List Move → Except PathError (Anchor × Draft)
  | [] => .ok (a, d)
  | m :: rest => do
    let (a, d) ← d.advance source a m.worker m.time m.state m.qualifier
    d.go source a rest

theorem At.go (hs : source.Sound) (ms : List Move) :
    ∀ {d : Draft} {a : Anchor} {c : Cursor} {d' : Draft} {a' : Anchor}, d.At source a c →
      d.go source a ms = .ok (a', d') → d'.At source a' (c.afterAll ms) ∧
        d'.graph.written = d.graph.written ++ (c.pieces ms).filterMap (Piece.segment? source) := by
  induction ms with
  | nil =>
    intro d a c d' a' h hok
    obtain ⟨rfl, rfl⟩ := Prod.mk.inj (Except.ok.inj hok)
    exact ⟨h, by simp [Cursor.pieces]⟩
  | cons m rest ih =>
    intro d a c d' a' h hok
    simp only [Draft.go, bind_eq_ok, Prod.exists] at hok
    obtain ⟨a₁, d₁, hadv, hrest⟩ := hok
    obtain ⟨h₁, hwritten₁⟩ := h.advance hs hadv
    obtain ⟨h', hwritten'⟩ := ih h₁ hrest
    refine ⟨h', ?_⟩
    rw [hwritten', hwritten₁, Cursor.pieces, List.filterMap_append, List.append_assoc]

end Draft

end CausalPath
