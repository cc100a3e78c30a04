import CausalPath.Proofs.Store.Refused

/-!
# What a granted link draws

A link between workers draws the edge that was asked for. Within one worker the target joins its
chain, so the edge leads to it from the tail of the chain, whichever vertex of the chain was named
as the origin.
-/

namespace CausalPath

namespace Graph

variable {g g' : Graph} {a b : VertexId} {s : EdgeState} {q : Option String} {e : EdgeId}

/-! ## § 1. The record of the edge -/

/-- The vertex that a link from `a` to `b` leads from: `a` itself between workers, and the tail of
the chain within one. -/
def linkOrigin? (g : Graph) (a b : VertexId) : Option VertexId :=
  if g.parent? a = g.parent? b then (g.parent? a).bind g.tail? else some a

/-- The edge that an append draws leads from the tail of the chain. -/
theorem extend_record (h : g.Sound) (hok : g.extend b s q = .ok (some e, g')) :
    ∃ tail, (g.parent? b).bind g.tail? = some tail ∧
      g'.edgeRecord? e = some ⟨tail, b, s, q, true⟩ := by
  obtain ⟨u, hu, -, ⟨-, hnone, -⟩ | ⟨tail, htail, -, he, rfl⟩⟩ := h.inside.extend_eq_ok hok
  · exact absurd hnone (by simp)
  · obtain rfl := Option.some.inj he
    refine ⟨tail, ?_, ?_⟩
    · rw [parent?_eq, hu, Option.map_some, Option.bind_some, tail?_eq, htail]
    · rw [edgeRecord?_pushChain, edgeRecord?_pushEdge, if_pos rfl]

theorem insertEdge_record {x : EdgeRecord} (hok : g.orKeep (g.insertEdge x) = (.ok e, g')) :
    g'.edgeRecord? e = some x ∧ ∀ v, g'.contains v = g.contains v := by
  cases hins : g.insertEdge x with
  | error err =>
    rw [hins] at hok
    exact absurd (congrArg Prod.fst hok) (by simp [orKeep])
  | ok r =>
    rw [hins] at hok
    obtain ⟨he, rfl⟩ := Prod.mk.inj hok
    obtain rfl := Except.ok.inj he
    obtain ⟨-, he, hg⟩ := insertEdge_eq_ok.1 hins
    rw [he, hg, edgeRecord?_pushEdge, if_pos rfl]
    exact ⟨rfl, contains_pushEdge g x⟩

/-- The record of the edge of a granted link, whose target is in its chain then. -/
theorem link_record (h : g.Sound) (hok : g.link a b s q = (.ok e, g')) :
    g'.contains b = true ∧ ∃ o, g.linkOrigin? a b = some o ∧
      g'.edgeRecord? e = some ⟨o, b, s, q, decide (g.parent? a = g.parent? b)⟩ := by
  unfold link at hok
  split at hok
  · exact absurd (congrArg Prod.fst hok) (by simp)
  · rename_i ra rb hread
    simp only [bind_eq_ok, requireOpen_eq_ok, recordInGraph_eq_ok, record_eq_ok, pure_eq_ok,
      Prod.mk.injEq] at hread
    obtain ⟨-, -, x, ⟨hra, -⟩, y, hrb, rfl, rfl⟩ := hread
    have hparents : g.parent? a = g.parent? b ↔ x.worker = y.worker := by
      rw [parent?_of_record hra, parent?_of_record hrb, Option.some.injEq]
    split at hok
    · -- within one worker only an append grants a link
      rename_i hsame
      split at hok
      · exact absurd (congrArg Prod.fst hok) (by simp)
      · split at hok
        · exact absurd (congrArg Prod.fst hok) (by simp)
        · rename_i hext
          obtain ⟨he, rfl⟩ := Prod.mk.inj hok
          obtain rfl := Except.ok.inj he
          obtain ⟨tail, htail, hrecord⟩ := extend_record h hext
          refine ⟨(h.inside.extend_keeps hext).2.1, tail, ?_, ?_⟩
          · rw [linkOrigin?, if_pos (hparents.2 hsame), hparents.2 hsame, htail]
          · rw [decide_eq_true (hparents.2 hsame), hrecord]
        · exact absurd (congrArg Prod.fst hok) (by simp)
    · rename_i hother
      have hne := mt hparents.1 hother
      rw [linkOrigin?, if_neg hne, decide_eq_false hne]
      split at hok
      · rename_i hin
        obtain ⟨hrecord, hcontains⟩ := insertEdge_record hok
        exact ⟨(hcontains b).trans (contains_of_record hrb hin), a, rfl, hrecord⟩
      · split at hok
        · exact absurd (congrArg Prod.fst hok) (by simp)
        · rename_i hext
          obtain ⟨hrecord, hcontains⟩ := insertEdge_record hok
          exact ⟨(hcontains b).trans (h.inside.extend_keeps hext).2.1, a, rfl, hrecord⟩

/-! ## § 2. The edge as it is shown -/

/-- Whatever calls a store has seen, a granted link answers with an edge that leads to the target,
has the state and the label that were given, and is horizontal exactly within one worker. Between
workers it leads from the origin that was given, and within one from the tail of the chain. The
target is in its chain then. -/
theorem granted_link_draws (h : g.Built) (hok : g.link a b s q = (.ok e, g')) :
    ∃ y, g'.edge? e = some y ∧ g.linkOrigin? a b = some y.origin.id ∧ y.target.id = b ∧
      y.state = s ∧ y.qualifier = q ∧ (y.horizontal = true ↔ g.parent? a = g.parent? b) ∧
      b ∈ g'.chainOf y.target.worker := by
  obtain ⟨hin, o, ho, hrecord⟩ := link_record h.sound hok
  have hsound : g'.Sound := by
    have hgrows := h.sound.inside.link_grows a b s q
    rw [hok] at hgrows
    exact hgrows.sound h.sound
  obtain ⟨u, v, hu, hv, -, hedge⟩ := hsound.edge?_of_record hrecord
  obtain rfl := vertex?_id hu
  obtain rfl := vertex?_id hv
  refine ⟨_, hedge, ho, rfl, rfl, rfl, decide_eq_true_iff, ?_⟩
  exact (hsound.mem_chain v.worker v.id).2 ⟨hin, by rw [parent?_eq, hv]; rfl⟩

/-- A worker with two vertices in its chain and one that is in no chain yet. -/
def threeStops : Graph :=
  Mutation.runAll
    [.addWorker (Worker.thread "h" 1 "a"), .createVertex ⟨0⟩ 0, .add ⟨0⟩, .createVertex ⟨0⟩ 10,
      .append ⟨1⟩ .running none, .createVertex ⟨0⟩ 20]
    (Graph.new 0)

/-- A link from the first vertex of `threeStops` to the last one leads from the second one. -/
theorem granted_link_draws_of_threeStops : ∃ g' y,
    threeStops.link ⟨0⟩ ⟨2⟩ .blocked (some "q") = (.ok ⟨1⟩, g') ∧ g'.edge? ⟨1⟩ = some y ∧
      y.origin.id = ⟨1⟩ ∧ y.target.id = ⟨2⟩ ∧ y.state = .blocked ∧ y.qualifier = some "q" ∧
      y.horizontal = true := by
  have hok : (threeStops.link ⟨0⟩ ⟨2⟩ .blocked (some "q")).1 = .ok ⟨1⟩ := by cbv
  have hlink : threeStops.link ⟨0⟩ ⟨2⟩ .blocked (some "q") =
      (.ok ⟨1⟩, (threeStops.link ⟨0⟩ ⟨2⟩ .blocked (some "q")).2) := Prod.ext hok rfl
  have hbuilt : threeStops.Built := ⟨0, _, rfl⟩
  have horigin : threeStops.linkOrigin? ⟨0⟩ ⟨2⟩ = some ⟨1⟩ := by cbv
  have hparents : threeStops.parent? ⟨0⟩ = threeStops.parent? ⟨2⟩ := by cbv
  obtain ⟨y, hy, ho, ht, hs, hq, hh, -⟩ := granted_link_draws hbuilt hlink
  rw [horigin] at ho
  exact ⟨_, y, hlink, hy, (Option.some.inj ho).symm, ht, hs, hq, hh.2 hparents⟩

/-- Not every granted link answers with an edge that leads from the origin that was given. -/
theorem not_all_links_leave_origin : ¬∀ (g g' : Graph) (a b : VertexId) (s : EdgeState)
    (q : Option String) (e : EdgeId), g.Built → g.link a b s q = (.ok e, g') →
      ∃ y, g'.edge? e = some y ∧ y.origin.id = a ∧ y.target.id = b ∧ y.state = s ∧
        y.qualifier = q ∧ (y.horizontal = true ↔ g.parent? a = g.parent? b) ∧
        b ∈ g'.chainOf y.target.worker := by
  intro hall
  have hok : (threeStops.link ⟨0⟩ ⟨2⟩ .blocked none).1 = .ok ⟨1⟩ := by cbv
  have hshown : ((threeStops.link ⟨0⟩ ⟨2⟩ .blocked none).2.edge? ⟨1⟩).map (·.origin.id) =
      some ⟨1⟩ := by cbv
  obtain ⟨y, hy, ho, -⟩ := hall threeStops (threeStops.link ⟨0⟩ ⟨2⟩ .blocked none).2 ⟨0⟩ ⟨2⟩
    .blocked none ⟨1⟩ ⟨0, _, rfl⟩ (Prod.ext hok rfl)
  rw [hy, Option.map_some, ho] at hshown
  exact absurd hshown (by decide)

end Graph

end CausalPath
