import CausalPath.Proofs.Path.Agreement
import CausalPath.Proofs.Search.Precedence
import CausalPath.Proofs.Store.Closing

/-!
# Paths of a graph that grows

A search goes backward in time, so what is added to a graph later does not change it. It looks
forward only for the wakeup of a wait, along edges that take no time, and an edge to a later vertex
is none of these. Closing a graph likewise adds nothing that a search sees, though the search for a
worker then starts from the vertex that closes the worker's chain.
-/

namespace CausalPath

namespace Graph

variable {g g' : Graph} {s s' : Vertex} {start : VertexId}

/-! ## § 1. Growth after the start -/

instance (g : Graph) (e : Edge) : Decidable (g.Has e) :=
  inferInstanceAs (Decidable (g.edge? e.id = some e))

/-- Whatever has joined a chain is later than `top`, and every new edge arrives at such a vertex. -/
structure GrowsAfter (top : Time) (g g' : Graph) : Prop where
  joined : ∀ v u, g'.vertex? v = some u → g'.contains v = true → g.contains v = false →
    top < u.time
  arrives : ∀ e, g'.Has e → ¬g.Has e → g.contains e.target.id = false

variable {top : Time}

/-- Whether a graph has grown after a time can be read off its vertices and edges. -/
theorem growsAfter_iff : GrowsAfter top g g' ↔
    (g'.vertexIds.all fun v =>
      !g'.contains v || g.contains v || (g'.time? v).any (fun t => top < t)) = true ∧
    (g'.edgeList.all fun e => decide (g.Has e) || !g.contains e.target.id) = true := by
  simp only [List.all_eq_true, Bool.or_eq_true, Bool.not_eq_true', Option.any_eq_true,
    decide_eq_true_eq]
  constructor
  · intro hg
    refine ⟨?_, ?_⟩
    · intro v _
      cases hin' : g'.contains v with
      | false => exact Or.inl (Or.inl rfl)
      | true =>
        cases hin : g.contains v with
        | true => exact Or.inl (Or.inr rfl)
        | false =>
          obtain ⟨u, hu⟩ := vertex?_isSome_of_contains hin'
          exact Or.inr ⟨u.time, by rw [time?_eq, hu]; rfl, hg.joined v u hu hin' hin⟩
    · intro e he
      by_cases hold : g.Has e
      · exact Or.inl hold
      · exact Or.inr (hg.arrives e (mem_edgeList.1 he) hold)
  · rintro ⟨hvertices, hedges⟩
    refine ⟨?_, ?_⟩
    · intro v u hu hin' hin
      rcases hvertices v (mem_vertexIds_of_vertex? hu) with (hno | hno) | ⟨t, ht, hlt⟩
      · rw [hin'] at hno
        exact absurd hno (by simp)
      · rw [hin] at hno
        exact absurd hno (by simp)
      · rw [time?_eq, hu] at ht
        obtain rfl := Option.some.inj ht
        exact hlt
    · intro e he hnew
      exact (hedges e (mem_edgeList.2 he)).resolve_left hnew

/-- Up to `top`, nothing new arrives, and what leads on from there is later. -/
theorem GrowsAfter.prolongs (hg : GrowsAfter top g g') (hk : g.Keeps g') (h' : g'.Sound)
    (heps : g'.EpsilonInstant) :
    Prolongs (fun v => ∃ u, g.vertex? v = some u ∧ u.time ≤ top) g g' := by
  have hlate : ∀ e, g'.Has e → ¬g.Has e → top < e.target.time := by
    intro e he hnew
    have hd := h'.drawn he
    exact hg.joined _ _ hd.target hd.contains_target (hg.arrives e he hnew)
  refine ⟨hk, ?_, ?_⟩
  · rintro e he hnew ⟨u, hu, hle⟩
    have hshown := (h'.drawn he).target
    rw [hk.vertex? _ _ hu] at hshown
    obtain rfl := Option.some.inj hshown
    exact absurd (hlate e he hnew) (Nat.not_lt.2 hle)
  · rintro e he hnew hh ⟨u, hu, hle⟩
    have hshown := (h'.drawn he).origin
    rw [hk.vertex? _ _ hu] at hshown
    obtain rfl := Option.some.inj hshown
    have hpos : e.duration ≠ 0 :=
      Nat.sub_ne_zero_of_lt (Nat.lt_of_le_of_lt hle (hlate e he hnew))
    have hstate : e.state ≠ .epsilon := fun hs => hpos (heps e he hh hs)
    simp [isInstant, hpos, hstate]

theorem GrowsAfter.agrees (hg : GrowsAfter top g g') (hk : g.Keeps g') (h : g.Sound)
    (h' : g'.Sound) (heps : g'.EpsilonInstant) :
    Agrees (fun v => ∃ u, g.vertex? v = some u ∧ u.time ≤ top) g g' := by
  have heps₀ : g.EpsilonInstant := fun e he => heps e (hk.has he)
  have hupTo := h.closed_upTo heps₀ top
  refine (hg.prolongs hk h' heps).agrees h h' ?_ ?_
  · exact ⟨fun hv he => ⟨trivial, (hupTo.into hv he).2⟩,
      fun hv he => ⟨trivial, (hupTo.wake hv he).2⟩,
      fun hv he hmatch hw => ⟨trivial, (hupTo.window hv he hmatch hw).2⟩⟩
  · rintro a b hab ⟨u, hu, hle⟩
    have htime := h.instantly_time heps₀ hab
    rw [time?_eq g a, hu, Option.map_some, time?_eq, Option.map_eq_some_iff] at htime
    obtain ⟨x, hx, hxu⟩ := htime
    exact ⟨x, hx, hxu ▸ hle⟩

/-! ## § 2. Closing -/

/-- A search sees nothing of the filler that closes chains. -/
theorem Pads.agrees {close : Time} (hp : Pads close g g') (h : g.Sound) (h' : g'.Sound) :
    Agrees (fun v => g.contains v = true) g g' := by
  have hnew : ∀ e, g'.Has e → ¬g.Has e → e.horizontal = true ∧ e.state = .noEdge ∧
      0 < e.duration ∧ g.contains e.target.id = false := by
    intro e he hnot
    rcases hp.filler e (mem_edgeList.2 he) with hold | hfill
    · exact absurd (mem_edgeList.1 hold) hnot
    · exact hfill
  have hprolongs : Prolongs (fun v => g.contains v = true) g g' := by
    refine ⟨hp.keeps, ?_, ?_⟩
    · intro e he hnot
      rw [(hnew e he hnot).2.2.2]
      simp
    · intro e he hnot _ _
      obtain ⟨-, hs, hd, -⟩ := hnew e he hnot
      simp [isInstant, hs, Nat.ne_of_gt hd]
  refine hprolongs.agrees h h' ?_ ?_
  · exact ⟨fun _ he => ⟨trivial, (h.drawn (h.into_iff.1 he).1).contains_origin⟩,
      fun _ he => ⟨trivial, (h.drawn (h.wake_iff.1 he).1).contains_origin⟩,
      fun _ _ _ hw => ⟨trivial, (h.drawn (h.has_of_wakeup hw)).contains_origin⟩⟩
  · rintro a b ⟨e, he, -, rfl⟩ -
    exact (h.drawn (h.onward_iff.1 he).1).contains_target

/-- The vertex that closes a chain is reached from the tail by filler. -/
theorem Pads.into_end {close : Time} (hp : Pads close g g') (h : g.Sound) (h' : g'.Sound)
    {w : WorkerId} {tail : Vertex} {n : VertexId} (hlast : g.last? w = some tail)
    (hw : g'.chainOf w = g.chainOf w ++ [n]) :
    ∃ e, g'.edgeAt? n .incomingHorizontal = some e ∧ e.origin = tail ∧ e.state = .noEdge := by
  obtain ⟨htail, hshown⟩ := last?_eq_some_iff.1 hlast
  have hnb : [tail.id, n] <:+: g'.chainOf w := by
    rw [hw]
    exact neighbours_concat.2 (Or.inr ⟨htail, rfl⟩)
  obtain ⟨e, hinto, hid⟩ := h'.into_of_neighbours hnb
  obtain ⟨hhas, hh, rfl⟩ := h'.into_iff.1 hinto
  have horigin := (h'.drawn hhas).origin
  rw [hid, hp.keeps.vertex? _ _ hshown] at horigin
  refine ⟨e, hinto, (Option.some.inj horigin).symm, ?_⟩
  rcases hp.filler e (mem_edgeList.2 hhas) with hold | hfill
  · -- an old edge ends in the old chain, which does not hold the new vertex
    have hnodup := h'.nodup w
    rw [hw] at hnodup
    have hd := h.drawn (mem_edgeList.1 hold)
    have hmem : e.target.id ∈ g.chainOf w := by
      rw [h.mem_chain]
      refine ⟨hd.contains_target, ?_⟩
      have hn := ((h'.mem_chain w e.target.id).1 (by rw [hw]; simp)).2
      rw [parent?_eq, (h'.drawn hhas).target] at hn
      rw [parent?_eq, hd.target]
      exact hn
    exact absurd rfl ((List.nodup_append.1 hnodup).2.2 _ hmem e.target.id (by simp))
  · exact hfill.2.1

/-- What a path shows of itself: its segments and its links. -/
def shownOf (r : Except PathError CriticalPath) :
    Except PathError (List PathSegment × List PathLink) := r.map fun p => (p.segments, p.links)

/-- Two vertices of one worker from which the walk back is the same show the same path. -/
theorem Sound.shown_of_ownSteps (h : g.Sound) {start' : VertexId}
    (hs : g.startOf start = .ok s) (hs' : g'.startOf start' = .ok s') (hworker : s'.worker = s.worker)
    (hk : g.Keeps g') (hown : g'.ownSteps none [] [] s' = g.ownSteps none [] [] s)
    (cancelled : Bool) :
    shownOf (g'.criticalPath start' none cancelled) =
      shownOf (g.criticalPath start none cancelled) := by
  have hv := (startOf_eq_ok hs).1
  obtain rfl := vertex?_id hv
  have hw := h.registered _ _ hv
  rw [criticalPath_of_ends hs rfl, criticalPath_of_ends hs' rfl, hown]
  cases cancelled with
  | true => rfl
  | false =>
    cases hsteps : g.ownSteps none [] [] s with
    | error err => rfl
    | ok r =>
      obtain ⟨oldest, later⟩ := r
      obtain ⟨steps, rfl, hr⟩ := ownSteps_eq_ok hsteps
      rw [List.append_nil]
      obtain ⟨v, d, d', hens, hdraft, hm⟩ := hr.steps_ok h hv
      -- both paths go on from here, each to its own end
      obtain ⟨v₁, d₁, p₁, hlast₁, hfinish₁, hseg₁, hlink₁⟩ := hm.arrive h hw s.time
      obtain ⟨v₂, d₂, p₂, hlast₂, hfinish₂, hseg₂, hlink₂⟩ := hm.arrive h hw s'.time
      have hpath₁ : g.draftPath s oldest steps = .ok (v₁, d₁) :=
        bind_eq_ok.2 ⟨_, hens, bind_eq_ok.2 ⟨_, hdraft, hlast₁⟩⟩
      have hpath₂ : g'.draftPath s' oldest steps = .ok (v₂, d₂) := by
        rw [draftPath_keeps hk h (hworker ▸ hw) hr.takes]
        unfold draftPath
        rw [hworker]
        exact bind_eq_ok.2 ⟨_, hens, bind_eq_ok.2 ⟨_, hdraft, hlast₂⟩⟩
      simp only [shownOf, bind, Except.bind, hpath₁, hpath₂, hfinish₁, hfinish₂, Except.map, hseg₁,
        hseg₂, hlink₁, hlink₂, Bool.false_eq_true, if_false]

/-- The path of a worker shows the same before and after the graph is closed. -/
theorem Sound.workerPath_close (h : g.Sound) (w : WorkerId) (close : Time) (cancelled : Bool) :
    shownOf ((g.close close).2.workerPath w cancelled) = shownOf (g.workerPath w cancelled) := by
  have hp := h.close_pads close
  have h' := (close_grows h close).sound h
  generalize (g.close close).2 = g' at hp h' ⊢
  have ha := hp.agrees h h'
  rcases hp.chainOf w with hw | ⟨tail, n, hlast, -, hn, hw⟩
  · have htail : g'.tail? w = g.tail? w := by rw [tail?_eq, tail?_eq, hw]
    unfold workerPath
    rw [htail]
    cases hlast : g.tail? w with
    | none =>
      simp only [emptyPath, hp.keeps.startTime]
    | some v =>
      rw [tail?_eq] at hlast
      have hin := h.contains_tail hlast
      obtain ⟨s, hs⟩ := vertex?_isSome_of_contains hin
      have hQ : g.contains s.id = true := by rw [vertex?_id hs, hin]
      exact congrArg shownOf (ha.criticalPath hp.keeps h hs hin hQ (by simp) cancelled)
  · obtain ⟨htail, hshown⟩ := last?_eq_some_iff.1 hlast
    have hin := h.contains_tail htail
    have hn' : g'.contains n = true := ((h'.mem_chain w n).1 (by rw [hw]; simp)).1
    obtain ⟨e, hinto, rfl, hstate⟩ := hp.into_end h h' hlast hw
    have hworker : e.origin.worker = w := by
      have hmem := ((h.mem_chain w e.origin.id).1 (List.mem_of_getLast? htail)).2
      rw [parent?_eq, hshown] at hmem
      exact Option.some.inj hmem
    -- the walk back from the closing vertex passes over the filler, and then sees nothing new
    have hlt : g'.place e.origin.id < g'.place n := by
      obtain ⟨hhas, hh, rfl⟩ := h'.into_iff.1 hinto
      exact h'.place_lt hhas hh
    have hstep : g'.stepFor e = .ok [] := by rw [stepFor, if_pos hstate]
    have hpast : g'.ownSteps none [n] [] e.origin = g'.ownSteps none [] [] e.origin :=
      h'.ownSteps_seen (hp.keeps.vertex? _ _ hshown) (by simp) (by simpa using hlt)
    have hown : g'.ownSteps none [] [] ⟨n, w, close⟩ = g.ownSteps none [] [] e.origin := by
      rw [ownSteps_back (by simp) (by simp) hinto, hstep]
      exact hpast.trans (ha.ownSteps h none [] [] e.origin hin)
    have hs : g.startOf e.origin.id = .ok e.origin := by simp [startOf, hshown, hin]
    have hs' : g'.startOf n = .ok ⟨n, w, close⟩ := by simp [startOf, hn, hn']
    have hlast' : g'.tail? w = some n := by rw [tail?_eq, hw, List.getLast?_concat]
    unfold workerPath
    rw [tail?_eq g, htail, hlast']
    exact h.shown_of_ownSteps hs hs' hworker.symm hp.keeps hown cancelled

end Graph

open CausalPath.Graph in
/-- A path does not change while the graph grows after its start: further calls that put only later
vertices into chains, and draw edges only to these, leave the outcome as it is, path or error. And
whenever a graph is closed, the path of a worker has the same segments and links as before, or fails
with the same error. -/
theorem paths_stable {g : Graph} (hbuilt : g.Built) :
    (∀ ms start s stop cancelled, g.vertex? start = some s → g.contains start = true →
      GrowsAfter s.time g (Mutation.runAll ms g) → (Mutation.runAll ms g).EpsilonInstant →
      (∀ m, stop = some m → (g.vertex? m).isSome) →
      (Mutation.runAll ms g).criticalPath start stop cancelled =
        g.criticalPath start stop cancelled) ∧
    ∀ w close cancelled, shownOf ((g.close close).2.workerPath w cancelled) =
      shownOf (g.workerPath w cancelled) := by
  have h := hbuilt.sound
  refine ⟨?_, h.workerPath_close⟩
  intro ms start s stop cancelled hs hin hgrows heps hstop
  have hrun := Mutation.runAll_grows ms h
  have hk := Grows.keeps h hrun
  have ha := hgrows.agrees hk h (hrun.sound h) heps
  obtain rfl := vertex?_id hs
  exact ha.criticalPath hk h hs hin ⟨s, hs, Nat.le_refl _⟩ hstop cancelled

/-- What the two workers of `woken` do next: each goes on, and the first one wakes the other. -/
def afterWoken : List Mutation :=
  [.createVertex ⟨0⟩ 20, .append ⟨4⟩ .running none, .createVertex ⟨1⟩ 20, .append ⟨5⟩ .blocked none,
    .linkVertical ⟨1⟩ ⟨5⟩ .default none]

open CausalPath.Graph in
/-- The path that ends with the wait of `woken` stays as it is when both workers go on. -/
theorem paths_stable_of_woken : ∃ p, woken.criticalPath ⟨1⟩ none false = .ok p ∧
    (Mutation.runAll afterWoken woken).criticalPath ⟨1⟩ none false = .ok p ∧
      shownOf ((woken.close 30).2.workerPath ⟨0⟩ false) = shownOf (woken.workerPath ⟨0⟩ false) := by
  have hsome : (woken.criticalPath ⟨1⟩ none false).isOk = true := by cbv
  obtain ⟨p, hok⟩ := exists_of_isOk hsome
  have hbuilt : woken.Built := ⟨0, _, rfl⟩
  have hs : woken.vertex? ⟨1⟩ = some ⟨⟨1⟩, ⟨0⟩, 10⟩ := by cbv
  have hgrows : GrowsAfter 10 woken (Mutation.runAll afterWoken woken) :=
    growsAfter_iff.2 ⟨by cbv, by cbv⟩
  have heps : (Mutation.runAll afterWoken woken).EpsilonInstant := epsilonInstant_iff.2 (by cbv)
  obtain ⟨hgrown, hclosed⟩ := paths_stable hbuilt
  refine ⟨p, hok, ?_, hclosed ⟨0⟩ 30 false⟩
  rw [hgrown afterWoken ⟨1⟩ _ none false hs (by cbv) hgrows heps (by simp), hok]

end CausalPath
