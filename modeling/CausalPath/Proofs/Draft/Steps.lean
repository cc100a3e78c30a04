import CausalPath.Proofs.Draft.Journey

/-!
# Steps of a path as journeys

Every step of a path brings its worker up to the start of the step's edge and then makes the step's
movements. The segments of a path are therefore the pieces of its steps, in the order of the steps:
`written_of_draftPath`.
-/

namespace CausalPath

namespace Draft

variable {source : Graph} {d d' : Draft} {now : Time} {w : WorkerId}

/-! ## § 1. Trails -/

theorem go_append {a a' : Anchor} {ms ns : List Move} :
    d.go source a (ms ++ ns) = .ok (a', d') ↔
      ∃ a₁ d₁, d.go source a ms = .ok (a₁, d₁) ∧ d₁.go source a₁ ns = .ok (a', d') := by
  induction ms generalizing d a with
  | nil =>
    constructor
    · intro hok
      exact ⟨a, d, rfl, hok⟩
    · rintro ⟨a₁, d₁, h₁, hok⟩
      obtain ⟨rfl, rfl⟩ := Prod.mk.inj (Except.ok.inj h₁)
      exact hok
  | cons m rest ih =>
    simp only [List.cons_append, Draft.go, bind_eq_ok, Prod.exists, ih]
    constructor
    · rintro ⟨a₁, d₁, hadv, a₂, d₂, hms, hns⟩
      exact ⟨a₂, d₂, ⟨a₁, d₁, hadv, hms⟩, hns⟩
    · rintro ⟨a₂, d₂, ⟨a₁, d₁, hadv, hms⟩, hns⟩
      exact ⟨a₁, d₁, hadv, a₂, d₂, hms, hns⟩

theorem go_single {a a' : Anchor} {m : Move} :
    d.go source a [m] = .ok (a', d') ↔
      d.advance source a m.worker m.time m.state m.qualifier = .ok (a', d') := by
  simp only [Draft.go, bind_eq_ok, Prod.exists]
  constructor
  · rintro ⟨a₁, d₁, hadv, hok⟩
    obtain ⟨rfl, rfl⟩ := Prod.mk.inj (Except.ok.inj hok)
    exact hadv
  · intro hadv
    exact ⟨a', d', hadv, rfl⟩

theorem go_nil {a a' : Anchor} : d.go source a [] = .ok (a', d') ↔ a = a' ∧ d = d' := by
  simp [Draft.go]

/-- An edge of a trail is written after the bridge over the gap before it. -/
theorem follow_cons {e : Edge} {rest : List Edge} {a : Anchor} {previous : Option Edge} :
    d.follow source a previous (e :: rest) = .ok d' ↔
      ∃ a₁ d₁, d.go source a (e.bridge previous) = .ok (a₁, d₁) ∧
        ∃ a₂ d₂, d₁.advance source a₁ e.target.worker e.target.time e.state e.qualifier =
          .ok (a₂, d₂) ∧ d₂.follow source a₂ (some e) rest = .ok d' := by
  conv_lhs => unfold follow
  cases previous with
  | none =>
    simp only [Edge.bridge, go_nil, bind_eq_ok, pure_eq_ok, Prod.exists, Prod.mk.injEq]
  | some p =>
    simp only [Edge.bridge]
    split
    · simp only [go_nil, bind_eq_ok, pure_eq_ok, Prod.exists, Prod.mk.injEq]
    · simp only [go_single, bind_eq_ok, Prod.exists]

/-- A trail is written by its movements. -/
theorem follow_eq_ok {trail : List Edge} {a : Anchor} {previous : Option Edge} :
    d.follow source a previous trail = .ok d' ↔
      ∃ a', d.go source a (trailMoves previous trail) = .ok (a', d') := by
  induction trail generalizing d a previous with
  | nil => simp [follow, trailMoves, Draft.go]
  | cons e rest ih =>
    simp only [follow_cons, trailMoves, go_append, Draft.go, bind_eq_ok, Prod.exists, ih]
    constructor
    · rintro ⟨a₁, d₁, hbridge, a₂, d₂, hadv, a', hrest⟩
      exact ⟨a', a₁, d₁, hbridge, a₂, d₂, hadv, hrest⟩
    · rintro ⟨a', a₁, d₁, hbridge, a₂, d₂, hadv, hrest⟩
      exact ⟨a₁, d₁, hbridge, a₂, d₂, hadv, a', hrest⟩

/-! ## § 2. Steps -/

/-- The trail of a wait is entered by its first movements. -/
theorem Paced.enter (hs : source.Sound) (h : d.Paced source now) {b first : Edge}
    (hb : now ≤ b.origin.time) (rest : List Edge) {a : Anchor}
    (hok : d.enter source w b first = .ok (a, d')) :
    ∃ v d₁, d.ensure source w b.origin.time = .ok (v, d₁) ∧
      d₁.go source ⟨w, v⟩ (entryMoves w b.origin.time (first :: rest)) = .ok (a, d') := by
  unfold Draft.enter at hok
  simp only [bind_eq_ok, Prod.exists] at hok
  obtain ⟨v, d₁, hens, hok⟩ := hok
  refine ⟨v, d₁, hens, ?_⟩
  obtain ⟨hat, -⟩ := h.ensure hs hb hens
  have hv : v.time = b.origin.time := hat.time
  simp only [entryMoves]
  split at hok
  · rename_i hworker
    rw [if_pos hworker]
    exact hok
  · rename_i hworker
    rw [if_neg hworker]
    obtain ⟨⟨glue, d₂⟩, hglue, hok⟩ := bind_eq_ok.1 hok
    obtain ⟨d₃, hcon, hok⟩ := bind_eq_ok.1 hok
    rw [hv] at hglue
    -- the first movement puts the vertex that is glued to the start of the wait
    have hadv : d₁.advance source ⟨w, v⟩ first.origin.worker b.origin.time .default none =
        .ok (⟨first.origin.worker, glue⟩, d₃) := by
      unfold Draft.advance
      rw [if_neg hworker]
      simp only [bind_eq_ok, Prod.exists, pure_eq_ok, Prod.mk.injEq]
      exact ⟨glue, d₂, by rw [hv, Nat.max_self]; exact hglue, d₃, hcon, rfl, rfl⟩
    have hglued : glue.time = b.origin.time := (hat.toPaced.ensure hs (Nat.le_refl _) hglue).1.time
    simp only [Draft.go, bind_eq_ok, Prod.exists]
    refine ⟨_, _, hadv, ?_⟩
    rw [hglued] at hok
    split at hok
    · rename_i hlate
      rw [if_pos hlate]
      exact go_single.2 hok
    · rename_i hlate
      rw [if_neg hlate]
      exact hok

/-- A step brings its worker up to the step's edge and makes the step's movements. -/
theorem Paced.step (hs : source.Sound) (h : d.Paced source now) {s : PathStep}
    (ht : source.Takes s) (hnow : now ≤ s.edge.origin.time)
    (hok : d.step source w s = .ok d') :
    ∃ v d₁ a, d.ensure source w s.edge.origin.time = .ok (v, d₁) ∧
      d₁.go source ⟨w, v⟩ (s.moves w) = .ok (a, d') := by
  cases s with
  | copy e =>
    simp only [Draft.step, bind_eq_ok, Prod.exists, pure_eq_ok] at hok
    obtain ⟨v, d₁, hens, v', d₂, hseg, rfl⟩ := hok
    refine ⟨v, d₁, ⟨w, v'⟩, hens, go_single.2 ?_⟩
    unfold Draft.advance
    rw [if_pos rfl]
    simp only [bind_eq_ok, Prod.exists, pure_eq_ok, Prod.mk.injEq]
    exact ⟨v', d₂, hseg, rfl, rfl⟩
  | resolved b trail =>
    cases trail with
    | nil => exact absurd rfl ht.1
    | cons first rest =>
      simp only [Draft.step, Draft.explain, bind_eq_ok, Prod.exists] at hok
      obtain ⟨a, d₂, henter, hfollow⟩ := hok
      obtain ⟨v, d₁, hens, hgo⟩ := h.enter hs hnow rest henter
      obtain ⟨a', hgo'⟩ := follow_eq_ok.1 hfollow
      exact ⟨v, d₁, a', hens, go_append.2 ⟨a, d₂, hgo, hgo'⟩⟩

/-- What a step writes, and how far. -/
theorem Paced.step_written (hs : source.Sound) (h : d.Paced source now) {s : PathStep}
    (ht : source.Takes s) (hnow : now ≤ s.edge.origin.time) {top : Time}
    (hedge : s.edge.origin.time ≤ top) (htop : ∀ m ∈ s.moves w, m.time ≤ top)
    (hok : d.step source w s = .ok d') : d'.Paced source top ∧
      d'.graph.written = d.graph.written ++ (s.pieces w).filterMap (Piece.segment? source) := by
  obtain ⟨v, d₁, a, hens, hgo⟩ := h.step hs ht hnow hok
  obtain ⟨h₁, hwritten₁⟩ := h.ensure hs hnow hens
  obtain ⟨h', hwritten'⟩ := h₁.go hs _ hgo
  have hupTo : (Cursor.afterAll ⟨w, s.edge.origin.time⟩ (s.moves w)).time ≤ top :=
    (Cursor.afterAll_upTo hedge htop).2
  refine ⟨h'.toPaced.mono hupTo, ?_⟩
  rw [hwritten', hwritten₁]
  rfl

/-- What steps write that follow each other in time. -/
theorem Paced.steps_written (hs : source.Sound) (heps : source.EpsilonInstant)
    (steps : List PathStep) : ∀ {d : Draft} {now : Time}, d.Paced source now →
      (∀ s ∈ steps, source.Takes s ∧ source.Has s.edge ∧ now ≤ s.edge.origin.time) →
      (steps.Pairwise fun x y => x.edge.target.time ≤ y.edge.origin.time) →
      ∀ {d' : Draft} {top : Time}, now ≤ top → (∀ s ∈ steps, s.edge.target.time ≤ top) →
      d.steps source w steps = .ok d' → d'.Paced source top ∧
        d'.graph.written = d.graph.written ++
          (steps.flatMap (·.pieces w)).filterMap (Piece.segment? source) := by
  induction steps with
  | nil =>
    intro d now h hall hsorted d' top hle htop hok
    obtain rfl := Except.ok.inj hok
    exact ⟨h.mono hle, by simp⟩
  | cons s rest ih =>
    intro d now h hall hsorted d' top hle htop hok
    simp only [Draft.steps, bind_eq_ok] at hok
    obtain ⟨d₁, hstep, hrest⟩ := hok
    obtain ⟨ht, hhas, hnow⟩ := hall s List.mem_cons_self
    obtain ⟨hfirst, hsorted⟩ := List.pairwise_cons.1 hsorted
    obtain ⟨h₁, hwritten₁⟩ := h.step_written hs ht hnow (hs.drawn hhas).forward
      (ht.moves_upTo hs heps hhas w) hstep
    obtain ⟨h', hwritten'⟩ := ih h₁
      (fun s' hs' => ⟨(hall s' (List.mem_cons_of_mem _ hs')).1,
        (hall s' (List.mem_cons_of_mem _ hs')).2.1, hfirst s' hs'⟩)
      hsorted (htop s List.mem_cons_self) (fun s' hs' => htop s' (List.mem_cons_of_mem _ hs')) hrest
    refine ⟨h', ?_⟩
    rw [hwritten', hwritten₁, List.flatMap_cons, List.filterMap_append, List.append_assoc]

end Draft

/-! ## § 3. Whole paths -/

namespace Graph

variable {g : Graph}

/-- The segments of a draft are the pieces of its steps, and the draft ends at the start vertex. -/
theorem Rewinds.written_of_draftPath (h : g.Sound) (heps : g.EpsilonInstant)
    {bound : Option Time} {start oldest : Vertex} {steps : List PathStep}
    (hr : g.Rewinds bound start oldest steps) (hv : g.vertex? start.id = some start) {v : Vertex}
    {d : Draft} (hok : g.draftPath start oldest steps = .ok (v, d)) :
    d.At g ⟨start.worker, v⟩ ⟨start.worker, start.time⟩ ∧
      d.graph.written =
        (steps.flatMap (·.pieces start.worker)).filterMap (Piece.segment? g) := by
  simp only [draftPath, bind_eq_ok, Prod.exists] at hok
  obtain ⟨v₁, d₁, hens, d₂, hsteps, hlast⟩ := hok
  have hnew := Draft.paced_new g g.startTime
  have hempty : (Draft.new g.startTime).graph.written = [] := rfl
  obtain ⟨h₁, hwritten₁⟩ := hnew.ensure h (Nat.zero_le _) hens
  obtain ⟨-, -, hle, hall⟩ := hr.within h hv
  obtain ⟨h₂, hwritten₂⟩ := h₁.toPaced.steps_written h heps steps
    (fun s hs => ⟨hr.takes s hs, (hall s hs).1, (hall s hs).2.2.2.2.1⟩) (hr.sorted h hv) hle
    (fun s hs => (hall s hs).2.2.2.2.2) hsteps
  obtain ⟨h₃, hwritten₃⟩ := h₂.ensure h (Nat.le_refl _) hlast
  refine ⟨h₃, ?_⟩
  rw [hwritten₃, hwritten₂, hwritten₁, hempty, List.nil_append]

end Graph

end CausalPath
