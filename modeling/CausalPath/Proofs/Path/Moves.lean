import CausalPath.Proofs.Path.Rewind

/-!
# Paths as movements

What a path writes depends only on where it is and when. A step of the search stands for a few
movements, each to a worker at a time; a `Cursor` follows them. To move within a worker is to spend
time there, which is a `Piece`; to move to another worker takes no piece. The pieces of a path are
thus a function of its steps, in which no output graph occurs.
-/

namespace CausalPath

/-- A movement of a path to a worker at a time, or at the present if that is later. -/
structure Move where
  worker : WorkerId
  time : Time
  state : EdgeState
  qualifier : Option String
  deriving DecidableEq, Repr

/-- The worker and the time that a path has reached. -/
structure Cursor where
  worker : WorkerId
  time : Time
  deriving DecidableEq, Repr

/-- Time that a path spends on a worker. -/
structure Piece where
  worker : WorkerId
  start : Time
  stop : Time
  state : EdgeState
  qualifier : Option String
  deriving DecidableEq, Repr

/-! ## § 1. Movements of steps -/

/-- The movement that makes up for a gap between an edge and the edge before it. -/
def Edge.bridge (e : Edge) : Option Edge → List Move
  | none => []
  | some p =>
    if p.target.id = e.origin.id then
      []
    else
      [⟨e.origin.worker, max p.target.time e.origin.time, .default, e.qualifier⟩]

/-- The movements along a trail, given the edge before it. -/
def trailMoves (previous : Option Edge) : List Edge → List Move
  | [] => []
  | e :: rest =>
    e.bridge previous ++
      ⟨e.target.worker, e.target.time, e.state, e.qualifier⟩ :: trailMoves (some e) rest

/-- The movements from the start of a wait to where its explanation starts. -/
def entryMoves (w : WorkerId) (t : Time) : List Edge → List Move
  | [] => []
  | first :: _ =>
    if first.origin.worker = w then
      []
    else
      ⟨first.origin.worker, t, .default, none⟩ ::
        if t < first.origin.time then
          [⟨first.origin.worker, first.origin.time, .unknown, none⟩]
        else
          []

/-- The movements of a step of a worker, which starts where the step's edge does. -/
def PathStep.moves (w : WorkerId) : PathStep → List Move
  | .copy e => [⟨w, e.target.time, e.state, e.qualifier⟩]
  | .resolved b trail => entryMoves w b.origin.time trail ++ trailMoves none trail

/-! ## § 2. Pieces of movements -/

namespace Cursor

/-- Where a movement leads. -/
def after (c : Cursor) (m : Move) : Cursor := ⟨m.worker, max m.time c.time⟩

/-- What a movement writes. -/
def piece (c : Cursor) (m : Move) : List Piece :=
  if m.worker = c.worker then
    [⟨m.worker, c.time, (c.after m).time, m.state, m.qualifier⟩]
  else
    []

/-- What movements write. -/
def pieces (c : Cursor) : List Move → List Piece
  | [] => []
  | m :: rest => c.piece m ++ (c.after m).pieces rest

/-- Where movements lead. -/
def afterAll (c : Cursor) (ms : List Move) : Cursor := ms.foldl after c

theorem mem_piece {c : Cursor} {m : Move} {p : Piece} :
    p ∈ c.piece m ↔ m.worker = c.worker ∧
      p = ⟨m.worker, c.time, (c.after m).time, m.state, m.qualifier⟩ := by
  unfold piece
  split
  · rename_i hw
    simp [hw]
  · rename_i hw
    simp [hw]

theorem time_le_after (c : Cursor) (m : Move) : c.time ≤ (c.after m).time :=
  Nat.le_max_right _ _

theorem after_upTo {c : Cursor} {m : Move} {top : Time} (hc : c.time ≤ top)
    (hm : m.time ≤ top) : (c.after m).time ≤ top :=
  Nat.max_le.2 ⟨hm, hc⟩

theorem afterAll_upTo {c : Cursor} {ms : List Move} {top : Time} (hc : c.time ≤ top)
    (hms : ∀ m ∈ ms, m.time ≤ top) : c.time ≤ (c.afterAll ms).time ∧ (c.afterAll ms).time ≤ top := by
  induction ms generalizing c with
  | nil => exact ⟨Nat.le_refl _, hc⟩
  | cons m rest ih =>
    obtain ⟨hlow, hhigh⟩ := ih (after_upTo hc (hms m List.mem_cons_self))
      fun m' hm' => hms m' (List.mem_cons_of_mem _ hm')
    exact ⟨Nat.le_trans (c.time_le_after m) hlow, hhigh⟩

/-- Pieces start at the cursor or later, and do not end before they start. -/
theorem pieces_from {c : Cursor} {ms : List Move} :
    ∀ p ∈ c.pieces ms, c.time ≤ p.start ∧ p.start ≤ p.stop := by
  induction ms generalizing c with
  | nil =>
    intro p hp
    exact absurd hp List.not_mem_nil
  | cons m rest ih =>
    intro p hp
    rcases List.mem_append.1 hp with hp | hp
    · obtain ⟨-, rfl⟩ := mem_piece.1 hp
      exact ⟨Nat.le_refl _, c.time_le_after m⟩
    · obtain ⟨hstart, hstop⟩ := ih p hp
      exact ⟨Nat.le_trans (c.time_le_after m) hstart, hstop⟩

/-- No piece ends after the cursor and the movements. -/
theorem pieces_upTo {c : Cursor} {ms : List Move} {top : Time} (hc : c.time ≤ top)
    (hms : ∀ m ∈ ms, m.time ≤ top) : ∀ p ∈ c.pieces ms, p.stop ≤ top := by
  induction ms generalizing c with
  | nil =>
    intro p hp
    exact absurd hp List.not_mem_nil
  | cons m rest ih =>
    have htop := after_upTo hc (hms m List.mem_cons_self)
    intro p hp
    rcases List.mem_append.1 hp with hp | hp
    · obtain ⟨-, rfl⟩ := mem_piece.1 hp
      exact htop
    · exact ih htop (fun m' hm' => hms m' (List.mem_cons_of_mem _ hm')) p hp

/-- The pieces of movements follow each other in time. -/
theorem pieces_sorted (c : Cursor) (ms : List Move) :
    (c.pieces ms).Pairwise fun p q => p.stop ≤ q.start := by
  induction ms generalizing c with
  | nil => exact List.Pairwise.nil
  | cons m rest ih =>
    refine List.pairwise_append.2 ⟨?_, ih (c.after m), ?_⟩
    · unfold piece
      split
      · exact List.pairwise_singleton _ _
      · exact List.Pairwise.nil
    · intro p hp q hq
      obtain ⟨-, rfl⟩ := mem_piece.1 hp
      exact (pieces_from q hq).1

end Cursor

/-! ## § 3. Pieces of steps -/

namespace PathStep

/-- Where a step of a worker starts. -/
def cursor (w : WorkerId) (s : PathStep) : Cursor := ⟨w, s.edge.origin.time⟩

/-- What a step of a worker writes. -/
def pieces (w : WorkerId) (s : PathStep) : List Piece := (s.cursor w).pieces (s.moves w)

end PathStep

theorem trailMoves_upTo {top : Time} {trail : List Edge}
    (ht : ∀ e ∈ trail, e.origin.time ≤ top ∧ e.target.time ≤ top) :
    ∀ {previous : Option Edge}, (∀ p, previous = some p → p.target.time ≤ top) →
      ∀ m ∈ trailMoves previous trail, m.time ≤ top := by
  induction trail with
  | nil =>
    intro previous _ m hm
    exact absurd hm List.not_mem_nil
  | cons e rest ih =>
    intro previous hp m hm
    obtain ⟨ho, htarget⟩ := ht e List.mem_cons_self
    rcases List.mem_append.1 hm with hm | hm
    · cases previous with
      | none => exact absurd hm List.not_mem_nil
      | some p =>
        simp only [Edge.bridge] at hm
        split at hm
        · exact absurd hm List.not_mem_nil
        · rw [List.mem_singleton.1 hm]
          exact Nat.max_le.2 ⟨hp p rfl, ho⟩
    · rcases List.mem_cons.1 hm with rfl | hm
      · exact htarget
      · refine ih (fun e' he' => ht e' (List.mem_cons_of_mem _ he')) ?_ m hm
        rintro p hpe
        obtain rfl := Option.some.inj hpe
        exact htarget

theorem entryMoves_upTo {w : WorkerId} {t top : Time} {trail : List Edge} (h : t ≤ top)
    (ht : ∀ e ∈ trail, e.origin.time ≤ top) : ∀ m ∈ entryMoves w t trail, m.time ≤ top := by
  intro m hm
  cases trail with
  | nil => exact absurd hm List.not_mem_nil
  | cons first rest =>
    simp only [entryMoves] at hm
    split at hm
    · exact absurd hm List.not_mem_nil
    · rcases List.mem_cons.1 hm with rfl | hm
      · exact h
      · split at hm
        · rw [List.mem_singleton.1 hm]
          exact ht first List.mem_cons_self
        · exact absurd hm List.not_mem_nil

namespace Graph

variable {g : Graph}

/-- A step moves no later than its edge ends. -/
theorem Takes.moves_upTo (h : g.Sound) (heps : g.EpsilonInstant) {s : PathStep}
    (ht : g.Takes s) (hhas : g.Has s.edge) (w : WorkerId) :
    ∀ m ∈ s.moves w, m.time ≤ s.edge.target.time := by
  have hforward := (h.drawn hhas).forward
  cases s with
  | copy e =>
    intro m hm
    rw [List.mem_singleton.1 hm]
    exact Nat.le_refl _
  | resolved b trail =>
    obtain ⟨-, -, hres⟩ := ht
    have hupTo := h.resolve_upTo heps hhas hres
    have htrail : ∀ e ∈ trail, e.origin.time ≤ b.target.time ∧ e.target.time ≤ b.target.time := by
      intro e he
      obtain ⟨hehas, hle⟩ := hupTo e he
      exact ⟨Nat.le_trans (h.drawn hehas).forward hle, hle⟩
    intro m hm
    rcases List.mem_append.1 hm with hm | hm
    · exact entryMoves_upTo hforward (fun e he => (htrail e he).1) m hm
    · exact trailMoves_upTo htrail (by simp) m hm

/-- What a step writes lies within its edge. -/
theorem Takes.pieces_within (h : g.Sound) (heps : g.EpsilonInstant) {s : PathStep}
    (ht : g.Takes s) (hhas : g.Has s.edge) (w : WorkerId) :
    ∀ p ∈ s.pieces w, s.edge.origin.time ≤ p.start ∧ p.start ≤ p.stop ∧
      p.stop ≤ s.edge.target.time := by
  intro p hp
  obtain ⟨hstart, hmid⟩ := Cursor.pieces_from p hp
  exact ⟨hstart, hmid,
    Cursor.pieces_upTo (h.drawn hhas).forward (ht.moves_upTo h heps hhas w) p hp⟩

/-- What the steps of a chain write follows each other in time, within the chain. -/
theorem Rewinds.pieces_paced (h : g.Sound) (heps : g.EpsilonInstant) {bound : Option Time}
    {v o : Vertex} {steps : List PathStep} (hr : g.Rewinds bound v o steps)
    (hv : g.vertex? v.id = some v) (w : WorkerId) :
    ((steps.flatMap (·.pieces w)).Pairwise fun p q => p.stop ≤ q.start) ∧
      ∀ p ∈ steps.flatMap (·.pieces w), o.time ≤ p.start ∧ p.start ≤ p.stop ∧
        p.stop ≤ v.time := by
  obtain ⟨-, -, -, hall⟩ := hr.within h hv
  have hin : ∀ s ∈ steps, ∀ p ∈ s.pieces w, s.edge.origin.time ≤ p.start ∧ p.start ≤ p.stop ∧
      p.stop ≤ s.edge.target.time := by
    intro s hs
    exact (hr.takes s hs).pieces_within h heps (hall s hs).1 w
  constructor
  · refine List.pairwise_flatMap.2 ⟨fun s _ => Cursor.pieces_sorted _ _, ?_⟩
    refine (hr.sorted h hv).imp_of_mem ?_
    intro s s' hs hs' hss p hp q hq
    exact Nat.le_trans (hin s hs p hp).2.2 (Nat.le_trans hss (hin s' hs' q hq).1)
  · intro p hp
    obtain ⟨s, hs, hp⟩ := List.mem_flatMap.1 hp
    obtain ⟨hstart, hmid, hstop⟩ := hin s hs p hp
    obtain ⟨-, -, -, -, hlow, hhigh⟩ := hall s hs
    exact ⟨Nat.le_trans hlow hstart, hmid, Nat.le_trans hstop hhigh⟩

end Graph

end CausalPath
