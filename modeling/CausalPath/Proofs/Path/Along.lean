import CausalPath.Proofs.Draft.Links
import CausalPath.Proofs.Search.Arrival

/-!
# Properties along movements

A property of the movements of a path is shown movement by movement, at the cursor that makes each.
A trail has two kinds of movements, those along its edges and those over its gaps. Before it a step
may have glue and time of unknown use.
-/

namespace CausalPath

/-! ## § 1. Movements one after the other -/

namespace Cursor

variable {P : Cursor → Move → Prop} {c : Cursor} {ms ns : List Move}

/-- Each of the movements has a property, at the cursor that makes it. -/
def Along (P : Cursor → Move → Prop) (c : Cursor) : List Move → Prop
  | [] => True
  | m :: rest => P c m ∧ (c.after m).Along P rest

theorem along_append : c.Along P (ms ++ ns) ↔ c.Along P ms ∧ (c.afterAll ms).Along P ns := by
  induction ms generalizing c with
  | nil => simp [Along, afterAll]
  | cons m rest ih =>
    simp only [List.cons_append, Along, ih, and_assoc]
    rfl

theorem Along.of_mem_pieces (h : c.Along P ms) {p : Piece} (hp : p ∈ c.pieces ms) :
    ∃ c' m, P c' m ∧ p ∈ c'.piece m := by
  induction ms generalizing c with
  | nil => exact absurd hp List.not_mem_nil
  | cons m rest ih =>
    rcases List.mem_append.1 hp with hp | hp
    · exact ⟨c, m, h.1, hp⟩
    · exact ih h.2 hp

theorem Along.of_mem_crossings (h : c.Along P ms) {x : Crossing} (hx : x ∈ c.crossings ms) :
    ∃ c' m, P c' m ∧ x ∈ c'.crossing m := by
  induction ms generalizing c with
  | nil => exact absurd hx List.not_mem_nil
  | cons m rest ih =>
    rcases List.mem_append.1 hx with hx | hx
    · exact ⟨c, m, h.1, hx⟩
    · exact ih h.2 hx

end Cursor

/-! ## § 2. Movements of trails -/

/-- The movement along an edge. -/
def Edge.move (e : Edge) : Move := ⟨e.target.worker, e.target.time, e.state, e.qualifier⟩

/-- The movement over the gap between two edges of a trail. -/
def Edge.gapMove (p e : Edge) : Move :=
  ⟨e.origin.worker, max p.target.time e.origin.time, .default, e.qualifier⟩

namespace Graph

variable {g : Graph} {P : Cursor → Move → Prop} {w : WorkerId} {b e p first : Edge} {c : Cursor}
  {trail rest : List Edge}

/-- Along an edge the cursor comes to the end of the edge. -/
theorem after_move (hupTo : c.time ≤ e.target.time) :
    c.after e.move = ⟨e.target.worker, e.target.time⟩ := by
  rw [Cursor.after, Edge.move, Nat.max_eq_left hupTo]

/-- A movement along an edge, before movements from the end of the edge. -/
theorem along_edge {ms : List Move} (hupTo : c.time ≤ e.target.time) (hmove : P c e.move)
    (hlater : (Cursor.mk e.target.worker e.target.time).Along P ms) :
    c.Along P (e.move :: ms) := by
  refine ⟨hmove, ?_⟩
  rw [after_move hupTo]
  exact hlater

/-- From the end of an edge on, a trail is followed edge by edge, over the gaps between them. -/
theorem Sound.trail_along (h : g.Sound) (hhas : ∀ e ∈ trail, g.Has e)
    (hsorted : trail.Pairwise fun e e' => e.target.time ≤ e'.target.time)
    (hedge : ∀ e ∈ trail, P ⟨e.origin.worker, e.origin.time⟩ e.move)
    (hgap : ∀ p e, [p, e] <:+: trail → p.target.id ≠ e.origin.id →
      P ⟨p.target.worker, p.target.time⟩ (p.gapMove e) ∧
        P ⟨e.origin.worker, max p.target.time e.origin.time⟩ e.move)
    (hsuffix : p :: rest <:+ trail) :
    (Cursor.mk p.target.worker p.target.time).Along P (trailMoves (some p) rest) := by
  induction rest generalizing p with
  | nil => exact trivial
  | cons e rest ih =>
    have hmem : e ∈ trail := hsuffix.subset (List.mem_cons_of_mem _ List.mem_cons_self)
    have hp := h.drawn (hhas p (hsuffix.subset List.mem_cons_self))
    have hd := h.drawn (hhas e hmem)
    have hle : p.target.time ≤ e.target.time :=
      (List.pairwise_cons.1 (hsorted.sublist hsuffix.sublist)).1 e List.mem_cons_self
    have hlater := ih ((List.suffix_cons p (e :: rest)).trans hsuffix)
    show Cursor.Along _ _ (e.bridge (some p) ++ e.move :: trailMoves (some e) rest)
    rw [Cursor.along_append, Edge.bridge]
    split
    · rename_i hid
      have hsame : e.origin = p.target := vertex_eq_of_id hd.origin hp.target hid.symm
      have hmove := hedge e hmem
      rw [hsame] at hmove
      exact ⟨trivial, along_edge hle hmove hlater⟩
    · rename_i hid
      have hnext : [p, e] <:+: trail :=
        (List.prefix_append [p, e] rest).isInfix.trans hsuffix.isInfix
      obtain ⟨hbridge, hmove⟩ := hgap p e hnext hid
      have hafter : Cursor.afterAll ⟨p.target.worker, p.target.time⟩ [p.gapMove e] =
          ⟨e.origin.worker, max p.target.time e.origin.time⟩ := by
        show Cursor.mk e.origin.worker (max (max p.target.time e.origin.time) p.target.time) = _
        rw [Nat.max_eq_left (Nat.le_max_left _ _)]
      refine ⟨⟨hbridge, trivial⟩, ?_⟩
      show Cursor.Along P (Cursor.afterAll _ [p.gapMove e]) _
      rw [hafter]
      exact along_edge (Nat.max_le.2 ⟨hle, hd.forward⟩) hmove hlater

/-- A wait of a worker is replaced by glue to where its explanation starts, time of unknown use
before that, and the explanation. -/
theorem Sound.explained_along (h : g.Sound) (hfirst : g.Has first)
    (hupTo : b.origin.time ≤ first.target.time)
    (hown : first.origin.worker = w → P ⟨w, b.origin.time⟩ first.move)
    (hglue : first.origin.worker ≠ w →
      P ⟨w, b.origin.time⟩ ⟨first.origin.worker, b.origin.time, .default, none⟩)
    (hidle : P ⟨first.origin.worker, b.origin.time⟩
      ⟨first.origin.worker, first.origin.time, .unknown, none⟩)
    (haway : P ⟨first.origin.worker, max b.origin.time first.origin.time⟩ first.move)
    (hlater : (Cursor.mk first.target.worker first.target.time).Along P
      (trailMoves (some first) rest)) :
    ((PathStep.resolved b (first :: rest)).cursor w).Along P
      ((PathStep.resolved b (first :: rest)).moves w) := by
  show Cursor.Along _ ⟨w, b.origin.time⟩
    (entryMoves w b.origin.time (first :: rest) ++ first.move :: trailMoves (some first) rest)
  rw [Cursor.along_append, entryMoves]
  split
  · rename_i hworker
    exact ⟨trivial, along_edge hupTo (hown hworker) hlater⟩
  · rename_i hworker
    have hafter : Cursor.after ⟨w, b.origin.time⟩
        ⟨first.origin.worker, b.origin.time, .default, none⟩ =
          ⟨first.origin.worker, b.origin.time⟩ := by
      rw [Cursor.after, Nat.max_self]
    split
    · rename_i hlate
      have hle : b.origin.time ≤ first.origin.time := Nat.le_of_lt hlate
      rw [Nat.max_eq_right hle] at haway
      refine ⟨⟨hglue hworker, ?_⟩, ?_⟩
      · rw [hafter]
        exact ⟨hidle, trivial⟩
      · simp only [Cursor.afterAll, List.foldl_cons, List.foldl_nil, hafter]
        rw [Cursor.after, Nat.max_eq_left hle]
        exact along_edge (h.drawn hfirst).forward haway hlater
    · rename_i hlate
      rw [Nat.max_eq_left (Nat.le_of_not_lt hlate)] at haway
      refine ⟨⟨hglue hworker, trivial⟩, ?_⟩
      simp only [Cursor.afterAll, List.foldl_cons, List.foldl_nil, hafter]
      exact along_edge hupTo haway hlater

end Graph

end CausalPath
