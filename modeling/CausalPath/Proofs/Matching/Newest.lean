import CausalPath.Proofs.Build.Matching
import Mathlib.Data.List.Induction
import Mathlib.Data.List.Sort
import Mathlib.Data.Prod.Lex

/-!
# The newest ends

When more ends of one direction wait than a matcher may keep, the oldest are dropped one after the
other. So the newest are left: as many as may wait, ordered by time and then by packet.
-/

namespace CausalPath

universe u

namespace Matcher

variable {α : Type u}

/-! ## § 1. The order of waiting ends -/

/-- What a waiting end is ordered by: its time, then the three parts of its packet. -/
def rank (x : PacketKey × Endpoint α) : ℕ ×ₗ ℕ ×ₗ ℕ ×ₗ ℕ :=
  toLex (x.2.time, toLex (x.1.seq, toLex (x.1.ackSeq, x.1.flags)))

/-- Ends by rank, the newest first. -/
def newestFirst (l : List (PacketKey × Endpoint α)) : List (PacketKey × Endpoint α) :=
  l.mergeSort fun a b => rank b ≤ rank a

theorem perm_newestFirst (l : List (PacketKey × Endpoint α)) : (newestFirst l).Perm l :=
  List.mergeSort_perm l _

theorem pairwise_newestFirst (l : List (PacketKey × Endpoint α)) :
    (newestFirst l).Pairwise fun a b => rank b ≤ rank a := by
  unfold newestFirst
  refine (List.pairwise_mergeSort ?_ ?_ l).imp fun h => ?_
  · intro a b c hab hbc
    rw [decide_eq_true_eq] at hab hbc ⊢
    exact hbc.trans hab
  · intro a b
    simpa using le_total (rank b) (rank a)
  · exact of_decide_eq_true h

theorem isOlder_iff {a b : PacketKey × Endpoint α} : isOlder a b = true ↔ rank a < rank b := by
  simp only [isOlder, PacketKey.order, rank, Prod.Lex.toLex_lt_toLex, Ordering.isLT_iff_eq_lt,
    Ordering.then_eq_lt, Ordering.then_eq_eq, Nat.compare_eq_lt, Nat.compare_eq_eq]
  omega

/-- Two ends of one rank are of one packet. -/
theorem key_eq_of_rank {a b : PacketKey × Endpoint α} (h : rank a = rank b) : a.1 = b.1 := by
  obtain ⟨⟨_, _, _⟩, _⟩ := a
  obtain ⟨⟨_, _, _⟩, _⟩ := b
  simp only [rank, EmbeddingLike.apply_eq_iff_eq, Prod.mk.injEq] at h
  simp [h]

/-- The ends of a list with distinct packets that rank above all others of it are its newest. -/
theorem perm_take_newestFirst {kept dropped l : List (PacketKey × Endpoint α)}
    (hall : (kept ++ dropped).Perm l) (hdistinct : (l.map Prod.fst).Nodup)
    (habove : ∀ x ∈ kept, ∀ y ∈ dropped, rank y < rank x) :
    kept.Perm ((newestFirst l).take kept.length) := by
  have hparts : (newestFirst kept ++ newestFirst dropped).Pairwise
      fun a b => rank b ≤ rank a := by
    rw [List.pairwise_append]
    refine ⟨pairwise_newestFirst _, pairwise_newestFirst _, fun x hx y hy => ?_⟩
    exact (habove x ((perm_newestFirst _).mem_iff.1 hx) y ((perm_newestFirst _).mem_iff.1 hy)).le
  have hperm : (newestFirst kept ++ newestFirst dropped).Perm (newestFirst l) :=
    (((perm_newestFirst _).append (perm_newestFirst _)).trans hall).trans (perm_newestFirst _).symm
  have heq : newestFirst kept ++ newestFirst dropped = newestFirst l := by
    refine hperm.eq_of_pairwise ?_ hparts (pairwise_newestFirst l)
    intro a b ha hb hba hab
    have hin : a ∈ l := (hperm.trans (perm_newestFirst l)).mem_iff.1 ha
    exact List.inj_on_of_nodup_map hdistinct hin ((perm_newestFirst l).mem_iff.1 hb)
      (key_eq_of_rank (le_antisymm hab hba))
  have hlength : (newestFirst kept).length = kept.length := (perm_newestFirst kept).length_eq
  rw [← heq, ← hlength, List.take_left]
  exact (perm_newestFirst kept).symm

/-! ## § 2. Dropping the oldest -/

/-- The end that is dropped first waits, and no end that waits is older. There is one as long as any
end waits. -/
theorem oldest?_cases (w : Waiting α) :
    (oldest? w = none ∧ w.entries = []) ∨
      ∃ x, oldest? w = some x ∧ x ∈ w.entries ∧ ∀ y ∈ w.entries, rank x ≤ rank y := by
  unfold oldest?
  induction w.entries using List.reverseRecOn with
  | nil => exact Or.inl ⟨rfl, rfl⟩
  | append_singleton l e ih =>
    refine Or.inr ?_
    simp only [List.foldl_append, List.foldl_cons, List.foldl_nil]
    rcases ih with ⟨hnone, rfl⟩ | ⟨x, hx, hin, hmin⟩
    · exact ⟨e, by simp, by simp, by simp⟩
    · rw [hx, Option.any_some]
      by_cases holder : isOlder e x = true
      · refine ⟨e, by simp [holder], by simp, fun y hy => ?_⟩
        rcases List.mem_append.1 hy with hy | hy
        · exact (isOlder_iff.1 holder).le.trans (hmin y hy)
        · exact (List.mem_singleton.1 hy ▸ le_refl _)
      · refine ⟨x, by simp [holder], List.mem_append_left _ hin, fun y hy => ?_⟩
        rcases List.mem_append.1 hy with hy | hy
        · exact hmin y hy
        · exact List.mem_singleton.1 hy ▸ not_lt.1 (mt isOlder_iff.2 holder)

/-- Those that are dropped are older than those that are left. -/
theorem dropOldest_split (w : Waiting α) (n : Nat) :
    ∃ dropped, ((dropOldest w n).entries ++ dropped).Perm w.entries ∧
      dropped.length = min n w.size ∧
      ∀ x ∈ (dropOldest w n).entries, ∀ y ∈ dropped, rank y < rank x := by
  induction n generalizing w with
  | zero => exact ⟨[], by simp [dropOldest], by simp, by simp⟩
  | succ n ih =>
    unfold dropOldest
    rcases oldest?_cases w with ⟨hnone, hempty⟩ | ⟨⟨k, e⟩, hold, hin, hmin⟩
    · rw [hnone]
      exact ⟨[], by simp, by simp [Table.size, hempty], by simp⟩
    · rw [hold]
      have hget := Table.get?_eq_some_iff.2 hin
      obtain ⟨dropped, hperm, hlength, habove⟩ := ih (w.erase k)
      have hsize := Table.size_erase hget
      refine ⟨(k, e) :: dropped, ?_, ?_, ?_⟩
      · exact List.perm_middle.trans ((hperm.cons _).trans (Table.perm_cons_erase hget).symm)
      · rw [List.length_cons, hlength]
        omega
      · intro x hx y hy
        rcases List.mem_cons.1 hy with rfl | hy
        · have hx' : x ∈ (w.erase k).entries := hperm.mem_iff.1 (List.mem_append_left _ hx)
          rw [Table.entries_erase, List.mem_filter, decide_eq_true_eq] at hx'
          refine (hmin x hx'.1).lt_of_ne fun heq => hx'.2 (key_eq_of_rank heq).symm
        · exact habove x hx y hy

theorem size_dropOldest (w : Waiting α) (n : Nat) : (dropOldest w n).size = w.size - n := by
  obtain ⟨dropped, hperm, hlength, -⟩ := dropOldest_split w n
  have hall := hperm.length_eq
  rw [List.length_append, hlength] at hall
  unfold Table.size at hall ⊢
  omega

/-- The newest ends are left. -/
theorem perm_dropOldest (w : Waiting α) (n : Nat) :
    (dropOldest w n).entries.Perm ((newestFirst w.entries).take (w.size - n)) := by
  obtain ⟨dropped, hperm, -, habove⟩ := dropOldest_split w n
  have hkept := perm_take_newestFirst hperm w.distinct habove
  rwa [← size_dropOldest]

end Matcher

end CausalPath
