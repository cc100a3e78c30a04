/-!
# Counting what is left

Searches mark what they have seen. The number of things in a finite whole that are not marked
yet falls with every new mark; it is the measure by which the searches of this library end.
-/

namespace CausalPath

def unmarked {α : Type} [DecidableEq α] (whole marks : List α) : Nat :=
  whole.countP (· ∉ marks)

variable {α : Type} [DecidableEq α]

theorem unmarked_cons_le (whole marks : List α) (a : α) :
    unmarked whole (a :: marks) ≤ unmarked whole marks := by
  refine List.countP_mono_left ?_
  intro x _ hx
  simp only [List.mem_cons, not_or, decide_eq_true_eq] at hx ⊢
  exact hx.2

/-- A new mark inside the whole leaves less. -/
theorem unmarked_cons_lt {whole marks : List α} {a : α} (hu : a ∈ whole) (hm : a ∉ marks) :
    unmarked whole (a :: marks) < unmarked whole marks := by
  induction whole with
  | nil => simp at hu
  | cons x rest ih =>
    have hle := unmarked_cons_le rest marks a
    simp only [unmarked] at hle ih ⊢
    by_cases hx : x = a
    · subst hx
      rw [List.countP_cons_of_neg (by simp), List.countP_cons_of_pos (by simpa using hm)]
      omega
    · have ha : a ∈ rest := by
        rcases List.mem_cons.1 hu with h | h
        · exact absurd h.symm hx
        · exact h
      have hlt := ih ha
      by_cases hxm : x ∈ marks
      · rw [List.countP_cons_of_neg (by simp [hxm]), List.countP_cons_of_neg (by simpa using hxm)]
        exact hlt
      · rw [List.countP_cons_of_pos (by simp [hx, hxm]),
          List.countP_cons_of_pos (by simpa using hxm)]
        omega

end CausalPath
