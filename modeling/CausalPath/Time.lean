/-!
# Trace time

Timestamps and spans are counted in nanoseconds. Every reader of the library admits only 64-bit
words, so a time that came from a trace or a saved graph is at most `Time.last`.
-/

namespace CausalPath

/-- A point of trace time, or a span between two, in nanoseconds. -/
abbrev Time := Nat

/-- The number of values of a 64-bit word, the 64th power of two. -/
def wordCount : Nat := 0x10000000000000000

/-- The latest time a word can hold. Output graphs are closed here. -/
def Time.last : Time := wordCount - 1

def Time.sum : List Time → Time
  | [] => 0
  | t :: rest => t + Time.sum rest

theorem Time.sum_perm {spans spans' : List Time} (h : spans.Perm spans') :
    Time.sum spans = Time.sum spans' := by
  induction h with
  | nil => rfl
  | cons t _ ih => exact congrArg (t + ·) ih
  | swap s t rest => exact Nat.add_left_comm t s (Time.sum rest)
  | trans _ _ ih ih' => exact ih.trans ih'

/-- Adds up spans in a 64-bit word, which wraps when the exact sum does not fit. -/
def Time.total (spans : List Time) : Time := Time.sum spans % wordCount

theorem Time.total_eq_sum {spans : List Time} (h : Time.sum spans < wordCount) :
    Time.total spans = Time.sum spans :=
  Nat.mod_eq_of_lt h

end CausalPath
