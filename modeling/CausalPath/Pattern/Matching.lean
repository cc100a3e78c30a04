import CausalPath.Pattern.Basic
import CausalPath.Unicode.Property

/-!
# Matching

A match of a pattern leads from one place of a text to another. Sets of places are the bits of
numbers, and `Overlay.ends` computes from the places where matches may start the places where they
may end, part by part, so nothing is tried twice. `Pattern.occursIn` asks for a match anywhere.
`runTimes_eq_repeat` says that a loop may stop as soon as a round changes nothing.
-/

namespace CausalPath

/-! ## § 1. Places -/

/-- A set of places of a text: bit `i` stands for the place before character `i`. -/
abbrev Places := Nat

namespace Places

def ofTest (size : Nat) (test : Nat → Bool) : Places :=
  (List.range (size + 1)).foldr (fun i places => 2 * places + (test i).toNat) 0

def all (size : Nat) : Places := ofTest size fun _ => true

/-- Takes a step a number of times, or until it changes nothing. -/
def runTimes (step : Places → Places) : Nat → Places → Places
  | 0, places => places
  | count + 1, places =>
    let next := step places
    if next = places then places else runTimes step count next

theorem repeat_of_fixed {step : Places → Places} {places : Places} (h : step places = places) :
    ∀ count, Nat.repeat step count places = places
  | 0 => rfl
  | count + 1 => by rw [Nat.repeat, repeat_of_fixed h count, h]

/-- A step before the others comes to the same as a step after them. -/
theorem repeat_step (step : Places → Places) (places : Places) :
    ∀ count, Nat.repeat step count (step places) = step (Nat.repeat step count places)
  | 0 => rfl
  | count + 1 => by rw [Nat.repeat, repeat_step step places count, Nat.repeat]

/-- Stopping early makes no difference. -/
theorem runTimes_eq_repeat (step : Places → Places) (count : Nat) (places : Places) :
    runTimes step count places = Nat.repeat step count places := by
  induction count generalizing places with
  | zero => rfl
  | succ count ih =>
    rw [runTimes]
    split
    · next h => exact (repeat_of_fixed h (count + 1)).symm
    · rw [ih, repeat_step, Nat.repeat]

end Places

/-! ## § 2. Overlays -/

/-- A pattern laid over a text: in place of its sets and assertions stand the places that pass. -/
inductive Overlay
  /-- Stays at a place that passes. -/
  | stay (passing : Places)
  /-- Passes the character after a place that passes. -/
  | advance (passing : Places)
  | concat (o p : Overlay)
  | either (o p : Overlay)
  /-- At least `least` rounds, and at most `spare` rounds more. -/
  | repeated (o : Overlay) (least spare : Nat)

namespace Pattern

def asciiWord : CharSet := .ofText "30-39 41-5A 5F 61-7A"

def before (text : Array Char) (i : Nat) : Option Char := if i = 0 then none else text[i - 1]?

/-- Lays a pattern over a text. A round of a loop that leads anywhere new adds a place, so a loop
without a limit needs no more rounds than the text has characters. -/
def overlay (text : Array Char) : Pattern → Overlay
  | .empty => .stay (.all text.size)
  | .set s => .advance (.ofTest text.size fun i => text[i]?.any s.contains)
  | .assert a asciiWords =>
    let words := if asciiWords then asciiWord else Unicode.word
    .stay (.ofTest text.size fun i => a.holds words.contains (before text i) text[i]?)
  | .group _ p => p.overlay text
  | .concat p q => .concat (p.overlay text) (q.overlay text)
  | .either p q => .either (p.overlay text) (q.overlay text)
  | .repeated p least most =>
    .repeated (p.overlay text) least ((most.map (· - least)).getD text.size)

end Pattern

/-! ## § 3. Matches -/

namespace Overlay

/-- The places where matches may end that start at some places. -/
def ends : Overlay → Places → Places
  | .stay passing, starts => starts &&& passing
  | .advance passing, starts => (starts &&& passing) <<< 1
  | .concat o p, starts => p.ends (o.ends starts)
  | .either o p, starts => o.ends starts ||| p.ends starts
  | .repeated o least spare, starts =>
    let first := Places.runTimes (fun s => o.ends s) least starts
    Places.runTimes (fun s => s ||| o.ends s) spare first

end Overlay

def Pattern.occursIn (p : Pattern) (s : String) : Bool :=
  let text := s.toList.toArray
  (p.overlay text).ends (.all text.size) ≠ 0

end CausalPath
