import CausalPath.Text.CharSet

/-!
# Patterns

Regular expressions over sets of characters, with assertions about the place between two characters.
The functions that put patterns together keep what they match and bring them into a form in which
equal parts stand side by side: characters in a row, alternatives that are sets, and what all
alternatives start with.
-/

namespace CausalPath

/-! ## § 1. Assertions -/

/-- What may be asserted of the place between two characters. -/
inductive Assertion
  | textStart
  | textEnd
  | lineStart
  | lineEnd
  /-- As `lineStart`, where carriage returns end lines too. -/
  | lineStartReturn
  /-- As `lineEnd`, where carriage returns end lines too. -/
  | lineEndReturn
  | boundary
  | noBoundary
  | wordStart
  | wordEnd
  | noWordBefore
  | noWordAfter
  deriving DecidableEq

/-- Whether an assertion holds between two characters, of which either may be missing at an end of
the text. -/
def Assertion.holds (isWord : Char → Bool) (before after : Option Char) : Assertion → Bool
  | .textStart => before.isNone
  | .textEnd => after.isNone
  | .lineStart => before.all (· = '\n')
  | .lineEnd => after.all (· = '\n')
  | .lineStartReturn => before.all fun c => c = '\n' || (c = '\r' && after ≠ some '\n')
  | .lineEndReturn => after.all fun c => c = '\r' || (c = '\n' && before ≠ some '\r')
  | .boundary => before.any isWord != after.any isWord
  | .noBoundary => before.any isWord == after.any isWord
  | .wordStart => !before.any isWord && after.any isWord
  | .wordEnd => before.any isWord && !after.any isWord
  | .noWordBefore => !before.any isWord
  | .noWordAfter => !after.any isWord

/-! ## § 2. Patterns -/

/-- A regular expression. -/
inductive Pattern
  | empty
  | set (s : CharSet)
  /-- An assertion; words are ASCII or not. -/
  | assert (a : Assertion) (asciiWords : Bool)
  /-- A part that has a number of its own. -/
  | group (number : Nat) (p : Pattern)
  | concat (p q : Pattern)
  | either (p q : Pattern)
  /-- At least `least` and at most `most` times, or any number of times from `least` on. -/
  | repeated (p : Pattern) (least : Nat) (most : Option Nat)
  deriving DecidableEq

namespace Pattern

/-- One pattern after another, of which an empty one leaves no trace. -/
def join : Pattern → Pattern → Pattern
  | .empty, q => q
  | p, .empty => p
  | p, q => .concat p q

def ofSequence (ps : List Pattern) : Pattern := ps.foldr join .empty

def choices : Pattern → List Pattern
  | .either p q => p.choices ++ q.choices
  | p => [p]

def asSet? : Pattern → Option CharSet
  | .set s => some s
  | _ => none

def isSingle (p : Pattern) : Bool := p.asSet?.any (·.onlyMember?.isSome)

/-- The set that alternatives come to, if all or none of them are one character and all are sets. -/
def commonSet? (ps : List Pattern) : Option CharSet := do
  let sets ← ps.mapM asSet?
  if ps.all isSingle || !ps.any isSingle then return .unions sets else none

def oneOf (ps : List Pattern) : Pattern :=
  match commonSet? ps, ps.reverse with
  | some s, _ => .set s
  | none, [] => .empty
  | none, last :: others => others.foldl (fun q p => .either p q) last

def items : Pattern → List Pattern
  | .concat p q => p.items ++ q.items
  | p => [p]

/-- The factors of a pattern. Characters in a row are one factor. -/
def factors (p : Pattern) : List (List Pattern) :=
  p.items.splitBy fun p q => p.isSingle && q.isSingle

def commonHead {α : Type} [DecidableEq α] : List α → List α → List α
  | a :: as, b :: bs => if a = b then a :: commonHead as bs else []
  | _, _ => []

/-- The factors with which several alternatives start, if each of them has several factors. -/
def sharedFactors (ps : List Pattern) : List (List Pattern) :=
  match ps.map factors with
  | first :: second :: rest =>
    if (first :: second :: rest).all (2 ≤ ·.length) then (second :: rest).foldl commonHead first
    else []
  | _ => []

/-- One of several patterns, where what all of them start with stands in front of the choice. -/
def ofChoices (ps : List Pattern) : Pattern :=
  let ps := ps.flatMap choices
  let shared := sharedFactors ps
  let tails := ps.map fun p => ofSequence (p.factors.drop shared.length).flatten
  ofSequence (shared.flatten ++ [oneOf (tails.flatMap choices)])

/-- Whether the matches of a pattern have no characters. -/
def isHollow : Pattern → Bool
  | .empty => true
  | .set _ => false
  | .assert _ _ => true
  | .group _ p => p.isHollow
  | .concat p q => p.isHollow && q.isHollow
  | .either p q => p.isHollow && q.isHollow
  | .repeated p _ most => p.isHollow && most.isSome

/-- A pattern a number of times. What is hollow matches no more when it is repeated. -/
def times (p : Pattern) (least : Nat) (most : Option Nat) : Pattern :=
  let least := if p.isHollow then min least 1 else least
  let most := if p.isHollow then some (min (most.getD 1) 1) else most
  if most = some 0 then .empty
  else if least = 1 ∧ most = some 1 then p
  else .repeated p least most

end Pattern

end CausalPath
