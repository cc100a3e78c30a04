import CausalPath.Pattern.Escape

/-!
# Bracketed sets

A set in brackets lists characters, ranges, classes and further sets in brackets, and it may be
negated. Between two lists `&&` takes what is in both, `--` what is only in the first, and `~~` what
is in one of them alone; all three bind alike, from the left. How deep sets are nested is counted.
-/

namespace CausalPath

namespace Pattern

/-! ## § 1. Levels -/

/-- What was read, with the number of levels in it. -/
structure Nested (α : Type) where
  value : α
  levels : Nat

/-- The levels of parts in a row, which are a level more if there are several. -/
def levelsOf {α : Type} (parts : List (Nested α)) : Nat :=
  match parts with
  | [] => 0
  | [part] => part.levels
  | parts => (parts.map Nested.levels).foldl max 0 + 1

/-! ## § 2. Operators -/

/-- What joins two sets. -/
inductive SetOperator
  | inter
  | diff
  | symmDiff

def SetOperator.join : SetOperator → CharSet → CharSet → CharSet
  | .inter => .inter
  | .diff => .diff
  | .symmDiff => .symmDiff

/-- What was read of a set. -/
structure OpenSet where
  negated : Bool
  /-- What stands on the left of the operator that came last. -/
  left : Option (Nested CharSet × SetOperator)
  /-- The items since then, last one first. -/
  items : List (Nested CharSet)

namespace OpenSet

def push (s : OpenSet) (item : Nested CharSet) : OpenSet := { s with items := item :: s.items }

def joined (f : Flags) (s : OpenSet) : Nested CharSet :=
  let right := f.fold (.unions (s.items.map Nested.value))
  let levels := levelsOf s.items
  match s.left with
  | none => ⟨right, levels⟩
  | some (left, op) => ⟨op.join left.value right, max left.levels levels + 1⟩

def operator (f : Flags) (s : OpenSet) (op : SetOperator) : OpenSet :=
  { s with left := some (s.joined f, op), items := [] }

def close? (f : Flags) (s : OpenSet) : Option (Nested CharSet) := do
  let whole := s.joined f
  return ⟨← if s.negated then f.negate? whole.value else some whole.value, whole.levels + 1⟩

end OpenSet

/-- Reads the start of a set, after its bracket. Minus signs at the start stand for themselves, and
so does a bracket that comes first. -/
def openSet (f : Flags) (cs : List Char) : OpenSet × List Char :=
  let (negated, cs) : Bool × List Char :=
    match f.skip cs with
    | '^' :: rest => (true, rest)
    | cs => (false, cs)
  match f.takeWhile (· = '-') cs with
  | ([], ']' :: rest) => (⟨negated, none, [⟨.single ']', 0⟩]⟩, rest)
  | (minuses, rest) => (⟨negated, none, minuses.map fun c => ⟨.single c, 0⟩⟩, rest)

/-! ## § 3. Items -/

def readSetPrimitive? (f : Flags) : Reads Primitive
  | [] => none
  | '\\' :: rest => readEscape? f rest
  | c :: rest => some (.literal c, rest)

/-- The set of a character or class. An assertion is none. -/
def Primitive.set? (f : Flags) : Primitive → Option CharSet
  | .literal c => f.single? c
  | .set s => some s
  | .assert _ => none

/-- The range between two characters, of which the first must not be the larger one. -/
def range? (f : Flags) (first last : Primitive) : Option CharSet :=
  match first, last with
  | .literal a, .literal b => do
    let _ ← f.single? a
    let _ ← f.single? b
    if a ≤ b then return .ofRanges [(a.toNat, b.toNat)] else none
  | _, _ => none

/-- The character by which a minus sign is told to stand for itself or for a range. Where comments
are skipped, a number sign is passed over but the comment is not. -/
def afterMinus? (f : Flags) (cs : List Char) : Option Char :=
  if f.ignoreSpace then
    match cs.dropWhile Text.isBlank with
    | '#' :: rest => (rest.dropWhile Text.isBlank).head?
    | rest => rest.head?
  else
    cs.head?

/-- Reads an item of a set: a range, a character or a class. A minus sign before a bracket or before
another minus sign makes no range. -/
def readSetItem? (f : Flags) (cs : List Char) : Option (CharSet × List Char) := do
  let (first, rest) ← readSetPrimitive? f cs
  match f.skip rest with
  | '-' :: after =>
    if afterMinus? f after ∈ [some ']', some '-'] then
      return (← first.set? f, rest)
    else
      let (last, rest) ← readSetPrimitive? f (f.skip after)
      return (← range? f first last, rest)
  | _ => return (← first.set? f, rest)

/-! ## § 4. Named classes -/

/-- The class of a name between brackets and colons. -/
def asciiClass? (name : String) : Option CharSet :=
  match name with
  | "alnum" => some (.ofText "30-39 41-5A 61-7A")
  | "alpha" => some (.ofText "41-5A 61-7A")
  | "ascii" => some .ascii
  | "blank" => some (.ofText "9 20")
  | "cntrl" => some (.ofText "0-1F 7F")
  | "digit" => some (.ofText "30-39")
  | "graph" => some (.ofText "21-7E")
  | "lower" => some (.ofText "61-7A")
  | "print" => some (.ofText "20-7E")
  | "punct" => some (.ofText "21-2F 3A-40 5B-60 7B-7E")
  | "space" => some (.ofText "9-D 20")
  | "upper" => some (.ofText "41-5A")
  | "word" => some asciiWord
  | "xdigit" => some (.ofText "30-39 41-46 61-66")
  | _ => none

/-- Reads the name of a class, after a bracket; the answer tells whether the class is negated. -/
def readAsciiClass? : Reads (Bool × CharSet)
  | ':' :: cs =>
    match cs.dropWhile (· ≠ ':') with
    | ':' :: ']' :: rest =>
      match cs.takeWhile (· ≠ ':') with
      | '^' :: name => (asciiClass? (String.ofList name)).map fun s => ((true, s), rest)
      | name => (asciiClass? (String.ofList name)).map fun s => ((false, s), rest)
    | _ => none
  | _ => none

/-! ## § 5. Sets -/

/-- Reads the rest of a set, in at most `count` steps. What stands in a bracket and is no named
class is a set of its own. -/
def readSet? (f : Flags) (s : OpenSet) : Nat → Reads (Nested CharSet)
  | 0 => fun _ => none
  | count + 1 => fun cs =>
    match f.skip cs with
    | [] => none
    | ']' :: rest => (s.close? f).map (·, rest)
    | '&' :: '&' :: rest => readSet? f (s.operator f .inter) count rest
    | '-' :: '-' :: rest => readSet? f (s.operator f .diff) count rest
    | '~' :: '~' :: rest => readSet? f (s.operator f .symmDiff) count rest
    | '[' :: rest =>
      match readAsciiClass? rest with
      | some ((negated, t), rest) => do
        readSet? f (s.push ⟨← f.fold? negated t, 0⟩) count rest
      | none => do
        let (inner, rest) := openSet f rest
        let (t, rest) ← readSet? f inner count rest
        readSet? f (s.push t) count rest
    | cs => do
      let (t, rest) ← readSetItem? f cs
      readSet? f (s.push ⟨t, 0⟩) count rest

def readBracket? (f : Flags) (cs : List Char) : Option (Nested CharSet × List Char) :=
  let (s, rest) := openSet f cs
  readSet? f s (cs.length + 1) rest

end Pattern

end CausalPath
