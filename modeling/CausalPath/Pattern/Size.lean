import CausalPath.Pattern.Basic

/-!
# The size of patterns

A pattern is refused when the automata that read it are too large. There are two of them: one reads
the bytes of a text in order, and one reads them backwards. Their sizes are computed from the
pattern and no automaton is built, so a repetition of any count costs nothing to measure. What is
counted are states and the links between them; a set beyond ASCII is measured by the byte sequences
of its characters.
-/

namespace CausalPath

namespace Pattern

/-! ## § 1. Byte sequences -/

def sumOf (ns : List Nat) : Nat := ns.foldl (· + ·) 0

/-- The ranges of bytes that the code points of a range have, byte by byte. -/
abbrev ByteRanges := List (Nat × Nat)

/-- The byte sequences of the numbers from `a` to `b`, where `lead` is added to the first of their
digits in base 64 and `rest` more digits follow. -/
def digitRanges (lead : Nat) : Nat → Nat → Nat → List ByteRanges
  | 0, a, b => [[(lead + a, lead + b)]]
  | rest + 1, a, b =>
    let unit := Nat.pow 64 (rest + 1)
    let under (first low high : Nat) : List ByteRanges :=
      (digitRanges 0x80 rest low high).map ((lead + first, lead + first) :: ·)
    if a / unit = b / unit then
      under (a / unit) (a % unit) (b % unit)
    else
      let full : ByteRanges := List.replicate (rest + 1) (0x80, 0xBF)
      let first := if a % unit = 0 then a / unit else a / unit + 1
      let next := if b % unit = unit - 1 then b / unit + 1 else b / unit
      (if a % unit = 0 then [] else under (a / unit) (a % unit) (unit - 1))
        ++ (if first < next then [(lead + first, lead + next - 1) :: full] else [])
        ++ (if b % unit = unit - 1 then [] else under (b / unit) 0 (b % unit))

/-- The code points that are written alike: from the first to the last, with a lead byte and a
number of bytes after it. -/
def byteLengths : List (Nat × Nat × Nat × Nat) :=
  [(0, 0x7F, 0, 0), (0x80, 0x7FF, 0xC0, 1), (0x800, 0xD7FF, 0xE0, 2), (0xE000, 0xFFFF, 0xE0, 2),
   (0x10000, CharSet.maxCode, 0xF0, 3)]

/-- The byte sequences of the characters of a set, in ascending order. -/
def byteSequences (s : CharSet) : List ByteRanges :=
  s.ranges.flatMap fun r => byteLengths.flatMap fun (low, high, lead, rest) =>
    let a := max r.1 low
    let b := min r.2 high
    if a ≤ b then digitRanges lead rest a b else []

/-- The first bytes of some sequences, each with what may follow it. -/
def branches : List ByteRanges → List ((Nat × Nat) × List ByteRanges)
  | [] => []
  | [] :: rest => branches rest
  | (first :: tail) :: rest =>
    match branches rest with
    | (next, tails) :: more =>
      if first = next then (first, tail :: tails) :: more
      else (first, [tail]) :: (next, tails) :: more
    | [] => [(first, [tail])]

/-- The points at which a reader of some sequences may stand, each given by what may follow. The
points behind a last byte are left out. -/
def points : Nat → List ByteRanges → List (List ByteRanges)
  | 0, _ => []
  | length + 1, sequences =>
    sequences :: (branches sequences).flatMap fun b =>
      if b.2 = [[]] then [] else points length b.2

/-! ## § 2. Costs -/

def stateCost : Nat := 32

/-- What a transition of a state with several of them costs. -/
def transitionCost : Nat := 8

def linkCost : Nat := 4

/-- Which automaton is measured. -/
inductive Direction
  | forward
  | backward
  deriving DecidableEq

/-- The cost of a set beyond ASCII. Forward, points after which the same may follow are one state.
Backward, each byte range at each point is a state. -/
def wideCost (d : Direction) (s : CharSet) : Nat :=
  let sequences := byteSequences s
  let all := points 4 sequences
  match d with
  | .forward =>
    stateCost
      + sumOf (all.eraseDups.map fun p => stateCost + transitionCost * (branches p).length)
  | .backward =>
    2 * stateCost + linkCost * sequences.length
      + sumOf (all.map fun p => stateCost * (branches p).length)

def bytesOf (n : Nat) : List Nat := (byteSequences ⟨[(n, n)]⟩).flatten.map (·.1)

def setCost (d : Direction) (s : CharSet) : Nat :=
  match s.onlyMember? with
  | some n => stateCost * (bytesOf n).length
  | none =>
    if s.isAscii then 2 * stateCost + transitionCost * s.ranges.length else wideCost d s

/-! ## § 3. Alternative words -/

def asWord? : Pattern → Option (List Nat)
  | .set s => s.onlyMember?.map bytesOf
  | .concat p q => do return (← p.asWord?) ++ (← q.asWord?)
  | _ => none

def sections : List (List Nat) → List (List (List Nat))
  | [] => [[]]
  | [] :: rest => [] :: sections rest
  | word :: rest =>
    match sections rest with
    | s :: more => (word :: s) :: more
    | [] => [[word]]

def followers (words : List (List Nat)) : List (List (List Nat)) :=
  ((words.filterMap List.head?).eraseDups).map fun b =>
    (words.filter fun w => w.head? = some b).map List.tail

/-- The cost of the tree of some words, whose length is at most `length`. -/
def treeCost : Nat → List (List Nat) → Nat
  | 0, _ => 0
  | length + 1, words =>
    let parts := sections words
    let children := (parts.map followers).filter (· ≠ [])
    let own (c : List (List (List Nat))) : Nat :=
      if c.length = 1 then stateCost else stateCost + transitionCost * c.length
    let below := children.flatten.filter fun c => c.any (· ≠ [])
    stateCost + linkCost * (children.length + parts.length - 1)
      + sumOf (children.map own) + sumOf (below.map (treeCost length))

def wordsCost (d : Direction) (words : List (List Nat)) : Nat :=
  let words := if d = .forward then words else words.map List.reverse
  stateCost + treeCost ((words.map List.length).foldl max 0 + 1) words

/-! ## § 4. Patterns -/

/-- The number of characters of the shortest match, if there is a match. -/
def shortest? : Pattern → Option Nat
  | .empty => some 0
  | .set s => if s.ranges.isEmpty then none else some 1
  | .assert _ _ => some 0
  | .group _ p => p.shortest?
  | .concat p q => do return (← p.shortest?) + (← q.shortest?)
  | .either p q => do return min (← p.shortest?) (← q.shortest?)
  | .repeated p least _ => p.shortest?.map (least * ·)

/-- The cost of a repetition of a part whose cost is `part`. -/
def repetitionCost (part : Nat) (mayBeEmpty : Bool) (least : Nat) (most : Option Nat) : Nat :=
  let fork := stateCost + 2 * linkCost
  match least, most with
  | 0, some 1 => part + fork + stateCost
  | 0, none => if mayBeEmpty then part + 2 * fork + stateCost else part + fork
  | least, none => least * part + fork
  | least, some most =>
    let required := if least = 0 then stateCost else least * part
    if least = most then required else required + stateCost + (most - least) * (part + fork)

/-- The cost of a pattern. An alternative costs a link more. -/
def cost (d : Direction) (isChoice : Bool) : Pattern → Nat
  | .either p q =>
    let apart := cost d true p + cost d true q
    if isChoice then
      apart
    else
      match (p.choices ++ q.choices).mapM asWord? with
      | some words => wordsCost d words
      | none => 2 * stateCost + apart
  | .empty => link + stateCost
  | .set s => link + setCost d s
  | .assert _ _ => link + stateCost
  | .group _ p => link + cost d false p + if d = .forward then 2 * stateCost else 0
  | .concat p q => link + cost d false p + cost d false q
  | .repeated p least most =>
    link + repetitionCost (cost d false p) (!p.shortest?.any (0 < ·)) least most
where
  /-- The link to an alternative. -/
  link : Nat := if isChoice then linkCost else 0

/-- Whether an assertion is made before the first or after the last character of every match. -/
def isAnchored (d : Direction) : Pattern → Bool
  | .empty => false
  | .set _ => false
  | .assert a _ => a = (if d = .forward then .textStart else .textEnd)
  | .group _ p => isAnchored d p
  | .concat p q =>
    if d = .forward then isAnchored d p || (p.isHollow && isAnchored d q)
    else isAnchored d q || (q.isHollow && isAnchored d p)
  | .either p q => isAnchored d p && isAnchored d q
  | .repeated p least _ => decide (0 < least) && isAnchored d p

/-- The cost of an automaton. One that is not anchored has a loop over any bytes in front. -/
def automatonCost (d : Direction) (p : Pattern) : Nat :=
  let front := if isAnchored d p then stateCost else 3 * stateCost + transitionCost + 2 * linkCost
  let whole := if d = .forward then 2 * stateCost else 0
  front + whole + cost d false p + stateCost

def maxCost : Nat := 10 * 1024 * 1024

def fits (p : Pattern) : Bool :=
  automatonCost .forward p ≤ maxCost && automatonCost .backward p ≤ maxCost

end Pattern

end CausalPath
