import CausalPath.Pattern.Bracket
import CausalPath.Pattern.Size

/-!
# Pattern syntax

Patterns are written in the usual notation: literals, `.`, bracketed sets, escapes, assertions,
groups with or without names and flags, alternatives and repetitions. There are no look-around and
no back-references. The parser keeps a stack of open groups and reads its text once. A pattern that
is nested too deeply or whose automata are too large is refused.
-/

namespace CausalPath

namespace Pattern

/-! ## § 1. The parser -/

def maxLevels : Nat := 250

/-- What is around an open group. Lists are kept last one first. -/
structure OpenGroup where
  flags : Flags
  choices : List (Nested Pattern)
  items : List (Nested Pattern)
  /-- The number of the group, if it has one. -/
  number : Option Nat

/-- Where the parser is. Lists are kept last one first. -/
structure Parser where
  flags : Flags
  /-- The alternatives of the present group that are complete. -/
  choices : List (Nested Pattern)
  /-- The items of the present alternative. -/
  items : List (Nested Pattern)
  /-- Whether the last thing read may be repeated. -/
  repeatable : Bool
  /-- How many groups have numbers. -/
  count : Nat
  /-- The names of groups. -/
  names : List String
  groups : List OpenGroup

namespace Parser

def start : Parser := ⟨.standard, [], [], false, 0, [], []⟩

def push (p : Parser) (item : Nested Pattern) : Parser :=
  { p with items := item :: p.items, repeatable := true }

def lastChoice (p : Parser) : Nested Pattern :=
  ⟨ofSequence (p.items.reverse.map Nested.value), levelsOf p.items⟩

def pattern (p : Parser) : Nested Pattern :=
  let choices := p.lastChoice :: p.choices
  ⟨ofChoices (choices.reverse.map Nested.value), levelsOf choices⟩

def nextChoice (p : Parser) : Parser :=
  { p with choices := p.lastChoice :: p.choices, items := [], repeatable := false }

/-! ## § 2. Groups -/

def openGroup (p : Parser) (flags : Flags) (number : Option Nat) : Parser :=
  { p with
    flags
    choices := []
    items := []
    repeatable := false
    groups := ⟨p.flags, p.choices, p.items, number⟩ :: p.groups }

def openNumbered (p : Parser) : Parser :=
  { p with count := p.count + 1 }.openGroup p.flags (some (p.count + 1))

/-- Closes a group. -/
def closeGroup? (p : Parser) : Option Parser :=
  match p.groups with
  | [] => none
  | g :: rest =>
    let inner := p.pattern
    let group := match g.number with
      | some n => .group n inner.value
      | none => inner.value
    some ({ p with flags := g.flags, choices := g.choices, items := g.items, groups := rest }.push
      ⟨group, inner.levels + 1⟩)

/-- The characters of the names of groups: no digit, point or bracket comes first. -/
def isNameChar (first : Bool) (c : Char) : Bool :=
  c = '_' || Unicode.alphabetic.contains c
    || (!first
      && (c = '.' || c = '[' || c = ']' || (Unicode.inCategories ["Nd", "Nl", "No"]).contains c))

/-- Opens a group with a name, after its angle bracket. -/
def openNamed? (p : Parser) (cs : List Char) : Option (Parser × List Char) :=
  let name := cs.takeWhile (· ≠ '>')
  match cs.dropWhile (· ≠ '>') with
  | _ :: rest =>
    if name.head?.any (isNameChar true) ∧ name.tail.all (isNameChar false)
        ∧ String.ofList name ∉ p.names then
      some ({ p with names := String.ofList name :: p.names }.openNumbered, rest)
    else
      none
  | [] => none

/-- Opens a group, after its parenthesis, or sets flags up to the end of the present group. -/
def open? (p : Parser) (cs : List Char) : Option (Parser × List Char) :=
  match p.flags.skip cs with
  | '?' :: '=' :: _ => none
  | '?' :: '!' :: _ => none
  | '?' :: '<' :: '=' :: _ => none
  | '?' :: '<' :: '!' :: _ => none
  | '?' :: 'P' :: '<' :: rest => p.openNamed? rest
  | '?' :: '<' :: rest => p.openNamed? rest
  | '?' :: rest => do
    let ((seen, flags, stop), rest) ← readFlags? [] p.flags rest
    match stop with
    | .groupStart => return (p.openGroup flags none, rest)
    | .groupEnd =>
      if seen.isEmpty then none
      else some ({ p with flags, items := ⟨.empty, 0⟩ :: p.items, repeatable := false }, rest)
  | rest => some (p.openNumbered, rest)

/-! ## § 3. Repetitions -/

/-- Repeats the last item, which makes one level more. -/
def repeatLast? (p : Parser) (least : Nat) (most : Option Nat) : Option Parser :=
  match p.repeatable, p.items with
  | true, item :: rest =>
    if item.levels < maxLevels then
      some { p with items := ⟨item.value.times least most, item.levels + 1⟩ :: rest }
    else
      none
  | _, _ => none

/-- Drops the mark of a repetition that takes as little as it can; it changes no match. -/
def dropLazy : List Char → List Char
  | '?' :: rest => rest
  | cs => cs

def readCount? (f : Flags) (cs : List Char) : Option (Nat × List Char) :=
  let (digits, rest) := f.takeWhile Char.isDigit (cs.dropWhile Text.isBlank)
  if digits = [] ∨ 0x100000000 ≤ Text.number 10 digits then
    none
  else
    some (Text.number 10 digits, rest.dropWhile Text.isBlank)

/-- Repeats the last item a number of times, after a brace. -/
def repeatCounted? (p : Parser) (cs : List Char) : Option (Parser × List Char) := do
  let (least, rest) ← readCount? p.flags (p.flags.skip cs)
  let (most, rest) ←
    match rest with
    | ',' :: rest =>
      match p.flags.skip rest with
      | '\x7d' :: rest => some (none, '\x7d' :: rest)
      | rest => (readCount? p.flags rest).map fun r => (some r.1, r.2)
    | _ => some (some least, rest)
  match rest with
  | '\x7d' :: rest =>
    if most.any (· < least) then none
    else return (← p.repeatLast? least most, dropLazy (p.flags.skip rest))
  | _ => none

/-! ## § 4. Single items -/

def pushSet (p : Parser) (s : CharSet) : Parser := p.push ⟨.set s, 0⟩

/-- Adds a character. Without Unicode, case is ignored in ASCII alone. -/
def pushLiteral (p : Parser) (c : Char) : Parser := p.pushSet (p.flags.fold (.single c))

def pushAssertion (p : Parser) (a : Assertion) : Parser := p.push ⟨.assert a (!p.flags.unicode), 0⟩

/-- The characters that a point stands for. Without Unicode they would be bytes of any value. -/
def anyCharacter? (f : Flags) : Option CharSet :=
  if !f.unicode then none
  else if f.dotNewline then some .all
  else if f.returnEndsLine then some (CharSet.ofText "A D").complement
  else some (CharSet.single '\n').complement

def lineStart (f : Flags) : Assertion :=
  if !f.multiLine then .textStart else if f.returnEndsLine then .lineStartReturn else .lineStart

def lineEnd (f : Flags) : Assertion :=
  if !f.multiLine then .textEnd else if f.returnEndsLine then .lineEndReturn else .lineEnd

/-! ## § 5. Patterns -/

/-- Reads the next part of a pattern. -/
def step? (p : Parser) (c : Char) (rest : List Char) : Option (Parser × List Char) :=
  match c with
  | '(' => p.open? rest
  | ')' => p.closeGroup?.map (·, rest)
  | '|' => some (p.nextChoice, rest)
  | '[' => (readBracket? p.flags rest).map fun r => (p.push ⟨.set r.1.value, r.1.levels⟩, r.2)
  | '?' => (p.repeatLast? 0 (some 1)).map (·, dropLazy rest)
  | '*' => (p.repeatLast? 0 none).map (·, dropLazy rest)
  | '+' => (p.repeatLast? 1 none).map (·, dropLazy rest)
  | '\x7b' => p.repeatCounted? rest
  | '\\' => do
    let (x, rest) ← readEscape? p.flags rest
    match x with
    | .literal c => return (p.pushLiteral c, rest)
    | .set s => return (p.pushSet s, rest)
    | .assert a => return (p.pushAssertion a, rest)
  | '.' => (anyCharacter? p.flags).map fun s => (p.pushSet s, rest)
  | '^' => some (p.pushAssertion (lineStart p.flags), rest)
  | '$' => some (p.pushAssertion (lineEnd p.flags), rest)
  | c => some (p.pushLiteral c, rest)

/-- Reads the rest of a pattern, in at most `count` steps. -/
def run? (p : Parser) : Nat → List Char → Option (Nested Pattern)
  | 0, _ => none
  | count + 1, cs =>
    match p.flags.skip cs with
    | [] => if p.groups.isEmpty then some p.pattern else none
    | c :: rest =>
      match p.step? c rest with
      | none => none
      | some (p, rest) => p.run? count rest

end Parser

def parse? (s : String) : Option Pattern := do
  let p ← Parser.start.run? (s.toList.length + 1) s.toList
  if p.levels ≤ maxLevels ∧ p.value.fits then return p.value else none

end Pattern

end CausalPath
