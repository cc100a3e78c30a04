import CausalPath.Pattern.Matching
import CausalPath.Pattern.Flags
import CausalPath.Unicode.Query

/-!
# Escapes

What may follow a backslash: the classes of digits, white space and words, the sets that properties
name, characters by their numbers, control characters, assertions, and characters that stand for
themselves. Without Unicode every set must stay within ASCII, so most complements are refused.
-/

namespace CausalPath

namespace Pattern

/-! ## § 1. Sets under the flags -/

namespace Flags

/-- A set with the other cases of its members, if the flags ignore case. -/
def fold (f : Flags) (s : CharSet) : CharSet :=
  if !f.ignoreCase then s else if f.unicode then Unicode.anyCase s else Unicode.anyCaseAscii s

/-- The complement of a set. Without Unicode there is none, for it would leave ASCII. -/
def negate? (f : Flags) (s : CharSet) : Option CharSet :=
  if f.unicode then some s.complement else none

/-- A set or its complement. Case is ignored before the complement is taken. -/
def fold? (f : Flags) (negated : Bool) (s : CharSet) : Option CharSet :=
  if negated then f.negate? (f.fold s) else some (f.fold s)

/-- The set of a character. Without Unicode it is refused if it is not ASCII. -/
def single? (f : Flags) (c : Char) : Option CharSet :=
  if f.unicode || CharSet.ascii.contains c then some (.single c) else none

/-- The class of a letter: digits, white space or words. -/
def class? (f : Flags) (letter : Char) : Option CharSet :=
  match letter, f.unicode with
  | 'd', true => some (Unicode.inCategories ["Nd"])
  | 's', true => some Unicode.whiteSpace
  | 'w', true => some Unicode.word
  | 'd', false => some (.ofText "30-39")
  | 's', false => some (.ofText "9-D 20")
  | 'w', false => some asciiWord
  | _, _ => none

end Flags

/-! ## § 2. Characters by number -/

/-- Reads the digits of a hexadecimal number of `count` digits. -/
def readHex? (f : Flags) (value : Nat) : Nat → Reads Char
  | 0 => fun cs => (Text.scalar? value).map (·, cs)
  | count + 1 => fun cs =>
    match f.skip cs with
    | c :: rest =>
      if Text.isDigitOf 16 c then readHex? f (16 * value + Text.digitValue c) count rest else none
    | [] => none

/-- Reads the number of a character, after its letter. Without Unicode, two digits that are not in
braces are a byte, which must be ASCII. -/
def readCode? (f : Flags) (digits : Nat) (cs : List Char) : Option (Char × List Char) :=
  match f.skip cs with
  | '\x7b' :: rest => do
    let (digits, rest) ← f.braced? rest
    if digits ≠ [] ∧ digits.all (Text.isDigitOf 16) then
      return (← Text.scalar? (Text.number 16 digits), rest)
    else
      none
  | cs =>
    (readHex? f 0 digits cs).filter fun r => f.unicode || digits ≠ 2 || CharSet.ascii.contains r.1

/-! ## § 3. Properties -/

def splitAt? (word : List Char) : List Char → Option (List Char × List Char)
  | [] => none
  | c :: cs =>
    if word.isPrefixOf (c :: cs) then
      some ([], (c :: cs).drop word.length)
    else
      (splitAt? word cs).map fun r => (c :: r.1, r.2)

/-- The set that the text between braces names: a property, or a property and its value. -/
def propertySet? (f : Flags) (negated : Bool) (name : List Char) : Option CharSet :=
  match splitAt? ['!', '='] name with
  | some (p, v) => (Unicode.valued? p v).bind (f.fold? !negated)
  | none =>
    match (splitAt? [':'] name).or (splitAt? ['='] name) with
    | some (p, v) => (Unicode.valued? p v).bind (f.fold? negated)
    | none => (Unicode.named? name).bind (f.fold? negated)

/-- Reads a property, after its letter: one letter, or a name between braces. -/
def readProperty? (f : Flags) (negated : Bool) (cs : List Char) : Option (CharSet × List Char) :=
  if !f.unicode then
    none
  else
    match f.skip cs with
    | [] => none
    | '\x7b' :: rest => do
      let (name, rest) ← f.braced? rest
      return (← propertySet? f negated name, rest)
    | c :: rest => ((Unicode.named? [c]).bind (f.fold? negated)).map (·, rest)

/-! ## § 4. Word boundaries -/

def namedBoundary? (name : String) : Option Assertion :=
  match name with
  | "start" => some .wordStart
  | "end" => some .wordEnd
  | "start-half" => some .noWordBefore
  | "end-half" => some .noWordAfter
  | _ => none

/-- Reads what may follow the letter of a word boundary: a name between braces. Braces around
anything but letters are left for a repetition. -/
def readBoundary? (f : Flags) (cs : List Char) : Option (Assertion × List Char) :=
  let isNameChar (c : Char) : Bool := c.isAlpha || c = '-'
  match cs with
  | '\x7b' :: inner =>
    match f.takeWhile isNameChar inner with
    | (_, []) => none
    | ([], _) => some (.boundary, cs)
    | (name, '\x7d' :: rest) => (namedBoundary? (String.ofList name)).map (·, rest)
    | _ => none
  | _ => some (.boundary, cs)

/-! ## § 5. All escapes -/

/-- What one escape or character stands for. -/
inductive Primitive
  | literal (c : Char)
  | set (s : CharSet)
  | assert (a : Assertion)

def isMeta (c : Char) : Bool :=
  c ∈ ['\\', '.', '+', '*', '?', '(', ')', '|', '[', ']', '\x7b', '\x7d', '^', '$', '#', '&', '-',
    '~']

def isEscapable (c : Char) : Bool :=
  isMeta c || (CharSet.ascii.contains c && !c.isAlphanum && c ≠ '<' && c ≠ '>')

/-- The characters that letters after a backslash stand for. -/
def controlCharacter? (letter : Char) : Option Char :=
  match letter with
  | 'a' => some '\x07'
  | 'f' => some '\x0c'
  | 't' => some '\t'
  | 'n' => some '\n'
  | 'r' => some '\r'
  | 'v' => some '\x0b'
  | _ => none

/-- The assertions that letters and angles after a backslash stand for. -/
def assertion? (letter : Char) : Option Assertion :=
  match letter with
  | 'A' => some .textStart
  | 'z' => some .textEnd
  | 'B' => some .noBoundary
  | '<' => some .wordStart
  | '>' => some .wordEnd
  | _ => none

/-- Reads a class or property, after its backslash. A capital stands for the complement. -/
def readClass? (f : Flags) (c : Char) (rest : List Char) : Option (CharSet × List Char) :=
  if c = 'p' ∨ c = 'P' then
    readProperty? f (c = 'P') rest
  else do
    let s ← f.class? c.toLower
    return (← if c.isUpper then f.negate? s else some s, rest)

/-- Reads an escape, after its backslash. -/
def readEscape? (f : Flags) : Reads Primitive
  | [] => none
  | c :: rest =>
    match c with
    | 'x' => (readCode? f 2 rest).map fun r => (.literal r.1, r.2)
    | 'u' => (readCode? f 4 rest).map fun r => (.literal r.1, r.2)
    | 'U' => (readCode? f 8 rest).map fun r => (.literal r.1, r.2)
    | 'b' => (readBoundary? f rest).map fun r => (.assert r.1, r.2)
    | _ =>
      match controlCharacter? c, assertion? c with
      | some c, _ => some (.literal c, rest)
      | none, some a => some (.assert a, rest)
      | none, none =>
        if isEscapable c then some (.literal c, rest)
        else (readClass? f c rest).map fun r => (.set r.1, r.2)

end Pattern

end CausalPath
