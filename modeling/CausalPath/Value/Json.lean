import CausalPath.Decimal
import CausalPath.Text.Digits
import CausalPath.Value.Basic

/-!
# JSON

JSON texts are read in two passes, each of which goes over its input once. The lexer is an automaton
over characters; the reader is an automaton over tokens whose state is the stack of open containers.
`Value.compact` and `Value.pretty` write JSON.
-/

namespace CausalPath

namespace Json

/-! ## § 1. Tokens -/

/-- A token of a JSON text. -/
inductive Token
  | openList
  | closeList
  | openMap
  | closeMap
  | comma
  | colon
  /-- A string literal: a text, or foreign data if a surrogate stands by itself. -/
  | string (v : Value)
  /-- A number, a truth value or null. -/
  | atom (v : Value)

def isBlank (c : Char) : Bool := c = ' ' ∨ c = '\n' ∨ c = '\t' ∨ c = '\r'

def isNumeric (c : Char) : Bool := c.isDigit || c = '-' || c = '+' || c = '.' || c = 'e' || c = 'E'

/-- The parts of a number literal: sign, digits before the point, digits after it, exponent. -/
structure Literal where
  negative : Bool
  whole : List Char
  fraction : Option (List Char)
  exponent : Option Int

/-- The digits at the head of a text, at least one, and the rest. -/
def digits? (cs : List Char) : Option (List Char × List Char) :=
  match cs.takeWhile Char.isDigit with
  | [] => none
  | ds => some (ds, cs.dropWhile Char.isDigit)

/-- Reads the exponent of a number literal, up to its end. -/
def exponent? (cs : List Char) : Option (Option Int) :=
  match cs with
  | [] => some none
  | c :: rest =>
    if c = 'e' ∨ c = 'E' then
      match rest with
      | '-' :: ds => finish true ds
      | '+' :: ds => finish false ds
      | ds => finish false ds
    else
      none
where
  /-- Reads the digits of an exponent. -/
  finish (negative : Bool) (cs : List Char) : Option (Option Int) :=
    match digits? cs with
    | some (ds, []) =>
      let n : Int := Text.number 10 ds
      some (some (if negative then -n else n))
    | _ => none

/-- Reads a number literal: no plus sign, no leading zero, digits on both sides of a point. -/
def literal? (cs : List Char) : Option Literal := do
  let (negative, cs) :=
    match cs with
    | '-' :: rest => (true, rest)
    | _ => (false, cs)
  let (whole, rest) ← digits? cs
  if whole.head? = some '0' ∧ whole.length ≠ 1 then
    none
  else
    match rest with
    | '.' :: rest => do
      let (fraction, rest) ← digits? rest
      return ⟨negative, whole, some fraction, ← exponent? rest⟩
    | _ => return ⟨negative, whole, none, ← exponent? rest⟩

/-- The value of a number literal: an integer when it is written as one other than minus zero and
fits in a word, else a real number. -/
def Literal.value (l : Literal) : Value :=
  let n := Text.number 10 (l.whole ++ l.fraction.getD [])
  let signed : Int := if l.negative then -n else n
  let isWord := if l.negative then n ≠ 0 ∧ n ≤ 0x8000000000000000 else n < wordCount
  if l.fraction.isNone ∧ l.exponent.isNone ∧ isWord then
    .int signed
  else
    let magnitude := Decimal.toFloat n (l.exponent.getD 0 - (l.fraction.getD []).length)
    .real (if l.negative then -magnitude else magnitude)

def numberToken? (cs : List Char) : Option Token := (literal? cs).map fun l => .atom l.value

def wordToken? (cs : List Char) : Option Token :=
  if cs = "true".toList then some (.atom (.bool true))
  else if cs = "false".toList then some (.atom (.bool false))
  else if cs = "null".toList then some (.atom .null)
  else none

/-- The text of code units: a high surrogate and the low surrogate right after it make one
character, and a surrogate by itself makes none. -/
def joinUnits? : List Nat → Option (List Char)
  | [] => some []
  | u :: rest =>
    if 0xD800 ≤ u ∧ u < 0xDC00 then
      match rest with
      | u' :: rest' =>
        if 0xDC00 ≤ u' ∧ u' < 0xE000 then
          (joinUnits? rest').map (Char.ofNat (0x10000 + (u - 0xD800) * 0x400 + (u' - 0xDC00)) :: ·)
        else
          none
      | [] => none
    else if 0xDC00 ≤ u ∧ u < 0xE000 then
      none
    else
      (joinUnits? rest).map (Char.ofNat u :: ·)

def stringToken (units : List Nat) : Token :=
  .string ((joinUnits? units).elim .foreign fun cs => .text (String.ofList cs))

/-! ## § 2. The lexer -/

/-- Where the lexer is. Runs and code units are kept last one first. -/
inductive Mode
  | ready
  | number (run : List Char)
  | word (run : List Char)
  | string (units : List Nat)
  /-- After a backslash. -/
  | escape (units : List Nat)
  /-- Inside an escaped code unit of which `left` digits are missing. -/
  | unit (units : List Nat) (left value : Nat)

/-- The code unit of a one-letter escape. -/
def escapeUnit? (c : Char) : Option Nat :=
  if c = '\x22' ∨ c = '\\' ∨ c = '/' then some c.toNat
  else if c = 'b' then some 8
  else if c = 'f' then some 12
  else if c = 'n' then some 10
  else if c = 'r' then some 13
  else if c = 't' then some 9
  else none

/-- Meets a character between tokens. -/
def start? (c : Char) : Option (List Token × Mode) :=
  if isBlank c then some ([], .ready)
  else if c = '[' then some ([.openList], .ready)
  else if c = ']' then some ([.closeList], .ready)
  else if c = '\x7b' then some ([.openMap], .ready)
  else if c = '\x7d' then some ([.closeMap], .ready)
  else if c = ',' then some ([.comma], .ready)
  else if c = ':' then some ([.colon], .ready)
  else if c = '\x22' then some ([], .string [])
  else if c = '-' ∨ c.isDigit then some ([], .number [c])
  else if c.isLower then some ([], .word [c])
  else none

def endToken? (token : Option Token) (c : Char) : Option (List Token × Mode) := do
  let t ← token
  let (ts, m) ← start? c
  return (t :: ts, m)

/-- Meets a character. -/
def Mode.step? (m : Mode) (c : Char) : Option (List Token × Mode) :=
  match m with
  | .ready => start? c
  | .number run =>
    if isNumeric c then some ([], .number (c :: run)) else endToken? (numberToken? run.reverse) c
  | .word run =>
    if c.isLower then some ([], .word (c :: run)) else endToken? (wordToken? run.reverse) c
  | .string units =>
    if c = '\x22' then some ([stringToken units.reverse], .ready)
    else if c = '\\' then some ([], .escape units)
    else if c.toNat < 0x20 then none
    else some ([], .string (c.toNat :: units))
  | .escape units =>
    if c = 'u' then some ([], .unit units 4 0)
    else (escapeUnit? c).map fun u => ([], .string (u :: units))
  | .unit units left value =>
    if Text.isDigitOf 16 c then
      let value := 16 * value + Text.digitValue c
      some ([], if left ≤ 1 then .string (value :: units) else .unit units (left - 1) value)
    else
      none

def Mode.finish? : Mode → Option (List Token)
  | .ready => some []
  | .number run => (numberToken? run.reverse).map ([·])
  | .word run => (wordToken? run.reverse).map ([·])
  | _ => none

/-- Lexes the rest of a text; `done` holds the tokens before, last one first. -/
def lexFrom? (m : Mode) (done : List Token) : List Char → Option (List Token)
  | [] => m.finish?.map fun ts => (ts.reverse ++ done).reverse
  | c :: cs =>
    match m.step? c with
    | none => none
    | some (ts, m') => lexFrom? m' (ts.reverse ++ done) cs

def lex? (cs : List Char) : Option (List Token) := lexFrom? .ready [] cs

/-! ## § 3. The reader -/

/-- An open container, with the items read so far, last one first. -/
inductive Frame
  | list (items : List Value)
  /-- A map whose last key still waits for its value. -/
  | map (entries : List (Value × Value)) (key : Value)

/-- What the reader waits for. -/
inductive Expect
  | value
  /-- The first item of a list, or the list's end. -/
  | firstItem
  /-- The first key of a map, or the map's end. -/
  | firstKey
  | key (entries : List (Value × Value))
  | colon (entries : List (Value × Value)) (key : Value)
  /-- What comes after a value. -/
  | after (v : Value)

/-- Where the reader is: what it waits for, inside which containers. -/
structure Reader where
  frames : List Frame
  expect : Expect

def Reader.open? (frames : List Frame) : Token → Option Reader
  | .string v => some ⟨frames, .after v⟩
  | .atom v => some ⟨frames, .after v⟩
  | .openList => some ⟨.list [] :: frames, .firstItem⟩
  | .openMap => some ⟨frames, .firstKey⟩
  | _ => none

def Reader.close? (frames : List Frame) (v : Value) (t : Token) : Option Reader :=
  match frames, t with
  | .list items :: rest, .comma => some ⟨.list (v :: items) :: rest, .value⟩
  | .list items :: rest, .closeList => some ⟨rest, .after (.list (v :: items).reverse)⟩
  | .map entries k :: rest, .comma => some ⟨rest, .key ((k, v) :: entries)⟩
  | .map entries k :: rest, .closeMap => some ⟨rest, .after (.map ((k, v) :: entries).reverse)⟩
  | _, _ => none

/-- Meets a token. -/
def Reader.step? (r : Reader) (t : Token) : Option Reader :=
  match r.expect, t with
  | .value, t => open? r.frames t
  | .firstItem, .closeList =>
    match r.frames with
    | _ :: rest => some ⟨rest, .after (.list [])⟩
    | [] => none
  | .firstItem, t => open? r.frames t
  | .firstKey, .closeMap => some ⟨r.frames, .after (.map [])⟩
  | .firstKey, .string k => some ⟨r.frames, .colon [] k⟩
  | .key entries, .string k => some ⟨r.frames, .colon entries k⟩
  | .colon entries k, .colon => some ⟨.map entries k :: r.frames, .value⟩
  | .after v, t => close? r.frames v t
  | _, _ => none

/-- Reads the rest of the tokens. -/
def Reader.run? (r : Reader) : List Token → Option Value
  | [] =>
    match r with
    | ⟨[], .after v⟩ => some v
    | _ => none
  | t :: ts =>
    match r.step? t with
    | none => none
    | some r' => r'.run? ts

/-- The value of a JSON text: one value, with blanks around it. -/
def parse? (s : String) : Option Value := do Reader.run? ⟨[], .value⟩ (← lex? s.toList)

/-! ## § 4. Writing -/

/-- The form of a character inside a string literal: quotes, backslashes and control characters are
escaped, and all else stands for itself. -/
def escape (c : Char) : List Char :=
  if c = '\x22' then ['\\', '\x22']
  else if c = '\\' then ['\\', '\\']
  else if c = '\x08' then ['\\', 'b']
  else if c = '\x0c' then ['\\', 'f']
  else if c = '\n' then ['\\', 'n']
  else if c = '\r' then ['\\', 'r']
  else if c = '\t' then ['\\', 't']
  else if c.toNat < 0x20 then
    ['\\', 'u', '0', '0', Text.hexDigit (c.toNat / 16), Text.hexDigit (c.toNat % 16)]
  else [c]

def quote (s : String) : List Char := '\x22' :: s.toList.flatMap escape ++ ['\x22']

/-- The text of a value that is not a container. What JSON cannot say is null. -/
def scalar : Value → List Char
  | .bool true => "true".toList
  | .bool false => "false".toList
  | .int n => (toString n).toList
  | .real x => ((Decimal.shortest? x).getD "null").toList
  | .text s => quote s
  | _ => "null".toList

mutual

def chars : Value → List Char
  | .list items => '[' :: (itemChars items ++ [']'])
  | .map entries => '\x7b' :: (entryListChars entries ++ ['\x7d'])
  | v => scalar v

def itemChars : List Value → List Char
  | [] => []
  | [v] => chars v
  | v :: rest => chars v ++ (',' :: itemChars rest)

def entryListChars : List (Value × Value) → List Char
  | [] => []
  | [e] => entryChars e
  | e :: rest => entryChars e ++ (',' :: entryListChars rest)

def entryChars : Value × Value → List Char
  | (k, v) => chars k ++ (':' :: chars v)

end

def newline (depth : Nat) : List Char := '\n' :: List.replicate (2 * depth) ' '

mutual

/-- The JSON text of a value with one item or entry per line, from a depth on. -/
def prettyChars (depth : Nat) : Value → List Char
  | .list [] => ['[', ']']
  | .list items => '[' :: (prettyItems (depth + 1) items ++ (newline depth ++ [']']))
  | .map [] => ['\x7b', '\x7d']
  | .map entries => '\x7b' :: (prettyEntries (depth + 1) entries ++ (newline depth ++ ['\x7d']))
  | v => scalar v

def prettyItems (depth : Nat) : List Value → List Char
  | [] => []
  | [v] => newline depth ++ prettyChars depth v
  | v :: rest => newline depth ++ (prettyChars depth v ++ (',' :: prettyItems depth rest))

def prettyEntries (depth : Nat) : List (Value × Value) → List Char
  | [] => []
  | [e] => newline depth ++ prettyEntry depth e
  | e :: rest => newline depth ++ (prettyEntry depth e ++ (',' :: prettyEntries depth rest))

def prettyEntry (depth : Nat) : Value × Value → List Char
  | (k, v) => prettyChars depth k ++ (':' :: ' ' :: prettyChars depth v)

end

end Json

def Value.compact (v : Value) : String := String.ofList (Json.chars v)

/-- The JSON text of a value with one item or entry per line. -/
def Value.pretty (v : Value) : String := String.ofList (Json.prettyChars 0 v)

end CausalPath
