import CausalPath.Decimal
import CausalPath.Text.Digits
import CausalPath.Value.Basic

/-!
# TOML literals

The values of TOML that are no containers. A run of word characters is a number, a truth value, a
date or a time as a whole; strings are read character by character, in four forms.
-/

namespace CausalPath

namespace Toml

/-- Reads something from the head of a text; the answer holds the rest. -/
abbrev Reads (α : Type) := List Char → Option (α × List Char)

/-! ## § 1. Integers -/

/-- The digits of a run in which single underscores may stand between digits. -/
def digits? (isDigit : Char → Bool) : List Char → Option (List Char)
  | [] => none
  | [c] => if isDigit c then some [c] else none
  | c :: '_' :: rest => if isDigit c then (digits? isDigit rest).map (c :: ·) else none
  | c :: rest => if isDigit c then (digits? isDigit rest).map (c :: ·) else none

def sign : List Char → Bool × List Char
  | '-' :: rest => (true, rest)
  | '+' :: rest => (false, rest)
  | cs => (false, cs)

/-- Decimal digits that do not start with a needless zero. -/
def decimal? (cs : List Char) : Option (List Char) := do
  let ds ← digits? Char.isDigit cs
  if ds.head? = some '0' ∧ cs.length ≠ 1 then none else some ds

def word? (n : Int) : Option Value :=
  if -0x8000000000000000 ≤ n ∧ n < 0x8000000000000000 then some (.int n) else none

/-- A run as an integer. -/
def integer? (cs : List Char) : Option Value :=
  match cs with
  | '0' :: 'x' :: rest => based 16 rest
  | '0' :: 'o' :: rest => based 8 rest
  | '0' :: 'b' :: rest => based 2 rest
  | _ => do
    let (negative, rest) := sign cs
    let n : Int := Text.number 10 (← decimal? rest)
    word? (if negative then -n else n)
where
  /-- Digits in a base. -/
  based (base : Nat) (cs : List Char) : Option Value := do
    word? (Text.number base (← digits? (Text.isDigitOf base) cs))

/-! ## § 2. Real numbers -/

def isExponent (c : Char) : Bool := c = 'e' ∨ c = 'E'

/-- The exponent at the end of a number: zero when there is none. -/
def exponent? : List Char → Option Int
  | [] => some 0
  | c :: rest =>
    if isExponent c then do
      let (negative, rest) := sign rest
      let n : Int := Text.number 10 (← digits? Char.isDigit rest)
      return if negative then -n else n
    else
      none

/-- The digits between the point and the exponent: none when there is no point. -/
def fraction? : List Char → Option (List Char)
  | [] => some []
  | '.' :: rest => digits? Char.isDigit rest
  | _ => none

/-- A run as a real number, which has a point or an exponent. One that is too large is refused. -/
def real? (cs : List Char) : Option Value := do
  let (negative, rest) := sign cs
  if rest = "inf".toList then
    return .real (if negative then -1.0 / 0.0 else 1.0 / 0.0)
  if rest = "nan".toList then
    return .real (0.0 / 0.0)
  if rest.all fun c => c ≠ '.' && !isExponent c then
    none
  let head := rest.takeWhile (!isExponent ·)
  let whole ← decimal? (head.takeWhile (· ≠ '.'))
  let fraction ← fraction? (head.dropWhile (· ≠ '.'))
  let exponent ← exponent? (rest.dropWhile (!isExponent ·))
  let x := Decimal.toFloat (Text.number 10 (whole ++ fraction)) (exponent - fraction.length)
  if x.isFinite || negative then some (.real (if negative then -x else x)) else none

/-! ## § 3. Dates and times -/

def twoDigits? (most : Nat) (a b : Char) : Option Nat :=
  if a.isDigit ∧ b.isDigit ∧ Text.number 10 [a, b] ≤ most then some (Text.number 10 [a, b])
  else none

def daysOf (year month : Nat) : Nat :=
  if month = 2 then
    if year % 4 = 0 ∧ (year % 100 ≠ 0 ∨ year % 400 = 0) then 29 else 28
  else if month ∈ [4, 6, 9, 11] then 30
  else 31

/-- Reads a date. -/
def date? : List Char → Option (List Char)
  | a :: b :: c :: d :: '-' :: e :: f :: '-' :: g :: h :: rest => do
    let century ← twoDigits? 99 a b
    let year := 100 * century + (← twoDigits? 99 c d)
    let month ← twoDigits? 12 e f
    let day ← twoDigits? (daysOf year month) g h
    if month = 0 ∨ day = 0 then none else some rest
  | _ => none

/-- Reads a time of day; its seconds may have a fraction. -/
def time? : List Char → Option (List Char)
  | a :: b :: ':' :: c :: d :: ':' :: e :: f :: rest => do
    let _ ← twoDigits? 23 a b
    let _ ← twoDigits? 59 c d
    let _ ← twoDigits? 60 e f
    match rest with
    | '.' :: rest =>
      if rest.head?.any Char.isDigit then some (rest.dropWhile Char.isDigit) else none
    | _ => some rest
  | _ => none

def isOffset : List Char → Bool
  | [] => true
  | [c] => c = 'Z' ∨ c = 'z'
  | [s, a, b, ':', c, d] =>
    (s = '+' ∨ s = '-') && (twoDigits? 23 a b).isSome && (twoDigits? 59 c d).isSome
  | _ => false

/-- Whether a text is a time of day, with or without an offset. -/
def isClock (cs : List Char) : Bool := (time? cs).any isOffset

def isMoment (cs : List Char) : Bool :=
  time? cs = some [] ||
    match date? cs with
    | some [] => true
    | some (c :: rest) => (c = 'T' ∨ c = 't') && isClock rest
    | none => false

/-- A date or a time as a value: a map of its own, so that it is neither text nor number. -/
def moment (cs : List Char) : Value := .record [("datetime", .text (String.ofList cs))]

/-! ## § 4. Runs -/

def isWordChar (c : Char) : Bool := c.isAlphanum || c ∈ ['+', '-', '.', '_', ':']

def run? (cs : List Char) : Option Value :=
  if cs = "true".toList then some (.bool true)
  else if cs = "false".toList then some (.bool false)
  else if isMoment cs then some (moment cs)
  else (integer? cs).orElse fun _ => real? cs

/-- Reads a run. A time may follow a date after one blank. -/
def readRun? : Reads Value := fun cs => do
  let run := cs.takeWhile isWordChar
  let rest := cs.dropWhile isWordChar
  let v ← run? run
  match rest with
  | ' ' :: tail =>
    let next := tail.takeWhile isWordChar
    if date? run = some [] ∧ isClock next then
      return (moment (run ++ ' ' :: next), tail.dropWhile isWordChar)
    else
      return (v, rest)
  | _ => return (v, rest)

/-! ## § 5. Strings -/

/-- The characters that may stand in a text: no control characters but the tab. -/
def isPlain (c : Char) : Bool := c = '\t' || (decide (0x20 ≤ c.toNat) && decide (c.toNat ≠ 0x7F))

/-- The character of a one-letter escape. -/
def escaped? (c : Char) : Option Char :=
  if c = '\x22' ∨ c = '\\' then some c
  else if c = 'b' then some '\x08'
  else if c = 't' then some '\t'
  else if c = 'n' then some '\n'
  else if c = 'f' then some '\x0c'
  else if c = 'r' then some '\r'
  else none

def codePoint? (cs : List Char) : Option Char :=
  if cs.all (Text.isDigitOf 16) then Text.scalar? (Text.number 16 cs) else none

def escape? : Reads Char
  | 'u' :: a :: b :: c :: d :: rest => (codePoint? [a, b, c, d]).map (·, rest)
  | 'U' :: a :: b :: c :: d :: e :: f :: g :: h :: rest =>
    (codePoint? [a, b, c, d, e, f, g, h]).map (·, rest)
  | c :: rest => (escaped? c).map (·, rest)
  | [] => none

/-- What an escape leaves is shorter. -/
theorem escape?_lt {cs rest : List Char} {c : Char} (h : escape? cs = some (c, rest)) :
    rest.length < cs.length := by
  unfold escape? at h
  split at h
  · obtain ⟨x, -, hx⟩ := Option.map_eq_some_iff.1 h
    simp only [Prod.mk.injEq] at hx
    simp [← hx.2]
    omega
  · obtain ⟨x, -, hx⟩ := Option.map_eq_some_iff.1 h
    simp only [Prod.mk.injEq] at hx
    simp [← hx.2]
    omega
  · obtain ⟨x, -, hx⟩ := Option.map_eq_some_iff.1 h
    simp only [Prod.mk.injEq] at hx
    simp [← hx.2]
  · simp at h

/-- Reads a string on one line, after its opening quote; `done` holds the characters before, last
one first. -/
def lineString? (done cs : List Char) : Option (String × List Char) :=
  match cs with
  | [] => none
  | '\x22' :: rest => some (String.ofList done.reverse, rest)
  | '\\' :: rest =>
    match _h : escape? rest with
    | some (c, rest') => lineString? (c :: done) rest'
    | none => none
  | c :: rest => if isPlain c then lineString? (c :: done) rest else none
termination_by cs.length
decreasing_by
  · have := escape?_lt _h
    simp
    omega
  · simp

/-- Closes a string on several lines, after a first quote: the quotes that still belong to the
string, at most two, and the rest. -/
def closing? (quote : Char) (cs : List Char) : Option (List Char × List Char) :=
  match (cs.takeWhile (· = quote)).length with
  | 0 | 1 => none
  | 2 => some ([], cs.drop 2)
  | 3 => some ([quote], cs.drop 3)
  | _ => some ([quote, quote], cs.drop 4)

/-- Where a string on several lines is: in its text, after a backslash that ends a line, or in the
blanks of the lines below it. -/
inductive Fold
  | text
  | ending
  | blanks
  deriving DecidableEq

/-- What a line's end adds to a string: nothing when a backslash drops it. -/
def Fold.lineEnd (fold : Fold) (done : List Char) : Fold × List Char :=
  if fold = .text then (.text, '\n' :: done) else (.blanks, done)

/-- Reads a string on several lines, after its opening quotes. A backslash at the end of a line
drops the line's end and all blanks after it, and up to two quotes may stand before the closing
ones. -/
def foldedString? (fold : Fold) (done cs : List Char) : Option (String × List Char) :=
  match cs with
  | [] => none
  | '\r' :: '\n' :: rest => foldedString? (fold.lineEnd done).1 (fold.lineEnd done).2 rest
  | '\n' :: rest => foldedString? (fold.lineEnd done).1 (fold.lineEnd done).2 rest
  | c :: rest =>
    if fold ≠ .text ∧ (c = ' ' ∨ c = '\t') then
      foldedString? fold done rest
    else if fold = .ending then
      none
    else if c = '\x22' then
      match closing? '\x22' rest with
      | some (quotes, rest) => some (String.ofList (quotes ++ done).reverse, rest)
      | none => foldedString? .text (c :: done) rest
    else if c = '\\' then
      match _h : escape? rest with
      | some (c, rest') => foldedString? .text (c :: done) rest'
      | none => foldedString? .ending done rest
    else if isPlain c then
      foldedString? .text (c :: done) rest
    else
      none
termination_by cs.length
decreasing_by
  all_goals try have := escape?_lt _h
  all_goals grind

/-- Reads a string without escapes on one line, after its opening quote. -/
def rawLine? : Reads String := fun cs =>
  let text := cs.takeWhile fun c => isPlain c && c ≠ '\x27'
  match cs.dropWhile fun c => isPlain c && c ≠ '\x27' with
  | '\x27' :: rest => some (String.ofList text, rest)
  | _ => none

/-- Reads a string without escapes on several lines, after its opening quotes. -/
def rawLines? (done : List Char) : List Char → Option (String × List Char)
  | [] => none
  | '\r' :: '\n' :: rest => rawLines? ('\n' :: done) rest
  | '\n' :: rest => rawLines? ('\n' :: done) rest
  | c :: rest =>
    if c = '\x27' then
      match closing? '\x27' rest with
      | some (quotes, rest) => some (String.ofList (quotes ++ done).reverse, rest)
      | none => rawLines? (c :: done) rest
    else if isPlain c then
      rawLines? (c :: done) rest
    else
      none

/-- Drops a line's end at the head of a string on several lines. -/
def dropLineEnd : List Char → List Char
  | '\r' :: '\n' :: rest => rest
  | '\n' :: rest => rest
  | cs => cs

def readLineString? : Reads String
  | '\x22' :: rest => lineString? [] rest
  | '\x27' :: rest => rawLine? rest
  | _ => none

def readString? : Reads String
  | '\x22' :: '\x22' :: '\x22' :: rest => foldedString? .text [] (dropLineEnd rest)
  | '\x27' :: '\x27' :: '\x27' :: rest => rawLines? [] (dropLineEnd rest)
  | cs => readLineString? cs

/-- Reads a literal. -/
def readLiteral? : Reads Value := fun cs =>
  match cs with
  | [] => none
  | c :: _ =>
    if c = '\x22' ∨ c = '\x27' then
      (readString? cs).map fun r => (.text r.1, r.2)
    else
      readRun? cs

end Toml

end CausalPath
