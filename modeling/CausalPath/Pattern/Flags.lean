import CausalPath.Text.Blank

/-!
# Flags

How a stretch of a pattern is read: whether case counts, whether characters are those of Unicode,
whether white space and comments are skipped, and what ends a line. Flags are set by letters in a
group, and they hold up to the end of the group around them.
-/

namespace CausalPath

namespace Pattern

/-- Reads something from the head of a text; the answer holds the rest. -/
abbrev Reads (α : Type) := List Char → Option (α × List Char)

/-! ## § 1. Letters -/

/-- How the rest of a group is read. -/
structure Flags where
  ignoreCase : Bool
  multiLine : Bool
  dotNewline : Bool
  unicode : Bool
  ignoreSpace : Bool
  returnEndsLine : Bool

namespace Flags

def standard : Flags := ⟨false, false, false, true, false, false⟩

/-- Sets or clears the flag of a letter. The letter that swaps greed changes no match. -/
def set? (f : Flags) (letter : Char) (on : Bool) : Option Flags :=
  match letter with
  | 'i' => some { f with ignoreCase := on }
  | 'm' => some { f with multiLine := on }
  | 's' => some { f with dotNewline := on }
  | 'u' => some { f with unicode := on }
  | 'x' => some { f with ignoreSpace := on }
  | 'R' => some { f with returnEndsLine := on }
  | 'U' => some f
  | _ => none

end Flags

/-- What follows the flags of a group. -/
inductive FlagsEnd
  | groupStart
  | groupEnd
  deriving DecidableEq

/-- Reads flags up to a colon or a closing parenthesis. No letter may occur twice, and a minus sign,
which may occur once, must be followed by a letter. -/
def readFlags? (seen : List Char) (f : Flags) : Reads (List Char × Flags × FlagsEnd)
  | [] => none
  | c :: rest =>
    if c = ':' ∨ c = ')' then
      if seen.head? = some '-' then
        none
      else
        some ((seen, f, if c = ':' then .groupStart else .groupEnd), rest)
    else if c ∈ seen then
      none
    else if c = '-' then
      readFlags? (c :: seen) f rest
    else
      match f.set? c ('-' ∉ seen) with
      | some f => readFlags? (c :: seen) f rest
      | none => none

/-! ## § 2. White space -/

/-- Drops white space and comments. A comment ends with its line. -/
def dropSpace (inComment : Bool) : List Char → List Char
  | [] => []
  | c :: rest =>
    if inComment then dropSpace (c ≠ '\n') rest
    else if Text.isBlank c || c = '#' then dropSpace (c = '#') rest
    else c :: rest

namespace Flags

/-- Drops white space and comments where the flags say so. -/
def skip (f : Flags) (cs : List Char) : List Char :=
  if f.ignoreSpace then dropSpace false cs else cs

/-- Takes characters that pass a test, and drops what the flags skip between them. -/
def span (f : Flags) (test : Char → Bool) (inComment : Bool) : List Char → List Char × List Char
  | [] => ([], [])
  | c :: rest =>
    if inComment then
      f.span test (c ≠ '\n') rest
    else if f.ignoreSpace && (Text.isBlank c || c = '#') then
      f.span test (c = '#') rest
    else if test c then
      let (taken, rest) := f.span test false rest
      (c :: taken, rest)
    else
      ([], c :: rest)

/-- Takes characters that pass a test from the head of a text, as `span` does. -/
def takeWhile (f : Flags) (test : Char → Bool) (cs : List Char) : List Char × List Char :=
  f.span test false cs

/-- Reads what stands before a closing brace, without what the flags skip. -/
def braced? (f : Flags) (cs : List Char) : Option (List Char × List Char) :=
  match f.takeWhile (· ≠ '\x7d') cs with
  | (inner, '\x7d' :: rest) => some (inner, rest)
  | _ => none

end Flags

end Pattern

end CausalPath
