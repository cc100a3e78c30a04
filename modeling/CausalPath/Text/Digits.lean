/-!
# Digits

Natural numbers as digits in bases up to thirty-six, with letters of either case for the digits from
ten on.
-/

namespace CausalPath

namespace Text

def digitValue (c : Char) : Nat :=
  if c.isDigit then c.toNat - 48 else if c.isLower then c.toNat - 87 else c.toNat - 55

def isDigitOf (base : Nat) (c : Char) : Bool := c.isAlphanum && decide (digitValue c < base)

/-- The number that digits in a base denote, most significant digit first. -/
def number (base : Nat) (cs : List Char) : Nat :=
  cs.foldl (fun n c => base * n + digitValue c) 0

/-- The lower-case hexadecimal digit of a number below sixteen. -/
def hexDigit (n : Nat) : Char := Char.ofNat (if n < 10 then n + 48 else n + 87)

def scalar? (n : Nat) : Option Char :=
  if n < 0xD800 ∨ (0xE000 ≤ n ∧ n < 0x110000) then some (Char.ofNat n) else none

theorem digitValue_hexDigit {n : Nat} (h : n < 16) : digitValue (hexDigit n) = n := by
  have : ∀ n : Fin 16, digitValue (hexDigit n) = n := by decide
  exact this ⟨n, h⟩

end Text

end CausalPath
