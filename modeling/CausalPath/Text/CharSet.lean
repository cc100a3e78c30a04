import CausalPath.Text.Digits

/-!
# Sets of characters

A set of characters is a list of ranges of code points, in ascending order and with gaps between
them. The operations build such lists, so the form of a set can be read off its ranges: a set of one
character has one range of one code point. Tables are written as texts of hexadecimal ranges.
`hasCode_ofRanges` and the lemmas after it say which code points a set has that was built.
-/

namespace CausalPath

/-- A set of characters, as ranges of code points. -/
structure CharSet where
  ranges : List (Nat × Nat)
  deriving DecidableEq, Repr

namespace CharSet

/-! ## § 1. Members -/

def maxCode : Nat := 0x10FFFF

def inRange (n : Nat) (r : Nat × Nat) : Bool := r.1 ≤ n && n ≤ r.2

def hasCode (s : CharSet) (n : Nat) : Bool := s.ranges.any (inRange n)

def contains (s : CharSet) (c : Char) : Bool := s.hasCode c.toNat

/-! ## § 2. Building -/

/-- Puts a range in front of ranges that start no earlier. Ranges that overlap or touch become
one. -/
def attach (r : Nat × Nat) : List (Nat × Nat) → List (Nat × Nat)
  | [] => [r]
  | s :: rest => if s.1 ≤ r.2 + 1 then attach (r.1, max r.2 s.2) rest else r :: s :: rest

def ofRanges (rs : List (Nat × Nat)) : CharSet :=
  ⟨((rs.filter fun r => r.1 ≤ r.2).mergeSort fun a b => a.1 ≤ b.1).foldr attach []⟩

def empty : CharSet := ⟨[]⟩

def single (c : Char) : CharSet := ⟨[(c.toNat, c.toNat)]⟩

def ascii : CharSet := ⟨[(0, 0x7F)]⟩

def all : CharSet := ⟨[(0, 0xD7FF), (0xE000, maxCode)]⟩

def union (a b : CharSet) : CharSet := ofRanges (a.ranges ++ b.ranges)

def unions (sets : List CharSet) : CharSet := ofRanges (sets.flatMap ranges)

/-- The code points from `start` on that are in none of some ranges, which come in ascending
order. -/
def gaps (start : Nat) : List (Nat × Nat) → List (Nat × Nat)
  | [] => if start ≤ maxCode then [(start, maxCode)] else []
  | r :: rest =>
    if start < r.1 then (start, r.1 - 1) :: gaps (r.2 + 1) rest else gaps (r.2 + 1) rest

/-- The characters that are not in a set. Surrogates are no characters. -/
def complement (s : CharSet) : CharSet := ⟨gaps 0 (ofRanges ((0xD800, 0xDFFF) :: s.ranges)).ranges⟩

def inter (a b : CharSet) : CharSet := (a.complement.union b.complement).complement

def diff (a b : CharSet) : CharSet := a.inter b.complement

def symmDiff (a b : CharSet) : CharSet := (a.diff b).union (b.diff a)

/-! ## § 3. Forms -/

def onlyMember? (s : CharSet) : Option Nat :=
  match s.ranges with
  | [r] => if r.1 = r.2 then some r.1 else none
  | _ => none

def isAscii (s : CharSet) : Bool := s.ranges.all fun r => r.2 < 0x80

/-! ## § 4. Tables -/

/-- The ranges that a word of a table stands for: `61` is one code point, `61-7A` is a range, and
`100-12E/2` is every second code point of a range. -/
def wordRanges (word : List Char) : List (Nat × Nat) :=
  let first := Text.number 16 (word.takeWhile Char.isAlphanum)
  match word.dropWhile Char.isAlphanum with
  | '-' :: rest =>
    let last := Text.number 16 (rest.takeWhile Char.isAlphanum)
    match rest.dropWhile Char.isAlphanum with
    | '/' :: digits =>
      let step := Text.number 16 digits
      (List.range ((last - first) / step + 1)).map fun k => (first + k * step, first + k * step)
    | _ => [(first, last)]
  | _ => [(first, first)]

def wordsOf (text : String) : List (List Char) :=
  (text.toList.splitBy fun a b => !a.isWhitespace && !b.isWhitespace).filter
    fun w => !w.any Char.isWhitespace

/-- The set that a table lists, with blanks or ends of lines between its words. -/
def ofText (text : String) : CharSet := ofRanges ((wordsOf text).flatMap wordRanges)

/-! ## § 5. Members of what was built -/

/-- Nothing that starts before a range comes in when the range is attached. -/
theorem le_of_mem_attach {r s : Nat × Nat} {l : List (Nat × Nat)} (hr : r.1 ≤ r.2)
    (h : ∀ t ∈ l, r.1 ≤ t.1 ∧ t.1 ≤ t.2) (hs : s ∈ attach r l) : r.1 ≤ s.1 ∧ s.1 ≤ s.2 := by
  induction l generalizing r with
  | nil =>
    rw [attach, List.mem_singleton] at hs
    subst hs
    exact ⟨Nat.le_refl _, hr⟩
  | cons t rest ih =>
    rw [attach] at hs
    split at hs
    · have hr' : r.1 ≤ max r.2 t.2 := Nat.le_trans hr (Nat.le_max_left _ _)
      exact ih (r := (r.1, max r.2 t.2)) hr' (fun u hu => h u (List.mem_cons_of_mem _ hu)) hs
    · rcases List.mem_cons.mp hs with rfl | hs
      · exact ⟨Nat.le_refl _, hr⟩
      · exact h s hs

/-- Attaching a range adds its code points. -/
theorem any_attach {r : Nat × Nat} {l : List (Nat × Nat)} (n : Nat) (hr : r.1 ≤ r.2)
    (h : ∀ t ∈ l, r.1 ≤ t.1 ∧ t.1 ≤ t.2) :
    (attach r l).any (inRange n) = (inRange n r || l.any (inRange n)) := by
  induction l generalizing r with
  | nil => simp [attach]
  | cons t rest ih =>
    rw [attach]
    split
    · have ht := h t List.mem_cons_self
      have hr' : r.1 ≤ max r.2 t.2 := Nat.le_trans hr (Nat.le_max_left _ _)
      have hjoined : inRange n (r.1, max r.2 t.2) = (inRange n r || inRange n t) := by
        rw [Bool.eq_iff_iff]
        simp only [inRange, Bool.or_eq_true, Bool.and_eq_true, decide_eq_true_eq]
        omega
      have hrest := ih (r := (r.1, max r.2 t.2)) hr' fun u hu => h u (List.mem_cons_of_mem _ hu)
      rw [hrest, hjoined, List.any_cons, Bool.or_assoc]
    · rfl

/-- The ranges of a sorted list that are attached from the last one on: each starts no earlier than
some range of the list, and together they have the same code points. -/
theorem foldr_attach (n : Nat) {l : List (Nat × Nat)} (h : ∀ t ∈ l, t.1 ≤ t.2)
    (sorted : l.Pairwise fun a b => a.1 ≤ b.1) :
    (∀ low, (∀ t ∈ l, low ≤ t.1) → ∀ s ∈ l.foldr attach [], low ≤ s.1 ∧ s.1 ≤ s.2)
      ∧ (l.foldr attach []).any (inRange n) = l.any (inRange n) := by
  induction l with
  | nil => exact ⟨fun _ _ _ hs => (nomatch hs), rfl⟩
  | cons r rest ih =>
    have hr := h r List.mem_cons_self
    have ⟨hfirst, hrest⟩ := List.pairwise_cons.mp sorted
    have ⟨hlow, hany⟩ := ih (fun t ht => h t (List.mem_cons_of_mem _ ht)) hrest
    have hafter := hlow r.1 hfirst
    constructor
    · intro low hall s hs
      have ⟨hle, hs⟩ := le_of_mem_attach hr hafter hs
      exact ⟨Nat.le_trans (hall r List.mem_cons_self) hle, hs⟩
    · rw [List.foldr_cons, any_attach n hr hafter, hany, List.any_cons]

/-- The set of some ranges has their code points. -/
theorem hasCode_ofRanges (rs : List (Nat × Nat)) (n : Nat) :
    (ofRanges rs).hasCode n = rs.any (inRange n) := by
  let valid := rs.filter fun r => r.1 ≤ r.2
  have hperm := List.mergeSort_perm valid fun a b => a.1 ≤ b.1
  have hsorted : (valid.mergeSort fun a b => a.1 ≤ b.1).Pairwise fun a b => a.1 ≤ b.1 := by
    have : (valid.mergeSort fun a b => a.1 ≤ b.1).Pairwise fun a b => decide (a.1 ≤ b.1) :=
      List.pairwise_mergeSort (fun a b c => by simp only [decide_eq_true_eq]; omega)
        (fun a b => by simp only [Bool.or_eq_true, decide_eq_true_eq]; omega) valid
    exact this.imp fun h => of_decide_eq_true h
  have hvalid : ∀ t ∈ valid.mergeSort fun a b => a.1 ≤ b.1, t.1 ≤ t.2 := fun t ht =>
    of_decide_eq_true (List.mem_filter.mp (hperm.mem_iff.mp ht)).2
  have hany := (foldr_attach n hvalid hsorted).2
  rw [hasCode, ofRanges, hany, hperm.any_eq, List.any_filter]
  congr 1
  funext r
  rw [Bool.eq_iff_iff]
  simp only [inRange, Bool.and_eq_true, decide_eq_true_eq]
  omega

theorem hasCode_union (a b : CharSet) (n : Nat) :
    (a.union b).hasCode n = (a.hasCode n || b.hasCode n) := by
  rw [union, hasCode_ofRanges, List.any_append, hasCode, hasCode]

theorem hasCode_unions (sets : List CharSet) (n : Nat) :
    (unions sets).hasCode n = sets.any fun s => s.hasCode n := by
  rw [unions, hasCode_ofRanges, List.any_flatMap]
  rfl

end CharSet

end CausalPath
