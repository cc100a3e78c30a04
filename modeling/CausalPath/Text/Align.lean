/-!
# Columns of text

Texts are aligned in columns whose width is counted in characters. A text that is wider than its
column is kept whole.
-/

namespace CausalPath

namespace Text

def blanks (n : Nat) : String := String.ofList (List.replicate n ' ')

def alignRight (width : Nat) (s : String) : String := blanks (width - s.length) ++ s

def alignLeft (width : Nat) (s : String) : String := s ++ blanks (width - s.length)

def ofLines (lines : List String) : String := String.join (lines.map (· ++ "\n"))

theorem length_alignRight (width : Nat) (s : String) :
    (alignRight width s).length = max width s.length := by
  simp [alignRight, blanks]
  omega

theorem length_alignLeft (width : Nat) (s : String) :
    (alignLeft width s).length = max width s.length := by
  simp [alignLeft, blanks]
  omega

end Text

end CausalPath
