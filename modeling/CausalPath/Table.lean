/-!
# Tables

A `Table` is a finite map kept as a list of pairs with distinct keys, oldest key first. Assigning
to a known key keeps its place. The view of a table is its look-up `get?`; each operation has one
equation that says what it does to the view.
-/

namespace CausalPath

universe u v

/-- A finite map: pairs with distinct keys, in the order in which the keys came. -/
structure Table (κ : Type u) (ν : Type v) where
  entries : List (κ × ν)
  distinct : (entries.map Prod.fst).Nodup
  deriving DecidableEq

namespace Table

variable {κ : Type u} {ν : Type v}

/-! ## § 1. Lists of pairs -/

def find [DecidableEq κ] (k : κ) : List (κ × ν) → Option ν
  | [] => none
  | (k', x) :: rest => if k' = k then some x else find k rest

/-- Gives a key its value: in place when the key is known, else at the end. -/
def assign [DecidableEq κ] (k : κ) (x : ν) : List (κ × ν) → List (κ × ν)
  | [] => [(k, x)]
  | (k', x') :: rest => if k' = k then (k, x) :: rest else (k', x') :: assign k x rest

theorem keys_assign [DecidableEq κ] (k : κ) (x : ν) (l : List (κ × ν)) :
    (assign k x l).map Prod.fst =
      if k ∈ l.map Prod.fst then l.map Prod.fst else l.map Prod.fst ++ [k] := by
  induction l with
  | nil => simp [assign]
  | cons p rest ih =>
    obtain ⟨k', x'⟩ := p
    by_cases h : k' = k
    · simp [assign, h]
    · have h' : ¬k = k' := fun e => h e.symm
      simp only [assign, if_neg h, List.map_cons, ih, List.mem_cons, h', false_or]
      split <;> simp

theorem find_assign [DecidableEq κ] (k j : κ) (x : ν) (l : List (κ × ν)) :
    find j (assign k x l) = if k = j then some x else find j l := by
  induction l with
  | nil => simp [assign, find]
  | cons p rest ih =>
    obtain ⟨k', x'⟩ := p
    by_cases h : k' = k
    · subst h
      by_cases hj : k' = j <;> simp [assign, find, hj]
    · simp only [assign, if_neg h, find, ih]
      by_cases hj : k' = j
      · subst hj
        have h' : ¬k = k' := fun e => h e.symm
        simp [h']
      · simp [hj]

/-! ## § 2. Operations -/

def empty : Table κ ν := ⟨[], List.nodup_nil⟩

instance : EmptyCollection (Table κ ν) := ⟨empty⟩
instance : Inhabited (Table κ ν) := ⟨empty⟩

def get? [DecidableEq κ] (t : Table κ ν) (k : κ) : Option ν := find k t.entries

def keys (t : Table κ ν) : List κ := t.entries.map Prod.fst

def size (t : Table κ ν) : Nat := t.entries.length

/-- Gives a key its value, replacing the one it had. -/
def insert [DecidableEq κ] (t : Table κ ν) (k : κ) (x : ν) : Table κ ν where
  entries := assign k x t.entries
  distinct := by
    rw [keys_assign]
    split
    · exact t.distinct
    · rename_i h
      rw [List.nodup_append]
      refine ⟨t.distinct, by simp, ?_⟩
      intro a ha b hb e
      simp only [List.mem_singleton] at hb
      subst hb e
      exact h ha

def filter (t : Table κ ν) (p : κ → ν → Bool) : Table κ ν where
  entries := t.entries.filter fun e => p e.1 e.2
  distinct := t.distinct.sublist (List.filter_sublist.map _)

def erase [DecidableEq κ] (t : Table κ ν) (k : κ) : Table κ ν := t.filter fun j _ => j ≠ k

/-- The table of a list of pairs, in which a later pair with the same key wins. -/
def ofList [DecidableEq κ] (l : List (κ × ν)) : Table κ ν :=
  l.foldl (fun t e => t.insert e.1 e.2) empty

/-! ## § 3. The view -/

@[simp] theorem get?_empty [DecidableEq κ] (k : κ) : (empty : Table κ ν).get? k = none := rfl

theorem get?_insert [DecidableEq κ] (t : Table κ ν) (k j : κ) (x : ν) :
    (t.insert k x).get? j = if k = j then some x else t.get? j :=
  find_assign k j x t.entries

@[simp] theorem get?_insert_self [DecidableEq κ] (t : Table κ ν) (k : κ) (x : ν) :
    (t.insert k x).get? k = some x := by
  simp [get?_insert]

theorem find_filter_ne [DecidableEq κ] (k j : κ) (l : List (κ × ν)) :
    find j (l.filter fun e => e.1 ≠ k) = if k = j then none else find j l := by
  induction l with
  | nil => simp [find]
  | cons p rest ih =>
    obtain ⟨k', x'⟩ := p
    by_cases h : k' = k
    · subst h
      rw [List.filter_cons_of_neg (by simp), ih]
      by_cases hj : k' = j <;> simp [find, hj]
    · rw [List.filter_cons_of_pos (by simpa using h)]
      simp only [find, ih]
      by_cases hj : k' = j
      · subst hj
        have h' : ¬k = k' := fun e => h e.symm
        simp [h']
      · simp [hj]

theorem get?_erase [DecidableEq κ] (t : Table κ ν) (k j : κ) :
    (t.erase k).get? j = if k = j then none else t.get? j :=
  find_filter_ne k j t.entries

end Table

end CausalPath
