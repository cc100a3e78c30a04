import CausalPath.Table
import Mathlib.Data.List.Nodup

/-!
# The view of a table and its entries

The look-up of a table lists its entries, so what an operation does to the entries is known up to
their order, and the size of a table counts its keys.
-/

namespace CausalPath

universe u v

namespace Table

variable {κ : Type u} {ν : Type v} [DecidableEq κ] {t : Table κ ν} {k : κ} {x : ν}

/-! ## § 1. Look-ups -/

theorem find_eq_some_iff {l : List (κ × ν)} (h : (l.map Prod.fst).Nodup) :
    find k l = some x ↔ (k, x) ∈ l := by
  induction l with
  | nil => simp [find]
  | cons p rest ih =>
    obtain ⟨k', x'⟩ := p
    obtain ⟨hnew, hrest⟩ := List.nodup_cons.1 h
    simp only [find, List.mem_cons, Prod.mk.injEq]
    split
    · rename_i hk
      subst hk
      have hout : (k', x) ∉ rest := fun hin => hnew (List.mem_map.2 ⟨_, hin, rfl⟩)
      simp [hout, eq_comm]
    · rename_i hk
      have hk' : k ≠ k' := fun heq => hk heq.symm
      rw [ih hrest]
      simp [hk']

/-- The view of a table lists its entries. -/
theorem get?_eq_some_iff : t.get? k = some x ↔ (k, x) ∈ t.entries := find_eq_some_iff t.distinct

/-- What is not found is not the key of an entry. -/
theorem get?_eq_none_iff : t.get? k = none ↔ k ∉ t.entries.map Prod.fst := by
  rw [Option.eq_none_iff_forall_ne_some, List.mem_map]
  constructor
  · rintro h ⟨⟨k', x⟩, hmem, rfl⟩
    exact h x (get?_eq_some_iff.2 hmem)
  · rintro h x hx
    exact h ⟨(k, x), get?_eq_some_iff.1 hx, rfl⟩

theorem get?_filter_eq_some_iff {p : κ → ν → Bool} :
    (t.filter p).get? k = some x ↔ t.get? k = some x ∧ p k x = true := by
  rw [get?_eq_some_iff, get?_eq_some_iff]
  exact List.mem_filter

theorem get?_of_erase {j : κ} (h : (t.erase j).get? k = some x) : t.get? k = some x ∧ j ≠ k := by
  rw [get?_erase] at h
  split at h
  · exact absurd h (by simp)
  · rename_i hne
    exact ⟨h, hne⟩

theorem entries_erase (t : Table κ ν) (k : κ) :
    (t.erase k).entries = t.entries.filter fun e => e.1 ≠ k := rfl

theorem eq_of_entries {κ : Type u} {ν : Type v} {t t' : Table κ ν}
    (h : t.entries = t'.entries) : t = t' := by
  cases t
  cases t'
  cases h
  rfl

/-- To drop a key that is not there changes nothing. -/
theorem erase_eq_self (h : t.get? k = none) : t.erase k = t := by
  apply eq_of_entries
  rw [entries_erase, List.filter_eq_self]
  intro e he
  simp only [decide_eq_true_eq]
  rintro rfl
  exact absurd (h.symm.trans (get?_eq_some_iff.2 he)) (by simp)

/-! ## § 2. Entries up to their order -/

theorem nodup_entries {κ : Type u} {ν : Type v} (t : Table κ ν) : t.entries.Nodup :=
  List.Nodup.of_map _ t.distinct

/-- Tables with one view have the same entries, perhaps in another order. -/
theorem perm_of_view {t' : Table κ ν} (hview : ∀ j, t.get? j = t'.get? j) :
    t.entries.Perm t'.entries := by
  rw [List.perm_ext_iff_of_nodup t.nodup_entries t'.nodup_entries]
  rintro ⟨j, y⟩
  rw [← get?_eq_some_iff, ← get?_eq_some_iff, hview]

/-- The entries of a table are a new one and those of other keys, if its view says so. -/
theorem perm_cons_erase_of_view {t' : Table κ ν}
    (hview : ∀ j, t'.get? j = if k = j then some x else t.get? j) :
    t'.entries.Perm ((k, x) :: (t.erase k).entries) := by
  have hout : (k, x) ∉ (t.erase k).entries := by
    rw [← get?_eq_some_iff, get?_erase, if_pos rfl]
    simp
  rw [List.perm_ext_iff_of_nodup t'.nodup_entries
    (List.nodup_cons.2 ⟨hout, (t.erase k).nodup_entries⟩)]
  rintro ⟨j, y⟩
  rw [List.mem_cons, ← get?_eq_some_iff, ← get?_eq_some_iff, hview, get?_erase, Prod.mk.injEq]
  split
  · rename_i hj
    simp [hj, eq_comm]
  · rename_i hj
    have hj' : ¬j = k := fun heq => hj heq.symm
    simp [hj']

/-- An entry and the entries of other keys are all there is. -/
theorem perm_cons_erase (h : t.get? k = some x) :
    t.entries.Perm ((k, x) :: (t.erase k).entries) := by
  apply perm_cons_erase_of_view
  intro j
  split
  · rename_i hj
    rw [← hj, h]
  · rfl

/-- After an insertion there are the new entry and the entries of other keys. -/
theorem perm_insert (t : Table κ ν) (k : κ) (x : ν) :
    (t.insert k x).entries.Perm ((k, x) :: (t.erase k).entries) :=
  perm_cons_erase_of_view fun _ => get?_insert _ _ _ _

/-- A new key comes last. -/
theorem assign_of_notMem {l : List (κ × ν)} (h : k ∉ l.map Prod.fst) :
    assign k x l = l ++ [(k, x)] := by
  induction l with
  | nil => rfl
  | cons e rest ih =>
    rw [List.map_cons, List.mem_cons, not_or] at h
    rw [assign, if_neg fun heq => h.1 heq.symm, ih h.2, List.cons_append]

theorem entries_insert_of_none (h : t.get? k = none) (x : ν) :
    (t.insert k x).entries = t.entries ++ [(k, x)] :=
  assign_of_notMem (get?_eq_none_iff.1 h)

theorem entries_foldl_insert (l : List (κ × ν)) (t : Table κ ν)
    (h : ((t.entries ++ l).map Prod.fst).Nodup) :
    (l.foldl (fun t e => t.insert e.1 e.2) t).entries = t.entries ++ l := by
  induction l generalizing t with
  | nil => simp
  | cons e rest ih =>
    have hnew : e.1 ∉ t.entries.map Prod.fst := by
      rw [List.map_append, List.map_cons] at h
      exact fun hin => List.disjoint_of_nodup_append h hin List.mem_cons_self
    have hlast : (t.insert e.1 e.2).entries = t.entries ++ [e] := assign_of_notMem hnew
    rw [List.foldl_cons, ih, hlast, List.append_assoc, List.singleton_append]
    rwa [hlast, List.append_assoc, List.singleton_append]

/-- A table is the table of its own entries. -/
theorem ofList_entries (t : Table κ ν) : ofList t.entries = t :=
  eq_of_entries (entries_foldl_insert t.entries empty t.distinct)

/-! ## § 3. Sizes -/

theorem size_erase (h : t.get? k = some x) : (t.erase k).size + 1 = t.size :=
  (perm_cons_erase h).length_eq.symm

theorem size_insert_of_none (h : t.get? k = none) (x : ν) :
    (t.insert k x).size = t.size + 1 := by
  have hperm := (perm_insert t k x).length_eq
  rw [erase_eq_self h] at hperm
  exact hperm

theorem size_insert_of_some {y : ν} (h : t.get? k = some y) (x : ν) :
    (t.insert k x).size = t.size :=
  (perm_insert t k x).length_eq.trans (perm_cons_erase h).length_eq.symm

end Table

end CausalPath
