import CausalPath.Graph.Document
import Mathlib.Data.List.Nodup

/-!
# Reading records

What was built with `Value.record`, `Value.list` and `Value.optional` is read back: the fields of a
record by their names (`savedFields?_record`), the items of a list one by one, and the aspects of a
worker entry by entry.
-/

namespace CausalPath

namespace Value

/-! ## § 1. Scalars -/

theorem natBelow?_nat {bound n : Nat} (h : n < bound) : natBelow? bound (.nat n) = some n := by
  rw [natBelow?, nat, int?, if_pos (by omega), Option.map_some, Int.toNat_natCast]

theorem int64?_int {n : Int} (hlow : -0x8000000000000000 ≤ n) (hhigh : n < 0x8000000000000000) :
    int64? (.int n) = some n := by
  rw [int64?, int?, if_pos (by omega)]

/-- An optional field is read back, if nothing that is written there is null. -/
theorem absent?_optional {α : Type} {read : Value → Option α} {write : α → Value} {x : Option α}
    (hnull : ∀ y, write y ≠ .null) (h : ∀ y ∈ x, read (write y) = some y) :
    absent? read (some (optional write x)) = some x := by
  cases x with
  | none => rfl
  | some y =>
    show optional? read (write y) = some (some y)
    rw [optional?, h y rfl]
    · rfl
    · exact hnull y

/-! ## § 2. Lists -/

theorem mapM_map {α β : Type} {read : β → Option α} {write : α → β} {items : List α}
    (h : ∀ x ∈ items, read (write x) = some x) : (items.map write).mapM read = some items := by
  induction items with
  | nil => rfl
  | cons x items ih =>
    have htail := ih fun y hy => h y (List.mem_cons_of_mem x hy)
    rw [List.map_cons, List.mapM_cons, h x List.mem_cons_self, htail]
    rfl

theorem list?_map {α : Type} {read : Value → Option α} {write : α → Value} {items : List α}
    (h : ∀ x ∈ items, read (write x) = some x) : list? read (.list (items.map write)) = some items :=
  mapM_map h

theorem entries?_record {α : Type} {read : Value → Option α} {write : α → Value}
    {entries : List (String × α)} (h : ∀ e ∈ entries, read (write e.2) = some e.2) :
    entries? read (.record (entries.map fun e => (e.1, write e.2))) = some entries := by
  rw [record, List.map_map]
  apply mapM_map
  intro e he
  simp [text?, h e he]

/-! ## § 3. Records -/

/-- The name of a field that is in its place, with other names before it, stands for that field. -/
theorem fieldKey?_append {before after : List String} {name : String} (h : name ∉ before) :
    fieldKey? (before ++ name :: after) (.text name) = some (.known before.length) := by
  have hindex : (before ++ name :: after).idxOf? name = some before.length := by
    rw [List.idxOf?_eq_some_iff]
    refine ⟨by simp, by simp, ?_⟩
    intro j hj heq
    rw [List.getElem_append_left hj] at heq
    exact h (heq ▸ List.getElem_mem hj)
  rw [fieldKey?, fieldKey?.byName, hindex]
  rfl

/-- Reading the rest of a record, when the fields before it are read. -/
theorem collect?_record (done todo : List (String × Value))
    (hnodup : ((done ++ todo).map Prod.fst).Nodup) :
    collect? ((done ++ todo).map Prod.fst)
        (done.map (fun f => some f.2) ++ todo.map fun _ => none)
        (todo.map fun f => (.text f.1, f.2)) =
      some ((done ++ todo).map fun f => some f.2) := by
  induction todo generalizing done with
  | nil => simp [collect?]
  | cons f todo ih =>
    have hfresh : f.1 ∉ done.map Prod.fst := by
      rw [List.map_append, List.map_cons] at hnodup
      exact fun hmem => List.disjoint_of_nodup_append hnodup hmem List.mem_cons_self
    have hkey : fieldKey? ((done ++ f :: todo).map Prod.fst) (.text f.1) =
        some (.known done.length) := by
      rw [List.map_append, List.map_cons, fieldKey?_append hfresh, List.length_map]
    have hstep : done ++ f :: todo = (done ++ [f]) ++ todo := by simp
    have hrest := ih (done ++ [f]) (hstep ▸ hnodup)
    rw [← hstep] at hrest
    simp only [List.map_cons, collect?, hkey]
    simpa using hrest

variable {names : List String} {fields : List (String × Value)}

/-- A record whose fields have the given names, each of its own, is read back. -/
theorem fields?_record (hnames : fields.map Prod.fst = names) (hnodup : names.Nodup) :
    (record fields).fields? names false = some (fields.map fun f => some f.2) := by
  subst hnames
  have hread := collect?_record [] fields hnodup
  rw [record, fields?, List.map_map]
  exact hread

theorem skipped_record (hnames : fields.map Prod.fst = names) :
    (record fields).skipped names = [] := by
  rw [record, skipped, List.map_eq_nil_iff, List.filter_eq_nil_iff]
  intro e he
  obtain ⟨f, hf, rfl⟩ := List.mem_map.1 he
  have hknown : f.1 ∈ names := hnames ▸ List.mem_map_of_mem hf
  obtain ⟨i, hi⟩ := Option.isSome_iff_exists.1 (List.isSome_idxOf?.2 hknown)
  simp [fieldKey?, fieldKey?.byName, hi]

/-- Nothing of such a record is skipped, so it may stand inside any number of containers. -/
theorem savedFields?_record {outer : Nat} (hnames : fields.map Prod.fst = names)
    (hnodup : names.Nodup) :
    (record fields).savedFields? names outer = some (fields.map fun f => some f.2) := by
  rw [savedFields?, skipped_record hnames, if_pos (by rfl), fields?_record hnames hnodup]

end Value

/-! ## § 4. Aspects -/

namespace Aspects

/-- An entry that comes after all others stays after them. -/
theorem assign_of_lt {k x : String} {l : List (String × String)}
    (h : ∀ e ∈ l, compare e.1 k = .lt) : assign k x l = l ++ [(k, x)] := by
  induction l with
  | nil => rfl
  | cons e rest ih =>
    have hgt : compare k e.1 = .gt := Std.OrientedCmp.gt_iff_lt.2 (h e List.mem_cons_self)
    rw [assign, hgt, ih fun e' he' => h e' (List.mem_cons_of_mem e he'), List.cons_append]

theorem foldl_insert (a : Aspects) (l : List (String × String))
    (h : (a.entries ++ l).Pairwise fun x y => compare x.1 y.1 = .lt) :
    (l.foldl (fun a e => a.insert e.1 e.2) a).entries = a.entries ++ l := by
  induction l generalizing a with
  | nil => simp
  | cons e rest ih =>
    have hlast : (a.insert e.1 e.2).entries = a.entries ++ [e] :=
      assign_of_lt fun e' he' => (List.pairwise_append.1 h).2.2 e' he' e List.mem_cons_self
    rw [List.foldl_cons, ih, hlast, List.append_assoc, List.singleton_append]
    rwa [hlast, List.append_assoc, List.singleton_append]

/-- Aspects are the aspects of their own entries. -/
theorem ofList_entries (a : Aspects) : ofList a.entries = a := by
  have hentries : (ofList a.entries).entries = a.entries := foldl_insert empty a.entries a.sorted
  cases hread : ofList a.entries
  cases a
  simp_all

end Aspects

end CausalPath
