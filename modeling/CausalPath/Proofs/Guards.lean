/-!
# Guards, read backwards

A computation that can be refused is written as guards followed by its result. When such a
computation succeeds, every guard was passed and every part succeeded; when it fails, one part
failed after the others before it succeeded. These laws take it apart.
-/

namespace CausalPath

variable {ε α β : Type}

theorem bind_eq_ok {x : Except ε α} {f : α → Except ε β} {b : β} :
    x >>= f = .ok b ↔ ∃ a, x = .ok a ∧ f a = .ok b := by
  cases x with
  | error e =>
    constructor
    · intro h
      exact absurd h (by simp [bind, Except.bind])
    · rintro ⟨a, ha, -⟩
      exact absurd ha (by simp)
  | ok a =>
    constructor
    · intro h
      exact ⟨a, rfl, h⟩
    · rintro ⟨a', ha, hf⟩
      obtain rfl := Except.ok.inj ha
      exact hf

theorem bind_eq_error {x : Except ε α} {f : α → Except ε β} {e : ε} :
    x >>= f = .error e ↔ x = .error e ∨ ∃ a, x = .ok a ∧ f a = .error e := by
  cases x with
  | error e' =>
    have hbind : Except.error e' >>= f = .error e' := rfl
    rw [hbind]
    constructor
    · intro h
      exact Or.inl (congrArg Except.error (Except.error.inj h))
    · rintro (h | ⟨a, ha, -⟩)
      · exact congrArg Except.error (Except.error.inj h)
      · exact absurd ha (by simp)
  | ok a =>
    constructor
    · intro h
      exact Or.inr ⟨a, rfl, h⟩
    · rintro (h | ⟨a', ha, hf⟩)
      · exact absurd h (by simp)
      · obtain rfl := Except.ok.inj ha
        exact hf

theorem pure_eq_ok {a b : α} : (pure a : Except ε α) = .ok b ↔ a = b := by
  simp [pure, Except.pure]

theorem exists_of_isOk {x : Except ε α} (h : x.isOk = true) : ∃ a, x = .ok a := by
  cases x with
  | error e => exact absurd h Bool.false_ne_true
  | ok a => exact ⟨a, rfl⟩

theorem map_eq_ok {x : Except ε α} {f : α → β} {b : β} :
    x.map f = .ok b ↔ ∃ a, x = .ok a ∧ f a = b := by
  cases x with
  | error e => simp [Except.map]
  | ok a => simp [Except.map]

/-- What follows a guard is reached only when the guard does not throw. -/
theorem guard_eq_ok {p : Prop} [Decidable p] {e : ε} {f : PUnit → Except ε α} {y : Except ε α}
    {b : α} : (if p then throw e >>= f else y) = .ok b ↔ ¬p ∧ y = .ok b := by
  split
  · rename_i h
    constructor
    · intro hb
      exact absurd hb (by simp [bind, Except.bind, throw, throwThe, MonadExceptOf.throw])
    · rintro ⟨hn, -⟩
      exact absurd h hn
  · rename_i h
    simp [h]

/-- A guard that throws hides what follows it. -/
theorem guard_eq_error {p : Prop} [Decidable p] {e e' : ε} {f : PUnit → Except ε α}
    {y : Except ε α} :
    (if p then throw e >>= f else y) = .error e' ↔ (p ∧ e = e') ∨ (¬p ∧ y = .error e') := by
  split
  · rename_i h
    simp [h, bind, Except.bind, throw, throwThe, MonadExceptOf.throw]
  · rename_i h
    simp [h]

end CausalPath
