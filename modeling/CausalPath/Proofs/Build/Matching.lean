import CausalPath.Matching
import CausalPath.Proofs.Table

/-!
# What a matcher may keep

A matcher drops ends as it likes, so what is known of it is an upper bound: an end that waits was
submitted, and it waited before unless it is the one submitted last. `submit_cases` says so together
with the two outcomes of a submission.
-/

namespace CausalPath

universe u

namespace Matcher

variable {α : Type u} {m : Matcher α} {k : PacketKey} {d : MatchDirection} {p : Endpoint α}

@[simp] theorem waiting_setWaiting (m : Matcher α) (d d' : MatchDirection) (w : Waiting α) :
    (m.setWaiting d w).waiting d' = if d = d' then w else m.waiting d' := by
  cases d <;> cases d' <;> rfl

theorem waiting_expire (m : Matcher α) (now : Time) (d : MatchDirection) :
    (m.expire now).2.waiting d = m.ttl.elim (m.waiting d) (fresh · now (m.waiting d)) := by
  unfold expire
  cases m.ttl with
  | none => rfl
  | some ttl => cases d <;> rfl

/-- What is left when ends expire waited before. -/
theorem get?_waiting_expire {now : Time} (h : ((m.expire now).2.waiting d).get? k = some p) :
    (m.waiting d).get? k = some p := by
  rw [waiting_expire] at h
  cases httl : m.ttl with
  | none =>
    rw [httl] at h
    exact h
  | some ttl =>
    rw [httl, Option.elim_some, fresh] at h
    exact (Table.get?_filter_eq_some_iff.1 h).1

/-- What is left when the oldest ends are dropped waited before. -/
theorem get?_dropOldest (excess : Nat) : ∀ {w : Waiting α},
    (dropOldest w excess).get? k = some p → w.get? k = some p := by
  induction excess with
  | zero =>
    intro w h
    exact h
  | succ n ih =>
    intro w h
    unfold dropOldest at h
    split at h
    · exact (Table.get?_of_erase (ih h)).1
    · exact h

theorem waiting_wait (m : Matcher α) (k : PacketKey) (d d' : MatchDirection) (e : Endpoint α) :
    (m.wait k d e).waiting d' =
      if d = d' then
        dropOldest ((m.waiting d).insert k e)
          (m.maxPending.elim 0 (((m.waiting d).insert k e).size - ·))
      else m.waiting d' := by
  rw [← waiting_setWaiting]
  cases d' <;> rfl

/-- What waits after an end was told to wait is that end, or waited before. -/
theorem get?_waiting_wait {k' : PacketKey} {d' : MatchDirection} {e : Endpoint α}
    (h : ((m.wait k d e).waiting d').get? k' = some p) :
    (m.waiting d').get? k' = some p ∨ (d' = d ∧ k' = k ∧ p = e) := by
  rw [waiting_wait] at h
  split at h
  · rename_i hd
    have hin := get?_dropOldest _ h
    rw [Table.get?_insert] at hin
    split at hin
    · rename_i hk
      exact Or.inr ⟨hd.symm, hk.symm, (Option.some.inj hin).symm⟩
    · rw [← hd]
      exact Or.inl hin
  · exact Or.inl h

/-- The matcher after an end was matched with one that waited. -/
theorem waiting_matched (m : Matcher α) (n : Nat) (w : Waiting α) (d d' : MatchDirection) :
    ({ m.setWaiting d w with matched := n } : Matcher α).waiting d' =
      if d = d' then w else m.waiting d' := by
  rw [← waiting_setWaiting]
  cases d' <;> rfl

/-- A submitted end is matched with the other end, which waited and waits no more, or it may wait
itself. Whatever else waits then waited before. -/
theorem submit_cases (m : Matcher α) (k : PacketKey) (d : MatchDirection) (time : Time)
    (payload : α) :
    (∃ peer, (m.waiting d.opposite).get? k = some peer ∧
      (m.submit k d time payload).1 = some (pair k d ⟨time, payload⟩ peer) ∧
      ∀ d' k' p, ((m.submit k d time payload).2.waiting d').get? k' = some p →
        (m.waiting d').get? k' = some p ∧ ¬(d' = d.opposite ∧ k' = k)) ∨
    ((m.submit k d time payload).1 = none ∧
      ∀ d' k' p, ((m.submit k d time payload).2.waiting d').get? k' = some p →
        (m.waiting d').get? k' = some p ∨ (d' = d ∧ k' = k ∧ p = ⟨time, payload⟩)) := by
  unfold submit
  dsimp only
  split
  · rename_i peer hpeer
    refine Or.inl ⟨peer, get?_waiting_expire hpeer, rfl, ?_⟩
    intro d' k' p h
    dsimp only at h
    rw [waiting_matched] at h
    split at h
    · rename_i hd
      obtain ⟨hin, hne⟩ := Table.get?_of_erase h
      rw [hd] at hin
      exact ⟨get?_waiting_expire hin, fun heq => hne heq.2.symm⟩
    · rename_i hd
      exact ⟨get?_waiting_expire h, fun heq => hd heq.1.symm⟩
  · refine Or.inr ⟨rfl, ?_⟩
    intro d' k' p h
    exact (get?_waiting_wait h).imp get?_waiting_expire id

/-- A submission counts the pair that it emits. -/
theorem matched_submit (m : Matcher α) (k : PacketKey) (d : MatchDirection) (time : Time)
    (payload : α) :
    (m.submit k d time payload).2.matched =
      m.matched + (m.submit k d time payload).1.toList.length := by
  have hset : ∀ d' w, ((m.expire time).2.setWaiting d' w).matched = m.matched := by
    intro d' w
    unfold expire
    cases m.ttl <;> cases d' <;> rfl
  unfold submit
  dsimp only
  split
  · exact congrArg (· + 1) (hset d.opposite _)
  · exact hset d _

end Matcher

end CausalPath
