import CausalPath.Proofs.Matching.Calls

/-!
# The accounts of a matcher

An end that was submitted is one of the two of a pair, or was dropped because it waited too long or
because there were too many, or was replaced by another end of its packet, or still waits. The
counters and the waiting ends of a matcher add up to the submissions, whatever their times are.
-/

namespace CausalPath

universe u

namespace Matcher

variable {α : Type u} {m m' : Matcher α} {k : PacketKey} {d : MatchDirection} {t : Time} {payload : α}
  {e peer : Endpoint α}

/-! ## § 1. What is accounted for -/

/-- The ends that a matcher accounts for. -/
def accounted (m : Matcher α) : Nat := 2 * m.matched + m.expired + m.replaced + m.pending

theorem pending_eq (m : Matcher α) (d : MatchDirection) :
    m.pending = (m.waiting d).size + (m.waiting d.opposite).size := by
  cases d
  · rfl
  · exact Nat.add_comm _ _

theorem size_left_le (m : Matcher α) (now : Time) (d : MatchDirection) :
    (m.left now d).size ≤ (m.waiting d).size :=
  List.length_filter_le _ _

theorem accounted_expire (m : Matcher α) (now : Time) :
    (m.expire now).2.accounted = m.accounted := by
  have hsend : (m.left now .send).size ≤ m.sources.size := m.size_left_le now .send
  have hreceive : (m.left now .receive).size ≤ m.destinations.size := m.size_left_le now .receive
  rw [expire_eq]
  simp only [accounted, pending]
  omega

/-- A pair has two ends, one of which waited. -/
theorem accounted_release (h : (m.waiting d).get? k = some peer) :
    (m.release d k).accounted = m.accounted + 1 := by
  have hsize := Table.size_erase h
  have hcounters : (m.release d k).matched = m.matched + 1 ∧ (m.release d k).expired = m.expired ∧
      (m.release d k).replaced = m.replaced := by
    cases d <;> exact ⟨rfl, rfl, rfl⟩
  have hpending : (m.release d k).pending = ((m.waiting d).erase k).size +
      (m.waiting d.opposite).size := by
    rw [pending_eq _ d]
    cases d <;> rfl
  have hbefore := m.pending_eq d
  simp only [accounted]
  omega

/-- An end that is told to wait waits, or is dropped, and another one may have to go for it. -/
theorem accounted_wait (m : Matcher α) (k : PacketKey) (d : MatchDirection) (e : Endpoint α) :
    (m.wait k d e).accounted = m.accounted + 1 := by
  have hgrown : ((m.waiting d).insert k e).size +
      (if ((m.waiting d).get? k).isSome then 1 else 0) = (m.waiting d).size + 1 := by
    cases hk : (m.waiting d).get? k with
    | none => simp [Table.size_insert_of_none hk]
    | some e' => simp [Table.size_insert_of_some hk]
  have hexcess : m.maxPending.elim 0 (((m.waiting d).insert k e).size - ·) ≤
      ((m.waiting d).insert k e).size := by
    cases m.maxPending with
    | none => exact Nat.zero_le _
    | some max => exact Nat.sub_le _ _
  have hpending : (m.wait k d e).pending = ((m.waiting d).insert k e).size -
      m.maxPending.elim 0 (((m.waiting d).insert k e).size - ·) +
        (m.waiting d.opposite).size := by
    rw [pending_eq _ d, waiting_wait, waiting_wait, if_pos rfl, size_dropOldest]
    cases d <;> rfl
  have hcounters : (m.wait k d e).matched = m.matched ∧
      (m.wait k d e).expired = m.expired +
        m.maxPending.elim 0 (((m.waiting d).insert k e).size - ·) ∧
      (m.wait k d e).replaced = m.replaced + if ((m.waiting d).get? k).isSome then 1 else 0 := by
    cases d <;> exact ⟨rfl, rfl, rfl⟩
  have hbefore := m.pending_eq d
  simp only [accounted]
  omega

/-! ## § 2. What a matcher keeps up -/

/-- A matcher holds no packet in both directions, and no more ends of a direction than may wait. -/
structure Tidy (m : Matcher α) : Prop where
  apart : ∀ d k e, (m.waiting d).get? k = some e → (m.waiting d.opposite).get? k = none
  bounded : ∀ max, m.maxPending = some max → ∀ d, (m.waiting d).size ≤ max

theorem tidy_new (ttl : Option Time) (limit : Option Nat) : (new ttl limit : Matcher α).Tidy where
  apart d k e h := by cases d <;> exact absurd h (by simp [new, waiting])
  bounded max _ d := by cases d <;> exact Nat.zero_le _

/-- To let ends go keeps a matcher tidy. -/
theorem Tidy.of_subset (h : m.Tidy) (hlimit : m'.maxPending = m.maxPending)
    (hwaiting : ∀ d k e, (m'.waiting d).get? k = some e → (m.waiting d).get? k = some e)
    (hsize : ∀ d, (m'.waiting d).size ≤ (m.waiting d).size) : m'.Tidy where
  apart d k e he := by
    have hnone := h.apart d k e (hwaiting d k e he)
    cases hother : (m'.waiting d.opposite).get? k with
    | none => rfl
    | some e' => exact absurd (hnone.symm.trans (hwaiting _ k e' hother)) (by simp)
  bounded max hmax d := (hsize d).trans (h.bounded max (hlimit ▸ hmax) d)

theorem Tidy.expire (h : m.Tidy) (now : Time) : (m.expire now).2.Tidy := by
  refine h.of_subset ?_ (fun d k e => get?_waiting_expire) fun d => ?_
  · rw [expire_eq]
  · rw [waiting_expire_eq]
    exact m.size_left_le now d

theorem Tidy.release (h : m.Tidy) (d : MatchDirection) (k : PacketKey) : (m.release d k).Tidy := by
  refine h.of_subset (by cases d <;> rfl) (fun d' k' e he => ?_) fun d' => ?_
  · rw [waiting_release] at he
    split at he
    · rename_i hd
      exact hd ▸ (Table.get?_of_erase he).1
    · exact he
  · rw [waiting_release]
    split
    · rename_i hd
      exact hd ▸ List.length_filter_le _ _
    · exact Nat.le_refl _

/-- An end may wait when none of its packet waits in the other direction. -/
theorem Tidy.wait (h : m.Tidy) (hfree : (m.waiting d.opposite).get? k = none) (e : Endpoint α) :
    (m.wait k d e).Tidy where
  apart d' k' e' he' := by
    cases hother : ((m.wait k d e).waiting d'.opposite).get? k' with
    | none => rfl
    | some e'' =>
      exfalso
      rcases get?_waiting_wait he' with hold | ⟨rfl, rfl, -⟩ <;>
        rcases get?_waiting_wait hother with hold' | ⟨hd, hk, -⟩
      · exact absurd ((h.apart d' k' e' hold).symm.trans hold') (by simp)
      · subst hk
        have hd' : d' = d.opposite := by rw [← hd]; cases d' <;> rfl
        exact absurd (hfree.symm.trans (hd' ▸ hold)) (by simp)
      · exact absurd (hfree.symm.trans hold') (by simp)
      · cases d' <;> exact absurd hd (by decide)
  bounded max hmax d' := by
    have hmax : m.maxPending = some max := by
      rw [← hmax]
      cases d <;> rfl
    rw [waiting_wait]
    split
    · rw [size_dropOldest, hmax, Option.elim_some]
      omega
    · exact h.bounded max hmax d'

/-! ## § 3. One call -/

/-- A submission adds one end, and nothing else does. -/
theorem accounted_meet (m : Matcher α) (c : MatcherCall α) :
    (m.meet c).2.accounted = m.accounted + if c.isSubmission then 1 else 0 := by
  cases c with
  | expire now => exact m.accounted_expire now
  | submit k d t payload =>
    rw [meet]
    cases hpeer : (m.left t d.opposite).get? k with
    | none =>
      rw [submit_of_none hpeer, accounted_wait, accounted_expire]
      rfl
    | some peer =>
      rw [← waiting_expire_eq] at hpeer
      rw [submit_of_peer (waiting_expire_eq m t _ ▸ hpeer), accounted_release hpeer,
        accounted_expire]
      rfl

theorem Tidy.meet (h : m.Tidy) (c : MatcherCall α) : (m.meet c).2.Tidy := by
  cases c with
  | expire now => exact h.expire now
  | submit k d t payload =>
    rw [Matcher.meet]
    cases hpeer : (m.left t d.opposite).get? k with
    | none =>
      rw [submit_of_none hpeer]
      exact (h.expire t).wait (waiting_expire_eq m t _ ▸ hpeer) _
    | some peer =>
      rw [submit_of_peer hpeer]
      exact (h.expire t).release _ _

/-- A call counts the pair that it completes. -/
theorem matched_meet (m : Matcher α) (c : MatcherCall α) :
    (m.meet c).2.matched = m.matched + (m.meet c).1.toList.length := by
  cases c with
  | expire now => simp [meet, expire_eq]
  | submit k d t payload => exact m.matched_submit k d t payload

/-- The first entries of a list, as many as a limit admits. -/
def atMost {β : Type u} (limit : Option Nat) (l : List β) : List β := limit.elim l (l.take ·)

/-- An end that completes no pair waits with those that are left of its direction, in the place of
the one of its packet, and only the newest stay. The other direction is as the time has left it. -/
theorem submit_waits (h : (m.submit k d t payload).1 = none) :
    ((m.submit k d t payload).2.waiting d).entries.Perm
        (atMost m.maxPending (newestFirst ((m.left t d).insert k ⟨t, payload⟩).entries)) ∧
      (m.submit k d t payload).2.waiting d.opposite = m.left t d.opposite := by
  cases hpeer : (m.left t d.opposite).get? k with
  | some peer =>
    rw [submit_of_peer hpeer] at h
    exact absurd h (by simp)
  | none =>
    have hlimit : (m.expire t).2.maxPending = m.maxPending := by rw [expire_eq]
    rw [submit_of_none hpeer, waiting_wait, waiting_wait, if_pos rfl,
      if_neg (by cases d <;> decide), waiting_expire_eq, waiting_expire_eq, hlimit]
    refine ⟨(perm_dropOldest _ _).trans (.of_eq ?_), rfl⟩
    generalize (m.left t d).insert k ⟨t, payload⟩ = grown
    have hlength : (newestFirst grown.entries).length = grown.size :=
      (perm_newestFirst _).length_eq
    cases m.maxPending with
    | none =>
      rw [Option.elim_none, Nat.sub_zero, ← hlength, List.take_length]
      rfl
    | some max =>
      show (newestFirst grown.entries).take (grown.size - (grown.size - max)) =
        (newestFirst grown.entries).take max
      rw [← hlength, List.take_eq_take_iff]
      omega

/-! ## § 4. Histories -/

variable {calls : List (MatcherCall α)}

theorem limits_meetAll (m : Matcher α) (calls : List (MatcherCall α)) :
    (m.meetAll calls).ttl = m.ttl ∧ (m.meetAll calls).maxPending = m.maxPending := by
  induction calls generalizing m with
  | nil => exact ⟨rfl, rfl⟩
  | cons c rest ih =>
    obtain ⟨httl, hmax⟩ := ih (m.meet c).2
    exact ⟨httl.trans (m.meet_limits c).1, hmax.trans (m.meet_limits c).2⟩

theorem Tidy.meetAll (h : m.Tidy) (calls : List (MatcherCall α)) : (m.meetAll calls).Tidy := by
  induction calls generalizing m with
  | nil => exact h
  | cons c rest ih => exact ih (h.meet c)

theorem accounted_meetAll (m : Matcher α) (calls : List (MatcherCall α)) :
    (m.meetAll calls).accounted = m.accounted + calls.countP (·.isSubmission) := by
  induction calls generalizing m with
  | nil => rfl
  | cons c rest ih =>
    calc (m.meetAll (c :: rest)).accounted
      _ = (m.meet c).2.accounted + rest.countP (·.isSubmission) := ih (m.meet c).2
      _ = m.accounted + (c :: rest).countP (·.isSubmission) := by
        rw [accounted_meet, List.countP_cons]
        omega

theorem matched_meetAll (m : Matcher α) (calls : List (MatcherCall α)) :
    (m.meetAll calls).matched = m.matched + (m.emitted calls).length := by
  induction calls generalizing m with
  | nil => rfl
  | cons c rest ih =>
    calc (m.meetAll (c :: rest)).matched
      _ = (m.meet c).2.matched + ((m.meet c).2.emitted rest).length := ih (m.meet c).2
      _ = m.matched + (m.emitted (c :: rest)).length := by
        rw [matched_meet, emitted, List.length_append, Nat.add_assoc]

/-- After any history the submitted ends are those that were matched, two per pair, those that were
dropped, those that were replaced, and those that wait; there are as many pairs as were handed out.
No packet waits in both directions, and no direction holds more ends than may wait. A further end
that completes no pair leaves in its direction the newest of those that still wait and itself: all
of them, or as many as may wait. -/
theorem nothing_lost {ttl : Option Time} {limit : Option Nat}
    (hrun : (new ttl limit).meetAll calls = m) :
    calls.countP (·.isSubmission) = 2 * m.stats.matched + m.stats.expired + m.stats.replaced +
        m.stats.pendingSources + m.stats.pendingDestinations ∧
    m.stats.matched = ((new ttl limit).emitted calls).length ∧
    (∀ k, m.sources.get? k = none ∨ m.destinations.get? k = none) ∧
    (∀ max, limit = some max → m.sources.size ≤ max ∧ m.destinations.size ≤ max) ∧
    ∀ k d t payload, (m.submit k d t payload).1 = none →
      ((m.submit k d t payload).2.waiting d).entries.Perm
          (atMost limit (newestFirst ((m.left t d).insert k ⟨t, payload⟩).entries)) ∧
        (m.submit k d t payload).2.waiting d.opposite = m.left t d.opposite := by
  subst hrun
  have htidy := (tidy_new ttl limit).meetAll calls
  obtain ⟨-, hlimit⟩ := (new ttl limit).limits_meetAll calls
  have hlimit : ((new ttl limit).meetAll calls).maxPending = limit := hlimit
  refine ⟨?_, ?_, ?_, ?_, ?_⟩
  · have haccounted := (new ttl limit).accounted_meetAll calls
    have hzero : (new ttl limit : Matcher α).accounted = 0 := rfl
    rw [hzero, Nat.zero_add] at haccounted
    rw [← haccounted]
    exact (Nat.add_assoc _ _ _).symm
  · exact ((new ttl limit).matched_meetAll calls).trans (Nat.zero_add _)
  · intro k
    cases hsource : ((new ttl limit).meetAll calls).sources.get? k with
    | none => exact Or.inl rfl
    | some e => exact Or.inr (htidy.apart .send k e hsource)
  · intro max hmax
    have hbounded := htidy.bounded max (hlimit.trans hmax)
    exact ⟨hbounded .send, hbounded .receive⟩
  · intro k d t payload hnone
    have hwaits := submit_waits hnone
    rwa [hlimit] at hwaits

/-- Four packets of one sender, where two ends may wait and each for a time of at most 10. -/
def crowdedHistory : List (MatcherCall Nat) :=
  let send (n : Nat) (t : Time) : MatcherCall Nat := .submit ⟨n, 0, 0⟩ .send t n
  [send 1 0, send 2 5, .expire 11, send 2 12, send 3 14, send 4 13,
    .submit ⟨3, 0, 0⟩ .receive 15 9, send 5 16]

/-- One pair is made of seven ends; one was too old, one was replaced, one had to go because there
were too many, and two wait. -/
theorem nothing_lost_of_crowded : ∃ m, (new (some 10) (some 2)).meetAll crowdedHistory = m ∧
    7 = 2 * m.stats.matched + m.stats.expired + m.stats.replaced + m.stats.pendingSources +
      m.stats.pendingDestinations ∧ m.stats = ⟨1, 2, 1, 2, 0⟩ := by
  obtain ⟨hall, -⟩ := nothing_lost (m := (new (some 10) (some 2)).meetAll crowdedHistory) rfl
  exact ⟨_, rfl, hall, by decide⟩

end Matcher

end CausalPath
