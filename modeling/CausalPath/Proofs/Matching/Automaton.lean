import CausalPath.Proofs.Matching.Calls
import Mathlib.Logic.Function.Basic

/-!
# One automaton per packet

A matcher drops old ends of all packets whenever it is called. Seen from one packet this makes no
difference: an automaton that hears of no other packet, holds one end at most and looks at its age
only when the next end comes emits the same pairs. So packets do not influence each other, and it
cannot be seen when a matcher was told to let ends expire.
-/

namespace CausalPath

universe u

/-- The end of a packet that a call submits. -/
def MatcherCall.end? {α : Type u} (k : PacketKey) :
    MatcherCall α → Option (MatchDirection × Endpoint α)
  | .submit k' d t payload => if k' = k then some (d, ⟨t, payload⟩) else none
  | .expire _ => none

/-- What an automaton of one packet holds: nothing, or an end and its direction. -/
abbrev OneSlot (α : Type u) := Option (MatchDirection × Endpoint α)

namespace OneSlot

variable {α : Type u} {ttl : Option Time} {k : PacketKey} {d : MatchDirection}
  {e peer : Endpoint α} {held : OneSlot α}

/-- An end comes: with an end of the other direction that is not too old it makes a pair, and
otherwise it takes the place. -/
def step (ttl : Option Time) (k : PacketKey) :
    OneSlot α → MatchDirection → Endpoint α → Option (MatchedPair α) × OneSlot α
  | some (.send, sent), .receive, received =>
    if Matcher.lasts ttl received.time sent then
      (some ⟨k, sent, received⟩, none)
    else
      (none, some (.receive, received))
  | some (.receive, received), .send, sent =>
    if Matcher.lasts ttl sent.time received then
      (some ⟨k, sent, received⟩, none)
    else
      (none, some (.send, sent))
  | _, d, e => (none, some (d, e))

/-- The pairs that an automaton makes of the ends that come. -/
def pairs (ttl : Option Time) (k : PacketKey) :
    OneSlot α → List (MatchDirection × Endpoint α) → List (MatchedPair α)
  | _, [] => []
  | held, (d, e) :: rest =>
    (step ttl k held d e).1.toList ++ pairs ttl k (step ttl k held d e).2 rest

/-- The pairs that the automata of all packets make of calls, where each hears of the ends of its own
packet and none of times at which ends may expire. -/
def pairsOfAll (ttl : Option Time) :
    (PacketKey → OneSlot α) → List (MatcherCall α) → List (MatchedPair α)
  | _, [] => []
  | held, .expire _ :: rest => pairsOfAll ttl held rest
  | held, .submit k d t payload :: rest =>
    (step ttl k (held k) d ⟨t, payload⟩).1.toList ++
      pairsOfAll ttl (Function.update held k (step ttl k (held k) d ⟨t, payload⟩).2) rest

theorem step_of_peer (h : Matcher.lasts ttl e.time peer = true) :
    step ttl k (some (d.opposite, peer)) d e = (some (Matcher.pair k d e peer), none) := by
  cases d <;> simp [step, MatchDirection.opposite, Matcher.pair, h]

theorem step_of_none
    (h : ∀ peer, held = some (d.opposite, peer) → Matcher.lasts ttl e.time peer = false) :
    step ttl k held d e = (none, some (d, e)) := by
  cases held with
  | none => rfl
  | some x =>
    obtain ⟨d', peer⟩ := x
    cases d <;> cases d' <;> first | rfl | simp [step, h peer rfl]

theorem key_of_step {p : MatchedPair α} (h : p ∈ (step ttl k held d e).1) : p.key = k := by
  unfold step at h
  split at h
  · split at h
    · rw [← Option.some.inj h]
    · exact absurd h (by simp)
  · split at h
    · rw [← Option.some.inj h]
    · exact absurd h (by simp)
  · exact absurd h (by simp)

/-- Of all pairs those of one packet are the ones that its automaton makes. -/
theorem filter_pairsOfAll (ttl : Option Time) (k : PacketKey) (calls : List (MatcherCall α)) :
    ∀ held, (pairsOfAll ttl held calls).filter (·.key = k) =
      pairs ttl k (held k) (calls.filterMap (·.end? k)) := by
  induction calls with
  | nil => exact fun _ => rfl
  | cons c rest ih =>
    intro held
    cases c with
    | expire now => exact ih held
    | submit k' d t payload =>
      rw [pairsOfAll, List.filter_append, ih]
      by_cases hk : k' = k
      · subst hk
        have hall : (step ttl k' (held k') d ⟨t, payload⟩).1.toList.filter (·.key = k') =
            (step ttl k' (held k') d ⟨t, payload⟩).1.toList := by
          rw [List.filter_eq_self]
          intro p hp
          exact decide_eq_true (key_of_step (Option.mem_toList.1 hp))
        have hend : (MatcherCall.submit k' d t payload).end? k' = some (d, ⟨t, payload⟩) := if_pos rfl
        rw [hall, Function.update_self, List.filterMap_cons_some hend]
        rfl
      · have hnone : (step ttl k' (held k') d ⟨t, payload⟩).1.toList.filter (·.key = k) = [] := by
          rw [List.filter_eq_nil_iff]
          intro p hp hkey
          exact hk ((key_of_step (Option.mem_toList.1 hp)).symm.trans (of_decide_eq_true hkey))
        have hend : (MatcherCall.submit k' d t payload).end? k = none := if_neg hk
        rw [hnone, Function.update_of_ne (Ne.symm hk), List.filterMap_cons_none hend]
        rfl

theorem pairsOfAll_submissions (ttl : Option Time) (calls : List (MatcherCall α)) :
    ∀ held, pairsOfAll ttl held (calls.filter (·.isSubmission)) = pairsOfAll ttl held calls := by
  induction calls with
  | nil => exact fun _ => rfl
  | cons c rest ih =>
    intro held
    cases c with
    | expire now => exact ih held
    | submit k d t payload => exact congrArg (_ ++ ·) (ih _)

end OneSlot

namespace Matcher

variable {α : Type u} {m m' : Matcher α} {k k' : PacketKey} {d : MatchDirection} {now t : Time}
  {payload : α} {e : Endpoint α} {held : OneSlot α}

/-! ## § 1. What a matcher and an automaton have in common -/

/-- A matcher holds of a packet what an automaton holds, but for what is too old. -/
structure Tracks (m : Matcher α) (k : PacketKey) (now : Time) (held : OneSlot α) : Prop where
  held_of_waiting : ∀ d e, (m.waiting d).get? k = some e → held = some (d, e)
  waiting_of_held : ∀ d e, held = some (d, e) → lasts m.ttl now e = true →
    (m.waiting d).get? k = some e

/-- An end that may still wait later may wait now. -/
theorem lasts_of_later {ttl : Option Time} (h : lasts ttl t e = true) (hle : now ≤ t) :
    lasts ttl now e = true := by
  cases ttl with
  | none => rfl
  | some ttl =>
    rw [lasts, Option.all_some, decide_eq_true_eq] at h ⊢
    exact (Nat.sub_le_sub_right hle e.time).trans h

theorem Tracks.left (h : m.Tracks k now held) (hle : now ≤ t) :
    (m.left t d).get? k = some e ↔ held = some (d, e) ∧ lasts m.ttl t e = true := by
  rw [get?_left_eq_some_iff]
  constructor
  · rintro ⟨hwaits, hlasts⟩
    exact ⟨h.held_of_waiting d e hwaits, hlasts⟩
  · rintro ⟨hheld, hlasts⟩
    exact ⟨h.waiting_of_held d e hheld (lasts_of_later hlasts hle), hlasts⟩

/-- What is left at a time is what an automaton holds then, but for what is too old. -/
theorem Tracks.of_left (h : m.Tracks k now held) (hle : now ≤ t) (httl : m'.ttl = m.ttl)
    (hleft : ∀ d, (m'.waiting d).get? k = (m.left t d).get? k) : m'.Tracks k t held where
  held_of_waiting d e he := ((h.left hle).1 ((hleft d).symm.trans he)).1
  waiting_of_held d e hheld hlasts := by
    rw [hleft, h.left hle]
    exact ⟨hheld, httl ▸ hlasts⟩

/-! ## § 2. One call -/

/-- What waits when there is no limit to how many ends may wait. -/
theorem get?_waiting_wait_of_unlimited (hmax : m.maxPending = none) (d' : MatchDirection) :
    ((m.wait k d e).waiting d').get? k' =
      if d = d' ∧ k = k' then some e else (m.waiting d').get? k' := by
  rw [waiting_wait, hmax, Option.elim_none, dropOldest]
  by_cases hd : d = d'
  · rw [if_pos hd, Table.get?_insert, hd]
    simp
  · rw [if_neg hd]
    simp [hd]

theorem Tracks.expire (h : m.Tracks k now held) (hle : now ≤ t) :
    (m.expire t).2.Tracks k t held :=
  h.of_left hle (by rw [expire_eq]) fun d => by rw [waiting_expire_eq]

/-- An end of a packet does to a matcher what it does to the automaton of the packet. -/
theorem Tracks.submit (h : m.Tracks k now held) (hle : now ≤ t) (hmax : m.maxPending = none)
    (d : MatchDirection) (payload : α) :
    (m.submit k d t payload).1 = (OneSlot.step m.ttl k held d ⟨t, payload⟩).1 ∧
      (m.submit k d t payload).2.Tracks k t (OneSlot.step m.ttl k held d ⟨t, payload⟩).2 := by
  cases hpeer : (m.left t d.opposite).get? k with
  | some peer =>
    obtain ⟨rfl, hlasts⟩ := (h.left hle).1 hpeer
    rw [submit_of_peer hpeer, OneSlot.step_of_peer hlasts]
    refine ⟨rfl, ?_, by simp⟩
    intro d' e he
    rw [waiting_release, waiting_expire_eq, waiting_expire_eq] at he
    split at he
    · exact absurd rfl (Table.get?_of_erase he).2
    · rename_i hd
      have hheld := ((h.left hle).1 he).1
      exact absurd (Prod.ext_iff.1 (Option.some.inj hheld)).1 hd
  | none =>
    have hnone : ∀ peer, held = some (d.opposite, peer) → lasts m.ttl t peer = false := by
      intro peer hheld
      rw [← Bool.not_eq_true]
      intro hlasts
      exact absurd (hpeer.symm.trans ((h.left hle).2 ⟨hheld, hlasts⟩)) (by simp)
    rw [submit_of_none hpeer, OneSlot.step_of_none hnone]
    have hmax : (m.expire t).2.maxPending = none := (m.meet_limits (.expire t)).2.trans hmax
    refine ⟨rfl, ?_, ?_⟩
    · intro d' e he
      rw [get?_waiting_wait_of_unlimited hmax, waiting_expire_eq] at he
      split at he
      · rename_i hd
        rw [← hd.1, ← Option.some.inj he]
      · rename_i hd
        have hd' : d' = d.opposite := by
          cases d <;> cases d' <;> first | rfl | exact absurd ⟨rfl, rfl⟩ hd
        exact absurd (hpeer.symm.trans (hd' ▸ he)) (by simp)
    · rintro d' e ⟨⟩ -
      rw [get?_waiting_wait_of_unlimited hmax, if_pos ⟨rfl, rfl⟩]

/-- An end of another packet does nothing to a packet but to let time pass. -/
theorem Tracks.submit_of_ne (h : m.Tracks k now held) (hle : now ≤ t) (hmax : m.maxPending = none)
    (hk : k' ≠ k) (d : MatchDirection) (payload : α) :
    (m.submit k' d t payload).2.Tracks k t held := by
  refine h.of_left hle (m.meet_limits (.submit k' d t payload)).1 fun d' => ?_
  cases hpeer : (m.left t d.opposite).get? k' with
  | some peer =>
    rw [submit_of_peer hpeer, waiting_release, waiting_expire_eq, waiting_expire_eq]
    split
    · rename_i hd
      rw [Table.get?_erase, if_neg hk, hd]
    · rfl
  | none =>
    have hmax : (m.expire t).2.maxPending = none := (m.meet_limits (.expire t)).2.trans hmax
    rw [submit_of_none hpeer, get?_waiting_wait_of_unlimited hmax, if_neg fun hd => hk hd.2,
      waiting_expire_eq]

/-! ## § 3. Histories -/

variable {calls : List (MatcherCall α)}

/-- A matcher that tracks the automata of all packets emits what they make. -/
theorem emitted_eq_pairsOfAll (hmax : m.maxPending = none)
    (htimes : calls.Pairwise (·.time ≤ ·.time)) (hlater : ∀ c ∈ calls, now ≤ c.time)
    {held : PacketKey → OneSlot α} (h : ∀ k, m.Tracks k now (held k)) :
    m.emitted calls = OneSlot.pairsOfAll m.ttl held calls := by
  induction calls generalizing m now held with
  | nil => rfl
  | cons c rest ih =>
    obtain ⟨hfirst, hrest⟩ := List.pairwise_cons.1 htimes
    have hle : now ≤ c.time := hlater c (List.mem_cons_self ..)
    obtain ⟨httl, hmax'⟩ := m.meet_limits c
    have hnext := @ih (m.meet c).2 c.time (hmax'.trans hmax) hrest hfirst
    rw [httl] at hnext
    cases c with
    | expire t => exact hnext fun k => (h k).expire hle
    | submit k d t payload =>
      have hle : now ≤ t := hle
      obtain ⟨hpair, htracks⟩ := (h k).submit hle hmax d payload
      have hall : ∀ j, (m.submit k d t payload).2.Tracks j t
          (Function.update held k (OneSlot.step m.ttl k (held k) d ⟨t, payload⟩).2 j) := by
        intro j
        by_cases hj : j = k
        · subst hj
          rwa [Function.update_self]
        · rw [Function.update_of_ne hj]
          exact (h j).submit_of_ne hle hmax (Ne.symm hj) d payload
      rw [emitted, OneSlot.pairsOfAll, ← hpair, ← hnext hall]
      rfl

theorem tracks_new (ttl : Option Time) (k : PacketKey) :
    (new ttl none : Matcher α).Tracks k now none where
  held_of_waiting d e he := by cases d <;> exact absurd he (by simp [new, waiting])
  waiting_of_held d e he _ := absurd he (by simp)

/-- Without a limit to how many ends may wait, and with calls in the order of time, the pairs of a
packet are those that the automaton of the packet makes of its ends. To call for ends to expire
changes nothing of what is emitted. -/
theorem emitted_eq_automata (ttl : Option Time) (htimes : calls.Pairwise (·.time ≤ ·.time)) :
    (∀ k, ((new ttl none).emitted calls).filter (·.key = k) =
      OneSlot.pairs ttl k none (calls.filterMap (·.end? k))) ∧
    (new ttl none).emitted calls = (new ttl none).emitted (calls.filter (·.isSubmission)) := by
  have hall : ∀ l : List (MatcherCall α), l.Pairwise (·.time ≤ ·.time) →
      (new ttl none).emitted l = OneSlot.pairsOfAll ttl (fun _ => none) l := fun l hl =>
    @emitted_eq_pairsOfAll α (new ttl none) 0 l rfl hl (fun _ _ => Nat.zero_le _) _ (tracks_new ttl)
  constructor
  · intro k
    rw [hall calls htimes, OneSlot.filter_pairsOfAll]
  · rw [hall calls htimes, hall _ (htimes.sublist List.filter_sublist),
      OneSlot.pairsOfAll_submissions]

/-- Two packets that may wait for a time of at most 5: of the first the ends come in both orders and
once too late, and the second comes between them. -/
def mixedHistory : List (MatcherCall Nat) :=
  let a : PacketKey := ⟨1, 0, 0⟩
  let b : PacketKey := ⟨2, 0, 0⟩
  [.submit a .send 0 1, .submit b .receive 2 2, .submit a .receive 5 3, .submit a .receive 6 4,
    .expire 9, .submit b .send 10 5, .submit a .send 11 6, .expire 17, .submit a .send 17 7,
    .submit a .receive 23 8]

theorem emitted_eq_automata_of_mixed :
    ((new (some 5) none).emitted mixedHistory).filter (·.key = ⟨1, 0, 0⟩) =
        [⟨⟨1, 0, 0⟩, ⟨0, 1⟩, ⟨5, 3⟩⟩, ⟨⟨1, 0, 0⟩, ⟨11, 6⟩, ⟨6, 4⟩⟩] ∧
      (new (some 5) none).emitted mixedHistory =
        (new (some 5) none).emitted (mixedHistory.filter (·.isSubmission)) := by
  obtain ⟨hpairs, hexpire⟩ := @emitted_eq_automata _ mixedHistory (some 5) (by decide)
  exact ⟨(hpairs _).trans (by decide), hexpire⟩

end Matcher

end CausalPath
