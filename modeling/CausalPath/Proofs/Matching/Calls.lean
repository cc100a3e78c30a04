import CausalPath.Proofs.Matching.Newest

/-!
# Histories of a matcher

A matcher is met with submissions of ends and with the times at which waiting ends may expire. A
history is a list of such calls. This module says in full what one call does: which ends it leaves
waiting in each direction, and when a submission completes a pair.
-/

namespace CausalPath

universe u

/-- A call of a matcher. -/
inductive MatcherCall (α : Type u)
  | submit (packet : PacketKey) (direction : MatchDirection) (time : Time) (payload : α)
  | expire (now : Time)
  deriving DecidableEq, Repr

namespace MatcherCall

variable {α : Type u}

def time : MatcherCall α → Time
  | .submit _ _ t _ => t
  | .expire now => now

def isSubmission : MatcherCall α → Bool
  | .submit .. => true
  | .expire _ => false

end MatcherCall

namespace Matcher

variable {α : Type u} {m : Matcher α} {k : PacketKey} {d : MatchDirection} {t : Time} {payload : α}
  {e peer : Endpoint α}

/-! ## § 1. Histories -/

/-- Meets a matcher with a call: the pair that the call completes, and the matcher after it. -/
def meet (m : Matcher α) : MatcherCall α → Option (MatchedPair α) × Matcher α
  | .submit k d t payload => m.submit k d t payload
  | .expire now => (none, (m.expire now).2)

/-- The matcher after calls. -/
def meetAll (m : Matcher α) (calls : List (MatcherCall α)) : Matcher α :=
  calls.foldl (fun m c => (m.meet c).2) m

/-- The pairs that calls complete, in order. -/
def emitted (m : Matcher α) : List (MatcherCall α) → List (MatchedPair α)
  | [] => []
  | c :: rest => (m.meet c).1.toList ++ (m.meet c).2.emitted rest

/-! ## § 2. What one call does -/

/-- An end has not waited for longer than it may. -/
def lasts (ttl : Option Time) (now : Time) (e : Endpoint α) : Bool := ttl.all (now - e.time ≤ ·)

/-- The ends of a direction that still wait at a time. -/
def left (m : Matcher α) (now : Time) (d : MatchDirection) : Waiting α :=
  (m.waiting d).filter fun _ e => lasts m.ttl now e

theorem get?_left_eq_some_iff :
    (m.left t d).get? k = some e ↔ (m.waiting d).get? k = some e ∧ lasts m.ttl t e = true :=
  Table.get?_filter_eq_some_iff

/-- To expire is to keep the ends that last, and to count the others. -/
theorem expire_eq (m : Matcher α) (now : Time) :
    (m.expire now).2 = { m with
      sources := m.left now .send
      destinations := m.left now .receive
      expired := m.expired + (m.pending - ((m.left now .send).size + (m.left now .receive).size)) } := by
  cases m with
  | mk ttl maxPending sources destinations matched expired replaced =>
    cases ttl with
    | some ttl => rfl
    | none =>
      have hall : ∀ w : Waiting α, w.filter (fun _ e => lasts none now e) = w := by
        intro w
        apply Table.eq_of_entries
        simp [Table.filter, lasts]
      simp [expire, left, waiting, hall, pending]

/-- The matcher after the end of a packet that waited in a direction was matched. -/
def release (m : Matcher α) (d : MatchDirection) (k : PacketKey) : Matcher α :=
  let kept := m.setWaiting d ((m.waiting d).erase k)
  { kept with matched := kept.matched + 1 }

theorem waiting_release (m : Matcher α) (d d' : MatchDirection) (k : PacketKey) :
    (m.release d k).waiting d' = if d = d' then (m.waiting d).erase k else m.waiting d' :=
  waiting_matched m _ _ d d'

theorem waiting_expire_eq (m : Matcher α) (now : Time) (d : MatchDirection) :
    (m.expire now).2.waiting d = m.left now d := by
  rw [expire_eq]
  cases d <;> rfl

/-- An end is matched with the one of its packet that still waits in the other direction. -/
theorem submit_of_peer (h : (m.left t d.opposite).get? k = some peer) :
    m.submit k d t payload =
      (some (pair k d ⟨t, payload⟩ peer), (m.expire t).2.release d.opposite k) := by
  unfold submit
  simp only [waiting_expire_eq, h, release]

/-- An end waits when none of its packet still waits in the other direction. -/
theorem submit_of_none (h : (m.left t d.opposite).get? k = none) :
    m.submit k d t payload = (none, (m.expire t).2.wait k d ⟨t, payload⟩) := by
  unfold submit
  simp only [waiting_expire_eq, h]

/-- The limits of a matcher stay as they are. -/
theorem meet_limits (m : Matcher α) (c : MatcherCall α) :
    (m.meet c).2.ttl = m.ttl ∧ (m.meet c).2.maxPending = m.maxPending := by
  cases c with
  | expire now => simp [meet, expire_eq]
  | submit k d t payload =>
    cases hpeer : (m.left t d.opposite).get? k with
    | none =>
      rw [meet, submit_of_none hpeer, expire_eq]
      cases d <;> exact ⟨rfl, rfl⟩
    | some peer =>
      rw [meet, submit_of_peer hpeer, expire_eq]
      cases d <;> exact ⟨rfl, rfl⟩

end Matcher

end CausalPath
