import CausalPath.Packet

/-!
# Matching packets

A packet leaves one host and arrives at another, and the two ends may be seen in either order. The
matcher keeps the end that it saw first, with its payload, until the other end comes. Ends that
wait for longer than a time to live are dropped, and so are the oldest ends of a direction that
holds too many.
-/

namespace CausalPath

/-! ## § 1. Ends and pairs -/

/-- The end of an exchange at which an event happened. -/
inductive MatchDirection
  | send
  | receive
  deriving DecidableEq, Repr

namespace MatchDirection

def name : MatchDirection → String
  | .send => "Send"
  | .receive => "Receive"

def opposite : MatchDirection → MatchDirection
  | .send => .receive
  | .receive => .send

end MatchDirection

universe u

/-- One end of an exchange. -/
structure Endpoint (α : Type u) where
  time : Time
  payload : α
  deriving DecidableEq, Repr

/-- A packet with both its ends. -/
structure MatchedPair (α : Type u) where
  key : PacketKey
  source : Endpoint α
  destination : Endpoint α
  deriving DecidableEq, Repr

/-- The counters of a matcher. -/
structure MatcherStats where
  matched : Nat
  /-- Ends dropped because they waited too long or because there were too many. -/
  expired : Nat
  /-- Ends overwritten by a newer one of the same packet. -/
  replaced : Nat
  pendingSources : Nat
  pendingDestinations : Nat
  deriving DecidableEq, Repr, Inhabited

def MatcherStats.toValue (s : MatcherStats) : Value :=
  .record [("matched", .nat s.matched), ("expired", .nat s.expired), ("replaced", .nat s.replaced),
    ("pending_sources", .nat s.pendingSources),
    ("pending_destinations", .nat s.pendingDestinations)]

/-! ## § 2. The matcher -/

/-- The ends that wait for their other end, in one direction. -/
abbrev Waiting (α : Type u) := Table PacketKey (Endpoint α)

/-- A matcher of packets whose ends carry payloads. -/
structure Matcher (α : Type u) where
  /-- How long an end may wait, if there is a limit. -/
  ttl : Option Time
  /-- How many ends of one direction may wait, if there is a limit. -/
  maxPending : Option Nat
  sources : Waiting α
  destinations : Waiting α
  matched : Nat
  expired : Nat
  replaced : Nat

namespace Matcher

variable {α : Type u}

def new (ttl : Option Time) (maxPending : Option Nat) : Matcher α :=
  ⟨ttl, maxPending, .empty, .empty, 0, 0, 0⟩

def waiting (m : Matcher α) : MatchDirection → Waiting α
  | .send => m.sources
  | .receive => m.destinations

def setWaiting (m : Matcher α) (d : MatchDirection) (w : Waiting α) : Matcher α :=
  match d with
  | .send => { m with sources := w }
  | .receive => { m with destinations := w }

def pending (m : Matcher α) : Nat := m.sources.size + m.destinations.size

def stats (m : Matcher α) : MatcherStats where
  matched := m.matched
  expired := m.expired
  replaced := m.replaced
  pendingSources := m.sources.size
  pendingDestinations := m.destinations.size

/-! ## § 3. Dropping -/

def fresh (ttl now : Time) (w : Waiting α) : Waiting α := w.filter fun _ e => now - e.time ≤ ttl

/-- Drops the ends that have waited too long, and counts them. -/
def expire (m : Matcher α) (now : Time) : Nat × Matcher α :=
  match m.ttl with
  | none => (0, m)
  | some ttl =>
    let kept := { m with sources := fresh ttl now m.sources
                         destinations := fresh ttl now m.destinations }
    let dropped := m.pending - kept.pending
    (dropped, { kept with expired := m.expired + dropped })

/-- Whether one end is dropped before another: the older one, and of two as old the lesser
packet. -/
def isOlder (a b : PacketKey × Endpoint α) : Bool :=
  ((compare a.2.time b.2.time).then (a.1.order b.1)).isLT

def oldest? (w : Waiting α) : Option (PacketKey × Endpoint α) :=
  w.entries.foldl (fun best e => if best.any fun b => !isOlder e b then best else some e) none

def dropOldest (w : Waiting α) : Nat → Waiting α
  | 0 => w
  | excess + 1 =>
    match oldest? w with
    | some (k, _) => dropOldest (w.erase k) excess
    | none => w

/-! ## § 4. Submitting -/

/-- The pair of an end and the other end, which waited for it. -/
def pair (k : PacketKey) (d : MatchDirection) (e peer : Endpoint α) : MatchedPair α :=
  match d with
  | .send => ⟨k, e, peer⟩
  | .receive => ⟨k, peer, e⟩

/-- Lets an end wait. One that waited for the same packet is replaced, and of too many ends the
oldest are dropped. -/
def wait (m : Matcher α) (k : PacketKey) (d : MatchDirection) (e : Endpoint α) : Matcher α :=
  let own := m.waiting d
  let grown := own.insert k e
  let excess := m.maxPending.elim 0 (grown.size - ·)
  let m := m.setWaiting d (dropOldest grown excess)
  { m with
    replaced := m.replaced + (if (own.get? k).isSome then 1 else 0)
    expired := m.expired + excess }

/-- Submits an end: it is matched with the other end if that one waits, else it waits itself. -/
def submit (m : Matcher α) (k : PacketKey) (d : MatchDirection) (time : Time) (payload : α) :
    Option (MatchedPair α) × Matcher α :=
  let m := (m.expire time).2
  match (m.waiting d.opposite).get? k with
  | some peer =>
    let m := m.setWaiting d.opposite ((m.waiting d.opposite).erase k)
    (some (pair k d ⟨time, payload⟩ peer), { m with matched := m.matched + 1 })
  | none => (none, m.wait k d ⟨time, payload⟩)

end Matcher

end CausalPath
