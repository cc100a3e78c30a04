import CausalPath.Event.Basic
import CausalPath.Layout

/-!
# Packets

A packet is told apart by its sequence number, its acknowledgement number and its flags. The event
that sends it and the event that receives it carry the same three.
-/

namespace CausalPath

/-- The identity of a packet. -/
structure PacketKey where
  seq : Nat
  ackSeq : Nat
  flags : Nat
  deriving DecidableEq, Repr

namespace PacketKey

/-- Reads a detail of an event as a natural number below a bound. -/
def detail? (bound : Nat) (fields : FieldNames) (e : Event) (d : Detail) : Option Nat := do
  let n ← e.int? (fields d)
  if 0 ≤ n ∧ n < bound then some n.toNat else none

/-- The identity that an event carries, if all its parts are there. -/
def ofEvent? (fields : FieldNames) (e : Event) : Option PacketKey := do
  return {
    seq := ← detail? wordCount fields e .seq
    ackSeq := ← detail? wordCount fields e .ackSeq
    flags := ← detail? 0x100000000 fields e .flags }

/-- Packets are ordered by sequence number, then acknowledgement number, then flags. -/
def order (a b : PacketKey) : Ordering :=
  ((compare a.seq b.seq).then (compare a.ackSeq b.ackSeq)).then (compare a.flags b.flags)

end PacketKey

end CausalPath
