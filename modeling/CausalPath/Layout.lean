import CausalPath.Context
import CausalPath.Table
import CausalPath.Value.Basic

/-!
# Layouts

A layout says which event names mean what, and in which fields the details are. The standard layout
names the events of a kernel tracer; any part of it can be overridden. The names of a layout make an
index from event name to kind, unless one name is listed under two kinds.
-/

namespace CausalPath

/-! ## § 1. Kinds of events -/

/-- What an event means. -/
inductive EventKind
  | schedSwitch
  | wakeup
  | fork
  | exit
  | irqEntry
  | irqExit
  | softIrqEntry
  | softIrqExit
  | hrTimerEntry
  | hrTimerExit
  | ipiEntry
  | ipiExit
  | completeIrqEntry
  | completeIrqExit
  | packetReceptionEntry
  | packetReceptionExit
  | networkSend
  | networkReceive
  deriving DecidableEq, Repr

namespace EventKind

/-- Every kind, in the order in which a layout lists them. -/
def all : List EventKind :=
  [.schedSwitch, .wakeup, .fork, .exit, .irqEntry, .irqExit, .softIrqEntry, .softIrqExit,
    .hrTimerEntry, .hrTimerExit, .ipiEntry, .ipiExit, .completeIrqEntry, .completeIrqExit,
    .packetReceptionEntry, .packetReceptionExit, .networkSend, .networkReceive]

/-- The name of a kind in messages. -/
def name : EventKind → String
  | .schedSwitch => "SchedSwitch"
  | .wakeup => "Wakeup"
  | .fork => "Fork"
  | .exit => "Exit"
  | .irqEntry => "IrqEntry"
  | .irqExit => "IrqExit"
  | .softIrqEntry => "SoftIrqEntry"
  | .softIrqExit => "SoftIrqExit"
  | .hrTimerEntry => "HrTimerEntry"
  | .hrTimerExit => "HrTimerExit"
  | .ipiEntry => "IpiEntry"
  | .ipiExit => "IpiExit"
  | .completeIrqEntry => "CompleteIrqEntry"
  | .completeIrqExit => "CompleteIrqExit"
  | .packetReceptionEntry => "PacketReceptionEntry"
  | .packetReceptionExit => "PacketReceptionExit"
  | .networkSend => "NetworkSend"
  | .networkReceive => "NetworkReceive"

/-- The key under which a layout lists the event names of a kind. -/
def key : EventKind → String
  | .schedSwitch => "sched_switch"
  | .wakeup => "wakeup"
  | .fork => "fork"
  | .exit => "exit"
  | .irqEntry => "irq_entry"
  | .irqExit => "irq_exit"
  | .softIrqEntry => "softirq_entry"
  | .softIrqExit => "softirq_exit"
  | .hrTimerEntry => "hrtimer_entry"
  | .hrTimerExit => "hrtimer_exit"
  | .ipiEntry => "ipi_entry"
  | .ipiExit => "ipi_exit"
  | .completeIrqEntry => "complete_irq_entry"
  | .completeIrqExit => "complete_irq_exit"
  | .packetReceptionEntry => "packet_reception_entry"
  | .packetReceptionExit => "packet_reception_exit"
  | .networkSend => "network_send"
  | .networkReceive => "network_receive"

/-- The event names of a kind in the standard layout. -/
def standardNames : EventKind → List String
  | .schedSwitch => ["sched_switch"]
  | .wakeup => ["sched_waking", "sched_wakeup", "sched_wakeup_new"]
  | .fork => ["sched_process_fork"]
  | .exit => ["sched_process_exit"]
  | .irqEntry => ["irq_handler_entry"]
  | .irqExit => ["irq_handler_exit"]
  | .softIrqEntry => ["irq_softirq_entry"]
  | .softIrqExit => ["irq_softirq_exit"]
  | .hrTimerEntry => ["timer_hrtimer_expire_entry"]
  | .hrTimerExit => ["timer_hrtimer_expire_exit"]
  | .ipiEntry =>
    ["x86_irq_vectors_reschedule_entry", "x86_irq_vectors_call_function_entry",
      "x86_irq_vectors_call_function_single_entry", "x86_irq_vectors_irq_work_entry"]
  | .ipiExit =>
    ["x86_irq_vectors_reschedule_exit", "x86_irq_vectors_call_function_exit",
      "x86_irq_vectors_call_function_single_exit", "x86_irq_vectors_irq_work_exit"]
  | .completeIrqEntry => ["x86_irq_vectors_local_timer_entry"]
  | .completeIrqExit => ["x86_irq_vectors_local_timer_exit"]
  | .packetReceptionEntry => ["net_if_receive_skb_entry", "net_napi_gro_receive_entry"]
  | .packetReceptionExit => ["net_if_receive_skb_exit", "net_napi_gro_receive_exit"]
  | .networkSend => ["inet_sock_local_out"]
  | .networkReceive => ["inet_sock_local_in"]

end EventKind

/-! ## § 2. Fields of events -/

/-- A detail that is read from a field of an event. -/
inductive Detail
  | prevTid
  | prevState
  | prevComm
  | nextTid
  | nextComm
  /-- The thread of a wakeup or an exit. -/
  | tid
  | comm
  | parentTid
  | childTid
  | childComm
  | irq
  | irqName
  | softIrqVector
  /-- The vector of a complete interrupt or an inter-processor interrupt. -/
  | vector
  | seq
  | ackSeq
  | flags
  deriving DecidableEq, Repr

namespace Detail

/-- Every detail, in the order in which a layout lists them. -/
def all : List Detail :=
  [.prevTid, .prevState, .prevComm, .nextTid, .nextComm, .tid, .comm, .parentTid, .childTid,
    .childComm, .irq, .irqName, .softIrqVector, .vector, .seq, .ackSeq, .flags]

/-- The key under which a layout names the field of a detail. -/
def key : Detail → String
  | .prevTid => "prev_tid"
  | .prevState => "prev_state"
  | .prevComm => "prev_comm"
  | .nextTid => "next_tid"
  | .nextComm => "next_comm"
  | .tid => "tid"
  | .comm => "comm"
  | .parentTid => "parent_tid"
  | .childTid => "child_tid"
  | .childComm => "child_comm"
  | .irq => "irq"
  | .irqName => "irq_name"
  | .softIrqVector => "softirq_vector"
  | .vector => "vector"
  | .seq => "seq"
  | .ackSeq => "ack_seq"
  | .flags => "flags"

/-- The field of a detail in the standard layout: the one of the same name, with two exceptions. -/
def standardField : Detail → String
  | .irqName => "name"
  | .softIrqVector => "vec"
  | d => d.key

end Detail

abbrev FieldNames := Detail → String

namespace FieldNames

def standard : FieldNames := Detail.standardField

def toValue (f : FieldNames) : Value := .record (Detail.all.map fun d => (d.key, .text (f d)))

def ofValue? (spare : Bool) (v : Value) : Option FieldNames := do
  let given ← v.fields? (Detail.all.map Detail.key) spare
  let names ← (Detail.all.zip given).mapM fun e =>
    (Value.defaulting Value.text? e.1.standardField e.2).map fun s => (e.1, s)
  return fun d => (names.lookup d).getD d.standardField

end FieldNames

/-! ## § 3. Layouts -/

/-- The names of events and of their fields. -/
structure Layout where
  names : EventKind → List String
  /-- The vectors of complete interrupts that the local timer raises. -/
  timerVectors : List Int
  fields : FieldNames

/-- An event name that is listed under two kinds. -/
structure LayoutClash where
  event : String
  first : EventKind
  second : EventKind
  deriving DecidableEq, Repr

def LayoutClash.message (c : LayoutClash) : String :=
  s!"event '{c.event}' is listed as both {c.first.name} and {c.second.name}"

namespace Layout

def standard : Layout := ⟨EventKind.standardNames, [localTimerVector], .standard⟩

instance : Inhabited Layout := ⟨standard⟩

/-- The event names with their kinds, in the order of the layout. -/
def listing (l : Layout) : List (String × EventKind) :=
  EventKind.all.flatMap fun k => (l.names k).map fun n => (n, k)

def indexFrom (index : Table String EventKind) :
    List (String × EventKind) → Except LayoutClash (Table String EventKind)
  | [] => .ok index
  | (n, k) :: rest =>
    match index.get? n with
    | some first => if first = k then indexFrom index rest else .error ⟨n, first, k⟩
    | none => indexFrom (index.insert n k) rest

def index (l : Layout) : Except LayoutClash (Table String EventKind) := indexFrom .empty l.listing

def toValue (l : Layout) : Value :=
  .record ((EventKind.all.map fun k => (k.key, .list ((l.names k).map .text)))
    ++ [("timer_vectors", .list (l.timerVectors.map .int)), ("fields", l.fields.toValue)])

/-- Reads a layout; a part that is missing is standard. -/
def ofValue? (spare : Bool) (v : Value) : Option Layout := do
  let given ← v.fields? (EventKind.all.map EventKind.key ++ ["timer_vectors", "fields"]) spare
  let names ← (EventKind.all.zip given).mapM fun e =>
    (Value.defaulting (Value.list? Value.text?) e.1.standardNames e.2).map fun s => (e.1, s)
  let [vectors, fields] := given.drop EventKind.all.length | none
  return {
    names := fun k => (names.lookup k).getD k.standardNames
    timerVectors := ← Value.defaulting (Value.list? Value.int64?) standard.timerVectors vectors
    fields := ← Value.defaulting (FieldNames.ofValue? spare) .standard fields }

end Layout

end CausalPath
