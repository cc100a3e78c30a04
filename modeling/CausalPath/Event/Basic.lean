import CausalPath.Table
import CausalPath.Text.Blank
import CausalPath.Text.Digits
import CausalPath.Time
import CausalPath.Value.Basic

/-!
# Trace events

An event of a kernel trace: its name, time and CPU, the host it happened on, and a bag of named
fields that hold integers or texts. Events are read from values and written as values.
-/

namespace CausalPath

/-- The value of a field of an event. -/
inductive FieldValue
  | int (n : Int)
  | text (s : String)
  deriving DecidableEq, Repr

namespace FieldValue

def most : Int := 0x7fffffffffffffff

/-- A word as a field: one that is too large becomes the largest integer. -/
def ofWord (n : Nat) : FieldValue := .int (min n most)

def toValue : FieldValue → Value
  | .int n => .int n
  | .text s => .text s

def ofValue? (v : Value) : Option FieldValue :=
  match v.int64? with
  | some n => some (.int n)
  | none => v.text?.map .text

end FieldValue

/-- An event of a trace. -/
structure Event where
  name : String
  /-- In nanoseconds. -/
  time : Time
  cpu : Option Nat
  host : String
  fields : Table String FieldValue

namespace Event

def new (name : String) (time : Time) (cpu : Nat) : Event := ⟨name, time, some cpu, "", .empty⟩

def onHost (e : Event) (host : String) : Event := { e with host }

def withField (e : Event) (name : String) (x : FieldValue) : Event :=
  { e with fields := e.fields.insert name x }

/-! ## § 1. Fields -/

def digits? (cs : List Char) : Option Nat :=
  if cs ≠ [] ∧ cs.all Char.isDigit then some (Text.number 10 cs) else none

/-- Reads a decimal integer of 64 bits, with or without a sign. -/
def integer? (cs : List Char) : Option Int := do
  let n ←
    match cs with
    | '-' :: ds => (digits? ds).map fun n => -(n : Int)
    | '+' :: ds => (digits? ds).map Int.ofNat
    | ds => (digits? ds).map Int.ofNat
  if -0x8000000000000000 ≤ n ∧ n ≤ FieldValue.most then some n else none

/-- A field as an integer; a text that holds one counts, with white space around it. -/
def int? (e : Event) (name : String) : Option Int :=
  match e.fields.get? name with
  | some (.int n) => some n
  | some (.text s) => integer? (Text.trim s.toList)
  | none => none

def text? (e : Event) (name : String) : Option String :=
  match e.fields.get? name with
  | some (.text s) => some s
  | _ => none

/-! ## § 2. Events as values -/

def partNames : List String := ["name", "timestamp", "cpu", "host", "fields"]

def toValue (e : Event) : Value :=
  .record [("name", .text e.name), ("timestamp", .nat e.time), ("cpu", .optional .nat e.cpu),
    ("host", .text e.host), ("fields", .record (e.fields.entries.map fun f => (f.1, f.2.toValue)))]

/-- Reads an event. Only the name and the time must be there. -/
def ofValue? (v : Value) : Option Event := do
  let [name, time, cpu, host, fields] ← v.fields? partNames false | none
  return {
    name := ← Value.required Value.text? name
    time := ← Value.required Value.nat64? time
    cpu := ← Value.absent? Value.nat32? cpu
    host := ← Value.defaulting Value.text? "" host
    fields := ← Value.defaulting (fun f => (f.entries? FieldValue.ofValue?).map Table.ofList) .empty
      fields }

end Event

end CausalPath
