import CausalPath.Event.Basic
import CausalPath.Value.Json

/-!
# Event streams

A stream of events holds one event per line, as JSON. Lines are cut from bytes: a line ends with a
line feed, which may follow a carriage return, and the last line may lack its end. Lines of white
space are skipped; a line that is no text or no event is reported in its place.
-/

namespace CausalPath

/-- What a line of a stream holds. -/
inductive StreamItem
  | event (e : Event)
  /-- A text that is no event. -/
  | malformed
  /-- Bytes that are no text. -/
  | undecodable

namespace StreamItem

def event? : StreamItem → Option Event
  | .event e => some e
  | _ => none

/-- Reads the text of a line; a line of white space holds nothing. -/
def ofText? (s : String) : Option StreamItem :=
  if s.toList.all Text.isBlank then
    none
  else
    some (((Json.parse? s).bind Event.ofValue?).elim .malformed .event)

def ofLine? (line : List UInt8) : Option StreamItem :=
  match String.fromUTF8? ⟨line.toArray⟩ with
  | some s => ofText? s
  | none => some .undecodable

end StreamItem

namespace EventStream

def lineFeed : UInt8 := 10

def carriageReturn : UInt8 := 13

/-- Closes a line that a line feed ends; its bytes come last one first. -/
def closed : List UInt8 → List UInt8
  | [] => []
  | b :: rest => if b = carriageReturn then rest.reverse else (b :: rest).reverse

/-- The lines of the rest of a stream; `line` holds the bytes of the line under way, last one
first. -/
def linesFrom (line : List UInt8) : List UInt8 → List (List UInt8)
  | [] => if line.isEmpty then [] else [line.reverse]
  | b :: rest =>
    if b = lineFeed then closed line :: linesFrom [] rest else linesFrom (b :: line) rest

def lines (bytes : List UInt8) : List (List UInt8) := linesFrom [] bytes

def read (bytes : List UInt8) : List StreamItem := (lines bytes).filterMap StreamItem.ofLine?

def events (bytes : List UInt8) : List Event := (read bytes).filterMap StreamItem.event?

def line (e : Event) : String := e.toValue.compact ++ "\n"

end EventStream

end CausalPath
