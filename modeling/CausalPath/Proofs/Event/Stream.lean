import CausalPath.Event.Stream
import CausalPath.Proofs.Table
import CausalPath.Proofs.Text.Bytes
import CausalPath.Proofs.Value.Json
import CausalPath.Proofs.Value.Record

/-!
# Reading back a stream

Lines do not touch each other: what a stream holds is what its front holds, up to the end of a line,
and then what its back holds (`read_append`). A line that an event is written in holds that event,
for its text is one line (`Json.printable_chars`) and is read back (`Json.parse?_compact`). So
events are read back, whatever stands around their lines.
-/

namespace CausalPath

/-! ## § 1. Events as values -/

namespace FieldValue

/-- An integer of 64 bits, or a text. -/
def Fits : FieldValue → Prop
  | .int n => -0x8000000000000000 ≤ n ∧ n ≤ most
  | .text _ => True

instance : DecidablePred Fits
  | .int n => inferInstanceAs (Decidable (-0x8000000000000000 ≤ n ∧ n ≤ most))
  | .text _ => isTrue trivial

variable {x : FieldValue}

theorem ofValue?_toValue (h : x.Fits) : ofValue? x.toValue = some x := by
  cases x with
  | int n =>
    obtain ⟨hlow, hhigh⟩ := h
    rw [most] at hhigh
    rw [ofValue?, toValue, Value.int64?_int hlow (by omega)]
  | text s => rfl

theorem Fits.plain (h : x.Fits) : Json.Plain x.toValue := by
  cases x with
  | int n =>
    obtain ⟨hlow, hhigh⟩ := h
    rw [most] at hhigh
    exact .int hlow (by rw [wordCount]; omega)
  | text s => exact .text s

end FieldValue

namespace Event

/-- An event whose numbers are words: its time of 64 bits, its CPU of 32, and integer fields of 64
bits with a sign. -/
structure Fits (e : Event) : Prop where
  time : e.time < wordCount
  cpu : ∀ c ∈ e.cpu, c < 0x100000000
  fields : ∀ f ∈ e.fields.entries, f.2.Fits

instance : DecidablePred Fits := fun _ =>
  decidable_of_iff (_ ∧ _ ∧ _) ⟨fun h => ⟨h.1, h.2.1, h.2.2⟩, fun h => ⟨h.time, h.cpu, h.fields⟩⟩

variable {e : Event}

/-- The parts of an event, as they are written. -/
def parts (e : Event) : List (String × Value) :=
  [("name", .text e.name), ("timestamp", .nat e.time), ("cpu", .optional .nat e.cpu),
    ("host", .text e.host), ("fields", .record (e.fields.entries.map fun f => (f.1, f.2.toValue)))]

theorem Fits.plain (h : e.Fits) : Json.Plain e.toValue := by
  have hnat : ∀ {n : Nat}, n < wordCount → Json.Plain (.nat n) := by
    intro n hn
    exact .int (by omega) (by exact_mod_cast hn)
  have hcpu : Json.Plain (.optional .nat e.cpu) := by
    cases hc : e.cpu with
    | none => exact .null
    | some c => exact hnat (Nat.lt_trans (h.cpu c hc) (by decide))
  have hfields : Json.Plain (.record (e.fields.entries.map fun f => (f.1, f.2.toValue))) := by
    refine .record fun f hf => ?_
    obtain ⟨x, hx, rfl⟩ := List.mem_map.1 hf
    exact (h.fields x hx).plain
  have hparts : ∀ f ∈ e.parts, Json.Plain f.2 := by
    simp only [parts, List.forall_mem_cons]
    exact ⟨.text _, hnat h.time, hcpu, .text _, hfields, List.forall_mem_nil _⟩
  exact .record hparts

theorem ofValue?_toValue (h : e.Fits) : ofValue? e.toValue = some e := by
  have hparts : e.toValue.fields? partNames false = some (e.parts.map fun f => some f.2) :=
    Value.fields?_record rfl (by decide)
  have htime : Value.nat64? (.nat e.time) = some e.time := Value.natBelow?_nat h.time
  have hcpu : Value.absent? Value.nat32? (some (.optional .nat e.cpu)) = some e.cpu :=
    Value.absent?_optional (fun _ => by simp [Value.nat]) fun c hc =>
      Value.natBelow?_nat (h.cpu c hc)
  have hfields : (Value.record (e.fields.entries.map fun f => (f.1, f.2.toValue))).entries?
      FieldValue.ofValue? = some e.fields.entries :=
    Value.entries?_record fun f hf => FieldValue.ofValue?_toValue (h.fields f hf)
  unfold ofValue?
  rw [hparts]
  simp [parts, htime, hcpu, hfields, Table.ofList_entries, Value.required, Value.defaulting,
    Value.text?]

end Event

/-! ## § 2. Lines -/

namespace EventStream

variable {bytes front back : List UInt8}

/-- What comes after the end of a line makes lines of its own. -/
theorem linesFrom_append (line front back : List UInt8) :
    linesFrom line (front ++ lineFeed :: back) =
      linesFrom line (front ++ [lineFeed]) ++ lines back := by
  induction front generalizing line with
  | nil => simp [linesFrom, lines]
  | cons b front ih =>
    by_cases hb : b = lineFeed
    · simp only [List.cons_append, linesFrom, if_pos hb, ih]
    · simp only [List.cons_append, linesFrom, if_neg hb, ih]

/-- Streams are read one after the other, if the first ends with a line. -/
theorem read_append_of_getLast? (h : front.getLast? = some lineFeed) (back : List UInt8) :
    read (front ++ back) = read front ++ read back := by
  obtain ⟨start, rfl⟩ := List.getLast?_eq_some_iff.1 h
  rw [read, read, read, List.append_assoc, List.singleton_append, lines, linesFrom_append,
    List.filterMap_append]
  rfl

theorem linesFrom_of_notMem (h : lineFeed ∉ front) (line back : List UInt8) :
    linesFrom line (front ++ back) = linesFrom (front.reverse ++ line) back := by
  induction front generalizing line with
  | nil => rfl
  | cons b front ih =>
    rw [List.mem_cons, not_or] at h
    rw [List.cons_append, linesFrom, if_neg fun heq => h.1 heq.symm, ih h.2]
    simp

/-- The ways to end a line. -/
def lineEnds : List (List UInt8) := [[lineFeed], [carriageReturn, lineFeed]]

theorem getLast?_lineEnd {ending : List UInt8} (h : ending ∈ lineEnds) (front : List UInt8) :
    (front ++ ending).getLast? = some lineFeed := by
  simp only [lineEnds, List.mem_cons, List.not_mem_nil, or_false] at h
  rcases h with rfl | rfl <;> simp

/-- Bytes of one line are one line, whether it ends or the stream does. -/
theorem lines_single (hne : bytes ≠ []) (hfeed : lineFeed ∉ bytes)
    (hreturn : carriageReturn ∉ bytes) {ending : List UInt8}
    (hending : ending = [] ∨ ending ∈ lineEnds) : lines (bytes ++ ending) = [bytes] := by
  have hclosed : closed bytes.reverse = bytes := by
    cases hrev : bytes.reverse with
    | nil => exact absurd (List.reverse_eq_nil_iff.1 hrev) hne
    | cons b rest =>
      have hb : b ∈ bytes := List.mem_reverse.1 (hrev ▸ List.mem_cons_self)
      rw [closed, if_neg (ne_of_mem_of_not_mem hb hreturn), ← hrev, List.reverse_reverse]
  rw [lines, linesFrom_of_notMem hfeed, List.append_nil]
  simp only [lineEnds, List.mem_cons, List.not_mem_nil, or_false] at hending
  rcases hending with rfl | rfl | rfl
  · simp [linesFrom, hne]
  · simp [linesFrom, hclosed]
  · have hne' : carriageReturn ≠ lineFeed := by decide
    simp [linesFrom, hne', closed]

/-! ## § 3. The line of an event -/

/-- The bytes of the text of an event, without the end of its line. The fields are written in the
order of their table; any order of them is that of some table. -/
def written (e : Event) : List UInt8 := e.toValue.compact.toUTF8.toList

variable {e : Event} {es : List Event}

theorem toUTF8_line (e : Event) : (line e).toUTF8.toList = written e ++ [lineFeed] := by
  have hend : "\n".toUTF8.toList = [lineFeed] := Text.toUTF8_ofList ['\n']
  rw [line, Text.toUTF8_append, hend]
  rfl

/-- The text of an event begins with a brace. -/
theorem chars_toValue (e : Event) : ∃ cs, Json.chars e.toValue = '\x7b' :: cs := by
  rw [Event.toValue, Value.record, Json.chars]
  exact ⟨_, rfl⟩

theorem written_ne_nil (e : Event) : written e ≠ [] := by
  obtain ⟨cs, hcs⟩ := chars_toValue e
  rw [written, Value.compact, Text.toUTF8_ofList, hcs, List.flatMap_cons]
  exact List.append_ne_nil_of_left_ne_nil (by decide) _

theorem notMem_written (h : e.Fits) {b : UInt8} (hb : b.toNat < 0x20) : b ∉ written e := by
  intro hmem
  rw [written, Value.compact, Text.toUTF8_ofList] at hmem
  obtain ⟨c, hc, hbc⟩ := List.mem_flatMap.1 hmem
  have hle := Text.le_of_mem_utf8EncodeChar (Json.printable_chars h.plain c hc) hbc
  omega

theorem ofLine?_written (h : e.Fits) : StreamItem.ofLine? (written e) = some (.event e) := by
  have hblank : ¬e.toValue.compact.toList.all Text.isBlank = true := by
    obtain ⟨cs, hcs⟩ := chars_toValue e
    have hbrace : Text.isBlank '\x7b' = false := by decide
    rw [Value.compact, String.toList_ofList, hcs, List.all_cons, hbrace]
    exact Bool.false_ne_true
  have hevent : (Json.parse? e.toValue.compact).bind Event.ofValue? = some e := by
    rw [Json.parse?_compact h.plain, Option.bind_some, Event.ofValue?_toValue h]
  rw [StreamItem.ofLine?, written, Text.fromUTF8?_toUTF8]
  show StreamItem.ofText? _ = _
  rw [StreamItem.ofText?, if_neg hblank, hevent]
  rfl

theorem read_written (h : e.Fits) {ending : List UInt8}
    (hending : ending = [] ∨ ending ∈ lineEnds) : read (written e ++ ending) = [.event e] := by
  rw [read, lines_single (written_ne_nil e) (notMem_written h (by decide))
    (notMem_written h (by decide)) hending, List.filterMap_cons, ofLine?_written h]
  rfl

/-! ## § 4. The lines of events -/

theorem read_flatMap (hes : ∀ e ∈ es, e.Fits) {ending : List UInt8} (hending : ending ∈ lineEnds) :
    read (es.flatMap fun e => written e ++ ending) = es.map .event := by
  induction es with
  | nil => rfl
  | cons e es ih =>
    rw [List.flatMap_cons, read_append_of_getLast? (getLast?_lineEnd hending _),
      read_written (hes e List.mem_cons_self) (.inr hending),
      ih fun e' he' => hes e' (List.mem_cons_of_mem e he')]
    rfl

/-- The last line may lack its end. -/
theorem read_intercalate (hes : ∀ e ∈ es, e.Fits) {ending : List UInt8}
    (hending : ending ∈ lineEnds) : read (ending.intercalate (es.map written)) = es.map .event := by
  induction es with
  | nil => rfl
  | cons e es ih =>
    have he := hes e List.mem_cons_self
    cases es with
    | nil => simpa using read_written he (.inl rfl)
    | cons e' es =>
      have hrest := ih fun x hx => hes x (List.mem_cons_of_mem e hx)
      rw [List.map_cons] at hrest
      rw [List.map_cons, List.map_cons, List.intercalate_cons_cons,
        read_append_of_getLast? (getLast?_lineEnd hending _), read_written he (.inr hending), hrest]
      rfl

/-- A stream that is empty or ends with the end of a line. -/
def Ended (front : List UInt8) : Prop := front = [] ∨ front.getLast? = some lineFeed

theorem read_append (h : Ended front) (back : List UInt8) :
    read (front ++ back) = read front ++ read back := by
  rcases h with rfl | h
  · rfl
  · exact read_append_of_getLast? h back

theorem events_append (h : Ended front) (back : List UInt8) :
    events (front ++ back) = events front ++ events back := by
  rw [events, read_append h, List.filterMap_append]
  rfl

theorem events_of_read (h : read bytes = es.map .event) : events bytes = es := by
  rw [events, h, List.filterMap_map]
  exact List.filterMap_some

/-- Events are read back from the lines that they are written in, in order, whether a line feed ends
a line or a carriage return and a line feed, and whether or not the last line is ended. What stands
before a line and after it is read as if the line were not there: any bytes that come after the end
of a line leave alone what the bytes before it say, and the other way around. -/
theorem written_events_read_back (hes : ∀ e ∈ es, e.Fits) :
    read (es.flatMap fun e => (line e).toUTF8.toList) = es.map .event ∧
      events (es.flatMap fun e => (line e).toUTF8.toList) = es ∧
      (∀ ending ∈ lineEnds,
        read (es.flatMap fun e => written e ++ ending) = es.map .event ∧
        read (ending.intercalate (es.map written)) = es.map .event ∧
        ∀ e ∈ es, ∀ front, Ended front → ∀ back,
          read (front ++ (written e ++ ending) ++ back) = read front ++ .event e :: read back) ∧
      ∀ front, Ended front → ∀ back,
        read (front ++ back) = read front ++ read back ∧
        events (front ++ back) = events front ++ events back := by
  have hlines : read (es.flatMap fun e => (line e).toUTF8.toList) = es.map .event := by
    simp only [toUTF8_line]
    exact read_flatMap hes List.mem_cons_self
  refine ⟨hlines, events_of_read hlines, fun ending hending => ?_,
    fun front hfront back => ⟨read_append hfront back, events_append hfront back⟩⟩
  refine ⟨read_flatMap hes hending, read_intercalate hes hending, ?_⟩
  intro e he front hfront back
  rw [List.append_assoc, read_append hfront,
    read_append_of_getLast? (getLast?_lineEnd hending _) back,
    read_written (hes e he) (.inr hending)]
  rfl

/-- An event of extreme numbers and of texts with an escape, a quote and a line break. -/
def extreme : Event where
  name := "été \x22quoted\x22"
  time := Time.last
  cpu := none
  host := "\n"
  fields := ⟨[("least", .int (-0x8000000000000000)), ("most", .int FieldValue.most),
    ("\x00", .text "-1")], by decide⟩

/-- The first line is no text, and the last has no end. -/
theorem written_events_read_back_of_extreme :
    let tick := Event.new "tick" 7 0
    extreme.Fits ∧ tick.Fits ∧
      read ([0xff, lineFeed] ++
          [carriageReturn, lineFeed].intercalate [written extreme, written tick]) =
        [.undecodable, .event extreme, .event tick] := by
  intro tick
  have hextreme : extreme.Fits := by decide
  have htick : tick.Fits := by decide
  have hjunk : read [0xff, lineFeed] = [.undecodable] := rfl
  have hes : ∀ e ∈ [extreme, tick], e.Fits := by simp [hextreme, htick]
  obtain ⟨-, -, hends, happend⟩ := written_events_read_back hes
  obtain ⟨-, hlines, -⟩ := hends [carriageReturn, lineFeed] (by simp [lineEnds])
  refine ⟨hextreme, htick, ?_⟩
  rw [List.map_cons, List.map_cons, List.map_nil] at hlines
  rw [(happend [0xff, lineFeed] (.inr rfl) _).1, hjunk, hlines]
  rfl

end EventStream

end CausalPath
