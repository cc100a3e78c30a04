import CausalPath.Time

/-!
# Values

A `Value` is what a document denotes, whatever format it is written in: JSON, TOML and MessagePack
texts are read to values, and the library's records are read from values. So the rules for records
stand in one place: a record is a map from field names, in which unknown names are skipped and a
known name must not be repeated, or a list of the fields in order of declaration.
-/

namespace CausalPath

/-- What a document denotes. -/
inductive Value
  | null
  | bool (b : Bool)
  | int (n : Int)
  /-- A number that is written with a fraction or an exponent, or that is too large for a word. -/
  | real (x : Float)
  | text (s : String)
  /-- A text that is no Unicode text. It may stand where nothing reads it, and is the key of
  nothing. -/
  | garbled
  /-- Data that the library cannot represent. It may stand where nothing reads it, but not as a
  key. -/
  | foreign
  | bytes (b : List UInt8)
  | list (items : List Value)
  | map (entries : List (Value × Value))
  deriving Inhabited

namespace Value

/-! ## § 1. Building -/

def nat (n : Nat) : Value := .int n

def record (fields : List (String × Value)) : Value := .map (fields.map fun f => (.text f.1, f.2))

def optional {α : Type} (f : α → Value) (x : Option α) : Value := x.elim .null f

mutual

/-- How deep containers nest in a value. Data of an unknown type is a container. -/
def levels : Value → Nat
  | .list items => levelsOfItems items + 1
  | .map entries => levelsOfEntries entries + 1
  | .foreign => 1
  | _ => 0

def levelsOfItems : List Value → Nat
  | [] => 0
  | v :: rest => max v.levels (levelsOfItems rest)

/-- How deep containers nest in the keys and values of entries. -/
def levelsOfEntries : List (Value × Value) → Nat
  | [] => 0
  | e :: rest => max (levelsOfEntry e) (levelsOfEntries rest)

def levelsOfEntry : Value × Value → Nat
  | (k, v) => max k.levels v.levels

end

/-! ## § 2. Scalars -/

/-- Reads a text. Bytes that are the UTF-8 form of a text are one too. -/
def text? : Value → Option String
  | .text s => some s
  | .bytes b => String.fromUTF8? ⟨b.toArray⟩
  | _ => none

def bool? : Value → Option Bool
  | .bool b => some b
  | _ => none

def int? (low high : Int) : Value → Option Int
  | .int n => if low ≤ n ∧ n ≤ high then some n else none
  | _ => none

def int64? : Value → Option Int := int? (-0x8000000000000000) 0x7fffffffffffffff

def natBelow? (bound : Nat) (v : Value) : Option Nat := (v.int? 0 (bound - 1)).map Int.toNat

def nat64? : Value → Option Nat := natBelow? wordCount

def nat32? : Value → Option Nat := natBelow? 0x100000000

def optional? {α : Type} (f : Value → Option α) : Value → Option (Option α)
  | .null => some none
  | v => (f v).map some

def byte (b : UInt8) : Value := .nat b.toNat

/-- Reads a list of values of one kind. Bytes are a list of small numbers. -/
def list? {α : Type} (f : Value → Option α) : Value → Option (List α)
  | .list items => items.mapM f
  | .bytes b => (b.map byte).mapM f
  | _ => none

def entries? {α : Type} (f : Value → Option α) : Value → Option (List (String × α))
  | .map entries => entries.mapM fun e => do return (← e.1.text?, ← f e.2)
  | _ => none

/-! ## § 3. Records -/

/-- What a key says about the fields of a record. -/
inductive FieldKey
  | known (index : Nat)
  | unknown
  deriving DecidableEq, Repr

/-- The field that a key stands for, by name or by number. A key of another kind is a fault. -/
def fieldKey? (names : List String) : Value → Option FieldKey
  | .text s => some (byName s)
  | .bytes b => some ((String.fromUTF8? ⟨b.toArray⟩).elim .unknown byName)
  | .garbled => some .unknown
  | .int n =>
    if n < 0 then none else some (if n.toNat < names.length then .known n.toNat else .unknown)
  | _ => none
where
  /-- The field of a name. -/
  byName (s : String) : FieldKey := (names.idxOf? s).elim .unknown .known

/-- Sorts the entries of a map into the fields of a record, skipping unknown keys. -/
def collect? (names : List String) (fields : List (Option Value)) :
    List (Value × Value) → Option (List (Option Value))
  | [] => some fields
  | (k, v) :: rest =>
    match fieldKey? names k with
    | none => none
    | some .unknown => collect? names fields rest
    | some (.known i) =>
      if (fields[i]?.join).isSome then none else collect? names (fields.set i (some v)) rest

/-- The fields of a record, in order of declaration; a field that is missing is `none`. A list that
has more items than the record has fields is a fault, unless spare items are allowed. -/
def fields? (names : List String) (spare : Bool) : Value → Option (List (Option Value))
  | .map entries => collect? names (names.map fun _ => none) entries
  | .list items =>
    if names.length < items.length && !spare then
      none
    else
      some ((List.range names.length).map fun i => items[i]?)
  | _ => none

def skipped (names : List String) : Value → List Value
  | .map entries => (entries.filter fun e => fieldKey? names e.1 = some .unknown).map (·.2)
  | _ => []

def required {α : Type} (f : Value → Option α) (field : Option Value) : Option α := field.bind f

def defaulting {α : Type} (f : Value → Option α) (default : α) : Option Value → Option α
  | none => some default
  | some v => f v

/-- Reads an optional field: missing and null are nothing. -/
def absent? {α : Type} (f : Value → Option α) : Option Value → Option (Option α) :=
  defaulting (optional? f) none

end Value

end CausalPath
