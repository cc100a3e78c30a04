import CausalPath.Value.Basic

/-!
# MessagePack

The binary format of saved graphs. `encode` writes every integer, text and container with the
shortest header there is; `decode?` reads any header, and leaves what comes after the value. A
number is a key only if its header says that it has no sign.
-/

namespace CausalPath

namespace MessagePack

/-! ## § 1. Words -/

/-- A natural number as a word of the given number of bytes, most significant byte first. -/
def word : Nat → Nat → List UInt8
  | 0, _ => []
  | width + 1, n => UInt8.ofNat (n / Nat.pow 256 width) :: word width n

def number (bytes : List UInt8) : Nat := bytes.foldl (fun n b => 256 * n + b.toNat) 0

def take? (count : Nat) (bytes : List UInt8) : Option (List UInt8 × List UInt8) :=
  if count ≤ bytes.length then some (bytes.take count, bytes.drop count) else none

def word? (width : Nat) (bytes : List UInt8) : Option (Nat × List UInt8) :=
  (take? width bytes).map fun (w, rest) => (number w, rest)

def signed (width n : Nat) : Int :=
  if 2 * n < Nat.pow 256 width then n else (n : Int) - Nat.pow 256 width

/-! ## § 2. Writing -/

/-- The shortest form of an integer. -/
def encodeInt (n : Int) : List UInt8 :=
  if 0 ≤ n then
    let m := n.toNat
    if m < 0x80 then word 1 m
    else if m < 0x100 then 0xcc :: word 1 m
    else if m < 0x10000 then 0xcd :: word 2 m
    else if m < 0x100000000 then 0xce :: word 4 m
    else 0xcf :: word 8 m
  else if -32 ≤ n then word 1 (n + 0x100).toNat
  else if -0x80 ≤ n then 0xd0 :: word 1 (n + 0x100).toNat
  else if -0x8000 ≤ n then 0xd1 :: word 2 (n + 0x10000).toNat
  else if -0x80000000 ≤ n then 0xd2 :: word 4 (n + 0x100000000).toNat
  else 0xd3 :: word 8 (n + 0x10000000000000000).toNat

def textHeader (size : Nat) : List UInt8 :=
  if size < 32 then word 1 (0xa0 + size)
  else if size < 0x100 then 0xd9 :: word 1 size
  else if size < 0x10000 then 0xda :: word 2 size
  else 0xdb :: word 4 size

def bytesHeader (size : Nat) : List UInt8 :=
  if size < 0x100 then 0xc4 :: word 1 size
  else if size < 0x10000 then 0xc5 :: word 2 size
  else 0xc6 :: word 4 size

def listHeader (size : Nat) : List UInt8 :=
  if size < 16 then word 1 (0x90 + size)
  else if size < 0x10000 then 0xdc :: word 2 size
  else 0xdd :: word 4 size

def mapHeader (size : Nat) : List UInt8 :=
  if size < 16 then word 1 (0x80 + size)
  else if size < 0x10000 then 0xde :: word 2 size
  else 0xdf :: word 4 size

mutual

/-- The bytes of a value. What MessagePack cannot say is null. -/
def encode : Value → List UInt8
  | .null => [0xc0]
  | .bool false => [0xc2]
  | .bool true => [0xc3]
  | .int n => encodeInt n
  | .real x => 0xcb :: word 8 x.toBits.toNat
  | .text s =>
    let bytes := s.toUTF8.toList
    textHeader bytes.length ++ bytes
  | .garbled => [0xc0]
  | .foreign => [0xc0]
  | .bytes b => bytesHeader b.length ++ b
  | .list items => listHeader items.length ++ encodeItems items
  | .map entries => mapHeader entries.length ++ encodeEntries entries

def encodeItems : List Value → List UInt8
  | [] => []
  | v :: rest => encode v ++ encodeItems rest

def encodeEntries : List (Value × Value) → List UInt8
  | [] => []
  | e :: rest => encodeEntry e ++ encodeEntries rest

def encodeEntry : Value × Value → List UInt8
  | (k, v) => encode k ++ encode v

end

/-! ## § 3. Headers -/

/-- What the first byte of a value announces. -/
inductive Header
  | value (v : Value)
  /-- An integer of a width, in two's complement or not. -/
  | int (width : Nat) (isSigned : Bool)
  | single
  | double
  /-- A text whose size is known, or stands in a word. -/
  | text (size : Nat)
  | textWord (width : Nat)
  | bytesWord (width : Nat)
  | list (size : Nat)
  | listWord (width : Nat)
  | map (size : Nat)
  | mapWord (width : Nat)
  /-- Typed data that the library does not read. -/
  | extension (size : Nat)
  | extensionWord (width : Nat)

/-- Reads the first byte of a value. One byte is reserved. -/
def header? (b : Nat) : Option Header :=
  if b < 0x80 then some (.value (.int b))
  else if b < 0x90 then some (.map (b - 0x80))
  else if b < 0xa0 then some (.list (b - 0x90))
  else if b < 0xc0 then some (.text (b - 0xa0))
  else if 0xe0 ≤ b then some (.value (.int ((b : Int) - 0x100)))
  else match b with
    | 0xc0 => some (.value .null)
    | 0xc2 => some (.value (.bool false))
    | 0xc3 => some (.value (.bool true))
    | 0xc4 => some (.bytesWord 1)
    | 0xc5 => some (.bytesWord 2)
    | 0xc6 => some (.bytesWord 4)
    | 0xc7 => some (.extensionWord 1)
    | 0xc8 => some (.extensionWord 2)
    | 0xc9 => some (.extensionWord 4)
    | 0xca => some .single
    | 0xcb => some .double
    | 0xcc => some (.int 1 false)
    | 0xcd => some (.int 2 false)
    | 0xce => some (.int 4 false)
    | 0xcf => some (.int 8 false)
    | 0xd0 => some (.int 1 true)
    | 0xd1 => some (.int 2 true)
    | 0xd2 => some (.int 4 true)
    | 0xd3 => some (.int 8 true)
    | 0xd4 => some (.extension 1)
    | 0xd5 => some (.extension 2)
    | 0xd6 => some (.extension 4)
    | 0xd7 => some (.extension 8)
    | 0xd8 => some (.extension 16)
    | 0xd9 => some (.textWord 1)
    | 0xda => some (.textWord 2)
    | 0xdb => some (.textWord 4)
    | 0xdc => some (.listWord 2)
    | 0xdd => some (.listWord 4)
    | 0xde => some (.mapWord 2)
    | 0xdf => some (.mapWord 4)
    | _ => none

/-! ## § 4. Reading -/

/-- A reader of the head of a byte sequence: what it read, and what is left. -/
abbrev Reads (α : Type) := List UInt8 → Option (α × List UInt8)

def times? {α : Type} (read : Reads α) : Nat → Reads (List α)
  | 0, bytes => some ([], bytes)
  | n + 1, bytes => do
    let (x, bytes) ← read bytes
    let (xs, bytes) ← times? read n bytes
    return (x :: xs, bytes)

/-- Whether a value starts with the header of a word in two's complement. -/
def startsSigned (bytes : List UInt8) : Bool := bytes.head?.any fun b => 0xd0 ≤ b && b ≤ 0xd3

/-- Reads an entry: its key, then its value. A word in two's complement is no key that names
anything, whatever its number. -/
def keyed? (read : Reads Value) : Reads (Value × Value) := fun bytes => do
  let (k, rest) ← read bytes
  let (v, rest) ← read rest
  return ((if startsSigned bytes then .foreign else k, v), rest)

/-- Reads a text of a size, which is garbled if it is not UTF-8. -/
def readText? (size : Nat) : Reads Value := fun bytes => do
  let (data, rest) ← take? size bytes
  return ((String.fromUTF8? ⟨data.toArray⟩).elim .garbled .text, rest)

def readBytes? (size : Nat) : Reads Value := fun bytes => do
  let (data, rest) ← take? size bytes
  return (.bytes data, rest)

/-- Skips typed data of a size: a type byte, then the data. -/
def readExtension? (levels size : Nat) : Reads Value := fun bytes => do
  guard (0 < levels)
  let (_, rest) ← take? (size + 1) bytes
  return (.foreign, rest)

/-- Reads a value in which containers nest no deeper than `levels`. -/
def decode? (levels : Nat) : Reads Value
  | [] => none
  | b :: bytes => do
    match ← header? b.toNat with
    | .value v => return (v, bytes)
    | .int width isSigned =>
      let (n, rest) ← word? width bytes
      return (.int (if isSigned then signed width n else n), rest)
    | .single =>
      let (n, rest) ← word? 4 bytes
      return (.real (Float32.ofBits (UInt32.ofNat n)).toFloat, rest)
    | .double =>
      let (n, rest) ← word? 8 bytes
      return (.real (Float.ofBits (UInt64.ofNat n)), rest)
    | .text size => readText? size bytes
    | .textWord width =>
      let (size, rest) ← word? width bytes
      readText? size rest
    | .bytesWord width =>
      let (size, rest) ← word? width bytes
      readBytes? size rest
    | .extension size => readExtension? levels size bytes
    | .extensionWord width =>
      let (size, rest) ← word? width bytes
      readExtension? levels size rest
    | .list size => items? levels size bytes
    | .listWord width =>
      let (size, rest) ← word? width bytes
      items? levels size rest
    | .map size => entries? levels size bytes
    | .mapWord width =>
      let (size, rest) ← word? width bytes
      entries? levels size rest
where
  /-- Reads the items of a list. -/
  items? (levels size : Nat) : Reads Value := fun bytes =>
    match levels with
    | 0 => none
    | inner + 1 => do
      let (items, rest) ← times? (decode? inner) size bytes
      return (.list items, rest)
  /-- Reads the entries of a map. -/
  entries? (levels size : Nat) : Reads Value := fun bytes =>
    match levels with
    | 0 => none
    | inner + 1 => do
      let (entries, rest) ← times? (keyed? (decode? inner)) size bytes
      return (.map entries, rest)

/-- How deep containers may nest in a document, if the map that names a kind counts for nothing. -/
def maxLevels : Nat := 1023

/-- The value at the head of a document. There is at most one map that names a kind around any
value. -/
def parse? (bytes : List UInt8) : Option Value := (decode? (maxLevels + 1) bytes).map (·.1)

end MessagePack

end CausalPath
