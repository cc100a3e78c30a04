import CausalPath.Proofs.Text.Bytes
import CausalPath.Value.MessagePack
import Mathlib.Tactic.Ring

/-!
# Reading back what was written

Whatever is written in MessagePack is read back, with nothing lost and nothing taken of what comes
after it: `decode?_encode`. That holds of `Plain` values, which saved graphs are made of: integers of
64 bits, with or without a sign, texts of less than 2^32 bytes, and lists and records of less than
2^32 items, nested no deeper than the reader goes.
-/

namespace CausalPath

namespace MessagePack

/-! ## § 1. Words -/

theorem length_word (width n : Nat) : (word width n).length = width := by
  induction width with
  | zero => rfl
  | succ width ih => rw [word, List.length_cons, ih]

theorem foldl_bytes (bytes : List UInt8) (n : Nat) :
    bytes.foldl (fun n b => 256 * n + b.toNat) n = n * 256 ^ bytes.length + number bytes := by
  induction bytes generalizing n with
  | nil => simp [number]
  | cons b rest ih =>
    simp only [number, List.foldl_cons, List.length_cons]
    rw [ih (256 * n + b.toNat), ih (256 * 0 + b.toNat), Nat.pow_succ]
    ring

theorem number_cons (b : UInt8) (bytes : List UInt8) :
    number (b :: bytes) = b.toNat * 256 ^ bytes.length + number bytes := by
  rw [number, List.foldl_cons, foldl_bytes, Nat.mul_zero, Nat.zero_add]

/-- A word holds what of a number fits into it. -/
theorem number_word (width n : Nat) : number (word width n) = n % 256 ^ width := by
  induction width with
  | zero => simp [word, number, Nat.mod_one]
  | succ width ih =>
    rw [word, number_cons, length_word, ih, Nat.mod_pow_succ]
    simp
    ring

theorem take?_append {front : List UInt8} {size : Nat} (h : front.length = size)
    (rest : List UInt8) : take? size (front ++ rest) = some (front, rest) := by
  subst h
  simp [take?]

theorem word?_word {width n : Nat} (h : n < 256 ^ width) (rest : List UInt8) :
    word? width (word width n ++ rest) = some (n, rest) := by
  simp only [word?, take?_append (length_word width n), Option.map_some, number_word,
    Nat.mod_eq_of_lt h]

/-- A negative number in two's complement. -/
theorem signed_toNat {width : Nat} {n : Int} (hneg : n < 0) (hlow : -(256 ^ width : Int) ≤ 2 * n) :
    signed width (n + 256 ^ width).toNat = n := by
  have hpow : ((256 ^ width : Nat) : Int) = 256 ^ width := by push_cast; rfl
  have hcast : ((n + 256 ^ width).toNat : Int) = n + 256 ^ width := Int.toNat_of_nonneg (by omega)
  unfold signed
  rw [Nat.pow_eq, if_neg (by omega), hcast, hpow]
  omega

theorem word_one (n : Nat) : word 1 n = [UInt8.ofNat n] := by
  simp [word]

theorem toNat_ofNat_byte {n : Nat} (h : n < 0x100) : (UInt8.ofNat n).toNat = n :=
  UInt8.toNat_ofNat_of_lt' h

/-! ## § 2. First bytes -/

theorem header?_text {size : Nat} (h : size < 32) : header? (0xa0 + size) = some (.text size) := by
  unfold header?
  rw [if_neg (by omega), if_neg (by omega), if_neg (by omega), if_pos (by omega),
    Nat.add_sub_cancel_left]

theorem header?_list {size : Nat} (h : size < 16) : header? (0x90 + size) = some (.list size) := by
  unfold header?
  rw [if_neg (by omega), if_neg (by omega), if_pos (by omega), Nat.add_sub_cancel_left]

theorem header?_map {size : Nat} (h : size < 16) : header? (0x80 + size) = some (.map size) := by
  unfold header?
  rw [if_neg (by omega), if_pos (by omega), Nat.add_sub_cancel_left]

theorem header?_small {n : Nat} (h : n < 0x80) : header? n = some (.value (.int n)) := by
  unfold header?
  rw [if_pos h]

theorem header?_negative {n : Int} (hneg : n < 0) (hlow : -32 ≤ n) :
    header? (n + 0x100).toNat = some (.value (.int n)) := by
  unfold header?
  rw [if_neg (by omega), if_neg (by omega), if_neg (by omega), if_neg (by omega),
    if_pos (by omega), Int.toNat_of_nonneg (by omega), Int.add_sub_cancel]

section Headers

variable {levels n : Nat} (rest : List UInt8)

/-- What a first byte announces is what its number announces. -/
theorem decode?_word_one (hn : n < 0x100) {v : Value} (h : header? n = some (.value v)) :
    decode? levels (word 1 n ++ rest) = some (v, rest) := by
  rw [word_one, List.cons_append, decode?, toNat_ofNat_byte hn, h]
  rfl

theorem decode?_unsigned (b : UInt8) (width : Nat)
    (h : header? b.toNat = some (.int width false)) (hn : n < 256 ^ width) :
    decode? levels (b :: word width n ++ rest) = some (.int n, rest) := by
  rw [List.cons_append, decode?, h]
  simp [word?_word hn]

theorem decode?_signed (b : UInt8) (width : Nat) {n : Int}
    (h : header? b.toNat = some (.int width true)) (hneg : n < 0)
    (hlow : -(256 ^ width : Int) ≤ 2 * n) :
    decode? levels (b :: word width (n + 256 ^ width).toNat ++ rest) = some (.int n, rest) := by
  have hpow : ((256 ^ width : Nat) : Int) = 256 ^ width := by push_cast; rfl
  have hn : (n + 256 ^ width).toNat < 256 ^ width := by omega
  rw [List.cons_append, decode?, h]
  simp [word?_word hn, signed_toNat hneg hlow]

theorem decode?_textHeader (hn : n < 0x100000000) :
    decode? levels (textHeader n ++ rest) = readText? n rest := by
  have hword : ∀ (b : UInt8) (width : Nat), header? b.toNat = some (.textWord width) →
      n < 256 ^ width → decode? levels (b :: word width n ++ rest) = readText? n rest := by
    intro b width h hfits
    rw [List.cons_append, decode?, h]
    simp [word?_word hfits]
  unfold textHeader
  split_ifs with hshort hbyte hhalf
  · rw [word_one, List.cons_append, decode?, toNat_ofNat_byte (by omega), header?_text hshort]
    rfl
  · exact hword 0xd9 1 rfl (by omega)
  · exact hword 0xda 2 rfl (by omega)
  · exact hword 0xdb 4 rfl (by omega)

theorem decode?_listHeader (hn : n < 0x100000000) :
    decode? (levels + 1) (listHeader n ++ rest) =
      (times? (decode? levels) n rest).map fun r => (.list r.1, r.2) := by
  have hword : ∀ (b : UInt8) (width : Nat), header? b.toNat = some (.listWord width) →
      n < 256 ^ width →
      decode? (levels + 1) (b :: word width n ++ rest) =
        (times? (decode? levels) n rest).map fun r => (.list r.1, r.2) := by
    intro b width h hfits
    rw [List.cons_append, decode?, h]
    simp [word?_word hfits, decode?.items?, Option.map_eq_bind]
  unfold listHeader
  split_ifs with hshort hhalf
  · rw [word_one, List.cons_append, decode?, toNat_ofNat_byte (by omega), header?_list hshort]
    simp [decode?.items?, Option.map_eq_bind]
  · exact hword 0xdc 2 rfl (by omega)
  · exact hword 0xdd 4 rfl (by omega)

theorem decode?_mapHeader (hn : n < 0x100000000) :
    decode? (levels + 1) (mapHeader n ++ rest) =
      (times? (keyed? (decode? levels)) n rest).map fun r => (.map r.1, r.2) := by
  have hword : ∀ (b : UInt8) (width : Nat), header? b.toNat = some (.mapWord width) →
      n < 256 ^ width →
      decode? (levels + 1) (b :: word width n ++ rest) =
        (times? (keyed? (decode? levels)) n rest).map fun r => (.map r.1, r.2) := by
    intro b width h hfits
    rw [List.cons_append, decode?, h]
    simp [word?_word hfits, decode?.entries?, Option.map_eq_bind]
  unfold mapHeader
  split_ifs with hshort hhalf
  · rw [word_one, List.cons_append, decode?, toNat_ofNat_byte (by omega), header?_map hshort]
    simp [decode?.entries?, Option.map_eq_bind]
  · exact hword 0xde 2 rfl (by omega)
  · exact hword 0xdf 4 rfl (by omega)

/-! ## § 3. Scalars -/

/-- The shortest form of an integer of 64 bits is read back, whichever form that is. -/
theorem decode?_encodeInt {n : Int} (hlow : -0x8000000000000000 ≤ n)
    (hhigh : n < 0x10000000000000000) :
    decode? levels (encodeInt n ++ rest) = some (.int n, rest) := by
  unfold encodeInt
  by_cases hsign : 0 ≤ n
  · have hn : ((n.toNat : Nat) : Int) = n := Int.toNat_of_nonneg hsign
    rw [if_pos hsign, ← hn, Int.toNat_natCast]
    dsimp only
    split_ifs
    · exact decode?_word_one rest (by omega) (header?_small (by omega))
    · exact decode?_unsigned rest 0xcc 1 rfl (by omega)
    · exact decode?_unsigned rest 0xcd 2 rfl (by omega)
    · exact decode?_unsigned rest 0xce 4 rfl (by omega)
    · exact decode?_unsigned rest 0xcf 8 rfl (by omega)
  · rw [if_neg hsign]
    split_ifs
    · exact decode?_word_one rest (by omega) (header?_negative (by omega) (by omega))
    · exact decode?_signed rest 0xd0 1 rfl (by omega) (by omega)
    · exact decode?_signed rest 0xd1 2 rfl (by omega) (by omega)
    · exact decode?_signed rest 0xd2 4 rfl (by omega) (by omega)
    · exact decode?_signed rest 0xd3 8 rfl (by omega) (by omega)

theorem readText?_toUTF8 (s : String) :
    readText? s.toUTF8.toList.length (s.toUTF8.toList ++ rest) = some (.text s, rest) := by
  rw [readText?, take?_append rfl]
  show some ((String.fromUTF8? ⟨s.toUTF8.toList.toArray⟩).elim Value.garbled .text, rest) = _
  rw [Text.fromUTF8?_toUTF8]
  rfl

theorem length_toUTF8 (s : String) : s.toUTF8.toList.length = s.utf8ByteSize := by
  rw [Text.toList_eq_data, String.toUTF8_eq_toByteArray]
  rfl

theorem decode?_text {s : String} (h : s.utf8ByteSize < 0x100000000) :
    decode? levels (encode (.text s) ++ rest) = some (.text s, rest) := by
  rw [encode, List.append_assoc, decode?_textHeader _ (by rwa [length_toUTF8]), readText?_toUTF8]

end Headers

/-! ## § 4. Containers -/

/-- Reading one by one what was written one by one. -/
theorem times?_flatMap {α : Type} {read : Reads α} {write : α → List UInt8} {items : List α}
    (h : ∀ x ∈ items, ∀ rest, read (write x ++ rest) = some (x, rest)) (rest : List UInt8) :
    times? read items.length (items.flatMap write ++ rest) = some (items, rest) := by
  induction items with
  | nil => rfl
  | cons x items ih =>
    have htail := ih fun y hy => h y (List.mem_cons_of_mem x hy)
    rw [List.flatMap_cons, List.append_assoc, List.length_cons, times?, h x List.mem_cons_self]
    simp [htail]

theorem encodeItems_eq (items : List Value) : encodeItems items = items.flatMap encode := by
  induction items with
  | nil => rfl
  | cons v items ih => rw [encodeItems, ih, List.flatMap_cons]

theorem encodeEntries_eq (entries : List (Value × Value)) :
    encodeEntries entries = entries.flatMap encodeEntry := by
  induction entries with
  | nil => rfl
  | cons e entries ih => rw [encodeEntries, ih, List.flatMap_cons]

/-- The header of a text is not that of a word in two's complement. -/
theorem startsSigned_text {s : String} (h : s.utf8ByteSize < 0x100000000) (rest : List UInt8) :
    startsSigned (encode (.text s) ++ rest) = false := by
  rw [encode, List.append_assoc, length_toUTF8]
  unfold textHeader
  split
  · simp [word_one, startsSigned, UInt8.le_iff_toNat_le]
    omega
  · split
    · rfl
    · split <;> rfl

theorem keyed?_encodeEntry {read : Reads Value} {s : String} {v : Value}
    (hs : s.utf8ByteSize < 0x100000000)
    (htext : ∀ rest, read (encode (.text s) ++ rest) = some (.text s, rest))
    (hv : ∀ rest, read (encode v ++ rest) = some (v, rest)) (rest : List UInt8) :
    keyed? read (encodeEntry (.text s, v) ++ rest) = some ((.text s, v), rest) := by
  have hkey := startsSigned_text hs (encode v ++ rest)
  rw [encodeEntry, List.append_assoc, keyed?, htext]
  simp [hv, hkey]

/-! ## § 5. Values -/

/-- What saved graphs are made of, in containers that nest no deeper than `levels`. The sizes and the
integers are those for which the format has a header. -/
inductive Plain : Nat → Value → Prop
  | null {levels : Nat} : Plain levels .null
  | bool {levels : Nat} {b : Bool} : Plain levels (.bool b)
  | int {levels : Nat} {n : Int} (low : -0x8000000000000000 ≤ n) (high : n < 0x10000000000000000) :
    Plain levels (.int n)
  | text {levels : Nat} {s : String} (size : s.utf8ByteSize < 0x100000000) : Plain levels (.text s)
  | list {levels : Nat} {items : List Value} (size : items.length < 0x100000000)
    (plain : ∀ v ∈ items, Plain levels v) : Plain (levels + 1) (.list items)
  | record {levels : Nat} {fields : List (String × Value)} (size : fields.length < 0x100000000)
    (names : ∀ f ∈ fields, f.1.utf8ByteSize < 0x100000000)
    (plain : ∀ f ∈ fields, Plain levels f.2) : Plain (levels + 1) (.record fields)

/-- A value is read back from its bytes, and what comes after them is left. -/
theorem decode?_encode {levels : Nat} {v : Value} (h : Plain levels v) (rest : List UInt8) :
    decode? levels (encode v ++ rest) = some (v, rest) := by
  induction h generalizing rest with
  | null => rw [encode, List.cons_append, decode?]; rfl
  | @bool levels b => cases b <;> rw [encode, List.cons_append, decode?] <;> rfl
  | int low high => rw [encode, decode?_encodeInt rest low high]
  | text size => exact decode?_text rest size
  | list size _ ih =>
    rw [encode, List.append_assoc, decode?_listHeader _ size, encodeItems_eq, times?_flatMap ih]
    rfl
  | @record levels fields size names _ ih =>
    have hentries : ∀ e ∈ fields.map fun f => (Value.text f.1, f.2), ∀ rest,
        keyed? (decode? levels) (encodeEntry e ++ rest) = some (e, rest) := by
      intro e he
      obtain ⟨f, hf, rfl⟩ := List.mem_map.1 he
      exact keyed?_encodeEntry (names f hf) (fun rest => decode?_text rest (names f hf)) (ih f hf)
    rw [Value.record, encode, List.append_assoc, List.length_map, decode?_mapHeader _ size,
      encodeEntries_eq, ← List.length_map (fun f : String × Value => (Value.text f.1, f.2)),
      times?_flatMap hentries]
    rfl

theorem plain_nat {levels n : Nat} (h : n < wordCount) : Plain levels (.nat n) := by
  rw [wordCount] at h
  exact .int (by omega) (by omega)

theorem plain_nat32 {levels n : Nat} (h : n < 0x100000000) : Plain levels (.nat n) :=
  plain_nat (Nat.lt_trans h (by decide))

theorem plain_optional {α : Type} {levels : Nat} {write : α → Value} {x : Option α}
    (h : ∀ y ∈ x, Plain levels (write y)) : Plain levels (.optional write x) := by
  cases x with
  | none => exact .null
  | some y => exact h y rfl

theorem plain_map {α : Type} {levels : Nat} {write : α → Value} {items : List α}
    (size : items.length < 0x100000000) (h : ∀ x ∈ items, Plain levels (write x)) :
    Plain (levels + 1) (.list (items.map write)) :=
  .list (by simpa using size) (by simpa using h)

/-- A record with few fields of short names says what its fields say. -/
theorem plain_record {levels : Nat} {fields : List (String × Value)} (names : List String)
    (hnames : fields.map Prod.fst = names)
    (hshort : names.length < 0x100000000 ∧ ∀ n ∈ names, n.utf8ByteSize < 0x100000000)
    (h : ∀ v ∈ fields.map Prod.snd, Plain levels v) : Plain (levels + 1) (.record fields) := by
  subst hnames
  exact .record (by simpa using hshort.1)
    (fun f hf => hshort.2 f.1 (List.mem_map_of_mem hf)) fun f hf => h f.2 (List.mem_map_of_mem hf)

theorem plain_single {levels : Nat} {name : String} {v : Value}
    (hname : name.utf8ByteSize < 0x100000000) (h : Plain levels v) :
    Plain (levels + 1) (.record [(name, v)]) :=
  .record (by simp) (by simpa using hname) (by simpa using h)

/-- A document is read back. -/
theorem parse?_encode {v : Value} (h : Plain (maxLevels + 1) v) : parse? (encode v) = some v := by
  have hread := decode?_encode h []
  rw [List.append_nil] at hread
  rw [parse?, hread, Option.map_some]

end MessagePack

end CausalPath
