import CausalPath.Value.Json
import Mathlib.Data.List.Basic
import Mathlib.Data.List.TakeWhile

/-!
# Reading back compact JSON

A `Plain` value is read back from its compact text: `parse?_compact`. Its text lexes to its
`tokens`, and reading these gives the value. A number ends only where something else begins, so what
follows the text of a value matters to the lexer: inside a text it is always one of the delimiters.
-/

namespace CausalPath

namespace Json

/-! ## § 1. Integers -/

theorem number_eq_ofDigitChars {cs : List Char} (h : ∀ c ∈ cs, c.isDigit = true) :
    Text.number 10 cs = Nat.ofDigitChars 10 cs 0 := by
  rw [Nat.ofDigitChars_eq_foldl, Text.number]
  refine List.foldl_ext _ _ 0 fun n c hc => ?_
  rw [Text.digitValue, if_pos (h c hc)]
  rfl

theorem isDigit_of_mem_toDigits {n : Nat} {c : Char} (h : c ∈ Nat.toDigits 10 n) :
    c.isDigit = true :=
  Nat.isDigit_of_mem_toDigits (by decide) (by decide) h

theorem number_toDigits (n : Nat) : Text.number 10 (Nat.toDigits 10 n) = n := by
  rw [number_eq_ofDigitChars fun c => isDigit_of_mem_toDigits, Nat.ofDigitChars_ten_toDigits]

/-- Only zero starts with a zero. -/
theorem head?_toDigits {n : Nat} (h : n ≠ 0) : (Nat.toDigits 10 n).head? ≠ some '0' := by
  induction n using Nat.strongRecOn with
  | ind n ih =>
    by_cases hn : n < 10
    · rw [Nat.toDigits_of_lt_base hn, List.head?_cons]
      simpa using h
    · rw [Nat.toDigits_of_base_le (by decide) (by omega),
        List.head?_append_of_ne_nil _ Nat.toDigits_ne_nil]
      exact ih (n / 10) (by omega) (by omega)

theorem digits?_toDigits (n : Nat) :
    digits? (Nat.toDigits 10 n) = some (Nat.toDigits 10 n, []) := by
  have hall : ∀ c ∈ Nat.toDigits 10 n, c.isDigit = true := fun c => isDigit_of_mem_toDigits
  rw [digits?, List.takeWhile_eq_self_iff.2 hall, List.dropWhile_eq_nil_iff.2 hall]
  split
  · rename_i hnil
    exact absurd hnil Nat.toDigits_ne_nil
  · rfl

/-- A number literal without a point and an exponent is one of an integer. -/
theorem literal?_toDigits (negative : Bool) (n : Nat) :
    literal? (if negative then '-' :: Nat.toDigits 10 n else Nat.toDigits 10 n) =
      some ⟨negative, Nat.toDigits 10 n, none, none⟩ := by
  have hzero : ¬((Nat.toDigits 10 n).head? = some '0' ∧ (Nat.toDigits 10 n).length ≠ 1) := by
    rintro ⟨hhead, hlength⟩
    by_cases hn : n = 0
    · subst hn
      exact hlength rfl
    · exact head?_toDigits hn hhead
  have hdigits := digits?_toDigits n
  cases negative with
  | true => simp [literal?, hdigits, hzero, exponent?]
  | false =>
    obtain ⟨d, ds, hds⟩ := List.exists_cons_of_ne_nil (Nat.toDigits_ne_nil (n := n) (b := 10))
    have hd : d ≠ '-' := by
      rintro rfl
      exact absurd (isDigit_of_mem_toDigits (hds ▸ List.mem_cons_self)) (by decide)
    rw [hds] at hdigits hzero ⊢
    simpa [literal?, hd, hdigits, exponent?] using hzero

/-- The characters of an integer. -/
theorem toList_toString (n : Int) :
    (toString n).toList =
      if n < 0 then '-' :: Nat.toDigits 10 n.natAbs else Nat.toDigits 10 n.natAbs := by
  rw [Int.toString_eq_repr, Int.repr_eq_if]
  by_cases hsign : n < 0
  · have habs : (-n).toNat = n.natAbs := by omega
    rw [if_neg (by omega), if_pos hsign, habs, String.toList_append, Nat.toList_repr]
    rfl
  · have habs : n.toNat = n.natAbs := by omega
    rw [if_pos (by omega), if_neg hsign, habs, Nat.toList_repr]

/-- An integer begins with a sign or a digit, and is numeric throughout. -/
theorem toString_eq_cons (n : Int) :
    ∃ c cs, (toString n).toList = c :: cs ∧ (c = '-' ∨ c.isDigit = true) ∧
      ∀ c ∈ cs, isNumeric c = true := by
  have hnumeric : ∀ c ∈ Nat.toDigits 10 n.natAbs, isNumeric c = true := by
    intro c hc
    simp [isNumeric, isDigit_of_mem_toDigits hc]
  rw [toList_toString]
  split
  · exact ⟨'-', _, rfl, .inl rfl, hnumeric⟩
  · obtain ⟨d, ds, hds⟩ :=
      List.exists_cons_of_ne_nil (Nat.toDigits_ne_nil (n := n.natAbs) (b := 10))
    rw [hds] at hnumeric
    exact ⟨d, ds, hds, .inr (isDigit_of_mem_toDigits (hds ▸ List.mem_cons_self)),
      fun c hc => hnumeric c (List.mem_cons_of_mem d hc)⟩

/-- An integer that fits in a word is read back from its digits. -/
theorem numberToken?_toString {n : Int} (hlow : -0x8000000000000000 ≤ n) (hhigh : n < wordCount) :
    numberToken? (toString n).toList = some (.atom (.int n)) := by
  have hliteral := literal?_toDigits (decide (n < 0)) n.natAbs
  simp only [decide_eq_true_eq] at hliteral
  rw [numberToken?, toList_toString, hliteral, Option.map_some, Literal.value]
  rw [wordCount] at hhigh
  by_cases hsign : n < 0
  · have hvalue : -(n.natAbs : Int) = n := by omega
    have hfits : n.natAbs ≠ 0 ∧ n.natAbs ≤ 0x8000000000000000 := by omega
    simp only [number_toDigits, hsign, hfits, hvalue, decide_true, if_true, Option.getD_none,
      List.append_nil, Option.isNone_none, ne_eq, not_false_eq_true, and_self]
  · have hvalue : (n.natAbs : Int) = n := by omega
    have hfits : n.natAbs < wordCount := by unfold wordCount; omega
    simp only [number_toDigits, hsign, hfits, hvalue, decide_false, Bool.false_eq_true, if_true,
      if_false, Option.getD_none, List.append_nil, Option.isNone_none, and_self]

/-! ## § 2. Runs and their ends -/

/-- What follows a value inside a text. -/
def delimiters : List Char := [',', ':', ']', '\x7d']

/-- A text that ends a run: it is empty or begins with a delimiter. -/
def Delimited (cs : List Char) : Prop := ∀ c ∈ cs.head?, c ∈ delimiters

/-- A text is lexed to some tokens wherever it ends. -/
def Lexes (cs : List Char) (ts : List Token) : Prop :=
  ∀ done rest, Delimited rest →
    lexFrom? .ready done (cs ++ rest) = lexFrom? .ready (ts.reverse ++ done) rest

variable {cs cs' rest run : List Char} {ts ts' done : List Token} {c : Char} {t : Token}

theorem delimited_cons (h : c ∈ delimiters) : Delimited (c :: cs) := by
  rintro _ ⟨⟩
  exact h

theorem lexFrom?_cons {m m' : Mode} (h : m.step? c = some (ts, m')) :
    lexFrom? m done (c :: cs) = lexFrom? m' (ts.reverse ++ done) cs := by
  rw [lexFrom?, h]

/-- A run that ends is a token, and what ends it is met as between tokens. -/
theorem lexFrom?_endRun {m : Mode} (hend : m.finish? = some [t])
    (hstep : ∀ c ∈ delimiters, m.step? c = endToken? (some t) c) (hrest : Delimited rest) :
    lexFrom? m done rest = lexFrom? .ready (t :: done) rest := by
  cases rest with
  | nil =>
    rw [lexFrom?, lexFrom?, hend]
    rfl
  | cons c rest =>
    rw [lexFrom?, lexFrom?, hstep c (hrest c rfl), Mode.step?, endToken?]
    cases start? c with
    | none => rfl
    | some r => simp

theorem lexFrom?_number (h : ∀ c ∈ cs, isNumeric c = true) :
    lexFrom? (.number run) done (cs ++ rest) =
      lexFrom? (.number (cs.reverse ++ run)) done rest := by
  induction cs generalizing run with
  | nil => rfl
  | cons c cs ih =>
    have hstep : Mode.step? (.number run) c = some ([], .number (c :: run)) := by
      rw [Mode.step?, if_pos (h c List.mem_cons_self)]
    rw [List.cons_append, lexFrom?_cons hstep, List.reverse_nil, List.nil_append,
      ih fun c' hc' => h c' (List.mem_cons_of_mem c hc')]
    simp

theorem step?_ready_number (h : c = '-' ∨ c.isDigit = true) :
    Mode.step? .ready c = some ([], .number [c]) := by
  have hother : [' ', '\n', '\t', '\r', '[', ']', '\x7b', '\x7d', ',', ':', '\x22'].all
      (fun x => !(x == '-' || x.isDigit)) = true := by decide
  have hne : ∀ x ∈ [' ', '\n', '\t', '\r', '[', ']', '\x7b', '\x7d', ',', ':', '\x22'], c ≠ x := by
    rintro x hx rfl
    have hx' := List.all_eq_true.1 hother c hx
    rcases h with rfl | h
    · exact absurd hx' (by decide)
    · simp [h] at hx'
  simp only [List.forall_mem_cons] at hne
  simp [Mode.step?, start?, isBlank, hne, h]

theorem isNumeric_delimiter (h : c ∈ delimiters) : isNumeric c = false := by
  have hall : delimiters.all (fun c => !isNumeric c) = true := by decide
  simpa using List.all_eq_true.1 hall c h

theorem isLower_delimiter (h : c ∈ delimiters) : c.isLower = false := by
  have hall : delimiters.all (fun c => !c.isLower) = true := by decide
  simpa using List.all_eq_true.1 hall c h

theorem lexFrom?_endNumber (h : numberToken? run.reverse = some t) (hrest : Delimited rest) :
    lexFrom? (.number run) done rest = lexFrom? .ready (t :: done) rest := by
  apply lexFrom?_endRun _ _ hrest
  · rw [Mode.finish?, h]
    rfl
  · intro c hc
    rw [Mode.step?, isNumeric_delimiter hc, if_neg Bool.false_ne_true, h]

theorem lexFrom?_endWord (run : List Char) (h : wordToken? run.reverse = some t)
    (hrest : Delimited rest) :
    lexFrom? (.word run) done rest = lexFrom? .ready (t :: done) rest := by
  apply lexFrom?_endRun _ _ hrest
  · rw [Mode.finish?, h]
    rfl
  · intro c hc
    rw [Mode.step?, isLower_delimiter hc, if_neg Bool.false_ne_true, h]

theorem lexes_int {n : Int} (hlow : -0x8000000000000000 ≤ n) (hhigh : n < wordCount) :
    Lexes (toString n).toList [.atom (.int n)] := by
  intro done rest hrest
  have htoken := numberToken?_toString hlow hhigh
  obtain ⟨c, cs, hcs, hfirst, hnumeric⟩ := toString_eq_cons n
  rw [hcs] at htoken ⊢
  rw [List.cons_append, lexFrom?_cons (step?_ready_number hfirst), List.reverse_nil,
    List.nil_append, lexFrom?_number hnumeric, lexFrom?_endNumber (by simpa using htoken) hrest]
  rfl

theorem lexes_null : Lexes "null".toList [.atom .null] := fun _ _ hrest =>
  lexFrom?_endWord ['l', 'l', 'u', 'n'] rfl hrest

theorem lexes_bool (b : Bool) : Lexes (scalar (.bool b)) [.atom (.bool b)] := by
  intro done rest hrest
  cases b with
  | true => exact lexFrom?_endWord ['e', 'u', 'r', 't'] rfl hrest
  | false => exact lexFrom?_endWord ['e', 's', 'l', 'a', 'f'] rfl hrest

/-! ## § 3. Strings -/

theorem isDigitOf_hexDigit {n : Nat} (h : n < 16) : Text.isDigitOf 16 (Text.hexDigit n) = true := by
  have : ∀ n : Fin 16, Text.isDigitOf 16 (Text.hexDigit n) = true := by decide
  exact this ⟨n, h⟩

variable {units : List Nat}

/-- The last two digits of an escaped code unit. -/
theorem lexFrom?_unit {high low : Nat} (hhigh : high < 16) (hlow : low < 16)
    (units : List Nat) (done : List Token) (rest : List Char) :
    lexFrom? (.unit units 2 0) done (Text.hexDigit high :: Text.hexDigit low :: rest) =
      lexFrom? (.string ((16 * high + low) :: units)) done rest := by
  simp [lexFrom?, Mode.step?, isDigitOf_hexDigit, Text.digitValue_hexDigit, hhigh, hlow]

/-- Inside a string literal a character is read back from its form. -/
theorem lexFrom?_escape (c : Char) :
    lexFrom? (.string units) done (escape c ++ rest) =
      lexFrom? (.string (c.toNat :: units)) done rest := by
  unfold escape
  split_ifs with hquote hslash hback hform hline hreturn htab hcontrol
  all_goals try subst c
  all_goals try rfl
  · have hhigh : c.toNat / 16 < 16 := by omega
    have hlow : c.toNat % 16 < 16 := by omega
    have hunit := lexFrom?_unit hhigh hlow units done rest
    rw [Nat.div_add_mod] at hunit
    exact hunit
  · have hstep : Mode.step? (.string units) c = some ([], .string (c.toNat :: units)) := by
      rw [Mode.step?, if_neg hquote, if_neg hslash, if_neg hcontrol]
    exact lexFrom?_cons hstep

theorem lexFrom?_flatMap_escape (cs : List Char) :
    lexFrom? (.string units) done (cs.flatMap escape ++ rest) =
      lexFrom? (.string ((cs.map Char.toNat).reverse ++ units)) done rest := by
  induction cs generalizing units with
  | nil => rfl
  | cons c cs ih =>
    rw [List.flatMap_cons, List.append_assoc, lexFrom?_escape, ih]
    simp

/-- Code units of characters are no surrogates. -/
theorem joinUnits?_map_toNat (cs : List Char) : joinUnits? (cs.map Char.toNat) = some cs := by
  induction cs with
  | nil => rfl
  | cons c cs ih =>
    have hvalid : c.toNat < 0xd800 ∨ 0xdfff < c.toNat ∧ c.toNat < 0x110000 := c.valid
    have hhigh : ¬(0xd800 ≤ c.toNat ∧ c.toNat < 0xdc00) := by omega
    have hlow : ¬(0xdc00 ≤ c.toNat ∧ c.toNat < 0xe000) := by omega
    rw [List.map_cons, joinUnits?.eq_def]
    simp only [hhigh, hlow, if_false, ih, Option.map_some, Char.ofNat_toNat]

theorem lexes_quote (s : String) : Lexes (quote s) [.string (.text s)] := by
  intro done rest _
  have hstart : Mode.step? .ready '\x22' = some ([], .string []) := rfl
  have hend : Mode.step? (.string (s.toList.map Char.toNat).reverse) '\x22' =
      some ([.string (.text s)], .ready) := by
    rw [Mode.step?, if_pos rfl, List.reverse_reverse, stringToken, joinUnits?_map_toNat,
      Option.elim_some, String.ofList_toList]
  rw [quote, List.cons_append, List.cons_append, List.append_assoc, lexFrom?_cons hstart,
    lexFrom?_flatMap_escape, List.append_nil, List.singleton_append, lexFrom?_cons hend]
  rfl

/-! ## § 4. Tokens of a value -/

mutual

/-- The tokens of the text of a value. -/
def tokens : Value → List Token
  | .list items => .openList :: (itemTokens items ++ [.closeList])
  | .map entries => .openMap :: (entryListTokens entries ++ [.closeMap])
  | .text s => [.string (.text s)]
  | v => [.atom v]

def itemTokens : List Value → List Token
  | [] => []
  | [v] => tokens v
  | v :: rest => tokens v ++ (.comma :: itemTokens rest)

def entryListTokens : List (Value × Value) → List Token
  | [] => []
  | [e] => entryTokens e
  | e :: rest => entryTokens e ++ (.comma :: entryListTokens rest)

def entryTokens : Value × Value → List Token
  | (k, v) => tokens k ++ (.colon :: tokens v)

end

/-- What is written in full and read back: words, with or without a sign, texts, lists, and maps
whose keys are texts. -/
inductive Plain : Value → Prop
  | null : Plain .null
  | bool (b : Bool) : Plain (.bool b)
  | int {n : Int} (low : -0x8000000000000000 ≤ n) (high : n < wordCount) : Plain (.int n)
  | text (s : String) : Plain (.text s)
  | list {items : List Value} (plain : ∀ v ∈ items, Plain v) : Plain (.list items)
  | record {fields : List (String × Value)} (plain : ∀ f ∈ fields, Plain f.2) :
    Plain (.record fields)

theorem lexes_nil : Lexes [] [] := fun _ _ _ => rfl

theorem Lexes.cons (hc : start? c = some ([t], .ready)) (h : Lexes cs ts) :
    Lexes (c :: cs) (t :: ts) := by
  intro done rest hrest
  rw [List.cons_append, lexFrom?_cons (m := .ready) hc, h _ _ hrest]
  simp

/-- Texts with a delimiter between them are lexed each by itself. -/
theorem Lexes.append (h : Lexes cs ts) (hc : c ∈ delimiters) (ht : start? c = some ([t], .ready))
    (h' : Lexes cs' ts') : Lexes (cs ++ c :: cs') (ts ++ t :: ts') := by
  intro done rest hrest
  rw [List.append_assoc, List.cons_append, h _ _ (delimited_cons hc), ← List.cons_append,
    (h'.cons ht) _ _ hrest]
  simp

/-- What is written one by one with separators between. -/
theorem eq_intercalate {α β : Type} {sep : β} {write : α → List β} {all : List α → List β}
    (hnil : all [] = []) (hone : ∀ x, all [x] = write x)
    (hmore : ∀ x y rest, all (x :: y :: rest) = write x ++ sep :: all (y :: rest))
    (items : List α) : all items = [sep].intercalate (items.map write) := by
  induction items with
  | nil => exact hnil
  | cons x rest ih =>
    cases rest with
    | nil => simp [hone]
    | cons y rest =>
      rw [hmore, ih, List.map_cons, List.map_cons, List.map_cons, List.intercalate_cons_cons]
      simp

theorem itemChars_eq (items : List Value) :
    itemChars items = [','].intercalate (items.map chars) :=
  eq_intercalate rfl (fun _ => rfl) (fun _ _ _ => rfl) items

theorem entryListChars_eq (entries : List (Value × Value)) :
    entryListChars entries = [','].intercalate (entries.map entryChars) :=
  eq_intercalate rfl (fun _ => rfl) (fun _ _ _ => rfl) entries

theorem itemTokens_eq (items : List Value) :
    itemTokens items = [Token.comma].intercalate (items.map tokens) :=
  eq_intercalate rfl (fun _ => rfl) (fun _ _ _ => rfl) items

theorem entryListTokens_eq (entries : List (Value × Value)) :
    entryListTokens entries = [Token.comma].intercalate (entries.map entryTokens) :=
  eq_intercalate rfl (fun _ => rfl) (fun _ _ _ => rfl) entries

theorem Lexes.intercalate {α : Type} {write : α → List Char} {toks : α → List Token}
    {items : List α} (h : ∀ x ∈ items, Lexes (write x) (toks x)) :
    Lexes ([','].intercalate (items.map write)) ([Token.comma].intercalate (items.map toks)) := by
  induction items with
  | nil => exact lexes_nil
  | cons x rest ih =>
    have hx := h x List.mem_cons_self
    have hrest := ih fun y hy => h y (List.mem_cons_of_mem x hy)
    cases rest with
    | nil => simpa using hx
    | cons y rest =>
      have hall := hx.append (c := ',') (by decide) rfl hrest
      simpa [List.intercalate_cons_cons] using hall

/-- The text of a value is lexed to its tokens. -/
theorem lexes_chars {v : Value} (h : Plain v) : Lexes (chars v) (tokens v) := by
  induction h with
  | null => exact lexes_null
  | bool b => exact lexes_bool b
  | int low high => exact lexes_int low high
  | text s => exact lexes_quote s
  | @list items _ ih =>
    rw [chars, tokens, itemChars_eq, itemTokens_eq]
    exact ((Lexes.intercalate ih).append (c := ']') (by decide) rfl lexes_nil).cons rfl
  | @record fields _ ih =>
    have hentries : ∀ f ∈ fields,
        Lexes (entryChars (.text f.1, f.2)) (entryTokens (.text f.1, f.2)) :=
      fun f hf => (lexes_quote f.1).append (c := ':') (by decide) rfl (ih f hf)
    have hall := Lexes.intercalate hentries
    rw [Value.record, chars, tokens, entryListChars_eq, entryListTokens_eq, List.map_map,
      List.map_map]
    exact (hall.append (c := '\x7d') (by decide) rfl lexes_nil).cons rfl

theorem lex?_chars {v : Value} (h : Plain v) : lex? (chars v) = some (tokens v) := by
  have hread := lexes_chars h [] [] (by simp [Delimited])
  rw [List.append_nil, List.append_nil] at hread
  rw [lex?, hread, lexFrom?]
  simp [Mode.finish?]

/-! ## § 5. Reading the tokens -/

variable {frames : List Frame}

/-- Reading the tokens of a value gives the value, inside whatever containers. -/
def Told (v : Value) : Prop :=
  ∀ frames ts, Reader.run? ⟨frames, .value⟩ (tokens v ++ ts) = Reader.run? ⟨frames, .after v⟩ ts

theorem itemTokens_cons_cons (v v' : Value) (rest : List Value) :
    itemTokens (v :: v' :: rest) = tokens v ++ .comma :: itemTokens (v' :: rest) := rfl

theorem run?_items {items : List Value} (hne : items ≠ []) (h : ∀ v ∈ items, Told v)
    (before : List Value) :
    Reader.run? ⟨.list before :: frames, .value⟩ (itemTokens items ++ .closeList :: ts) =
      Reader.run? ⟨frames, .after (.list (before.reverse ++ items))⟩ ts := by
  induction items generalizing before with
  | nil => exact absurd rfl hne
  | cons v rest ih =>
    have hv := h v List.mem_cons_self
    cases rest with
    | nil =>
      have hend : Reader.run? ⟨.list before :: frames, .after v⟩ (.closeList :: ts) =
          Reader.run? ⟨frames, .after (.list (v :: before).reverse)⟩ ts := rfl
      rw [itemTokens, hv, hend, List.reverse_cons]
    | cons v' rest =>
      have hrest := ih (by simp) (fun u hu => h u (List.mem_cons_of_mem v hu)) (v :: before)
      have hnext : ∀ ts, Reader.run? ⟨.list before :: frames, .after v⟩ (.comma :: ts) =
          Reader.run? ⟨.list (v :: before) :: frames, .value⟩ ts := fun _ => rfl
      rw [itemTokens_cons_cons, List.append_assoc, hv, List.cons_append, hnext, hrest]
      simp

theorem told_list {items : List Value} (h : ∀ v ∈ items, Told v) : Told (.list items) := by
  intro frames ts
  rw [tokens, List.cons_append, List.append_assoc, List.singleton_append]
  show Reader.run? ⟨.list [] :: frames, .firstItem⟩ _ = _
  cases items with
  | nil => rfl
  | cons v rest =>
    -- what comes first does not end the list
    have hfirst : ∀ ts, Reader.run? ⟨.list [] :: frames, .firstItem⟩ (tokens v ++ ts) =
        Reader.run? ⟨.list [] :: frames, .value⟩ (tokens v ++ ts) := by
      intro ts
      cases v <;> rfl
    refine Eq.trans ?_ (run?_items (by simp) h [])
    cases rest with
    | nil => exact hfirst _
    | cons v' rest =>
      rw [itemTokens_cons_cons, List.append_assoc]
      exact hfirst _

/-- The entries of a record. -/
def texts (fields : List (String × Value)) : List (Value × Value) :=
  fields.map fun f => (.text f.1, f.2)

theorem run?_entry {f : String × Value} (h : Told f.2) (before : List (Value × Value)) :
    Reader.run? ⟨frames, .key before⟩ (entryTokens (.text f.1, f.2) ++ ts) =
      Reader.run? ⟨.map before (.text f.1) :: frames, .after f.2⟩ ts :=
  h (.map before (.text f.1) :: frames) ts

theorem run?_entries {fields : List (String × Value)} (hne : fields ≠ [])
    (h : ∀ f ∈ fields, Told f.2) (before : List (Value × Value)) :
    Reader.run? ⟨frames, .key before⟩ (entryListTokens (texts fields) ++ .closeMap :: ts) =
      Reader.run? ⟨frames, .after (.map (before.reverse ++ texts fields))⟩ ts := by
  induction fields generalizing before with
  | nil => exact absurd rfl hne
  | cons f rest ih =>
    have hf := h f List.mem_cons_self
    cases rest with
    | nil =>
      have htokens : entryListTokens (texts [f]) = entryTokens (.text f.1, f.2) := rfl
      have hend : Reader.run? ⟨.map before (.text f.1) :: frames, .after f.2⟩ (.closeMap :: ts) =
          Reader.run? ⟨frames, .after (.map ((.text f.1, f.2) :: before).reverse)⟩ ts := rfl
      rw [htokens, run?_entry hf, hend, List.reverse_cons]
      rfl
    | cons f' rest =>
      have hrest := ih (by simp) (fun g hg => h g (List.mem_cons_of_mem f hg))
        ((.text f.1, f.2) :: before)
      have htokens : entryListTokens (texts (f :: f' :: rest)) =
          entryTokens (.text f.1, f.2) ++ .comma :: entryListTokens (texts (f' :: rest)) := rfl
      have hnext : ∀ ts,
          Reader.run? ⟨.map before (.text f.1) :: frames, .after f.2⟩ (.comma :: ts) =
            Reader.run? ⟨frames, .key ((.text f.1, f.2) :: before)⟩ ts := fun _ => rfl
      rw [htokens, List.append_assoc, run?_entry hf, List.cons_append, hnext, hrest]
      simp [texts]

theorem told_record {fields : List (String × Value)} (h : ∀ f ∈ fields, Told f.2) :
    Told (.record fields) := by
  intro frames ts
  rw [Value.record, tokens, List.cons_append, List.append_assoc, List.singleton_append]
  show Reader.run? ⟨frames, .firstKey⟩ _ = _
  cases fields with
  | nil => rfl
  | cons f rest =>
    -- what comes first is a key, which is no end
    refine Eq.trans ?_ (run?_entries (by simp) h [])
    cases rest <;> rfl

theorem told_plain {v : Value} (h : Plain v) : Told v := by
  induction h with
  | null => exact fun _ _ => rfl
  | bool b => exact fun _ _ => rfl
  | int _ _ => exact fun _ _ => rfl
  | text s => exact fun _ _ => rfl
  | list _ ih => exact told_list ih
  | record _ ih => exact told_record ih

/-- A value is read back from its compact text. -/
theorem parse?_compact {v : Value} (h : Plain v) : parse? v.compact = some v := by
  have hread := told_plain h [] []
  rw [List.append_nil] at hread
  rw [parse?, Value.compact, String.toList_ofList, lex?_chars h]
  exact hread

/-! ## § 6. Characters of a text -/

/-- A text without control characters. -/
def Printable (cs : List Char) : Prop := ∀ c ∈ cs, 0x20 ≤ c.toNat

instance (cs : List Char) : Decidable (Printable cs) :=
  -- the characters of the text are tried, and not all that there are
  List.decidableBAll (fun c : Char => 0x20 ≤ c.toNat) cs

theorem Printable.append (h : Printable cs) (h' : Printable cs') : Printable (cs ++ cs') :=
  fun c hc => (List.mem_append.1 hc).elim (h c) (h' c)

theorem Printable.cons (hc : 0x20 ≤ c.toNat) (h : Printable cs) : Printable (c :: cs) :=
  List.forall_mem_cons.2 ⟨hc, h⟩

theorem Printable.separated {α : Type} {write : α → List Char} {items : List α}
    (h : ∀ x ∈ items, Printable (write x)) : Printable ([','].intercalate (items.map write)) := by
  induction items with
  | nil => exact List.forall_mem_nil _
  | cons x rest ih =>
    have hx := h x List.mem_cons_self
    have hrest := ih fun y hy => h y (List.mem_cons_of_mem x hy)
    cases rest with
    | nil => simpa using hx
    | cons y rest =>
      have hall := hx.append (hrest.cons (c := ',') (by decide))
      simpa [List.intercalate_cons_cons] using hall

theorem printable_escape (c : Char) : Printable (escape c) := by
  have hdigit : ∀ n : Fin 16, 0x20 ≤ (Text.hexDigit n).toNat := by decide
  unfold escape
  split_ifs with hquote hslash hback hform hline hreturn htab hcontrol
  iterate 7 decide
  · have hhigh := hdigit ⟨c.toNat / 16, by omega⟩
    have hlow := hdigit ⟨c.toNat % 16, by omega⟩
    simp [Printable, hhigh, hlow]
  · exact List.forall_mem_singleton.2 (by omega)

theorem printable_int (n : Int) : Printable (toString n).toList := by
  have hdigits : Printable (Nat.toDigits 10 n.natAbs) := by
    intro c hc
    have hdigit := isDigit_of_mem_toDigits hc
    simp only [Char.isDigit, Bool.and_eq_true, decide_eq_true_eq] at hdigit
    have hlow : 48 ≤ c.toNat := hdigit.1
    omega
  rw [toList_toString]
  split
  · exact hdigits.cons (by decide)
  · exact hdigits

theorem printable_quote (s : String) : Printable (quote s) := by
  have hbody : Printable (s.toList.flatMap escape) := by
    intro c hc
    obtain ⟨x, -, hx⟩ := List.mem_flatMap.1 hc
    exact printable_escape x c hx
  exact (hbody.append (by decide : Printable ['\x22'])).cons (by decide)

/-- Control characters are escaped, so none is in a text, and a text is one line. -/
theorem printable_chars {v : Value} (h : Plain v) : Printable (chars v) := by
  induction h with
  | null => exact (by decide : Printable "null".toList)
  | bool b => cases b <;> decide
  | int _ _ => exact printable_int _
  | text s => exact printable_quote s
  | @list items _ ih =>
    rw [chars, itemChars_eq]
    exact ((Printable.separated ih).append (by decide : Printable [']'])).cons (by decide)
  | @record fields _ ih =>
    have hentries : ∀ f ∈ fields, Printable (entryChars (.text f.1, f.2)) :=
      fun f hf => (printable_quote f.1).append ((ih f hf).cons (c := ':') (by decide))
    rw [Value.record, chars, entryListChars_eq, List.map_map]
    exact ((Printable.separated hentries).append (by decide : Printable ['\x7d'])).cons (by decide)

end Json

end CausalPath
