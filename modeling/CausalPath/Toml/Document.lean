import CausalPath.Toml.Literal

/-!
# TOML documents

A document is read in two steps. The first reads its statements: headers of tables, headers of
arrays of tables, and assignments. The second carries them out, one after the other, on a tree
whose tables know how they came to be: a table may be opened once, by a header of its own or by
dotted keys, but not by both.
-/

namespace CausalPath

namespace Toml

/-! ## § 1. Keys -/

def isGap (c : Char) : Bool := c = ' ' ∨ c = '\t'

def dropGap (cs : List Char) : List Char := cs.dropWhile isGap

def isBare (c : Char) : Bool := c.isAlphanum || c = '_' || c = '-'

/-- Reads one part of a key. -/
def readPart? : Reads String := fun cs =>
  match cs with
  | [] => none
  | c :: _ =>
    if c = '\x22' ∨ c = '\x27' then
      readLineString? cs
    else if isBare c then
      some (String.ofList (cs.takeWhile isBare), cs.dropWhile isBare)
    else
      none

/-- Reads a key of at most `count` parts, which points divide; blanks may stand around each part. -/
def readParts? : Nat → Reads (List String)
  | 0 => fun _ => none
  | count + 1 => fun cs => do
    let (part, rest) ← readPart? (dropGap cs)
    match dropGap rest with
    | '.' :: rest =>
      let (parts, rest) ← readParts? count rest
      return (part :: parts, rest)
    | rest => return ([part], rest)

/-- How deep containers may be nested, and how many parts a key may have. -/
def maxDepth : Nat := 79

def readKey? : Reads (List String) := readParts? maxDepth

/-! ## § 2. The tree -/

/-- How a table came to be. -/
inductive Origin
  /-- By a header of its own, or by braces. -/
  | opened
  /-- By the header of a table inside it. -/
  | passed
  /-- By a dotted key. -/
  | dotted
  deriving DecidableEq

/-- What a key of a document stands for. -/
inductive Node
  | value (v : Value)
  | table (origin : Origin) (entries : List (String × Node))
  /-- An array of tables, the last one first. -/
  | tables (list : List (List (String × Node)))

abbrev Entries := List (String × Node)

def Entries.get? (es : Entries) (k : String) : Option Node :=
  (es.find? fun e => e.1 = k).map (·.2)

def Entries.put (es : Entries) (k : String) (n : Node) : Entries :=
  if (es.get? k).isSome then es.map fun e => if e.1 = k then (k, n) else e else es ++ [(k, n)]

/-- Changes the table at the end of a path. Missing tables are made on the way; an array of tables
stands for its last table. Along a dotted key, a table that was opened by a header is refused. -/
def change? (dotted : Bool) (f : Origin → Entries → Option Entries) :
    List String → Origin → Entries → Option Entries
  | [], origin, es => f origin es
  | k :: path, _, es =>
    match es.get? k with
    | none => do
      let origin := if dotted then Origin.dotted else .passed
      return es.put k (.table origin (← change? dotted f path origin []))
    | some (.table origin sub) =>
      if dotted ∧ origin = .opened then
        none
      else do
        return es.put k (.table origin (← change? dotted f path origin sub))
    | some (.tables (last :: rest)) => do
      return es.put k (.tables ((← change? dotted f path .opened last) :: rest))
    | some _ => none

/-- Assigns a value to a key that has none. A table takes plain keys unless dotted keys made it, and
dotted keys only if they did. -/
def assign? (path : List String) (v : Value) (es : Entries) : Option Entries :=
  match path.getLast? with
  | none => none
  | some k =>
    let parents := path.dropLast
    change? true
      (fun origin es =>
        if (origin = .dotted ↔ parents = []) ∨ (es.get? k).isSome then
          none
        else
          some (es.put k (.value v)))
      parents .opened es

/-- Opens a table by its header. -/
def openTable? (path : List String) (es : Entries) : Option Entries :=
  match path.getLast? with
  | none => none
  | some k =>
    change? false
      (fun _ es =>
        match es.get? k with
        | none => some (es.put k (.table .opened []))
        | some (.table .passed sub) => some (es.put k (.table .opened sub))
        | some _ => none)
      path.dropLast .opened es

/-- Adds a table to an array of tables by its header. -/
def openItem? (path : List String) (es : Entries) : Option Entries :=
  match path.getLast? with
  | none => none
  | some k =>
    change? false
      (fun _ es =>
        match es.get? k with
        | none => some (es.put k (.tables [[]]))
        | some (.tables list) => some (es.put k (.tables ([] :: list)))
        | some _ => none)
      path.dropLast .opened es

mutual

def Node.toValue : Node → Value
  | .value v => v
  | .table _ entries => .map (entryValues entries)
  | .tables list => .list (tableValues list).reverse

def entryValues : List (String × Node) → List (Value × Value)
  | [] => []
  | e :: rest => entryValue e :: entryValues rest

def entryValue : String × Node → Value × Value
  | (k, n) => (.text k, n.toValue)

def tableValues : List (List (String × Node)) → List Value
  | [] => []
  | es :: rest => .map (entryValues es) :: tableValues rest

end

/-! ## § 3. Values -/

/-- Drops blanks, line ends and comments. A comment ends with its line. -/
def dropFiller? (inComment : Bool) : List Char → Option (List Char)
  | [] => if inComment then none else some []
  | '\r' :: '\n' :: rest => dropFiller? false rest
  | '\n' :: rest => dropFiller? false rest
  | c :: rest =>
    if inComment then
      if isPlain c then dropFiller? true rest else none
    else if isGap c then dropFiller? false rest
    else if c = '#' then dropFiller? true rest
    else some (c :: rest)

/-- Reads the rest of an array of at most `count` items. -/
def readItems? (item : Reads Value) : Nat → Reads (List Value)
  | 0 => fun _ => none
  | count + 1 => fun cs => do
    match ← dropFiller? false cs with
    | ']' :: rest => return ([], rest)
    | cs =>
      let (v, rest) ← item cs
      match ← dropFiller? false rest with
      | ',' :: rest =>
        let (vs, rest) ← readItems? item count rest
        return (v :: vs, rest)
      | ']' :: rest => return ([v], rest)
      | _ => none

def readAssignment? (item : Reads Value) : Reads (List String × Value) := fun cs => do
  let (path, rest) ← readKey? cs
  match rest with
  | '=' :: rest =>
    let (v, rest) ← item (dropGap rest)
    return ((path, v), rest)
  | _ => none

/-- Reads the rest of a table in braces, of at most `count` assignments. -/
def readFields? (item : Reads Value) (es : Entries) : Nat → Reads Entries
  | 0 => fun _ => none
  | count + 1 => fun cs => do
    let ((path, v), rest) ← readAssignment? item cs
    let es ← assign? path v es
    match dropGap rest with
    | ',' :: rest => readFields? item es count rest
    | '\x7d' :: rest => return (es, rest)
    | _ => none

/-- Reads a value whose containers are nested at most `depth` deep. -/
def readValue? : Nat → Reads Value
  | 0 => readLiteral?
  | depth + 1 => fun cs =>
    match cs with
    | '[' :: rest =>
      (readItems? (readValue? depth) (rest.length + 1) rest).map fun r => (.list r.1, r.2)
    | '\x7b' :: rest =>
      match dropGap rest with
      | '\x7d' :: rest => some (.map [], rest)
      | rest =>
        (readFields? (readValue? depth) [] (rest.length + 1) rest).map fun r =>
          ((Node.table .opened r.1).toValue, r.2)
    | _ => readLiteral? cs

/-! ## § 4. Statements -/

/-- A statement of a document. -/
inductive Statement
  | openTable (path : List String)
  | openItem (path : List String)
  | assign (path : List String) (value : Value)

/-- Drops the rest of a line: blanks, a comment, and the line's end. -/
def endLine? (cs : List Char) : Option (List Char) :=
  match dropGap cs with
  | '#' :: rest => lineEnd? (rest.dropWhile isPlain)
  | rest => lineEnd? rest
where
  /-- Drops a line's end; the end of the text is one too. -/
  lineEnd? : List Char → Option (List Char)
    | [] => some []
    | '\n' :: rest => some rest
    | '\r' :: '\n' :: rest => some rest
    | _ => none

/-- Reads the statement at the head of a line, up to its last character. -/
def readStatement? : Reads Statement := fun cs =>
  match cs with
  | '[' :: '[' :: rest => do
    let (path, rest) ← readKey? rest
    match rest with
    | ']' :: ']' :: rest => return (.openItem path, rest)
    | _ => none
  | '[' :: rest => do
    let (path, rest) ← readKey? rest
    match rest with
    | ']' :: rest => return (.openTable path, rest)
    | _ => none
  | _ => (readAssignment? (readValue? maxDepth) cs).map fun r => (.assign r.1.1 r.1.2, r.2)

def isBlankLine (cs : List Char) : Bool :=
  match cs with
  | [] => true
  | c :: _ => c = '#' || c = '\n' || c = '\r'

/-- Reads the statements of a text of at most `count` lines. -/
def readStatements? : Nat → List Char → Option (List Statement)
  | 0, _ => none
  | count + 1, cs =>
    let cs := dropGap cs
    if cs.isEmpty then
      some []
    else if isBlankLine cs then do
      readStatements? count (← endLine? cs)
    else do
      let (s, rest) ← readStatement? cs
      let later ← readStatements? count (← endLine? rest)
      return s :: later

/-! ## § 5. Documents -/

/-- Carries out a statement in the table that was opened last. -/
def Statement.run? (current : List String) (es : Entries) :
    Statement → Option (List String × Entries)
  | .openTable path => (openTable? path es).map (path, ·)
  | .openItem path => (openItem? path es).map (path, ·)
  | .assign path v =>
    (change? false (fun _ es => assign? path v es) current .opened es).map (current, ·)

def runAll? (current : List String) (es : Entries) : List Statement → Option Entries
  | [] => some es
  | s :: rest => do
    let (current, es) ← s.run? current es
    runAll? current es rest

/-- The value of a document: a map. A byte order mark may come first. -/
def parse? (s : String) : Option Value := do
  let cs :=
    match s.toList with
    | '\ufeff' :: rest => rest
    | cs => cs
  let statements ← readStatements? (cs.length + 1) cs
  let es ← runAll? [] [] statements
  return (Node.table .opened es).toValue

end Toml

end CausalPath
