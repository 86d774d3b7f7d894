import SqlRender.Toml.Scalar

/-!
# Reading TOML values

Strings in four forms, keys, arrays and inline tables. An inline table is complete where it
stands: its entries may be given by dotted keys, and nothing is added to it later.
-/

namespace SqlRender.Toml

/-- A character that may not stand in a string or a comment. -/
def isForbidden (c : Char) : Bool := (c.toNat < 0x20 && c != '\t') || c.toNat == 0x7F

/-- The text without its leading spaces and tabs. -/
def skipGap (s : List Char) : List Char := s.dropWhile fun c => c == ' ' || c == '\t'

/-- What follows a line break at the head of a text. -/
def lineBreak? : List Char → Option (List Char)
  | '\n' :: rest => some rest
  | '\r' :: '\n' :: rest => some rest
  | _ => none

/-- The text after a comment at its head, if there is one and it is sound. -/
def skipComment? (s : List Char) : Option (List Char) :=
  match s with
  | '#' :: rest =>
    let body := rest.takeWhile (· != '\n')
    let words := if body.getLast? == some '\r' then body.dropLast else body
    if words.any isForbidden then none else some (rest.drop words.length)
  | _ => some s

/-- The text after blanks, comments and line breaks. The fuel bounds the lines. -/
def skipLines? : Nat → List Char → Option (List Char)
  | 0, _ => none
  | fuel + 1, s =>
    match skipComment? (skipGap s) with
    | none => none
    | some s =>
      match lineBreak? s with
      | some rest => skipLines? fuel rest
      | none => some s

/-- The character with a number of so many hexadecimal digits at the head of a text. -/
def readCodePoint? (count : Nat) (s : List Char) : Option (Char × List Char) := do
  let digits := s.take count
  if digits.length = count then
    let n ← digits.foldlM (fun n c => (Text.hexValue? c).map (16 * n + ·)) 0
    if n < 0xD800 ∨ (0xDFFF < n ∧ n < 0x110000) then some (Char.ofNat n, s.drop count) else none
  else none

/-- The character of an escape after its backslash. -/
def readEscape? : List Char → Option (Char × List Char)
  | 'b' :: rest => some ('\x08', rest)
  | 'e' :: rest => some ('\x1b', rest)
  | 't' :: rest => some ('\t', rest)
  | 'n' :: rest => some ('\n', rest)
  | 'f' :: rest => some ('\x0c', rest)
  | 'r' :: rest => some ('\r', rest)
  | '"' :: rest => some ('"', rest)
  | '\\' :: rest => some ('\\', rest)
  | 'x' :: rest => readCodePoint? 2 rest
  | 'u' :: rest => readCodePoint? 4 rest
  | 'U' :: rest => readCodePoint? 8 rest
  | _ => none

/-- The rest of a string of one line after its opening quote; a literal string has no
escapes. -/
def readLine? (quote : Char) (escapes : Bool) : Nat → List Char → List Char →
    Option (String × List Char)
  | 0, _, _ => none
  | _ + 1, _, [] => none
  | fuel + 1, done, c :: rest =>
    if c == quote then some (String.ofList done.reverse, rest)
    else if c == '\\' && escapes then
      match readEscape? rest with
      | some (x, rest) => readLine? quote escapes fuel (x :: done) rest
      | none => none
    else if isForbidden c then none
    else readLine? quote escapes fuel (c :: done) rest

/-- The text without its leading spaces, tabs and line breaks. -/
def skipBlankLines : List Char → List Char
  | ' ' :: rest => skipBlankLines rest
  | '\t' :: rest => skipBlankLines rest
  | '\n' :: rest => skipBlankLines rest
  | '\r' :: '\n' :: rest => skipBlankLines rest
  | s => s

/-- The text after the blanks and line breaks that follow a backslash at the end of a line, if
the backslash is at the end of a line. -/
def skipJoin? (s : List Char) : Option (List Char) :=
  (lineBreak? (skipGap s)).map skipBlankLines

/-- The rest of a string of several lines after its opening quotes. Three quotes end it, and
up to two more in front of them belong to it. Line breaks stay as they are written. -/
def readLines? (quote : Char) (escapes : Bool) : Nat → List Char → List Char →
    Option (String × List Char)
  | 0, _, _ => none
  | _ + 1, _, [] => none
  | fuel + 1, done, c :: rest =>
    if c == quote then
      let quotes := (c :: rest).takeWhile (· == quote)
      if quotes.length < 3 then readLines? quote escapes fuel (c :: done) rest
      else if quotes.length ≤ 5 then
        some (String.ofList (List.replicate (quotes.length - 3) quote ++ done).reverse,
          (c :: rest).drop quotes.length)
      else none
    else if c == '\\' && escapes then
      match readEscape? rest with
      | some (x, rest) => readLines? quote escapes fuel (x :: done) rest
      | none =>
        match skipJoin? rest with
        | some rest => readLines? quote escapes fuel done rest
        | none => none
    else
      match c, rest with
      | '\n', _ => readLines? quote escapes fuel ('\n' :: done) rest
      | '\r', '\n' :: after => readLines? quote escapes fuel ('\n' :: '\r' :: done) after
      | _, _ => if isForbidden c then none else readLines? quote escapes fuel (c :: done) rest

/-- A string at the head of a text, in any of the four forms. -/
def readString? (s : List Char) : Option (String × List Char) :=
  let fuel := s.length + 1
  let lines (quote : Char) (escapes : Bool) (rest : List Char) : Option (String × List Char) :=
    readLines? quote escapes fuel [] ((lineBreak? rest).getD rest)
  match s with
  | '"' :: '"' :: '"' :: rest => lines '"' true rest
  | '\'' :: '\'' :: '\'' :: rest => lines '\'' false rest
  | '"' :: rest => readLine? '"' true fuel [] rest
  | '\'' :: rest => readLine? '\'' false fuel [] rest
  | _ => none

/-- A character of a bare key. -/
def isBareKeyChar (c : Char) : Bool := c.isAlphanum || c == '_' || c == '-'

/-- One part of a key. -/
def readKeyPart? (s : List Char) : Option (String × List Char) :=
  match s with
  | '"' :: rest => readLine? '"' true (rest.length + 1) [] rest
  | '\'' :: rest => readLine? '\'' false (rest.length + 1) [] rest
  | _ =>
    let word := s.takeWhile isBareKeyChar
    if word.isEmpty then none else some (String.ofList word, s.dropWhile isBareKeyChar)

/-- The dotted parts of a key with gaps around them. The fuel bounds the parts. -/
def readKeyParts? : Nat → List Char → Option (List String × List Char)
  | 0, _ => none
  | fuel + 1, s => do
    let (part, rest) ← readKeyPart? (skipGap s)
    match skipGap rest with
    | '.' :: rest =>
      let (parts, rest) ← readKeyParts? fuel rest
      return (part :: parts, rest)
    | rest => return ([part], rest)

/-- How deep a document may go: the most parts of a key, and the most arrays and inline tables
around one another. -/
def maxDepth : Nat := 80

/-- A key with at most as many dotted parts as a document may go deep. -/
def readKey? (s : List Char) : Option (List String × List Char) := readKeyParts? maxDepth s

/-- A character of a word. -/
def isWordChar (c : Char) : Bool :=
  c.isAlphanum || c == '_' || c == '-' || c == '+' || c == '.' || c == ':'

/-- The word at the head of a text. A date and the time after a space are one word. -/
def readWord (s : List Char) : List Char × List Char :=
  let word := s.takeWhile isWordChar
  let rest := s.dropWhile isWordChar
  match rest with
  | ' ' :: c :: after =>
    if skipDate? word == some [] && c.isDigit then
      (word ++ ' ' :: (c :: after).takeWhile isWordChar, (c :: after).dropWhile isWordChar)
    else (word, rest)
  | _ => (word, rest)

/-- How a table has come about: on the way to the one a header opens, by such a header itself,
or on the way of a dotted key. -/
inductive Origin
  | passed
  | opened
  | dotted
deriving DecidableEq

/-- An entry of a table while it is being read: a value that is complete, a table to which more
may be added, or a list of tables. -/
inductive Node
  | value (v : Toml)
  | table (origin : Origin) (entries : List (String × Node))
  | listed (tables : List (List (String × Node)))

mutual

/-- The value that has been read. -/
def Node.toToml : Node → Toml
  | .value v => v
  | .table _ entries => .table (entriesToToml entries)
  | .listed tables => .array (tablesToToml tables)

/-- The entries that have been read. -/
def entriesToToml : List (String × Node) → List (String × Toml)
  | [] => []
  | (name, node) :: rest => (name, node.toToml) :: entriesToToml rest

/-- The tables that have been read. -/
def tablesToToml : List (List (String × Node)) → List Toml
  | [] => []
  | entries :: rest => .table (entriesToToml entries) :: tablesToToml rest

end

/-- Puts a node in the place of an entry, or at the end. -/
def putNode (name : String) (node : Node) : List (String × Node) → List (String × Node)
  | [] => [(name, node)]
  | (other, old) :: rest =>
    if other = name then (name, node) :: rest else (other, old) :: putNode name node rest

/-- Adds a value under a dotted key. The key may lead through tables that no header has opened
and into the last table of a list, but the table that takes the value has been made by dotted
keys, or is the one at hand; `takes` says that of the table at hand. -/
def addValue? (takes : Bool) : List String → Toml → List (String × Node) →
    Option (List (String × Node))
  | [], _, _ => none
  | [name], v, entries =>
    if takes && (entries.lookup name).isNone then some (putNode name (.value v) entries) else none
  | name :: path, v, entries =>
    match entries.lookup name with
    | none => (addValue? true path v []).map fun inner => putNode name (.table .dotted inner) entries
    | some (.table origin inner) =>
      if origin = .opened then none
      else (addValue? (origin = .dotted) path v inner).map fun inner =>
        putNode name (.table origin inner) entries
    | some (.listed tables) =>
      match tables.getLast? with
      | some last =>
        (addValue? false path v last).map fun inner =>
          putNode name (.listed (tables.dropLast ++ [inner])) entries
      | none => none
    | some (.value _) => none

mutual

/-- The value at the head of a text, with `depth` more arrays and inline tables around one
another at most. -/
def readValue? (fuel depth : Nat) (s : List Char) : Option (Toml × List Char) :=
  match fuel with
  | 0 => none
  | fuel + 1 =>
    match s, depth with
    | '"' :: _, _ => (readString? s).map fun (x, rest) => (string x, rest)
    | '\'' :: _, _ => (readString? s).map fun (x, rest) => (string x, rest)
    | '[' :: rest, depth + 1 =>
      (readItems? fuel depth rest).map fun (items, rest) => (array items, rest)
    | '\x7b' :: rest, depth + 1 =>
      (readEntries? fuel depth [] rest).map fun (entries, rest) =>
        (table (entriesToToml entries), rest)
    | _, _ =>
      let (word, rest) := readWord s
      (ofWord? word).map (·, rest)

/-- The items of an array up to its closing bracket. -/
def readItems? (fuel depth : Nat) (s : List Char) : Option (List Toml × List Char) :=
  match fuel with
  | 0 => none
  | fuel + 1 =>
    match skipLines? (s.length + 1) s with
    | none => none
    | some (']' :: rest) => some ([], rest)
    | some s => do
      let (item, rest) ← readValue? fuel depth s
      match ← skipLines? (rest.length + 1) rest with
      | ']' :: rest => some ([item], rest)
      | ',' :: rest => do
        let (items, rest) ← readItems? fuel depth rest
        some (item :: items, rest)
      | _ => none

/-- The entries of an inline table up to its closing brace. Blanks, comments and line breaks may
stand between any two of its parts. -/
def readEntries? (fuel depth : Nat) (done : List (String × Node)) (s : List Char) :
    Option (List (String × Node) × List Char) :=
  match fuel with
  | 0 => none
  | fuel + 1 =>
    match skipLines? (s.length + 1) s with
    | none => none
    | some ('\x7d' :: rest) => some (done, rest)
    | some s => do
      let (path, rest) ← readKey? s
      let rest ← expectChar? '=' (← skipLines? (rest.length + 1) rest)
      let (v, rest) ← readValue? fuel depth (← skipLines? (rest.length + 1) rest)
      let done ← addValue? true path v done
      match ← skipLines? (rest.length + 1) rest with
      | '\x7d' :: rest => some (done, rest)
      | ',' :: rest => readEntries? fuel depth done rest
      | _ => none

end

end SqlRender.Toml
