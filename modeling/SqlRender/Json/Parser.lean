import SqlRender.Json.Basic
import SqlRender.Number.DoubleReader
import SqlRender.Text.Digits
import SqlRender.Text.Hex

/-!
# Reading JSON

A text is read strictly by the JSON grammar: no comments, no trailing commas, no control
character inside a string, no lone half of a surrogate pair, and at most one hundred and
twenty-seven arrays and objects around a value.
-/

namespace SqlRender.Json

/-- The four blanks of the JSON grammar. -/
def isSpace (c : Char) : Bool := c == ' ' || c == '\t' || c == '\n' || c == '\r'

/-- The text without its leading blanks. -/
def skipSpace (s : List Char) : List Char := s.dropWhile isSpace

/-- What follows a given word at the head of a text. -/
def expectWord (word : String) (s : List Char) : Option (List Char) :=
  if word.toList.isPrefixOf s then some (s.drop word.length) else none

/-- Takes digits into a number as long as it stays below sixty-four bits, and counts them. -/
def absorbDigits : Nat → List Char → Nat × Nat
  | n, [] => (n, 0)
  | n, c :: rest =>
    let next := 10 * n + Text.digitValue c
    if next < UInt64.size then
      let (m, count) := absorbDigits next rest
      (m, count + 1)
    else (n, 0)

/-- The double of a number with a fraction, a power of ten or too many digits. -/
def scaledNumber? (negative : Bool) (whole fraction : List Char) (power : Int) : Option Double :=
  let (front, taken) := absorbDigits 0 whole
  let (significand, more) := absorbDigits front fraction
  Double.ofScaled? negative significand ((whole.length : Int) - taken - more + power)

/-- The number of a text without fraction and power: whole where it fits sixty-four bits. -/
def wholeNumber? (negative : Bool) (digits : List Char) : Option Json :=
  let n := Text.natOfDigits digits
  if negative then
    if 0 < n ∧ n ≤ Nat.pow 2 63 then some (int (-n))
    else (scaledNumber? true digits [] 0).map double
  else if n < UInt64.size then some (int n)
  else (scaledNumber? false digits [] 0).map double

/-- The power of ten at the head of a text: none is zero, and one without digits is refused. -/
def readExponent? (s : List Char) : Option (Option Int × List Char) :=
  match s with
  | c :: rest =>
    if c == 'e' || c == 'E' then
      let (negative, body) := splitSign rest
      let (digits, after) := Text.spanDigits body
      if digits.isEmpty then none
      else
        let n : Int := Text.natOfDigits digits
        some (some (if negative then -n else n), after)
    else some (none, s)
  | [] => some (none, [])

/-- The digits behind a point at the head of a text: without a point there are none, and a point
without digits is refused. -/
def readFraction? (s : List Char) : Option (Option (List Char) × List Char) :=
  match s with
  | '.' :: rest =>
    let (digits, after) := Text.spanDigits rest
    if digits.isEmpty then none else some (some digits, after)
  | _ => some (none, s)

/-- The number of the parts of its text. -/
def numberOf? (negative : Bool) (whole : List Char) (fraction : Option (List Char))
    (power : Option Int) : Option Json :=
  if fraction.isNone && power.isNone then wholeNumber? negative whole
  else (scaledNumber? negative whole (fraction.getD []) (power.getD 0)).map double

/-- Splits off a minus. -/
def splitMinus : List Char → Bool × List Char
  | '-' :: rest => (true, rest)
  | s => (false, s)

/-- Reads a number. -/
def readNumber? (s : List Char) : Option (Json × List Char) :=
  let (negative, body) := splitMinus s
  let (whole, rest) := Text.spanDigits body
  if whole.isEmpty || (whole.head? == some '0' && whole.length != 1) then none
  else
    (readFraction? rest).bind fun (fraction, rest) =>
      (readExponent? rest).bind fun (power, rest) =>
        (numberOf? negative whole fraction power).map (·, rest)

/-- The number of four hexadecimal digits at the head of a text. -/
def readUnit? (s : List Char) : Option (Nat × List Char) :=
  match s with
  | a :: b :: c :: d :: rest => do
    let n ← [a, b, c, d].foldlM (fun n x => (Text.hexValue? x).map (16 * n + ·)) 0
    return (n, rest)
  | _ => none

/-- The character of an escape after `\u`: one unit, or the two halves of a surrogate pair. -/
def readEscapedUnit? (s : List Char) : Option (Char × List Char) := do
  let (high, rest) ← readUnit? s
  if 0xD800 ≤ high ∧ high ≤ 0xDBFF then
    match rest with
    | '\\' :: 'u' :: rest =>
      let (low, rest) ← readUnit? rest
      if 0xDC00 ≤ low ∧ low ≤ 0xDFFF then
        return (Char.ofNat (0x10000 + (high - 0xD800) * 0x400 + (low - 0xDC00)), rest)
      else none
    | _ => none
  else if 0xDC00 ≤ high ∧ high ≤ 0xDFFF then none
  else return (Char.ofNat high, rest)

/-- The character of an escape of one letter. -/
def simpleEscape? : Char → Option Char
  | '"' => some '"'
  | '\\' => some '\\'
  | '/' => some '/'
  | 'b' => some '\x08'
  | 'f' => some '\x0c'
  | 'n' => some '\n'
  | 'r' => some '\r'
  | 't' => some '\t'
  | _ => none

/-- A unit takes four characters. -/
theorem length_readUnit {s rest : List Char} {n : Nat} (h : readUnit? s = some (n, rest)) :
    s.length = rest.length + 4 := by
  unfold readUnit? at h
  split at h
  · simp only [Option.bind_eq_bind, Option.bind_eq_some_iff, Option.pure_def,
      Option.some.injEq, Prod.mk.injEq] at h
    obtain ⟨_, -, -, rfl⟩ := h
    simp
  · simp at h

/-- An escape takes at least one character. -/
theorem length_readEscapedUnit {s rest : List Char} {c : Char}
    (h : readEscapedUnit? s = some (c, rest)) : rest.length < s.length := by
  unfold readEscapedUnit? at h
  obtain ⟨⟨high, after⟩, hu, h⟩ := Option.bind_eq_some_iff.1 h
  have := length_readUnit hu
  simp only at h
  split at h
  · split at h
    · obtain ⟨⟨low, last⟩, hl, h⟩ := Option.bind_eq_some_iff.1 h
      have := length_readUnit hl
      simp only at h
      split at h
      · simp only [Option.pure_def, Option.some.injEq, Prod.mk.injEq] at h
        obtain ⟨-, rfl⟩ := h
        simp only [List.length_cons] at *
        omega
      · simp at h
    · simp at h
  · split at h
    · simp at h
    · simp only [Option.pure_def, Option.some.injEq, Prod.mk.injEq] at h
      obtain ⟨-, rfl⟩ := h
      omega

/-- Reads the rest of a string after its opening quote, with the characters read so far in
reverse. -/
def readString? (done : List Char) (s : List Char) : Option (String × List Char) :=
  match s with
  | [] => none
  | c :: rest =>
    if c == '"' then some (String.ofList done.reverse, rest)
    else if c.toNat < 0x20 then none
    else if c == '\\' then
      match rest with
      | [] => none
      | 'u' :: digits =>
        match h : readEscapedUnit? digits with
        | some (x, after) =>
          have := length_readEscapedUnit h
          readString? (x :: done) after
        | none => none
      | e :: after =>
        match simpleEscape? e with
        | some x => readString? (x :: done) after
        | none => none
    else readString? (c :: done) rest
termination_by s.length
decreasing_by all_goals simp only [List.length_cons]; omega

mutual

/-- Reads a value inside fewer than `depth` further arrays and objects. -/
def readValue? (fuel depth : Nat) (s : List Char) : Option (Json × List Char) :=
  match fuel with
  | 0 => none
  | fuel + 1 =>
    match skipSpace s with
    | [] => none
    | c :: rest =>
      if c == 'n' then (expectWord "ull" rest).map (null, ·)
      else if c == 't' then (expectWord "rue" rest).map (bool true, ·)
      else if c == 'f' then (expectWord "alse" rest).map (bool false, ·)
      else if c == '"' then (readString? [] rest).map fun (x, r) => (string x, r)
      else if c == '[' then
        match depth with
        | 0 => none
        | depth + 1 =>
          match skipSpace rest with
          | ']' :: rest => some (array [], rest)
          | rest => (readItems? fuel depth rest).map fun (items, r) => (array items, r)
      else if c == '\x7b' then
        match depth with
        | 0 => none
        | depth + 1 =>
          match skipSpace rest with
          | '\x7d' :: rest => some (object [], rest)
          | rest => (readFields? fuel depth [] rest).map fun (fields, r) => (object fields, r)
      else readNumber? (c :: rest)

/-- Reads the items of an array that is not empty, up to its closing bracket. -/
def readItems? (fuel depth : Nat) (s : List Char) : Option (List Json × List Char) :=
  match fuel with
  | 0 => none
  | fuel + 1 => do
    let (item, rest) ← readValue? fuel depth s
    match skipSpace rest with
    | ']' :: rest => some ([item], rest)
    | ',' :: rest => do
      let (items, rest) ← readItems? fuel depth rest
      some (item :: items, rest)
    | _ => none

/-- Reads the fields of an object that is not empty, up to its closing brace, into the fields
read so far. -/
def readFields? (fuel depth : Nat) (done : List (String × Json)) (s : List Char) :
    Option (List (String × Json) × List Char) :=
  match fuel with
  | 0 => none
  | fuel + 1 =>
    match skipSpace s with
    | '"' :: rest => do
      let (name, rest) ← readString? [] rest
      match skipSpace rest with
      | ':' :: rest => do
        let (value, rest) ← readValue? fuel depth rest
        let done := putField name value done
        match skipSpace rest with
        | '\x7d' :: rest => some (done, rest)
        | ',' :: rest => readFields? fuel depth done rest
        | _ => none
      | _ => none
    | _ => none

end

/-- Reads a whole text as one document. -/
def parse? (s : String) : Option Json :=
  let cs := s.toList
  match readValue? (2 * cs.length + 2) 127 cs with
  | some (value, rest) => if (skipSpace rest).isEmpty then some value else none
  | none => none

end SqlRender.Json
