import SqlRender.Proofs.Json.Number
import SqlRender.Proofs.Json.Strings

/-!
# Documents read back from their texts

A document is written without blanks, and each of its values is read back up to where it ends.
`parse?_render` says that the whole text is read as the document, when there are no more arrays and
objects around a value than the reader takes. What a text can say is more coarse than a document in
three places only: an object has each of its names once, a whole number fits sixty-four bits, and a
double is read from its text as itself.
-/

namespace SqlRender

namespace Json

/-- The characters of a string with its quotes. -/
def quotedChars (s : String) : List Char := '"' :: (s.toList.flatMap escapedChar ++ ['"'])

mutual

/-- The characters of a document. -/
def chars : Json → List Char
  | null => "null".toList
  | bool b => (if b then "true" else "false").toList
  | int n => (toString n).toList
  | double x => (if x.isFinite then x.structureText else "null").toList
  | string s => quotedChars s
  | array items => '[' :: (itemsChars items ++ [']'])
  | object fields => '\x7b' :: (fieldsChars fields ++ ['\x7d'])

/-- The characters of items with commas between them. -/
def itemsChars : List Json → List Char
  | [] => []
  | [item] => item.chars
  | item :: next :: rest => item.chars ++ ',' :: itemsChars (next :: rest)

/-- The characters of fields with commas between them. -/
def fieldsChars : List (String × Json) → List Char
  | [] => []
  | [(name, value)] => quotedChars name ++ ':' :: value.chars
  | (name, value) :: next :: rest =>
    quotedChars name ++ ':' :: (value.chars ++ ',' :: fieldsChars (next :: rest))

end

mutual

/-- The number of arrays and objects around the innermost value of a document. -/
def depth : Json → Nat
  | array items => 1 + itemsDepth items
  | object fields => 1 + fieldsDepth fields
  | _ => 0

/-- The greatest depth of items. -/
def itemsDepth : List Json → Nat
  | [] => 0
  | item :: rest => max item.depth (itemsDepth rest)

/-- The greatest depth of fields. -/
def fieldsDepth : List (String × Json) → Nat
  | [] => 0
  | (_, value) :: rest => max value.depth (fieldsDepth rest)

end

/-- A number is read from its text as itself. -/
def readsAs (s : List Char) (x : Double) : Bool :=
  match readNumber? s with
  | some (double y, []) => x = y
  | _ => false

mutual

/-- Whether a text can say everything of a document. -/
def isTextual : Json → Bool
  | int n => -2 ^ 63 ≤ n && n < 2 ^ 64
  | double x => x.isFinite && readsAs x.structureText.toList x
  | array items => itemsTextual items
  | object fields => (fields.map (·.1)).Nodup && fieldsTextual fields
  | _ => true

/-- Whether a text can say everything of items. -/
def itemsTextual : List Json → Bool
  | [] => true
  | item :: rest => item.isTextual && itemsTextual rest

/-- Whether a text can say everything of fields. -/
def fieldsTextual : List (String × Json) → Bool
  | [] => true
  | (_, value) :: rest => value.isTextual && fieldsTextual rest

end

section Printer

/-- A comma in front of what is not the first, if there is anything. -/
def comma {α : Type} (first : Bool) (items : List α) : List Char :=
  if first || items.isEmpty then [] else [',']

/-- There is a comma in front of what follows something else. -/
theorem comma_cons {α : Type} (item : α) (items : List α) :
    comma false (item :: items) = [','] := rfl

/-- A comma takes one character. -/
theorem length_comma_cons {α : Type} (item : α) (items : List α) :
    (comma false (item :: items)).length = 1 := rfl

/-- The characters of items are those of the first one and of the others, with a comma between. -/
theorem itemsChars_cons (item : Json) (rest : List Json) :
    itemsChars (item :: rest) = item.chars ++ (comma false rest ++ itemsChars rest) := by
  cases rest with
  | nil => simp [itemsChars, comma]
  | cons next rest =>
    rw [itemsChars]
    rfl

/-- The characters of fields are those of the first one and of the others, with a comma between. -/
theorem fieldsChars_cons (name : String) (value : Json) (rest : List (String × Json)) :
    fieldsChars ((name, value) :: rest) =
      quotedChars name ++ ':' :: (value.chars ++ (comma false rest ++ fieldsChars rest)) := by
  cases rest with
  | nil => simp [fieldsChars, comma]
  | cons next rest =>
    rw [fieldsChars]
    rfl

/-- Characters are pushed one after the other. -/
theorem toList_foldl_push (cs : List Char) (out : String) :
    (cs.foldl String.push out).toList = out.toList ++ cs := by
  induction cs generalizing out with
  | nil => rw [List.foldl_nil, List.append_nil]
  | cons c cs ih => rw [List.foldl_cons, ih, String.toList_push, List.append_assoc,
      List.singleton_append]

/-- A string is written with its quotes at the end of a text. -/
theorem toList_appendString (out s : String) :
    (appendString out s).toList = out.toList ++ quotedChars s := by
  have hbody : ∀ (cs : List Char) (out : String),
      (cs.foldl (fun out c => (escapedChar c).foldl String.push out) out).toList =
        out.toList ++ cs.flatMap escapedChar := by
    intro cs
    induction cs with
    | nil => simp
    | cons c cs ih =>
      intro out
      rw [List.foldl_cons, ih, toList_foldl_push, List.flatMap_cons, List.append_assoc]
  rw [appendString, String.foldl_eq_foldl_toList, String.toList_push, hbody, String.toList_push,
    quotedChars]
  simp

mutual

/-- A document is written at the end of a text. -/
theorem toList_append : ∀ (j : Json) (out : String), (append out j).toList = out.toList ++ j.chars
  | null, out => by rw [append, String.toList_append]; rfl
  | bool b, out => by rw [append, String.toList_append]; rfl
  | int n, out => by rw [append, String.toList_append]; rfl
  | double x, out => by rw [append, String.toList_append]; rfl
  | string s, out => by rw [append, toList_appendString, chars]
  | array items, out => by
    rw [append, String.toList_push, toList_appendItems, String.toList_push, chars]
    simp [comma]
  | object fields, out => by
    rw [append, String.toList_push, toList_appendFields, String.toList_push, chars]
    simp [comma]

/-- Items are written at the end of a text. -/
theorem toList_appendItems : ∀ (items : List Json) (first : Bool) (out : String),
    (appendItems out first items).toList = out.toList ++ (comma first items ++ itemsChars items)
  | [], first, out => by simp [appendItems, comma, itemsChars]
  | item :: rest, first, out => by
    rw [appendItems, toList_appendItems rest, toList_append item, itemsChars_cons]
    cases first <;> simp [comma]

/-- Fields are written at the end of a text. -/
theorem toList_appendFields : ∀ (fields : List (String × Json)) (first : Bool) (out : String),
    (appendFields out first fields).toList =
      out.toList ++ (comma first fields ++ fieldsChars fields)
  | [], first, out => by simp [appendFields, comma, fieldsChars]
  | (name, value) :: rest, first, out => by
    rw [appendFields, toList_appendFields rest, toList_append value, String.toList_push,
      toList_appendString, fieldsChars_cons]
    cases first <;> simp [comma]

end

/-- The text of a document has its characters. -/
theorem toList_render (j : Json) : j.render.toList = j.chars := toList_append j ""

end Printer

section Reader

variable {s rest : List Char} {c : Char} {j : Json} {fuel depth : Nat}

/-- A character that is no blank is where the blanks in front of it end. -/
theorem skipSpace_cons (h : isSpace c = false) : skipSpace (c :: s) = c :: s :=
  List.dropWhile_cons_of_neg (by simp [h])

/-- What ends a value is no blank. -/
theorem skipSpace_of_ends (h : Ends rest) : skipSpace rest = rest := by
  cases rest with
  | nil => rfl
  | cons c rest =>
    have hmarks : [',', ']', '\x7d'].all (!isSpace ·) := rfl
    exact skipSpace_cons (by simpa using List.all_eq_true.mp hmarks c (h c rfl))

/-- A character that a number may start with. -/
def startsNumber (c : Char) : Bool := c == '-' || c.isDigit

/-- What is read as a number starts like one. -/
theorem exists_startsNumber {x : Json × List Char} (h : readNumber? s = some x) :
    ∃ c after, s = c :: after ∧ startsNumber c := by
  cases s with
  | nil => cases h
  | cons c after =>
    refine ⟨c, after, rfl, ?_⟩
    by_cases hminus : c = '-'
    · rw [hminus]
      rfl
    · have hsplit : splitMinus (c :: after) = (false, c :: after) := by
        simp [splitMinus, hminus]
      unfold readNumber? at h
      rw [hsplit] at h
      dsimp only at h
      cases hc : c.isDigit with
      | true => simp [startsNumber, hc]
      | false =>
        have hnone : (Text.spanDigits (c :: after)).1 = [] := by simp [Text.spanDigits, hc]
        rw [hnone] at h
        cases h

/-- A character that a number may start with is none of the others. -/
theorem ne_of_startsNumber {mark : Char} (h : startsNumber c) (hmark : startsNumber mark = false) :
    (c == mark) = false := by
  rw [beq_eq_false_iff_ne]
  rintro rfl
  rw [hmark] at h
  cases h

/-- A number starts with no blank. -/
theorem isSpace_of_startsNumber (h : startsNumber c) : isSpace c = false := by
  have hmark : ∀ mark, startsNumber mark = false → (c == mark) = false :=
    fun _ => ne_of_startsNumber h
  rw [isSpace, hmark ' ' rfl, hmark '\t' rfl, hmark '\n' rfl, hmark '\r' rfl]
  rfl

/-- A value that is read as a number is read up to where it ends. -/
theorem readValue?_number (h : readNumber? s = some (j, [])) (hrest : Ends rest) :
    readValue? (fuel + 1) depth (s ++ rest) = some (j, rest) := by
  have hread := readNumber?_append hrest h
  obtain ⟨c, after, rfl, hc⟩ := exists_startsNumber h
  have hmark : ∀ mark, startsNumber mark = false → (c == mark) = false :=
    fun _ => ne_of_startsNumber hc
  rw [List.cons_append] at hread ⊢
  rw [readValue?, skipSpace_cons (isSpace_of_startsNumber hc)]
  dsimp only
  rw [hmark 'n' rfl, hmark 't' rfl, hmark 'f' rfl, hmark '"' rfl, hmark '[' rfl,
    hmark '\x7b' rfl]
  exact hread

/-- A word is read up to where it ends. -/
theorem expectWord_append (word : String) (rest : List Char) :
    expectWord word (word.toList ++ rest) = some rest := by
  rw [expectWord, if_pos (by simp), List.drop_left' String.length_toList]

/-- A string is read up to its closing quote. -/
theorem readValue?_string (x : String) :
    readValue? (fuel + 1) depth (quotedChars x ++ rest) = some (string x, rest) := by
  have hread := readString?_escaped x.toList [] rest
  rw [List.reverse_nil, List.nil_append, String.ofList_toList] at hread
  rw [quotedChars, List.cons_append, List.append_assoc, readValue?, skipSpace_cons rfl]
  dsimp only
  rw [if_neg (by decide), if_neg (by decide), if_neg (by decide), if_pos (by decide),
    List.singleton_append, hread]
  rfl

/-- A whole number that a text can say is read from its text. -/
theorem readNumber?_of_int {n : Int} (h : (int n).isTextual) :
    readNumber? (int n).chars = some (int n, []) := by
  have hsize : -2 ^ 63 ≤ n ∧ n < 2 ^ 64 := by simpa [isTextual] using h
  rw [chars]
  exact readNumber?_int hsize.1 hsize.2

/-- A double that a text can say is read from its text. -/
theorem readNumber?_of_double {x : Double} (h : (double x).isTextual) :
    readNumber? (double x).chars = some (double x, []) := by
  rw [isTextual, Bool.and_eq_true, readsAs] at h
  rw [chars, if_pos h.1]
  split at h
  · next y hy =>
    rw [hy, of_decide_eq_true h.2]
  · cases h.2

/-- The text of a document starts with neither a blank nor a closing bracket. -/
theorem exists_chars (h : j.isTextual) :
    ∃ c after, j.chars = c :: after ∧ isSpace c = false ∧ c ≠ ']' := by
  have hnumber : ∀ {s x}, readNumber? s = some x →
      ∃ c after, s = c :: after ∧ isSpace c = false ∧ c ≠ ']' := by
    intro s x hread
    obtain ⟨c, after, rfl, hc⟩ := exists_startsNumber hread
    refine ⟨c, after, rfl, isSpace_of_startsNumber hc, ?_⟩
    rintro rfl
    cases hc
  cases j with
  | null => exact ⟨'n', "ull".toList, rfl, rfl, by decide⟩
  | bool b =>
    cases b
    · exact ⟨'f', "alse".toList, rfl, rfl, by decide⟩
    · exact ⟨'t', "rue".toList, rfl, rfl, by decide⟩
  | int n => exact hnumber (readNumber?_of_int h)
  | double x => exact hnumber (readNumber?_of_double h)
  | string x => exact ⟨'"', _, by rw [chars, quotedChars], rfl, by decide⟩
  | array items => exact ⟨'[', _, by rw [chars], rfl, by decide⟩
  | object fields => exact ⟨'\x7b', _, by rw [chars], rfl, by decide⟩

/-- What stands behind an item or a field ends it. -/
theorem ends_comma {α : Type} {items : List α} {behind : List Char} {closing : Char}
    (hclosing : closing ∈ [']', '\x7d']) (hbehind : items = [] → behind = []) :
    Ends (comma false items ++ (behind ++ closing :: rest)) := by
  intro c hc
  cases items with
  | nil =>
    rw [hbehind rfl] at hc
    cases hc
    exact List.mem_cons_of_mem _ hclosing
  | cons item items =>
    cases hc
    exact List.mem_cons_self

/-- A field that is new is put at the end. -/
theorem putField_of_not_mem {name : String} {value : Json} {fields : List (String × Json)}
    (h : name ∉ fields.map (·.1)) : putField name value fields = fields ++ [(name, value)] := by
  induction fields with
  | nil => rfl
  | cons field rest ih =>
    obtain ⟨other, old⟩ := field
    rw [List.map_cons, List.mem_cons, not_or] at h
    rw [putField, if_neg (Ne.symm h.1), ih h.2, List.cons_append]

/-- An array is read when its items are. -/
theorem readValue?_items {items : List Json} (hspace : isSpace c = false) (hclosing : c ≠ ']')
    (h : readItems? fuel depth (c :: s) = some (items, rest)) :
    readValue? (fuel + 1) (depth + 1) ('[' :: c :: s) = some (array items, rest) := by
  rw [readValue?, skipSpace_cons rfl]
  dsimp only
  rw [if_neg (by decide), if_neg (by decide), if_neg (by decide), if_neg (by decide),
    if_pos (by decide), skipSpace_cons hspace]
  split
  · next heq =>
    cases heq
    exact absurd rfl hclosing
  · rw [h]
    rfl

/-- An object is read when its fields are. -/
theorem readValue?_fields {fields : List (String × Json)}
    (h : readFields? fuel depth [] ('"' :: s) = some (fields, rest)) :
    readValue? (fuel + 1) (depth + 1) ('\x7b' :: '"' :: s) = some (object fields, rest) := by
  rw [readValue?, skipSpace_cons rfl]
  exact congrArg (Option.map _) h

/-- The first item of an array is read, and what stands behind it says whether it is the last. -/
theorem readItems?_item {item : Json} (h : readValue? fuel depth s = some (item, rest)) :
    readItems? (fuel + 1) depth s =
      match skipSpace rest with
      | ']' :: rest => some ([item], rest)
      | ',' :: rest =>
        (readItems? fuel depth rest).bind fun (items, rest) => some (item :: items, rest)
      | _ => none := by
  rw [readItems?, h]
  rfl

/-- The first field of an object is read, and what stands behind it says whether it is the last. -/
theorem readFields?_field {name : String} {value : Json} {done : List (String × Json)}
    (h : readValue? fuel depth s = some (value, rest)) :
    readFields? (fuel + 1) depth done (quotedChars name ++ ':' :: s) =
      match skipSpace rest with
      | '\x7d' :: rest => some (putField name value done, rest)
      | ',' :: rest => readFields? fuel depth (putField name value done) rest
      | _ => none := by
  have hname : readString? [] (name.toList.flatMap escapedChar ++ '"' :: ':' :: s) =
      some (name, ':' :: s) := by
    rw [readString?_escaped, List.reverse_nil, List.nil_append, String.ofList_toList]
  rw [quotedChars, List.cons_append, List.append_assoc, readFields?, skipSpace_cons rfl,
    List.singleton_append]
  refine (congrArg (Option.bind · _) hname).trans ?_
  exact congrArg (Option.bind · _) h

mutual

/-- A document is read from its text up to where it ends. -/
theorem readValue?_chars : ∀ (j : Json) {fuel depth : Nat} {rest : List Char}, j.isTextual →
    j.depth ≤ depth → 2 * j.chars.length ≤ fuel + 1 → Ends rest →
      readValue? (fuel + 1) depth (j.chars ++ rest) = some (j, rest)
  | null, _, _, rest, _, _, _, _ => by
    have hword := expectWord_append "ull" rest
    rw [chars, readValue?]
    exact congrArg (Option.map _) hword
  | bool true, _, _, rest, _, _, _, _ => by
    have hword := expectWord_append "rue" rest
    rw [chars, readValue?]
    exact congrArg (Option.map _) hword
  | bool false, _, _, rest, _, _, _, _ => by
    have hword := expectWord_append "alse" rest
    rw [chars, readValue?]
    exact congrArg (Option.map _) hword
  | int n, _, _, _, h, _, _, hrest => readValue?_number (readNumber?_of_int h) hrest
  | double x, _, _, _, h, _, _, hrest => readValue?_number (readNumber?_of_double h) hrest
  | string x, _, _, _, _, _, _, _ => by
    rw [chars]
    exact readValue?_string x
  | array [], _, 0, _, _, hdepth, _, _ => by cases hdepth
  | array [], _, _ + 1, _, _, _, _, _ => by
    rw [chars, itemsChars, readValue?]
    rfl
  | array (item :: more), fuel, depth, rest, h, hdepth, hfuel, _ => by
    rw [isTextual] at h
    rw [Json.depth] at hdepth
    rw [chars, List.length_cons, List.length_append, List.length_singleton] at hfuel
    obtain ⟨fuel, rfl⟩ : ∃ n, fuel = n + 1 := ⟨fuel - 1, by omega⟩
    obtain ⟨depth, rfl⟩ : ∃ n, depth = n + 1 := ⟨depth - 1, by omega⟩
    have hitems : readItems? (fuel + 1) depth _ = some (item :: more, rest) :=
      readItems?_chars (item :: more) (List.cons_ne_nil _ _) h (by omega) (by omega)
    have hitem : item.isTextual := by
      rw [itemsTextual, Bool.and_eq_true] at h
      exact h.1
    obtain ⟨c, after, hchars, hspace, hclosing⟩ := exists_chars hitem
    rw [chars, List.cons_append, List.append_assoc, List.singleton_append]
    rw [itemsChars_cons, hchars, List.append_assoc, List.cons_append] at hitems ⊢
    exact readValue?_items hspace hclosing hitems
  | object [], _, 0, _, _, hdepth, _, _ => by cases hdepth
  | object [], _, _ + 1, _, _, _, _, _ => by
    rw [chars, fieldsChars, readValue?]
    rfl
  | object (field :: more), fuel, depth, rest, h, hdepth, hfuel, _ => by
    obtain ⟨name, value⟩ := field
    rw [isTextual, Bool.and_eq_true] at h
    rw [Json.depth] at hdepth
    rw [chars, List.length_cons, List.length_append, List.length_singleton] at hfuel
    obtain ⟨fuel, rfl⟩ : ∃ n, fuel = n + 1 := ⟨fuel - 1, by omega⟩
    obtain ⟨depth, rfl⟩ : ∃ n, depth = n + 1 := ⟨depth - 1, by omega⟩
    have hfields : readFields? (fuel + 1) depth [] _ = some ((name, value) :: more, rest) :=
      readFields?_chars ((name, value) :: more) [] (List.cons_ne_nil _ _) (of_decide_eq_true h.1)
        h.2 (by omega) (by omega)
    rw [chars, List.cons_append, List.append_assoc, List.singleton_append]
    rw [fieldsChars_cons, quotedChars] at hfields ⊢
    exact readValue?_fields hfields

/-- Items are read from their text up to the closing bracket. -/
theorem readItems?_chars : ∀ (items : List Json) {fuel depth : Nat} {rest : List Char},
    items ≠ [] → itemsTextual items → itemsDepth items ≤ depth →
    2 * (itemsChars items).length ≤ fuel →
      readItems? (fuel + 1) depth (itemsChars items ++ ']' :: rest) = some (items, rest)
  | [], _, _, _, hne, _, _, _ => absurd rfl hne
  | item :: more, fuel, depth, rest, _, h, hdepth, hfuel => by
    rw [itemsTextual, Bool.and_eq_true] at h
    rw [itemsDepth, Nat.max_le] at hdepth
    rw [itemsChars_cons, List.length_append, List.length_append] at hfuel
    obtain ⟨c, after, hchars, -, -⟩ := exists_chars h.1
    have hlength : 0 < item.chars.length := by
      rw [hchars]
      exact Nat.succ_pos _
    obtain ⟨fuel, rfl⟩ : ∃ n, fuel = n + 1 := ⟨fuel - 1, by omega⟩
    have hends : Ends (comma false more ++ (itemsChars more ++ ']' :: rest)) :=
      ends_comma List.mem_cons_self fun hnil => by rw [hnil, itemsChars]
    have hitem : readValue? (fuel + 1) depth (item.chars ++ _) = some (item, _) :=
      readValue?_chars item h.1 hdepth.1 (by omega) hends
    rw [itemsChars_cons, List.append_assoc, List.append_assoc, readItems?_item hitem,
      skipSpace_of_ends hends]
    cases more with
    | nil => rfl
    | cons next more =>
      rw [length_comma_cons] at hfuel
      have hmore : readItems? (fuel + 1) depth _ = some (next :: more, rest) :=
        readItems?_chars (next :: more) (List.cons_ne_nil _ _) h.2 hdepth.2 (by omega)
      rw [comma_cons, List.singleton_append]
      exact congrArg (Option.bind · _) hmore

/-- Fields are read from their text up to the closing brace, behind those that have been read. -/
theorem readFields?_chars : ∀ (fields done : List (String × Json)) {fuel depth : Nat}
    {rest : List Char}, fields ≠ [] → ((done ++ fields).map (·.1)).Nodup → fieldsTextual fields →
    fieldsDepth fields ≤ depth → 2 * (fieldsChars fields).length ≤ fuel →
      readFields? (fuel + 1) depth done (fieldsChars fields ++ '\x7d' :: rest) =
        some (done ++ fields, rest)
  | [], _, _, _, _, hne, _, _, _, _ => absurd rfl hne
  | (name, value) :: more, done, fuel, depth, rest, _, hnodup, h, hdepth, hfuel => by
    rw [fieldsTextual, Bool.and_eq_true] at h
    rw [fieldsDepth, Nat.max_le] at hdepth
    rw [fieldsChars_cons, List.length_append, List.length_cons, List.length_append,
      List.length_append] at hfuel
    obtain ⟨fuel, rfl⟩ : ∃ n, fuel = n + 1 := ⟨fuel - 1, by omega⟩
    have hends : Ends (comma false more ++ (fieldsChars more ++ '\x7d' :: rest)) :=
      ends_comma (List.mem_cons_of_mem _ List.mem_cons_self) fun hnil => by rw [hnil, fieldsChars]
    have hvalue : readValue? (fuel + 1) depth (value.chars ++ _) = some (value, _) :=
      readValue?_chars value h.1 hdepth.1 (by omega) hends
    have hnew : name ∉ done.map (·.1) := by
      rw [List.map_append, List.nodup_append] at hnodup
      exact fun hmem => hnodup.2.2 name hmem name List.mem_cons_self rfl
    rw [fieldsChars_cons, List.append_assoc, List.cons_append, List.append_assoc,
      List.append_assoc, readFields?_field hvalue, putField_of_not_mem hnew,
      skipSpace_of_ends hends]
    cases more with
    | nil => rfl
    | cons next more =>
      rw [length_comma_cons] at hfuel
      rw [List.append_cons] at hnodup
      have hmore : readFields? (fuel + 1) depth _ _ = some (_ ++ next :: more, rest) :=
        readFields?_chars (next :: more) _ (List.cons_ne_nil _ _) hnodup h.2 hdepth.2 (by omega)
      rwa [← List.append_cons] at hmore

end

/-- The text of a document is read as the document. -/
theorem parse?_render (h : j.isTextual) (hdepth : j.depth ≤ 127) : parse? j.render = some j := by
  have hends : Ends [] := fun c hc => by cases hc
  have hread : readValue? (2 * j.chars.length + 2) 127 (j.chars ++ []) = some (j, []) :=
    readValue?_chars j h hdepth (by omega) hends
  rw [List.append_nil] at hread
  rw [parse?, toList_render, hread]
  rfl

end Reader

end Json

end SqlRender
