import SqlRender.NativeType
import SqlRender.Proofs.Results

/-!
# The texts of native types

A native spelling stands for one text on each column that has what the spelling takes. The tables
of the engines fit the checks of a column: a column that passes them has a length and a precision
wherever the spelling of its type takes one, so its type is written or unknown to the engine, and
never incomplete.
-/

namespace SqlRender

namespace Column

variable {c : Column} {s : String}

/-- The length of a column is written when the column has one. -/
theorem lengthText_eq_ok (h : c.lengthText = .ok s) :
    ∃ n, c.maxLength = some n ∧ s = toString n := by
  unfold lengthText at h
  split at h
  · next n hn => exact ⟨n, hn, (Except.ok.inj h).symm⟩
  · cases h

/-- The precision of a column is written when the column has one. -/
theorem precisionText_eq_ok (h : c.precisionText = .ok s) :
    ∃ n, c.precision = some n ∧ s = toString n := by
  unfold precisionText at h
  split at h
  · next n hn => exact ⟨n, hn, (Except.ok.inj h).symm⟩
  · cases h

/-- A column that passes its checks has no fault. -/
theorem fault?_eq_none (h : c.validate = .ok ()) : c.fault? = none := by
  unfold validate at h
  split at h
  · cases h
  · assumption

/-- A column that passes its checks has a length if its type needs one. -/
theorem exists_maxLength (h : c.validate = .ok ()) (htype : c.type.requiresLength) :
    ∃ n, c.maxLength = some n := by
  have hnone := fault?_eq_none h
  cases hn : c.maxLength with
  | none =>
    unfold fault? at hnone
    grind
  | some n => exact ⟨n, rfl⟩

/-- A column that passes its checks has a precision if its type needs one. -/
theorem exists_precision (h : c.validate = .ok ()) (htype : c.type.requiresPrecision) :
    ∃ n, c.precision = some n := by
  have hnone := fault?_eq_none h
  cases hn : c.precision with
  | none =>
    unfold fault? at hnone
    grind
  | some n => exact ⟨n, rfl⟩

end Column

namespace TypeSyntax

/-- The text of a spelling on a column: the name alone, or with the length and the precision, or
with `MAX` in place of a length that is missing or past the limit. -/
inductive Writes (c : Column) : TypeSyntax → String → Prop
  | plain (name : String) : Writes c (.plain name) name
  | length (name : String) {n : Nat} (hn : c.maxLength = some n) :
    Writes c (.length name) (name ++ "(" ++ toString n ++ ")")
  | lengthPrecision (name : String) {n p : Nat} (hn : c.maxLength = some n)
    (hp : c.precision = some p) :
    Writes c (.lengthPrecision name) (name ++ "(" ++ toString n ++ "," ++ toString p ++ ")")
  | within (name : String) {n limit : Nat} (hn : c.maxLength = some n) (hlimit : n ≤ limit) :
    Writes c (.lengthOrMax name limit) (name ++ "(" ++ toString n ++ ")")
  | unbounded (name : String) {limit : Nat} (hn : ∀ n, c.maxLength = some n → limit < n) :
    Writes c (.lengthOrMax name limit) (name ++ "(MAX)")

/-- Whether a spelling cannot be written without a length. -/
def takesLength : TypeSyntax → Bool
  | length _ | lengthPrecision _ => true
  | plain _ | lengthOrMax .. => false

/-- Whether a spelling cannot be written without a precision. -/
def takesPrecision : TypeSyntax → Bool
  | lengthPrecision _ => true
  | plain _ | length _ | lengthOrMax .. => false

variable {t : TypeSyntax} {c : Column} {s : String}

/-- A text that a spelling comes to is one that it stands for. -/
theorem writes_of_text (h : t.text c = .ok s) : t.Writes c s := by
  cases t with
  | plain name =>
    cases h
    exact .plain _
  | length name =>
    obtain ⟨digits, hdigits, h⟩ := bind_eq_ok h
    obtain ⟨n, hn, rfl⟩ := Column.lengthText_eq_ok hdigits
    cases h
    exact .length name hn
  | lengthPrecision name =>
    obtain ⟨places, hplaces, h⟩ := bind_eq_ok h
    obtain ⟨digits, hdigits, h⟩ := bind_eq_ok h
    obtain ⟨p, hp, rfl⟩ := Column.precisionText_eq_ok hplaces
    obtain ⟨n, hn, rfl⟩ := Column.lengthText_eq_ok hdigits
    cases h
    exact .lengthPrecision name hn hp
  | lengthOrMax name limit =>
    cases hn : c.maxLength with
    | none =>
      simp only [text, hn] at h
      cases h
      exact .unbounded name (by simp [hn])
    | some n =>
      simp only [text, hn] at h
      cases h
      split
      · next hlimit => exact .within name hn hlimit
      · next hlimit => exact .unbounded name (by simpa [hn] using hlimit)

/-- A spelling comes to the text that it stands for. -/
theorem Writes.text_eq (h : t.Writes c s) : t.text c = .ok s := by
  cases h with
  | plain => rfl
  | length name hn =>
    simp only [text, Column.lengthText, hn]
    rfl
  | lengthPrecision name hn hp =>
    simp only [text, Column.lengthText, Column.precisionText, hn, hp]
    rfl
  | within name hn hlimit => simp only [text, hn, if_pos hlimit]
  | unbounded name hn =>
    cases hlength : c.maxLength with
    | none => simp only [text, hlength]
    | some n => simp only [text, hlength, if_neg (Nat.not_le.mpr (hn n hlength))]

/-- A spelling stands for a text on a column that has what the spelling takes. -/
theorem exists_writes (hlength : t.takesLength → ∃ n, c.maxLength = some n)
    (hprecision : t.takesPrecision → ∃ n, c.precision = some n) : ∃ s, t.Writes c s := by
  cases t with
  | plain name => exact ⟨name, .plain name⟩
  | length name =>
    obtain ⟨n, hn⟩ := hlength rfl
    exact ⟨_, .length name hn⟩
  | lengthPrecision name =>
    obtain ⟨n, hn⟩ := hlength rfl
    obtain ⟨p, hp⟩ := hprecision rfl
    exact ⟨_, .lengthPrecision name hn hp⟩
  | lengthOrMax name limit =>
    by_cases hfits : ∃ n, c.maxLength = some n ∧ n ≤ limit
    · obtain ⟨n, hn, hlimit⟩ := hfits
      exact ⟨_, .within name hn hlimit⟩
    · exact ⟨_, .unbounded name fun n hn => Nat.not_le.mp fun hlimit => hfits ⟨n, hn, hlimit⟩⟩

end TypeSyntax

/-- What is not a digit does not stand in a number. -/
theorem not_mem_toDigits {ch : Char} (hch : ch.isDigit = false) (n : Nat) :
    ch ∉ Nat.toDigits 10 n := by
  intro h
  rw [Nat.isDigit_of_mem_toDigits (by decide) (by decide) h] at hch
  cases hch

namespace Engine

variable {e : Engine} {c : Column} {t : TypeSyntax} {s s' : String}

/-- A test of the spellings in the tables of the engines holds of every spelling that an engine
has for a type. -/
theorem nativeType?_of_all (test : DataType → TypeSyntax → Bool)
    (h : ∀ e ∈ all, ∀ type ∈ DataType.all, (e.nativeType? type).all (test type)) {type : DataType}
    (hnative : e.nativeType? type = some t) : test type t := by
  have htest := h e e.mem_all type type.mem_all
  rwa [hnative, Option.all_some] at htest

/-- A type whose spelling takes a length is not declared without one. -/
theorem requiresLength_of_takesLength {type : DataType} (hnative : e.nativeType? type = some t)
    (ht : t.takesLength) : type.requiresLength := by
  have htest := nativeType?_of_all (fun type t => !t.takesLength || type.requiresLength)
    (by decide) hnative
  simpa [ht] using htest

/-- A type whose spelling takes a precision is not declared without one. -/
theorem requiresPrecision_of_takesPrecision {type : DataType}
    (hnative : e.nativeType? type = some t) (ht : t.takesPrecision) : type.requiresPrecision := by
  have htest := nativeType?_of_all (fun type t => !t.takesPrecision || type.requiresPrecision)
    (by decide) hnative
  simpa [ht] using htest

/-- The text of a column's type on an engine that has the type. -/
def Spells (e : Engine) (c : Column) (s : String) : Prop :=
  ∃ t, e.nativeType? c.type = some t ∧ t.Writes c s

/-- The type of a column comes to the text that the engine has for it, and to no other. -/
theorem columnType_eq_ok_iff : e.columnType c = .ok s ↔ e.Spells c s := by
  unfold columnType
  constructor
  · intro h
    split at h
    · next t hnative => exact ⟨t, hnative, TypeSyntax.writes_of_text h⟩
    · cases h
  · rintro ⟨t, hnative, ht⟩
    simp only [hnative, ht.text_eq]

/-- A column that passes its checks has a text for its type on every engine that has the type. -/
theorem exists_spells (h : c.validate = .ok ()) (hnative : (e.nativeType? c.type).isSome) :
    ∃ s, e.Spells c s := by
  obtain ⟨t, ht⟩ := Option.isSome_iff_exists.mp hnative
  obtain ⟨s, hs⟩ := TypeSyntax.exists_writes
    (fun hlength => c.exists_maxLength h (requiresLength_of_takesLength ht hlength))
    (fun hprecision => c.exists_precision h (requiresPrecision_of_takesPrecision ht hprecision))
  exact ⟨s, t, ht, hs⟩

/-- A column's type has one text on an engine. -/
theorem Spells.unique (h : e.Spells c s) (h' : e.Spells c s') : s = s' :=
  Except.ok.inj ((columnType_eq_ok_iff.mpr h).symm.trans (columnType_eq_ok_iff.mpr h'))

/-- The type of a column that passes its checks is never found to be incomplete. -/
theorem columnType_ne_malformed (h : c.validate = .ok ()) (cause : Malformed) :
    e.columnType c ≠ .error (.malformed cause) := by
  intro hfail
  cases hnative : e.nativeType? c.type with
  | none =>
    unfold columnType at hfail
    simp [hnative] at hfail
  | some t =>
    obtain ⟨s, hs⟩ := exists_spells h (Option.isSome_iff_exists.mpr ⟨t, hnative⟩)
    rw [columnType_eq_ok_iff.mpr hs] at hfail
    cases hfail

/-- Every engine has the whole-number types, in spellings without brackets or the letter X. -/
theorem exists_nativeType?_of_isIntegral (e : Engine) {type : DataType} (htype : type.isIntegral) :
    ∃ name, e.nativeType? type = some (.plain name) ∧ 'X' ∉ name.toList := by
  cases type with
  | int => cases e <;> exact ⟨_, rfl, by decide⟩
  | long => cases e <;> exact ⟨_, rfl, by decide⟩
  | _ => cases htype

/-- The letter X stands only in names that have no bracket and take nothing. -/
theorem not_mem_name {type : DataType} (hnative : e.nativeType? type = some t) :
    'X' ∉ t.name.toList ∨ t = .plain t.name ∧ '(' ∉ t.name.toList := by
  have htest := nativeType?_of_all
    (fun _ t => !t.name.toList.contains 'X' ||
      (t == .plain t.name && !t.name.toList.contains '(')) (by decide) hnative
  simpa using htest

/-- A type whose length is within the limit of its spelling is written without `MAX`. -/
theorem Spells.not_mem (h : e.Spells c s) (hbounded : ∀ name limit,
    e.nativeType? c.type = some (.lengthOrMax name limit) → ∃ n, c.maxLength = some n ∧ n ≤ limit) :
    'X' ∉ s.toList ∨ '(' ∉ s.toList := by
  obtain ⟨t, hnative, ht⟩ := h
  rcases not_mem_name hnative with hname | ⟨hplain, hname⟩
  · left
    have hdigits : ∀ n, 'X' ∉ Nat.toDigits 10 n := not_mem_toDigits rfl
    cases ht with
    | plain => exact hname
    | length name hn | within name hn hlimit | lengthPrecision name hn hp =>
      simpa [TypeSyntax.name, hdigits] using hname
    | unbounded name hn =>
      obtain ⟨n, hlength, hlimit⟩ := hbounded name _ hnative
      exact absurd (hn n hlength) (Nat.not_lt.mpr hlimit)
  · right
    rw [hplain] at ht
    cases ht with
    | plain => exact hname

end Engine

end SqlRender
