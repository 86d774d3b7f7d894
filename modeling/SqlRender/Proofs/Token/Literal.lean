import SqlRender.Proofs.Text.Digits
import SqlRender.Proofs.Token.Plain
import SqlRender.Proofs.Token.Quoted

/-!
# Literals as tokens

Outside dollar tags every literal of a value can be read by itself and holds neither a comment
nor a placeholder: texts, identifiers and timestamps are one string token, numbers are digits
with at most a sign and a point, and the remaining literals are fixed words.
-/

namespace SqlRender

/-- Digits are plain characters, and so is the point between them. -/
theorem isPlainChar_of_isDigit {c : Char} (h : c.isDigit) : isPlainChar c := by
  simp [isPlainChar, isWordChar, Char.isAlphanum, h]

/-- The digits of a double are plain characters. -/
theorem Double.all_isPlainChar_positional (digits : Nat) (place : Int) :
    (Double.positional digits place).all isPlainChar := by
  have hdigits : ∀ c ∈ Text.decimalDigits digits, isPlainChar c := fun c hc =>
    isPlainChar_of_isDigit (Nat.isDigit_of_mem_toDigits (by decide) (by decide) hc)
  have hzeros : ∀ n, ∀ c ∈ List.replicate n '0', isPlainChar c := fun n c hc => by
    rw [List.eq_of_mem_replicate hc]
    rfl
  rw [List.all_eq_true]
  intro c hc
  rw [Double.positional] at hc
  split at hc
  · exact (List.mem_append.mp hc).elim (hdigits c) (hzeros _ c)
  · dsimp only at hc
    split at hc
    · rcases List.mem_append.mp hc with hc | hc
      · exact hdigits c (List.mem_of_mem_take hc)
      · rcases List.mem_cons.mp hc with rfl | hc
        · rfl
        · exact hdigits c (List.mem_of_mem_drop hc)
    · rcases List.mem_cons.mp hc with rfl | hc
      · rfl
      · rcases List.mem_append.mp hc with hc | hc
        · rcases List.mem_cons.mp hc with rfl | hc
          · rfl
          · exact hzeros _ c hc
        · exact hdigits c hc

namespace Profile

variable {p : Profile}

/-- A text of plain characters behind an optional sign reads plainly. -/
theorem readsPlainly_signed {negative : Bool} {s : List Char} (hs : s.all isPlainChar) :
    p.ReadsPlainly (String.ofList (if negative then '-' :: s else s)).toList := by
  rw [String.toList_ofList]
  cases negative with
  | true => exact readsPlainly_negative hs
  | false => exact readsPlainly_of_all hs

/-- An integer reads plainly. -/
theorem readsPlainly_int (n : Int) : p.ReadsPlainly (toString n).toList := by
  rw [Int.toString_eq_repr, Int.repr_eq_if]
  split
  · rw [Nat.toList_repr]
    exact readsPlainly_of_all (all_isPlainChar_toDigits _)
  · rw [String.toList_append, Nat.toList_repr]
    exact readsPlainly_negative (all_isPlainChar_toDigits _)

/-- A decimal reads plainly. -/
theorem readsPlainly_decimal (x : Decimal) : p.ReadsPlainly x.text.toList := by
  have hdigits : ∀ c ∈ Text.zeroPadded (x.scale + 1) x.size, isPlainChar c := fun c hc =>
    isPlainChar_of_isDigit (Text.isDigit_of_mem_zeroPadded hc)
  refine readsPlainly_signed ?_
  rw [List.all_eq_true]
  intro c hc
  split at hc
  · exact hdigits c (List.mem_of_mem_take hc)
  · rcases List.mem_append.mp hc with hc | hc
    · exact hdigits c (List.mem_of_mem_take hc)
    · rcases List.mem_cons.mp hc with rfl | hc
      · rfl
      · exact hdigits c (List.mem_of_mem_drop hc)

/-- A finite double reads plainly. -/
theorem readsPlainly_double {x : Double} (hx : x.isFinite) : p.ReadsPlainly x.text.toList := by
  cases h : x.meaning with
  | nan => simp [Double.isFinite, h] at hx
  | infinite negative => simp [Double.isFinite, h] at hx
  | finite negative significand exponent =>
    simp only [Double.text, h]
    refine readsPlainly_signed ?_
    split
    · rfl
    · exact Double.all_isPlainChar_positional _ _

end Profile

namespace Engine

variable {e : Engine}

/-- Outside dollar tags, the literal of a text reads plainly. -/
theorem readsPlainly_quoteText (he : e ≠ .postgres) (tag : String → String) (s : String) :
    e.profile.ReadsPlainly (e.profile.quoteText tag s).toList := by
  have h := reads_quoteText he tag s
  have hlead : ∀ t ∈ leadTokens e.profile, t.isPlain := by cases e <;> decide
  refine ⟨h.settles, fun t ht => ?_⟩
  rw [h.tokens_eq, List.mem_append] at ht
  rcases ht with ht | ht
  · exact hlead t ht
  · rw [List.mem_singleton.mp ht]
    rfl

end Engine

/-- The hexadecimal digits of bytes are word characters. -/
theorem Text.isWordChar_of_mem_hexBytes {bs : List UInt8} {c : Char} (h : c ∈ Text.hexBytes bs) :
    isWordChar c := by
  have hdigit : ∀ n < 16, isWordChar (Text.upperHexDigit n) := by decide
  obtain ⟨b, -, hb⟩ := List.mem_flatMap.mp h
  have hlt : b.toNat < 256 := b.toNat_lt
  simp only [List.mem_cons, List.not_mem_nil, or_false] at hb
  rcases hb with rfl | rfl
  · exact hdigit _ (by omega)
  · exact hdigit _ (by omega)

/-- Word characters inside a string are read as they are. -/
theorem Profile.run_string_word {p : Profile} (read s : List Char) (hs : ∀ c ∈ s, isWordChar c) :
    Scan.run p (.string read) s = (.string (read ++ s), []) := by
  induction s generalizing read with
  | nil => simp [Scan.run]
  | cons c rest ih =>
    have hc := hs c List.mem_cons_self
    have hquote : c ≠ '\'' := by
      rintro rfl
      exact absurd hc (by decide)
    have hslash : c ≠ '\\' := by
      rintro rfl
      exact absurd hc (by decide)
    have hrest := ih (read ++ [c]) fun d hd => hs d (List.mem_cons_of_mem _ hd)
    simp [Scan.run, Scan.step, hquote, hslash, hrest]

namespace Dialect

variable {d : Dialect}

/-- Outside dollar tags, the literal of bytes reads plainly. -/
theorem readsPlainly_bytesLiteral (hd : d.engine ≠ .postgres) (bs : List UInt8) :
    d.profile.ReadsPlainly (d.bytesLiteral bs).toList := by
  have hword : ∀ c ∈ Text.hexBytes bs, isWordChar c := fun c hc =>
    Text.isWordChar_of_mem_hexBytes hc
  have hplain : (Text.hexBytes bs).all isPlainChar := by
    rw [List.all_eq_true]
    intro c hc
    simp [isPlainChar, hword c hc]
  have hquoted : d.profile.ReadsPlainly (['X', '\''] ++ Text.hexBytes bs ++ ['\'']) := by
    have hopen : Scan.run d.profile .ready ['X', '\''] = (.string [], [.word ['X']]) := by
      rw [Dialect.profile]
      cases d.engine <;> decide
    have hrun : Scan.run d.profile .ready (['X', '\''] ++ Text.hexBytes bs ++ ['\'']) =
        (.stringMark (Text.hexBytes bs), [.word ['X']]) := by
      rw [Scan.run_append, Scan.run_append, hopen, Profile.run_string_word [] _ hword]
      rfl
    have h := Profile.reads_of_run hrun rfl
    refine ⟨h.settles, ?_⟩
    rw [h.tokens_eq]
    simp [Scan.pending, Scan.finish, Token.isPlain]
  have hstyle : d.profile.bytes ≠ .hexDecode := by
    rw [Dialect.profile]
    revert hd
    cases d.engine <;> decide
  cases h : d.profile.bytes with
  | zeroX =>
    refine Profile.readsPlainly_of_all ?_
    simp only [bytesLiteral, h, String.toList_append, String.toList_ofList, List.all_append,
      hplain, Bool.and_true]
    rfl
  | quotedX => simpa [bytesLiteral, h] using hquoted
  | hexDecode => exact absurd h hstyle

/-- Outside dollar tags, every literal reads plainly. -/
theorem readsPlainly_literal (hd : d.engine ≠ .postgres) {n : Nat} {v : Value} {s : String}
    (hs : d.literal n v = .ok s) : d.profile.ReadsPlainly s.toList := by
  have hstamp : ∀ pattern written, d.stampLiteral n pattern written = .ok s →
      d.profile.ReadsPlainly s.toList := by
    intro pattern written h
    cases written with
    | none => cases h
    | some text =>
      cases h
      exact Engine.readsPlainly_quoteText hd (d.tag n) text
  cases v with
  | null =>
    cases hs
    exact Profile.readsPlainly_of_all rfl
  | bool b =>
    cases hs
    refine Profile.readsPlainly_of_all ?_
    rw [Dialect.profile]
    cases d.engine <;> cases b <;> decide
  | int i =>
    cases hs
    exact Profile.readsPlainly_int _
  | decimal x =>
    cases hs
    exact Profile.readsPlainly_decimal x
  | double x =>
    simp only [literal] at hs
    split at hs
    · next hx =>
      cases hs
      exact Profile.readsPlainly_double hx
    · cases hs
  | string s =>
    cases hs
    exact Engine.readsPlainly_quoteText hd (d.tag n) s
  | bytes bs =>
    cases hs
    exact readsPlainly_bytesLiteral hd bs
  | uuid u =>
    cases hs
    exact Engine.readsPlainly_quoteText hd (d.tag n) u.text
  | dateTime t => exact hstamp _ _ hs
  | dateTimeOffset t => exact hstamp _ _ hs

end Dialect

end SqlRender
