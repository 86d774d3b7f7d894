import Mathlib.Data.List.TakeWhile
import SqlRender.Json.Parser
import SqlRender.Proofs.Text.Digits

/-!
# Numbers of a document read back

A number ends where a comma, a closing mark or the end of the text follows, so what is read from its
text by itself is read from it inside a document as well. A whole number of sixty-four bits is read
from its digits as itself. Whether a double is read from its text as itself depends on the double,
because the reader rounds its digits before it scales them.
-/

namespace SqlRender

namespace Text

variable {s rest : List Char}

/-- What follows a text and starts with no digit is left behind the digits of the text. -/
theorem spanDigits_append (hrest : ∀ c ∈ rest.head?, c.isDigit = false) :
    spanDigits (s ++ rest) = ((spanDigits s).1, (spanDigits s).2 ++ rest) := by
  have hsplit : s = (spanDigits s).1 ++ (spanDigits s).2 := List.takeWhile_append_dropWhile.symm
  have hbehind : ∀ c ∈ ((spanDigits s).2 ++ rest).head?, c.isDigit = false := by
    intro c hc
    cases hafter : (spanDigits s).2 with
    | nil =>
      rw [hafter] at hc
      exact hrest c hc
    | cons d after =>
      rw [hafter, List.cons_append, List.head?_cons, Option.mem_some_iff] at hc
      have hnot := List.head?_dropWhile_not Char.isDigit s
      rw [show s.dropWhile Char.isDigit = d :: after from hafter] at hnot
      exact hc ▸ hnot
  conv_lhs => rw [hsplit, List.append_assoc]
  exact spanDigits_digits_append (fun c hc => List.mem_takeWhile_imp hc) hbehind

/-- A number other than zero is written without a zero in front. -/
theorem head?_toDigits_ne_zero {n : Nat} (h : 0 < n) : (Nat.toDigits 10 n).head? ≠ some '0' := by
  induction n using Nat.strong_induction_on with
  | _ n ih =>
    rw [Nat.toDigits_eq_if (by decide)]
    split
    · next hsmall =>
      have hdigit : ∀ n < 10, 0 < n → [n.digitChar].head? ≠ some '0' := by decide
      exact hdigit n hsmall h
    · next hlarge =>
      have hfront := ih (n / 10) (by omega) (by omega)
      cases hdigits : Nat.toDigits 10 (n / 10) with
      | nil => exact absurd hdigits Nat.toDigits_ne_nil
      | cons d digits =>
        rw [hdigits] at hfront
        exact hfront

/-- The digits of a number are read as the number. -/
theorem natOfDigits_toDigits (n : Nat) : natOfDigits (Nat.toDigits 10 n) = n :=
  Nat.ofDigitChars_toDigits (by decide) (by decide)

/-- The digits of a number are all digits. -/
theorem spanDigits_toDigits (n : Nat) :
    spanDigits (Nat.toDigits 10 n) = (Nat.toDigits 10 n, []) := by
  have hdigits : spanDigits (Nat.toDigits 10 n ++ []) = (Nat.toDigits 10 n, []) :=
    spanDigits_digits_append
      (fun c hc => Nat.isDigit_of_mem_toDigits (by decide) (by decide) hc) (by simp)
  rwa [List.append_nil] at hdigits

end Text

namespace Json

open Text

variable {s rest : List Char} {c : Char}

/-- What may stand behind a value: nothing, a comma or a closing mark. -/
def Ends (rest : List Char) : Prop := ∀ c ∈ rest.head?, c ∈ [',', ']', '\x7d']

/-- What stands behind a value starts with no digit. -/
theorem Ends.isDigit_eq_false (h : Ends rest) : ∀ c ∈ rest.head?, c.isDigit = false := by
  intro c hc
  have hmarks : [',', ']', '\x7d'].all (!·.isDigit) := rfl
  simpa using List.all_eq_true.mp hmarks c (h c hc)

/-- What stands behind a value goes on neither with a point nor with a power of ten. -/
theorem Ends.head_ne (h : Ends (c :: rest)) : c ≠ '.' ∧ c ≠ 'e' ∧ c ≠ 'E' := by
  have hmarks : [',', ']', '\x7d'].all fun c => c != '.' && (c != 'e' && c != 'E') := rfl
  simpa using List.all_eq_true.mp hmarks c (h c rfl)

/-- A sign is split off a text as it is in front of something else. -/
theorem splitSign_append (hs : s ≠ []) :
    splitSign (s ++ rest) = ((splitSign s).1, (splitSign s).2 ++ rest) := by
  cases s with
  | nil => exact absurd rfl hs
  | cons c s =>
    rw [List.cons_append]
    unfold splitSign
    split <;> simp_all

/-- A power of ten that ends a text is read in front of what ends a value. -/
theorem readExponent?_append (hrest : Ends rest) {power : Option Int}
    (h : readExponent? s = some (power, [])) : readExponent? (s ++ rest) = some (power, rest) := by
  cases s with
  | nil =>
    cases h
    cases rest with
    | nil => rfl
    | cons c rest =>
      obtain ⟨-, hlower, hupper⟩ := hrest.head_ne
      simp [readExponent?, hlower, hupper]
  | cons c s =>
    rw [List.cons_append]
    unfold readExponent? at h ⊢
    dsimp only at h ⊢
    split at h
    · next hmark =>
      have hs : s ≠ [] := by
        rintro rfl
        cases h
      rw [if_pos hmark, splitSign_append hs]
      dsimp only
      rw [spanDigits_append hrest.isDigit_eq_false]
      split at h
      · cases h
      · next hdigits =>
        cases hspan : spanDigits (splitSign s).2 with
        | mk digits behind =>
          rw [hspan] at h hdigits
          cases h
          rw [if_neg hdigits]
          rfl
    · cases h

/-- A fraction is read in front of what ends a value. -/
theorem readFraction?_append (hrest : Ends rest) {fraction : Option (List Char)}
    {after : List Char} (h : readFraction? s = some (fraction, after)) :
    readFraction? (s ++ rest) = some (fraction, after ++ rest) := by
  cases s with
  | nil =>
    cases h
    cases rest with
    | nil => rfl
    | cons c rest => simp [readFraction?, hrest.head_ne.1]
  | cons c s =>
    by_cases hc : c = '.'
    · subst hc
      have hpoint : ∀ t, readFraction? ('.' :: t) = if (spanDigits t).1.isEmpty then none
          else some (some (spanDigits t).1, (spanDigits t).2) := fun _ => rfl
      rw [hpoint] at h
      rw [List.cons_append, hpoint, spanDigits_append hrest.isDigit_eq_false]
      split at h
      · cases h
      · next hdigits =>
        rw [if_neg hdigits]
        cases h
        rfl
    · have hnone : ∀ t, readFraction? (c :: t) = some (none, c :: t) := by simp [readFraction?, hc]
      rw [hnone] at h
      cases h
      exact hnone (s ++ rest)

/-- A minus is split off a text as it is in front of something else. -/
theorem splitMinus_append (hs : s ≠ []) :
    splitMinus (s ++ rest) = ((splitMinus s).1, (splitMinus s).2 ++ rest) := by
  cases s with
  | nil => exact absurd rfl hs
  | cons c s =>
    rw [List.cons_append]
    unfold splitMinus
    split <;> simp_all

/-- A number that ends a text is read in front of what ends a value. -/
theorem readNumber?_append (hrest : Ends rest) {j : Json} (h : readNumber? s = some (j, [])) :
    readNumber? (s ++ rest) = some (j, rest) := by
  have hs : s ≠ [] := by
    rintro rfl
    cases h
  unfold readNumber? at h ⊢
  rw [splitMinus_append hs]
  dsimp only at h ⊢
  rw [spanDigits_append hrest.isDigit_eq_false]
  split at h
  · cases h
  · next hwhole =>
    rw [if_neg hwhole]
    obtain ⟨⟨fraction, after⟩, hfraction, h⟩ := Option.bind_eq_some_iff.mp h
    obtain ⟨⟨power, behind⟩, hpower, h⟩ := Option.bind_eq_some_iff.mp h
    obtain ⟨x, hx, hpair⟩ := Option.map_eq_some_iff.mp h
    cases hpair
    rw [readFraction?_append hrest hfraction, Option.bind_some, readExponent?_append hrest hpower,
      Option.bind_some, hx]
    rfl

/-- Digits by themselves, behind a minus or not, are read as the number that they write. -/
theorem readNumber?_digits {negative : Bool} {n : Nat} {j : Json}
    (hs : splitMinus s = (negative, Nat.toDigits 10 n))
    (h : wholeNumber? negative (Nat.toDigits 10 n) = some j) : readNumber? s = some (j, []) := by
  have hzero : ((Nat.toDigits 10 n).isEmpty ||
      ((Nat.toDigits 10 n).head? == some '0' && (Nat.toDigits 10 n).length != 1)) = false := by
    rcases Nat.eq_zero_or_pos n with rfl | hpos
    · rfl
    · simp [head?_toDigits_ne_zero hpos, Nat.toDigits_ne_nil]
  unfold readNumber?
  rw [hs]
  dsimp only
  rw [spanDigits_toDigits]
  dsimp only
  rw [hzero]
  simp [readFraction?, readExponent?, numberOf?, h]

/-- Digits start with no minus. -/
theorem splitMinus_toDigits (n : Nat) :
    splitMinus (Nat.toDigits 10 n) = (false, Nat.toDigits 10 n) := by
  cases hdigits : Nat.toDigits 10 n with
  | nil => rfl
  | cons d digits =>
    have hd : d.isDigit := Nat.isDigit_of_mem_toDigits (b := 10) (n := n) (by decide) (by decide)
      (hdigits ▸ List.mem_cons_self)
    have hminus : d ≠ '-' := by
      rintro rfl
      cases hd
    simp [splitMinus, hminus]

/-- A whole number of sixty-four bits, with or without a sign, is read from its text. -/
theorem readNumber?_int {n : Int} (hlow : -2 ^ 63 ≤ n) (hhigh : n < 2 ^ 64) :
    readNumber? (toString n).toList = some (int n, []) := by
  rw [Int.toString_eq_repr, Int.repr_eq_if]
  split
  · next hpos =>
    rw [Nat.toList_repr]
    refine readNumber?_digits (splitMinus_toDigits n.toNat) ?_
    have hsize : n.toNat < UInt64.size := by
      simp only [UInt64.size]
      omega
    rw [wholeNumber?, natOfDigits_toDigits, if_neg (by decide), if_pos hsize,
      Int.toNat_of_nonneg hpos]
  · next hneg =>
    rw [String.toList_append, Nat.toList_repr]
    have hsplit : splitMinus ("-".toList ++ Nat.toDigits 10 (-n).toNat) =
        (true, Nat.toDigits 10 (-n).toNat) := rfl
    refine readNumber?_digits hsplit ?_
    have hsize : 0 < (-n).toNat ∧ (-n).toNat ≤ Nat.pow 2 63 := by
      have hpow : Nat.pow 2 63 = 9223372036854775808 := by decide
      omega
    have hminus : -(((-n).toNat : Nat) : Int) = n := by omega
    rw [wholeNumber?, natOfDigits_toDigits, if_pos rfl, if_pos hsize, hminus]

end Json

end SqlRender
