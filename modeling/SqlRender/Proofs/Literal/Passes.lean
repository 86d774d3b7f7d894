import Mathlib.Logic.Function.Iterate
import SqlRender.Proofs.Literal.Sanitize

/-!
# Passes over the comment marks

The comment marks are taken out of a text by passes, and taking out one mark can make another. The
passes are repeated until one of them leaves as many bytes as it has found. A pass that changes the
text takes out at least two characters, so there are at most half as many of these passes as there
are characters, and the pass behind them finds a text without any mark.
-/

namespace SqlRender

variable {s t : List Char}

/-- The bytes of a text in its eight-bit encoding. -/
def byteCount (s : List Char) : Nat := (String.ofList s).utf8ByteSize

/-- A text has the bytes of its characters. -/
theorem byteCount_cons (c : Char) (s : List Char) :
    byteCount (c :: s) = c.utf8Size + byteCount s := by
  rw [byteCount, String.ofList_cons, String.utf8ByteSize_append, String.utf8ByteSize_singleton]
  rfl

/-- Each character that is taken out of a text had a byte. -/
theorem byteCount_add_length_le (h : t.Sublist s) :
    byteCount t + s.length ≤ byteCount s + t.length := by
  induction h with
  | slnil => rfl
  | cons c h ih =>
    have hbyte := c.utf8Size_pos
    rw [byteCount_cons, List.length_cons]
    omega
  | cons_cons c h ih =>
    rw [byteCount_cons, byteCount_cons, List.length_cons, List.length_cons]
    omega

/-- Pairs are taken out whole. -/
theorem length_removePair_mod (a b : Char) (s : List Char) :
    (removePair a b s).length % 2 = s.length % 2 := by
  fun_induction removePair a b s <;> simp_all <;> omega

/-- A pass that shortens a text takes out at least two characters. -/
theorem length_stripMarksOnce_add_two_le (h : (stripMarksOnce s).length < s.length) :
    (stripMarksOnce s).length + 2 ≤ s.length := by
  have hparity : (stripMarksOnce s).length % 2 = s.length % 2 := by
    rw [stripMarksOnce, length_removePair_mod, length_removePair_mod, length_removePair_mod]
  omega

/-- The passes over a text come to an end: so many of them leave fewer bytes than they have found,
the next one does not, and what it leaves is the result. -/
structure PassesEnd (s : List Char) (count : Nat) (result : List Char) : Prop where
  shorter : ∀ k < count,
    byteCount (stripMarksOnce^[k + 1] s) < byteCount (stripMarksOnce^[k] s)
  same : byteCount (stripMarksOnce^[count + 1] s) = byteCount (stripMarksOnce^[count] s)
  result_eq : stripMarksOnce^[count + 1] s = result

/-- A pass that shortens the text comes in front of the others. -/
theorem PassesEnd.succ {count : Nat} (hshorter : (stripMarksOnce s).length < s.length)
    (h : PassesEnd (stripMarksOnce s) count t) : PassesEnd s (count + 1) t where
  shorter := by
    rintro (- | k) hk
    · have hbytes := byteCount_add_length_le (stripMarksOnce_sublist s)
      simp only [Function.iterate_succ, Function.iterate_zero, Function.comp_apply, id]
      omega
    · exact h.shorter k (Nat.lt_of_succ_lt_succ hk)
  same := h.same
  result_eq := h.result_eq

/-- The passes come to an end with the text without marks, after no more than half as many passes as
the text has characters. -/
theorem exists_passesEnd (s : List Char) :
    ∃ count, 2 * count ≤ s.length ∧ PassesEnd s count (stripComments s) := by
  fun_induction stripComments s with
  | case1 s hshorter ih =>
    obtain ⟨count, hcount, hend⟩ := ih
    have htwo := length_stripMarksOnce_add_two_le hshorter
    exact ⟨count + 1, by omega, hend.succ hshorter⟩
  | case2 s hsame =>
    have honce := stripMarksOnce_eq_self hsame
    exact ⟨0, Nat.zero_le _, fun k hk => absurd hk (Nat.not_lt_zero k), congrArg byteCount honce,
      honce⟩

/-- The passes over the comment marks come to an end on every text. What they leave has no mark, is
a part of the text in the same order, is the text itself exactly when that has no mark, and is left
as it is by further passes. Nor does it have a control character other than the three that are kept,
when these have been taken out before. -/
theorem stripComments_settles (s : List Char) :
    (∃ count, 2 * count ≤ s.length ∧ PassesEnd s count (stripComments s)) ∧
      Unmarked (stripComments s) ∧ (stripComments s).Sublist s ∧
      (stripComments s = s ↔ Unmarked s) ∧
      stripComments (stripComments s) = stripComments s ∧
      ∀ c ∈ stripComments (stripControls s), Text.isControl c → c = '\t' ∨ c = '\n' ∨ c = '\r' := by
  refine ⟨exists_passesEnd s, unmarked_stripComments s, stripComments_sublist s,
    stripComments_eq_self_iff, stripComments_eq_self_iff.mpr (unmarked_stripComments s),
    fun c hc hcontrol => ?_⟩
  have hkept : isKept c := isKept_of_mem_sanitized hc
  simpa [isKept, hcontrol, or_assoc] using hkept

end SqlRender
