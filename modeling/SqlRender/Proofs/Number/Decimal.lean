import SqlRender.Number.Decimal
import SqlRender.Proofs.Text.Digits

/-!
# Decimals read back from their texts

A run of digits takes the reader to the number they write, on either side of the point, as long as
the number and its places fit a decimal. The text of a decimal is two such runs, so it is read as
the decimal. Zero has no sign once it is read, and this is the only decimal that changes.
-/

namespace SqlRender.Decimal

open Text

variable {digits : List Char} {size : Nat}

/-- A run of digits is read, as far as it fits. -/
theorem Progress.run_digits (hdigits : ∀ c ∈ digits, c.isDigit)
    (hsize : follow size digits < Nat.pow 2 96) (places : Option Nat) (started : Bool)
    (hplaces : ∀ n ∈ places, n + digits.length ≤ 28) (rest : List Char) :
    Progress.run ⟨size, places, started⟩ (digits ++ rest) =
      Progress.run ⟨follow size digits, places.map (· + digits.length),
        started || !digits.isEmpty⟩ rest := by
  -- Each digit is read in the state that the one in front of it has left, on its side of the point.
  induction digits generalizing size places started with
  | nil => cases places <;> simp [follow]
  | cons c digits ih =>
    have hc : c.isDigit := hdigits c List.mem_cons_self
    have hmark : (c == '_') = false := by rw [beq_eq_false_iff_ne]; rintro rfl; cases hc
    have hbehind : ∀ d ∈ digits, d.isDigit := fun d hd => hdigits d (List.mem_cons_of_mem c hd)
    have hnext : 10 * size + digitValue c < Nat.pow 2 96 :=
      (le_follow (10 * size + digitValue c) digits).trans_lt hsize
    rw [List.cons_append, Progress.run]
    cases places with
    | none =>
      simp only [Option.any_none, hmark, hc, if_pos hnext, Bool.false_eq_true, if_false, if_true,
        Bool.false_and]
      rw [ih hbehind hsize none true (by simp)]
      simp [follow]
    | some n =>
      have hroom : n + (digits.length + 1) ≤ 28 := hplaces n rfl
      have hfull : ¬ 28 ≤ n := by omega
      simp only [Option.any_some, decide_eq_true_eq, hfull, hmark, hc, if_pos hnext,
        Bool.false_eq_true, if_false, Bool.not_true, Bool.false_and]
      rw [ih hbehind hsize (some (n + 1)) true (by rintro m ⟨⟩; omega)]
      simp [follow, Nat.add_assoc, Nat.add_comm 1]

/-- Digits without a point are read as their number. -/
theorem Progress.run_whole (hne : digits ≠ []) (hdigits : ∀ c ∈ digits, c.isDigit)
    (hsize : natOfDigits digits < Nat.pow 2 96) :
    Progress.run {} digits = some (natOfDigits digits, 0) := by
  have hrun := Progress.run_digits hdigits hsize none false (by simp) []
  rw [List.append_nil] at hrun
  rw [hrun]
  simp [Progress.run, hne, follow, natOfDigits]

/-- Digits with a point between them are read as their number, with the places behind the point. -/
theorem Progress.run_point {whole fraction : List Char} (hwhole : whole ≠ [])
    (hdigits : ∀ c ∈ whole ++ fraction, c.isDigit)
    (hsize : natOfDigits (whole ++ fraction) < Nat.pow 2 96) (hplaces : fraction.length ≤ 28) :
    Progress.run {} (whole ++ '.' :: fraction) =
      some (natOfDigits (whole ++ fraction), fraction.length) := by
  rw [natOfDigits_append] at hsize ⊢
  have hfront : natOfDigits whole < Nat.pow 2 96 := (le_follow _ fraction).trans_lt hsize
  have hrunWhole := Progress.run_digits (fun c hc => hdigits c (List.mem_append_left fraction hc))
    hfront none false (by simp) ('.' :: fraction)
  have hpoint : Progress.run ⟨natOfDigits whole, none, true⟩ ('.' :: fraction) =
      Progress.run ⟨natOfDigits whole, some 0, true⟩ fraction := rfl
  have hrunFraction := Progress.run_digits (fun c hc => hdigits c (List.mem_append_right whole hc))
    hsize (some 0) true (by simpa using hplaces) []
  rw [List.append_nil] at hrunFraction
  have hstarted : (false || !whole.isEmpty) = true := by simpa using hwhole
  rw [hstarted] at hrunWhole
  rw [hrunWhole]
  refine hpoint.trans (hrunFraction.trans ?_)
  simp [Progress.run]

/-- A text that starts with a digit has no sign. -/
theorem splitSign_digits (hne : digits ≠ []) (hdigits : ∀ c ∈ digits, c.isDigit)
    (rest : List Char) : splitSign (digits ++ rest) = (false, digits ++ rest) := by
  cases digits with
  | nil => exact absurd rfl hne
  | cons c digits =>
    have hc := hdigits c List.mem_cons_self
    rw [List.cons_append]
    unfold splitSign
    split
    · next heq =>
      cases heq
      cases hc
    · next heq =>
      cases heq
      cases hc
    · rfl

/-- The parts of a decimal are those of the decimal, unless it is a zero with a sign. -/
theorem of?_parts {d : Decimal} (h : d.negative = false ∨ d.size ≠ 0) :
    of? d.negative d.size d.scale = some d := by
  have hsign : (d.negative && d.size != 0) = d.negative := by
    rcases h with h | h
    · simp [h]
    · simp [h]
  rw [of?, dif_pos ⟨d.size_lt, d.scale_le⟩]
  simp only [hsign]

/-- A decimal is read from what writes its size and its scale, behind its sign. -/
theorem ofText?_signed {d : Decimal} {body : List Char} (h : d.negative = false ∨ d.size ≠ 0)
    (hbody : splitSign body = (false, body))
    (hrun : Progress.run {} body = some (d.size, d.scale)) :
    ofText? (String.ofList (if d.negative then '-' :: body else body)) = some d := by
  have hsplit : splitSign (if d.negative then '-' :: body else body) = (d.negative, body) := by
    cases d.negative with
    | true => rfl
    | false => exact hbody
  have hplain : ofPlain? (if d.negative then '-' :: body else body) = some d := by
    rw [ofPlain?, hsplit]
    simp only [Option.bind_eq_bind, hrun, Option.bind_some, of?_parts h]
  rw [ofText?, String.toList_ofList, hplain, Option.some_or]

/-- The text of a decimal is read as the decimal, unless it is a zero with a sign. -/
theorem ofText?_text {d : Decimal} (h : d.negative = false ∨ d.size ≠ 0) :
    ofText? d.text = some d := by
  have hdigits : ∀ c ∈ zeroPadded (d.scale + 1) d.size, c.isDigit :=
    fun c => isDigit_of_mem_zeroPadded
  have hnat := natOfDigits_zeroPadded (d.scale + 1) d.size
  have hlength : d.scale + 1 ≤ (zeroPadded (d.scale + 1) d.size).length := le_length_zeroPadded
  unfold text
  generalize zeroPadded (d.scale + 1) d.size = digits at hdigits hnat hlength ⊢
  have hsplit := List.take_append_drop (digits.length - d.scale) digits
  have hwhole : digits.take (digits.length - d.scale) ≠ [] := by
    apply List.ne_nil_of_length_pos
    rw [List.length_take]
    omega
  have hfront : ∀ c ∈ digits.take (digits.length - d.scale), c.isDigit :=
    fun c hc => hdigits c (List.mem_of_mem_take hc)
  have hfraction : (digits.drop (digits.length - d.scale)).length = d.scale := by
    rw [List.length_drop]
    omega
  dsimp only
  refine ofText?_signed h ?_ ?_
  · split
    · have hsign := splitSign_digits hwhole hfront []
      rwa [List.append_nil] at hsign
    · exact splitSign_digits hwhole hfront _
  · split
    · next hscale =>
      rw [hscale, Nat.sub_zero, List.take_length]
      have hne : digits ≠ [] := List.ne_nil_of_length_pos (by omega)
      rw [Progress.run_whole hne hdigits (hnat ▸ d.size_lt), hnat]
    · rw [Progress.run_point hwhole (by rwa [hsplit]) (by rw [hsplit, hnat]; exact d.size_lt)
        (hfraction.trans_le d.scale_le), hsplit, hnat, hfraction]

end SqlRender.Decimal
