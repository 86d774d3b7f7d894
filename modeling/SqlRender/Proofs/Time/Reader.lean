import SqlRender.Proofs.Text.Digits
import SqlRender.Time.Reader

/-!
# Timestamps read back from their texts

The text of a timestamp is read as the timestamp. Each part of the text is read up to where the next
one starts: fixed numbers of digits end by themselves, and the others end at a separator, which is
neither a digit nor a blank. What the text cannot tell does not come back: years past a bound, leap
seconds within a minute, and the seconds of an offset.
-/

namespace SqlRender

open Text

variable {rest : List Char} {width n : Nat}

/-- A number that has just the digits it may have is read, whatever follows. -/
theorem readNumber?_zeroPadded (hwidth : 0 < width) (h : n < 10 ^ width) (rest : List Char) :
    readNumber? width (zeroPadded width n ++ rest) = some (n, rest) := by
  have hlength := length_zeroPadded hwidth h
  have hdigits : ∀ c ∈ zeroPadded width n, c.isDigit := fun c => isDigit_of_mem_zeroPadded
  have hspan : spanDigitsUpTo width (zeroPadded width n ++ rest) = (zeroPadded width n, rest) :=
    spanDigitsUpTo_digits_append hdigits hlength.le (.inl hlength)
  rw [readNumber?, trimStart_digits_append zeroPadded_ne_nil hdigits, hspan]
  dsimp only
  rw [if_neg (by simpa using zeroPadded_ne_nil), natOfDigits_zeroPadded]

/-- A separator that is no blank is read. -/
theorem readMark?_cons {mark : Char} (h : isBlank mark = false) (rest : List Char) :
    readMark? mark (mark :: rest) = some rest := by
  rw [readMark?, trimStart_eq_self (by rintro c ⟨⟩; exact h)]
  simp

/-- A year behind a minus has all the digits there are. -/
theorem readYear?_minus (s : List Char) : readYear? ('-' :: s) =
    if (spanDigits s).1.isEmpty then none
    else some (-1 * (natOfDigits (spanDigits s).1 : Int), (spanDigits s).2) := rfl

/-- A year behind a plus has all the digits there are. -/
theorem readYear?_plus (s : List Char) : readYear? ('+' :: s) =
    if (spanDigits s).1.isEmpty then none
    else some (1 * (natOfDigits (spanDigits s).1 : Int), (spanDigits s).2) := rfl

/-- A year that starts with a digit has four digits at most. -/
theorem readYear?_digits {digits : List Char} (hne : digits ≠ [])
    (hdigits : ∀ c ∈ digits, c.isDigit) (rest : List Char) : readYear? (digits ++ rest) =
      (readNumber? 4 (digits ++ rest)).map fun (n, rest) => ((n : Int), rest) := by
  rw [readYear?, trimStart_digits_append hne hdigits]
  cases digits with
  | nil => exact absurd rfl hne
  | cons c digits =>
    have hc := hdigits c List.mem_cons_self
    rw [List.cons_append]
    split
    · next heq =>
      cases heq
      cases hc
    · next heq =>
      cases heq
      cases hc
    · rfl

/-- A year is read up to what is no digit. -/
theorem readYear?_yearText (year : Int) (hrest : ∀ c ∈ rest.head?, c.isDigit = false) :
    readYear? (Stamp.yearText year ++ rest) = some (year, rest) := by
  have hdigits : ∀ c ∈ zeroPadded 4 year.natAbs, c.isDigit := fun c => isDigit_of_mem_zeroPadded
  have hspan : spanDigits (zeroPadded 4 year.natAbs ++ rest) = (zeroPadded 4 year.natAbs, rest) :=
    spanDigits_digits_append hdigits hrest
  have hne : (zeroPadded 4 year.natAbs).isEmpty = false := by simpa using zeroPadded_ne_nil
  unfold Stamp.yearText
  split
  · rw [List.cons_append, readYear?_minus, hspan, hne, if_neg (by decide), natOfDigits_zeroPadded]
    exact congrArg some (Prod.ext (by dsimp only; omega) rfl)
  · split
    · rw [List.cons_append, readYear?_plus, hspan, hne, if_neg (by decide), natOfDigits_zeroPadded]
      exact congrArg some (Prod.ext (by dsimp only; omega) rfl)
    · rw [readYear?_digits zeroPadded_ne_nil hdigits,
        readNumber?_zeroPadded (by decide) (by omega)]
      exact congrArg some (Prod.ext (by dsimp only; omega) rfl)

/-- A date is read up to what is no digit, whatever its year. -/
theorem readDateFields?_dateText (d : Date) (rest : List Char) :
    readDateFields? (Stamp.dateText d ++ rest) = some ((d.year, d.month, d.day), rest) := by
  have hmonth := d.month_le
  have hday := d.day_le.trans (daysInMonth_le d.year d.month)
  have hyear : ∀ behind, readYear? (Stamp.yearText d.year ++ '-' :: behind) =
      some (d.year, '-' :: behind) := fun behind => readYear?_yearText d.year (by rintro c ⟨⟩; rfl)
  simp only [Stamp.dateText, List.append_assoc, List.cons_append]
  rw [readDateFields?, hyear]
  simp only [Option.bind_eq_bind, Option.bind_some, Option.pure_def]
  rw [readMark?_cons rfl, Option.bind_some, readNumber?_zeroPadded (by decide) (by omega)]
  simp only [Option.bind_some]
  rw [readMark?_cons rfl, Option.bind_some, readNumber?_zeroPadded (by decide) (by omega)]
  rfl

/-- The fields of a date with a year in range are those of the date. -/
theorem dateOfFields?_fields {d : Date} (h : isReadableYear d.year) :
    dateOfFields? (d.year, d.month, d.day) = some d := by
  have hfields : 1 ≤ d.month ∧ d.month ≤ 12 ∧ 1 ≤ d.day ∧ d.day ≤ daysInMonth d.year d.month :=
    ⟨d.month_pos, d.month_le, d.day_pos, d.day_le⟩
  rw [dateOfFields?, if_pos h, Date.of?, dif_pos hfields]

/-- Digits behind a point are read as a fraction in billionths. -/
theorem readFraction?_zeroPadded (hwidth : 0 < width) (hle : width ≤ 9) (h : n < 10 ^ width)
    (hrest : ∀ c ∈ rest.head?, c.isDigit = false) :
    readFraction? ('.' :: zeroPadded width n ++ rest) =
      some (n * Nat.pow 10 (9 - width), rest) := by
  have hdigits : ∀ c ∈ zeroPadded width n, c.isDigit := fun c => isDigit_of_mem_zeroPadded
  have hlength := length_zeroPadded hwidth h
  have hspan : spanDigitsUpTo 9 (zeroPadded width n ++ rest) = (zeroPadded width n, rest) :=
    spanDigitsUpTo_digits_append hdigits (hlength.trans_le hle) (.inr hrest)
  rw [List.cons_append, readFraction?]
  simp only [hspan, dropWhile_isDigit_eq_self hrest, natOfDigits_zeroPadded, hlength]
  rw [if_neg (by simpa using zeroPadded_ne_nil)]

/-- Without a point there is no fraction. -/
theorem readFraction?_eq_zero (h : ∀ c ∈ rest.head?, c ≠ '.') :
    readFraction? rest = some (0, rest) := by
  unfold readFraction?
  split
  · exact absurd rfl (h '.' rfl)
  · rfl

/-- A fraction is read up to what is neither a digit nor a point. -/
theorem readFraction?_fractionText (hn : n < 10 ^ 9)
    (hrest : ∀ c ∈ rest.head?, c.isDigit = false ∧ c ≠ '.') :
    readFraction? (Stamp.fractionText n ++ rest) = some (n, rest) := by
  have hdigit : ∀ c ∈ rest.head?, c.isDigit = false := fun c hc => (hrest c hc).1
  -- The zeros that the shorter forms leave out come back with the power of ten.
  unfold Stamp.fractionText
  split
  · next hzero =>
    rw [List.nil_append, readFraction?_eq_zero fun c hc => (hrest c hc).2, hzero]
  · split
    · next hmilli =>
      have hvalue : n / 1000000 * 1000000 = n := Nat.div_mul_cancel (Nat.dvd_of_mod_eq_zero hmilli)
      rw [readFraction?_zeroPadded (by decide) (by decide) (by omega) hdigit]
      exact congrArg some (Prod.ext hvalue rfl)
    · split
      · next hmicro =>
        have hvalue : n / 1000 * 1000 = n := Nat.div_mul_cancel (Nat.dvd_of_mod_eq_zero hmicro)
        rw [readFraction?_zeroPadded (by decide) (by decide) (by omega) hdigit]
        exact congrArg some (Prod.ext hvalue rfl)
      · rw [readFraction?_zeroPadded (by decide) (by decide) hn hdigit]
        exact congrArg some (Prod.ext (Nat.mul_one n) rfl)

/-- Whether the text of a clock tells the clock: a leap second stands at the end of a minute. -/
def Clock.isReadable (c : Clock) : Bool := c.nanosecond < Nat.pow 10 9 || c.second == 59

/-- Whether the text of a stamp tells the stamp. -/
def Stamp.isReadable (s : Stamp) : Bool := isReadableYear s.date.year && s.clock.isReadable

/-- Whether the text of an offset stamp tells the stamp: the year must be in range on the clock of
universal time too, and the offset must be in whole minutes. -/
def OffsetStamp.isReadable (s : OffsetStamp) : Bool :=
  s.stamp.isReadable && isReadableYear s.universal.date.year && s.offset % 60 == 0

/-- The clock that shows what a clock shows is that clock. -/
theorem Clock.of?_shown {c : Clock} (h : c.isReadable) :
    Clock.of? c.hour c.minute c.shownSecond c.fraction = some c := by
  obtain ⟨hour, minute, second, nanosecond, hhour, hminute, hsecond, hnanosecond⟩ := c
  have hleap : nanosecond < 1000000000 ∨ second = 59 := by simpa [isReadable] using h
  change nanosecond < 2000000000 at hnanosecond
  change Clock.of? hour minute (second + nanosecond / 1000000000) (nanosecond % 1000000000) = _
  have hshown : second + nanosecond / 1000000000 ≤ 60 := by omega
  rw [of?, dif_pos ⟨hhour, hminute, hshown, Nat.mod_lt _ (by decide)⟩, Option.some.injEq]
  simp only [mk.injEq, true_and]
  change second + nanosecond / 1000000000 - (second + nanosecond / 1000000000) / 60 = second ∧
    (second + nanosecond / 1000000000) / 60 * 1000000000 + nanosecond % 1000000000 = nanosecond
  omega

/-- A clock is read up to what is neither a digit, a point nor a blank. -/
theorem readClock?_clockText {c : Clock} (h : c.isReadable)
    (hrest : ∀ x ∈ rest.head?, x.isDigit = false ∧ x ≠ '.' ∧ isBlank x = false) :
    readClock? (Stamp.clockText c ++ rest) = some (c, rest) := by
  have hhour := c.hour_lt
  have hminute := c.minute_lt
  have hsecond : c.shownSecond < 10 ^ 2 := by
    have hsecond := c.second_lt
    have hleap : c.nanosecond / Nat.pow 10 9 < 2 := Nat.div_lt_of_lt_mul (by
      rw [Nat.mul_comm]
      exact c.nanosecond_lt)
    unfold Clock.shownSecond
    omega
  have hfraction : readFraction? (Stamp.fractionText c.fraction ++ rest) =
      some (c.fraction, rest) :=
    readFraction?_fractionText (Nat.mod_lt _ (by decide)) fun x hx =>
      ⟨(hrest x hx).1, (hrest x hx).2.1⟩
  simp only [Stamp.clockText, List.append_assoc, List.cons_append]
  rw [readClock?, readNumber?_zeroPadded (by decide) (by omega)]
  simp only [Option.bind_eq_bind, Option.bind_some, Option.pure_def]
  rw [readMark?_cons rfl, Option.bind_some, readNumber?_zeroPadded (by decide) (by omega)]
  simp only [Option.bind_some]
  rw [readMark?_cons rfl, Option.bind_some, readNumber?_zeroPadded (by decide) hsecond]
  simp only [Option.bind_some, hfraction]
  rw [Clock.of?_shown h, Option.bind_some, trimStart_eq_self fun x hx => (hrest x hx).2.2]

/-- The text of a stamp is read as the stamp. -/
theorem Stamp.ofText?_text {s : Stamp} (h : s.isReadable) : Stamp.ofText? s.text = some s := by
  obtain ⟨hyear, hclock⟩ := Bool.and_eq_true_iff.mp h
  have hread : readClock? (clockText s.clock) = some (s.clock, []) := by
    rw [← List.append_nil (clockText s.clock)]
    exact readClock?_clockText hclock nofun
  rw [Stamp.ofText?, Stamp.text, String.toList_ofList, textWith, readDateFields?_dateText]
  simp only [Option.bind_eq_bind, Option.bind_some]
  rw [readMark?_cons rfl, Option.bind_some, hread]
  simp only [Option.bind_some, dateOfFields?_fields hyear]
  rfl

/-- The hours and minutes of an offset are read, with a colon between them. -/
theorem readOffsetSize?_minutes (h : n < 1440) :
    readOffsetSize? (zeroPadded 2 (n / 60) ++ ':' :: zeroPadded 2 (n % 60)) = some (n, []) := by
  have hdigits : ∀ m, ∀ c ∈ zeroPadded 2 m, c.isDigit := fun _ _ => isDigit_of_mem_zeroPadded
  have hhours : (zeroPadded 2 (n / 60)).length = 2 := length_zeroPadded (by decide) (by omega)
  have hminutes : (zeroPadded 2 (n % 60)).length = 2 := length_zeroPadded (by decide) (by omega)
  have hcolon : (':' :: zeroPadded 2 (n % 60)).dropWhile (fun c => c == ':' || isBlank c) =
      zeroPadded 2 (n % 60) ++ [] := by
    cases hm : zeroPadded 2 (n % 60) with
    | nil => exact absurd hm zeroPadded_ne_nil
    | cons c digits =>
      have hc : c.isDigit := hdigits (n % 60) c (hm ▸ List.mem_cons_self)
      have hmark : (c == ':') = false := by rw [beq_eq_false_iff_ne]; rintro rfl; cases hc
      simp [hmark, isBlank_of_isDigit hc]
  rw [readOffsetSize?, spanDigitsUpTo_digits_append (hdigits _) hhours.le (.inl hhours)]
  dsimp only
  rw [hcolon, spanDigitsUpTo_digits_append (hdigits _) hminutes.le (.inl hminutes)]
  dsimp only
  rw [natOfDigits_zeroPadded, natOfDigits_zeroPadded,
    if_pos ⟨hhours, hminutes, Nat.mod_lt n (by decide)⟩, Nat.div_add_mod]

/-- An offset of whole minutes is read from its hours and minutes. -/
theorem readOffset?_minutesText {offset : Int} (h : offset.natAbs < 86400)
    (hwhole : offset % 60 = 0) :
    readOffset? (OffsetStamp.minutesText offset [':']) = some (offset, []) := by
  obtain ⟨minutes, hminutes⟩ : ∃ minutes, (offset.natAbs + 30) / 60 = minutes := ⟨_, rfl⟩
  have hsize := readOffsetSize?_minutes (n := minutes) (by omega)
  simp only [OffsetStamp.minutesText, OffsetStamp.sign, hminutes, List.cons_append,
    List.append_assoc, List.nil_append]
  split
  · have hvalue : offset = -(60 * (minutes : Int)) := by omega
    simp [readOffset?, hsize, hvalue]
  · have hvalue : offset = 60 * (minutes : Int) := by omega
    simp [readOffset?, hsize, hvalue]

/-- What may stand behind the clock of an offset stamp: nothing that belongs to a clock. -/
private theorem head_minutesText {offset : Int} {separator : List Char} :
    ∀ c ∈ (OffsetStamp.minutesText offset separator).head?,
      c.isDigit = false ∧ c ≠ '.' ∧ isBlank c = false := by
  unfold OffsetStamp.minutesText OffsetStamp.sign
  split
  · rintro c ⟨⟩
    decide
  · rintro c ⟨⟩
    decide

/-- The text of an offset stamp on the wire is read as the stamp. -/
theorem OffsetStamp.ofText?_wireText {s : OffsetStamp} (h : s.isReadable) :
    OffsetStamp.ofText? s.wireText = some s := by
  obtain ⟨⟨⟨hyear, hclock⟩, huniversal⟩, hwhole⟩ :
      ((isReadableYear s.stamp.date.year ∧ s.stamp.clock.isReadable) ∧
        isReadableYear s.universal.date.year) ∧ s.offset % 60 = 0 := by
    simpa [isReadable, Stamp.isReadable] using h
  -- Both forms of the zone are read in the same way behind the clock.
  have hread : ∀ zone : List Char, readOffset? zone = some (s.offset, []) →
      (∀ c ∈ zone.head?, c.isDigit = false ∧ c ≠ '.' ∧ isBlank c = false) →
      OffsetStamp.ofText? (String.ofList (s.stamp.textWith 'T' ++ zone)) = some s := by
    intro zone hzone hhead
    rw [OffsetStamp.ofText?, String.toList_ofList, Stamp.textWith, List.append_assoc,
      readDateFields?_dateText]
    simp only [Option.bind_eq_bind, Option.bind_some, List.cons_append]
    rw [readClock?_clockText hclock hhead]
    simp only [Option.bind_some, hzone, dateOfFields?_fields hyear]
    rw [if_pos (by decide), dif_pos s.offset_lt, if_pos]
    simp only [Bool.and_eq_true]
    exact ⟨rfl, huniversal⟩
  unfold OffsetStamp.wireText
  split
  · next hzero =>
    refine hread ['Z'] (by rw [hzero]; rfl) ?_
    rintro c ⟨⟩
    decide
  · exact hread _ (readOffset?_minutesText s.offset_lt hwhole) head_minutesText

end SqlRender
