import Mathlib.Data.Nat.Digits.Defs
import SqlRender.Proofs.Paging
import SqlRender.Proofs.Token.Plain

/-!
# The rows that a window keeps

An engine reads the words of a window by a grammar of its own: which of two numbers is the count of
rows to skip depends on the words around them, and "all the rest" has a different spelling in each
grammar. Read so, what is written for an offset and a limit skips the offset and takes the limit, on
every engine that has words for the window. Where an engine can only name a number that no result
reaches, it takes that many, which is the same on every result that can be.
-/

namespace SqlRender

/-- The words, marks and numbers of which the grammars of windows are made. -/
inductive WindowItem
  | top | limit | offset | rows | fetch | next | only
  | comma | minus | opening | closing
  | count (n : Nat)
deriving DecidableEq

namespace WindowItem

/-- The words of a window in capital letters; some have two forms. -/
def keywords : List (List Char × WindowItem) :=
  [(['T', 'O', 'P'], top), (['L', 'I', 'M', 'I', 'T'], limit),
    (['O', 'F', 'F', 'S', 'E', 'T'], offset), (['R', 'O', 'W'], rows), (['R', 'O', 'W', 'S'], rows),
    (['F', 'E', 'T', 'C', 'H'], fetch), (['F', 'I', 'R', 'S', 'T'], next),
    (['N', 'E', 'X', 'T'], next), (['O', 'N', 'L', 'Y'], only)]

/-- The marks of a window. -/
def marks : List (Char × WindowItem) :=
  [(',', comma), ('-', minus), ('(', opening), (')', closing)]

/-- What a token is in a window: a number in decimal digits, a word in any case, or a mark. -/
def ofToken? : Token → Option WindowItem
  | .word s =>
    if s.all Char.isDigit then some (count (Text.natOfDigits s))
    else keywords.lookup (s.map Char.toUpper)
  | .symbol c => marks.lookup c
  | _ => none

end WindowItem

/-- A window of rows: how many are skipped, and how many are taken of the rest, if not all. -/
structure Window where
  skip : Nat := 0
  take : Option Nat := none
deriving DecidableEq

namespace Window

/-- The rows of a result that a window keeps. -/
def keep {α : Type} (w : Window) (rows : List α) : List α :=
  match w.take with
  | some n => (rows.drop w.skip).take n
  | none => rows.drop w.skip

/-- A window for an offset and a limit skips the offset and takes the limit. Where there is no limit
it takes all the rest, or more rows than any result has. -/
structure IsFor (w : Window) (offset limit : Option Nat) : Prop where
  skip_eq : w.skip = offset.getD 0
  take_eq : w.take = limit ∨ limit = none ∧ w.take = some Paging.unlimited

/-- A window for an offset and a limit keeps the rows behind the offset, up to the limit. -/
theorem IsFor.keep_eq {α : Type} {w : Window} {offset limit : Option Nat} (h : w.IsFor offset limit)
    {rows : List α} (hrows : rows.length < UInt64.size) :
    w.keep rows = (rows.drop (offset.getD 0)).take (limit.getD rows.length) := by
  obtain ⟨hskip, htake⟩ := h
  have hlength : (rows.drop (offset.getD 0)).length ≤ rows.length := by
    rw [List.length_drop]
    omega
  rw [keep, hskip]
  rcases htake with htake | ⟨hlimit, htake⟩
  · rw [htake]
    cases limit with
    | some n => rfl
    | none => exact (List.take_of_length_le hlength).symm
  · have hunlimited : (rows.drop (offset.getD 0)).length ≤ Paging.unlimited := by
      rw [Paging.unlimited]
      omega
    rw [htake, hlimit, Option.getD_none, List.take_of_length_le hlength]
    exact List.take_of_length_le hunlimited

open WindowItem

/-- `TOP (n)`, or without the parentheses. -/
def readTop? : List WindowItem → Option Window
  | [top, opening, count n, closing] => some { take := some n }
  | [top, count n] => some { take := some n }
  | _ => none

/-- `OFFSET m ROWS`, with `FETCH NEXT n ROWS ONLY` behind it or without. -/
def readOffsetFetch? : List WindowItem → Option Window
  | [] => some {}
  | [offset, count m, rows] => some { skip := m }
  | [offset, count m, rows, fetch, next, count n, rows, only] => some { skip := m, take := some n }
  | _ => none

/-- `LIMIT n`, `LIMIT m,n` with the rows to skip in front, or `LIMIT n OFFSET m`. -/
def readLimitComma? : List WindowItem → Option Window
  | [] => some {}
  | [limit, count n] => some { take := some n }
  | [limit, count m, comma, count n] => some { skip := m, take := some n }
  | [limit, count n, offset, count m] => some { skip := m, take := some n }
  | _ => none

/-- `OFFSET m` and `LIMIT n`, each at most once and in either order. -/
def readOffsetLimit? : List WindowItem → Option Window
  | [] => some {}
  | [offset, count m] => some { skip := m }
  | [limit, count n] => some { take := some n }
  | [offset, count m, limit, count n] => some { skip := m, take := some n }
  | [limit, count n, offset, count m] => some { skip := m, take := some n }
  | _ => none

/-- `LIMIT n`, and behind it `OFFSET m`, or `LIMIT m,n`. A limit below zero takes all the rest. -/
def readLimitOffset? : List WindowItem → Option Window
  | [] => some {}
  | [limit, count n] => some { take := some n }
  | [limit, count m, comma, count n] => some { skip := m, take := some n }
  | [limit, count n, offset, count m] => some { skip := m, take := some n }
  | [limit, minus, count (_ + 1)] => some {}
  | [limit, minus, count (_ + 1), offset, count m] => some { skip := m }
  | _ => none

end Window

/-- Reads the end of a statement by the grammar of a style. -/
def PagingStyle.readSuffix? : PagingStyle → List WindowItem → Option Window
  | offsetFetch => Window.readOffsetFetch?
  | limitComma => Window.readLimitComma?
  | offsetLimit => Window.readOffsetLimit?
  | limitOffset => Window.readLimitOffset?

namespace Dialect

open Fragment

/-- The words, marks and numbers of a text as the engine reads it. -/
def windowItems? (d : Dialect) (s : String) : Option (List WindowItem) :=
  (d.profile.tokens? s.toList).bind (List.mapM WindowItem.ofToken?)

/-- Reads the window that the words behind `SELECT` and at the end of a statement ask for. Only
SQL Server has words behind `SELECT`, and does not take them together with others at the end. -/
def readWindow? (d : Dialect) (paging : Paging) : Option Window :=
  match paging.top with
  | none => (d.windowItems? paging.suffix).bind d.profile.paging.readSuffix?
  | some words =>
    if d.profile.paging = .offsetFetch ∧ d.windowItems? paging.suffix = some [] then
      (d.windowItems? words).bind Window.readTop?
    else none

/-- A text that can be read by itself and has the given words, marks and numbers. -/
def HasItems (d : Dialect) (s : String) (items : List WindowItem) : Prop :=
  ∃ tokens, d.profile.Reads s.toList tokens ∧ tokens.mapM WindowItem.ofToken? = some items

variable {d : Dialect} {s t : String} {items others : List WindowItem}

/-- A text has the items that it is read as. -/
theorem HasItems.windowItems? (h : d.HasItems s items) : d.windowItems? s = some items := by
  obtain ⟨tokens, hreads, hitems⟩ := h
  rw [Dialect.windowItems?, hreads.tokens?, Option.bind_some, hitems]

/-- Two texts with a break at the seam have the items of both. -/
theorem HasItems.append (hs : d.HasItems s items) (ht : d.HasItems t others)
    (hbreak : endsWithBreak s.toList ∨ startsWithBreak t.toList) :
    d.HasItems (s ++ t) (items ++ others) := by
  obtain ⟨tokens, hreads, hitems⟩ := hs
  obtain ⟨tokens', hreads', hitems'⟩ := ht
  refine ⟨tokens ++ tokens', ?_, ?_⟩
  · rw [String.toList_append]
    exact hreads.append hreads' hbreak
  · rw [List.mapM_append, hitems, hitems']
    rfl

/-- A fixed text has the items that it has on every engine. -/
theorem hasItems_words (h : ∀ e ∈ Engine.all, e.profile.Settles s.toList ∧
    (e.profile.tokens s.toList).mapM WindowItem.ofToken? = some items) : d.HasItems s items := by
  obtain ⟨hsettles, hitems⟩ := h d.engine d.engine.mem_all
  exact ⟨_, hsettles.reads, hitems⟩

/-- A number in decimal digits is read as the number that it is. -/
theorem hasItems_count (d : Dialect) (n : Nat) : d.HasItems (toString n) [.count n] := by
  refine ⟨_, Profile.reads_nat n, ?_⟩
  have hdigits : (Nat.toDigits 10 n).all Char.isDigit :=
    List.all_eq_true.mpr fun c hc => Nat.isDigit_of_mem_toDigits (by decide) (by decide) hc
  have hvalue : Text.natOfDigits (Nat.toDigits 10 n) = n :=
    Nat.ofDigitChars_toDigits (by decide) (by decide)
  rw [List.mapM_cons, WindowItem.ofToken?, if_pos hdigits, hvalue]
  rfl

/-- Words with a number behind them. -/
theorem HasItems.count (hs : d.HasItems s items) (hbreak : endsWithBreak s.toList) (n : Nat) :
    d.HasItems (s ++ toString n) (items ++ [.count n]) :=
  hs.append (d.hasItems_count n) (.inl hbreak)

/-- A window without words behind `SELECT` is read off the end of the statement. -/
theorem HasItems.readWindow? {w : Window} (hs : d.HasItems s items)
    (hw : d.profile.paging.readSuffix? items = some w) :
    d.readWindow? { suffix := s } = some w := by
  rw [Dialect.readWindow?, hs.windowItems?, Option.bind_some, hw]

/-- The words of a window behind `SELECT` are read off them alone. -/
theorem HasItems.readWindow?_top {w : Window} (hs : d.HasItems s items)
    (hstyle : d.profile.paging = .offsetFetch) (hw : Window.readTop? items = some w) :
    d.readWindow? { top := some s } = some w := by
  have hnothing : d.windowItems? "" = some [] := (hasItems_words (by decide)).windowItems?
  simp only [Dialect.readWindow?, hstyle, hnothing, hs.windowItems?, Option.bind_some, hw, and_self,
    if_true]

/-- Words between breaks with a number behind them. -/
theorem HasItems.phrase (hs : d.HasItems s items) {words : String} (hwords : IsSeparator words)
    (hitems : d.HasItems words others) (n : Nat) :
    d.HasItems (s ++ words ++ toString n) (items ++ others ++ [.count n]) := by
  obtain ⟨-, hstart, hend, hne⟩ := hwords
  have hbehind := hs.append hitems (.inr hstart)
  apply hbehind.count
  rw [String.toList_append, endsWithBreak_append (by simpa using hne)]
  exact hend

/-- Rows are skipped by a number behind a word. -/
theorem hasItems_offset (d : Dialect) (m : Nat) :
    d.HasItems (" OFFSET " ++ toString m) [.offset, .count m] := by
  have hoffset : d.HasItems " OFFSET " [.offset] := hasItems_words (by decide)
  exact hoffset.count (by decide) m

/-- Rows are taken by a number behind a word. -/
theorem hasItems_limit (d : Dialect) (n : Nat) :
    d.HasItems (" LIMIT " ++ toString n) [.limit, .count n] := by
  have hlimit : d.HasItems " LIMIT " [.limit] := hasItems_words (by decide)
  exact hlimit.count (by decide) n

/-- Rows are skipped by a number between two words. -/
theorem hasItems_skip (d : Dialect) (m : Nat) :
    d.HasItems (" OFFSET " ++ toString m ++ " ROWS") [.offset, .count m, .rows] := by
  have hrows : d.HasItems " ROWS" [.rows] := hasItems_words (by decide)
  exact (d.hasItems_offset m).append hrows (.inr (by decide))

/-- Rows are taken by a number between words, behind the rows that are skipped. -/
theorem hasItems_fetch (d : Dialect) (m n : Nat) :
    d.HasItems (" OFFSET " ++ toString m ++ " ROWS" ++ " FETCH NEXT " ++ toString n ++ " ROWS ONLY")
      [.offset, .count m, .rows, .fetch, .next, .count n, .rows, .only] := by
  have hnext : d.HasItems " FETCH NEXT " [.fetch, .next] := hasItems_words (by decide)
  have honly : d.HasItems " ROWS ONLY" [.rows, .only] := hasItems_words (by decide)
  exact ((d.hasItems_skip m).phrase (by decide) hnext n).append honly (.inr (by decide))

/-- Rows are taken by a number in parentheses behind a word. -/
theorem hasItems_top (d : Dialect) (n : Nat) :
    d.HasItems ("TOP (" ++ toString n ++ ")") [.top, .opening, .count n, .closing] := by
  have hopening : d.HasItems "TOP (" [.top, .opening] := hasItems_words (by decide)
  have hclosing : d.HasItems ")" [.closing] := hasItems_words (by decide)
  exact (hopening.count (by decide) n).append hclosing (.inr (by decide))

/-- What is written for an offset and a limit is read as a window for them. -/
theorem readWindow?_of_paging {offset limit : Option Nat} {ordered : Bool} {paging : Paging}
    (h : d.paging offset limit ordered = .ok paging) :
    ∃ w, d.readWindow? paging = some w ∧ w.IsFor offset limit := by
  have hnothing : d.HasItems "" [] := hasItems_words (by decide)
  unfold Dialect.paging at h
  cases hstyle : d.profile.paging with
  | offsetFetch =>
    rw [hstyle] at h
    rcases offset with _ | m <;> rcases limit with _ | n <;> cases ordered <;> cases h
    · exact ⟨{}, hnothing.readWindow? (by rw [hstyle]; rfl), rfl, .inl rfl⟩
    · exact ⟨{}, hnothing.readWindow? (by rw [hstyle]; rfl), rfl, .inl rfl⟩
    · exact ⟨_, (d.hasItems_top n).readWindow?_top hstyle rfl, rfl, .inl rfl⟩
    · exact ⟨_, (d.hasItems_fetch 0 n).readWindow? (by rw [hstyle]; rfl), rfl, .inl rfl⟩
    · exact ⟨_, (d.hasItems_skip m).readWindow? (by rw [hstyle]; rfl), rfl, .inl rfl⟩
    · exact ⟨_, (d.hasItems_fetch m n).readWindow? (by rw [hstyle]; rfl), rfl, .inl rfl⟩
  | limitComma =>
    rw [hstyle] at h
    cases h
    have hcomma : d.HasItems "," [.comma] := hasItems_words (by decide)
    have hboth : ∀ m n : Nat, d.HasItems (" LIMIT " ++ toString m ++ "," ++ toString n)
        [.limit, .count m, .comma, .count n] := fun m n =>
      (d.hasItems_limit m).phrase (by decide) hcomma n
    rcases offset with _ | m <;> rcases limit with _ | n
    · exact ⟨_, hnothing.readWindow? (by rw [hstyle]; rfl), rfl, .inl rfl⟩
    · exact ⟨_, (d.hasItems_limit n).readWindow? (by rw [hstyle]; rfl), rfl, .inl rfl⟩
    · exact ⟨_, (hboth m _).readWindow? (by rw [hstyle]; rfl), rfl, .inr ⟨rfl, rfl⟩⟩
    · exact ⟨_, (hboth m n).readWindow? (by rw [hstyle]; rfl), rfl, .inl rfl⟩
  | offsetLimit =>
    rw [hstyle] at h
    cases h
    rcases offset with _ | m <;> rcases limit with _ | n
    · have hitems := hnothing.append hnothing (.inl rfl)
      exact ⟨_, hitems.readWindow? (by rw [hstyle]; rfl), rfl, .inl rfl⟩
    · have hitems := hnothing.append (d.hasItems_limit n) (.inl rfl)
      exact ⟨_, hitems.readWindow? (by rw [hstyle]; rfl), rfl, .inl rfl⟩
    · have hitems := (d.hasItems_offset m).append hnothing (.inr rfl)
      exact ⟨_, hitems.readWindow? (by rw [hstyle]; rfl), rfl, .inl rfl⟩
    · have hitems := (d.hasItems_offset m).append (d.hasItems_limit n)
        (.inr (by rw [String.toList_append]; rfl))
      exact ⟨_, hitems.readWindow? (by rw [hstyle]; rfl), rfl, .inl rfl⟩
  | limitOffset =>
    rw [hstyle] at h
    cases h
    have hrest : d.HasItems " LIMIT -1 OFFSET " [.limit, .minus, .count 1, .offset] :=
      hasItems_words (by decide)
    have hoffset : d.HasItems " OFFSET " [.offset] := hasItems_words (by decide)
    have hboth : ∀ m n : Nat, d.HasItems (" LIMIT " ++ toString n ++ " OFFSET " ++ toString m)
        [.limit, .count n, .offset, .count m] := fun m n =>
      (d.hasItems_limit n).phrase (by decide) hoffset m
    rcases offset with _ | m <;> rcases limit with _ | n
    · exact ⟨_, hnothing.readWindow? (by rw [hstyle]; rfl), rfl, .inl rfl⟩
    · exact ⟨_, (d.hasItems_limit n).readWindow? (by rw [hstyle]; rfl), rfl, .inl rfl⟩
    · exact ⟨_, (hrest.count (by decide) m).readWindow? (by rw [hstyle]; rfl), rfl, .inl rfl⟩
    · exact ⟨_, (hboth m n).readWindow? (by rw [hstyle]; rfl), rfl, .inl rfl⟩

/-- A window is refused when the grammar can only skip rows that are in order, and the window skips
rows that are not. -/
theorem paging_eq_error_iff {offset limit : Option Nat} {ordered : Bool} {e : Error} :
    d.paging offset limit ordered = .error e ↔
      (d.profile.paging = .offsetFetch ∧ offset.isSome ∧ ordered = false) ∧
        e = .unsupportedFeature d.engine .unorderedOffset := by
  unfold Dialect.paging
  cases d.profile.paging with
  | offsetFetch =>
    cases offset with
    | none => cases limit <;> cases ordered <;> simp
    | some m => cases limit <;> cases ordered <;> simp [eq_comm]
  | limitComma | offsetLimit | limitOffset => simp

/-- Every engine keeps the same rows. A window is refused only where rows are skipped without an
order and the grammar has no words for that. Otherwise the engine reads, in what is written for an
offset and a limit, a window that keeps the rows behind the offset, up to the limit, of every result
with fewer rows than sixty-four bits count; so two engines that take the same offset and limit keep
the same rows. -/
theorem keep_of_paging (offset limit : Option Nat) (ordered : Bool) :
    (∀ (d : Dialect) (e : Error), d.paging offset limit ordered = .error e ↔
      (d.profile.paging = .offsetFetch ∧ offset.isSome ∧ ordered = false) ∧
        e = .unsupportedFeature d.engine .unorderedOffset) ∧
    (∀ (d : Dialect) (paging : Paging), d.paging offset limit ordered = .ok paging →
      ∃ w, d.readWindow? paging = some w ∧
        ∀ {α : Type} (rows : List α), rows.length < UInt64.size →
          w.keep rows = (rows.drop (offset.getD 0)).take (limit.getD rows.length)) ∧
    ∀ (d d' : Dialect) (paging paging' : Paging), d.paging offset limit ordered = .ok paging →
      d'.paging offset limit ordered = .ok paging' →
      ∃ w w', d.readWindow? paging = some w ∧ d'.readWindow? paging' = some w' ∧
        ∀ {α : Type} (rows : List α), rows.length < UInt64.size → w.keep rows = w'.keep rows := by
  refine ⟨fun d e => paging_eq_error_iff, fun d paging h => ?_, fun d d' paging paging' h h' => ?_⟩
  · obtain ⟨w, hread, hw⟩ := readWindow?_of_paging h
    exact ⟨w, hread, fun rows hrows => hw.keep_eq hrows⟩
  · obtain ⟨w, hread, hw⟩ := readWindow?_of_paging h
    obtain ⟨w', hread', hw'⟩ := readWindow?_of_paging h'
    refine ⟨w, w', hread, hread', fun rows hrows => ?_⟩
    rw [hw.keep_eq hrows, hw'.keep_eq hrows]

/-- Behind three rows and with no limit, MySQL takes as many rows as it can count and SQLite takes
fewer than none; both keep the rest. -/
theorem keep_of_paging_rest :
    ∃ paging paging' w w',
      (ofEngine .mySql).paging (some 3) none false = .ok paging ∧
      (ofEngine .sqlite).paging (some 3) none false = .ok paging' ∧ paging ≠ paging' ∧
      (ofEngine .mySql).readWindow? paging = some w ∧
      (ofEngine .sqlite).readWindow? paging' = some w' ∧
      w.keep ["a", "b", "c", "d", "e"] = ["d", "e"] ∧
      w'.keep ["a", "b", "c", "d", "e"] = ["d", "e"] := by
  obtain ⟨-, hwindow, hsame⟩ := keep_of_paging (some 3) none false
  obtain ⟨w, hread, hkeep⟩ := hwindow (ofEngine .mySql) _ rfl
  obtain ⟨v, v', hread', hread'', heq⟩ := hsame (ofEngine .mySql) (ofEngine .sqlite) _ _ rfl rfl
  obtain rfl : w = v := Option.some.inj (hread.symm.trans hread')
  have hrows := hkeep ["a", "b", "c", "d", "e"] (by decide)
  refine ⟨_, _, w, v', rfl, rfl, by decide, hread, hread'', hrows, ?_⟩
  exact (heq ["a", "b", "c", "d", "e"] (by decide)).symm.trans hrows

end Dialect

end SqlRender
