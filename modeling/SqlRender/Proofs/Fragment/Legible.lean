import SqlRender.Proofs.Fragment.Fill
import SqlRender.Proofs.Token.Plain
import SqlRender.Proofs.Token.Quoted

/-!
# Fragments that can be read piece by piece

A fragment is legible when its fixed texts read plainly and a break stands at every seam
between two pieces. Whatever the names are, and whatever is put into the slots, the text of a
legible fragment is then read as the tokens of its pieces one after the other.
-/

namespace SqlRender

/-- Whether a break stands in front of what follows a piece, given what stands in front of the
piece itself. -/
def Piece.leavesBreak (before : Bool) : Piece → Bool
  | .text s => if s = "" then before else endsWithBreak s.toList
  | .name _ | .slot _ => false

/-- A fixed text fits behind a break, or anywhere if it starts with one; names and slots need a
break in front of them. -/
def Piece.Fits (p : Profile) (before : Bool) : Piece → Prop
  | .text s => p.ReadsPlainly s.toList ∧ (before ∨ startsWithBreak s.toList)
  | .name _ | .slot _ => before

/-- A token's placeholder. -/
def Token.placeholder? : Token → Option String
  | .placeholder s => some (String.ofList s)
  | _ => none

/-- A plain token is no placeholder. -/
theorem Token.placeholder?_of_isPlain {t : Token} (h : t.isPlain) : t.placeholder? = none := by
  cases t <;> first | rfl | cases h

/-- The tokens of a name are plain. -/
theorem isPlain_of_mem_nameTokens {name : String} {t : Token} (h : t ∈ nameTokens name) :
    t.isPlain := by
  rcases eq_of_mem_nameTokens h with rfl | ⟨part, rfl⟩
  · rfl
  · rw [Token.ofPart]
    split <;> rfl

namespace Fragment

variable {p : Profile} {d : Dialect}

/-- Whether a break stands in front of what follows a fragment. -/
def leavesBreak (before : Bool) (f : Fragment) : Bool := f.foldl Piece.leavesBreak before

/-- Every piece of a fragment fits behind the one in front of it. -/
def Legible (p : Profile) : Bool → Fragment → Prop
  | _, [] => True
  | before, piece :: f => piece.Fits p before ∧ Legible p (piece.leavesBreak before) f

/-- Two fragments in a row are legible when the second is so behind the first. -/
theorem legible_append {before : Bool} {f g : Fragment} :
    Legible p before (f ++ g) ↔ Legible p before f ∧ Legible p (leavesBreak before f) g := by
  induction f generalizing before with
  | nil => simp [Legible, leavesBreak]
  | cons piece rest ih =>
    simp only [List.cons_append, Legible, ih, and_assoc]
    rfl

/-- What fits without a break in front fits behind one. -/
theorem Legible.behindBreak {f : Fragment} (h : Legible p false f) : Legible p true f := by
  have general : ∀ (before after : Bool), (before = true → after = true) →
      Legible p before f → Legible p after f := by
    clear h
    induction f with
    | nil => exact fun _ _ _ _ => trivial
    | cons piece rest ih =>
      intro before after himp h
      obtain ⟨hpiece, hrest⟩ := h
      cases piece with
      | text s =>
        refine ⟨⟨hpiece.1, hpiece.2.imp_left himp⟩, ih _ _ ?_ hrest⟩
        intro hleaves
        by_cases hs : s = "" <;> simp_all [Piece.leavesBreak]
      | name s => exact ⟨himp hpiece, ih _ _ id hrest⟩
      | slot v => exact ⟨himp hpiece, ih _ _ id hrest⟩
  exact general false true (by simp) h

/-- What is legible without a break in front is legible everywhere. -/
theorem Legible.anywhere {f : Fragment} (h : Legible p false f) (before : Bool) :
    Legible p before f := by
  cases before with
  | false => exact h
  | true => exact h.behindBreak

/-- A fragment that is legible everywhere may follow a legible one. -/
theorem Legible.append {before : Bool} {f g : Fragment} (hf : Legible p before f)
    (hg : Legible p false g) : Legible p before (f ++ g) :=
  legible_append.mpr ⟨hf, hg.anywhere _⟩

/-- A text of plain characters that starts with a break is legible everywhere. -/
theorem legible_text {s : String} (hplain : s.toList.all isPlainChar)
    (hstart : startsWithBreak s.toList) : Legible p false [.text s] :=
  ⟨⟨Profile.readsPlainly_of_all hplain, .inr hstart⟩, trivial⟩

/-- A text of plain characters with breaks at both ends. -/
def IsSeparator (s : String) : Prop :=
  s.toList.all isPlainChar ∧ startsWithBreak s.toList ∧ endsWithBreak s.toList ∧ s ≠ ""

instance (s : String) : Decidable (IsSeparator s) :=
  inferInstanceAs (Decidable (_ ∧ _))

/-- What is legible behind a break is so behind a separator. -/
theorem legible_separator {separator : String} (h : IsSeparator separator) {f : Fragment}
    (hf : Legible p true f) : Legible p false (.text separator :: f) := by
  obtain ⟨hplain, hstart, hend, hne⟩ := h
  refine ⟨⟨Profile.readsPlainly_of_all hplain, .inr hstart⟩, ?_⟩
  simpa [Piece.leavesBreak, hne, hend] using hf

/-- A text of plain characters with a break at its end. -/
def IsLead (s : String) : Prop := s.toList.all isPlainChar ∧ endsWithBreak s.toList ∧ s ≠ ""

instance (s : String) : Decidable (IsLead s) := inferInstanceAs (Decidable (_ ∧ _))

/-- What is legible behind a break is so behind a lead that stands behind one itself. -/
theorem legible_lead {s : String} (h : IsLead s) {f : Fragment}
    (hf : Legible p true f) : Legible p true (.text s :: f) := by
  obtain ⟨hplain, hend, hne⟩ := h
  refine ⟨⟨Profile.readsPlainly_of_all hplain, .inl rfl⟩, ?_⟩
  simpa [Piece.leavesBreak, hne, hend] using hf

/-- Fragments with a separator between them are legible when each of them is. -/
theorem legible_joined {separator : String} (h : IsSeparator separator) {fs : List Fragment}
    (hfs : ∀ f ∈ fs, Legible p true f) : Legible p true (joined separator fs) := by
  induction fs with
  | nil => trivial
  | cons f rest ih =>
    have hf := hfs f List.mem_cons_self
    have hrest := ih fun g hg => hfs g (List.mem_cons_of_mem _ hg)
    cases rest with
    | nil => simpa [joined] using hf
    | cons g rest =>
      rw [joined, List.intercalate_cons_cons, List.append_assoc]
      exact hf.append (legible_separator h hrest)

/-- The tokens of a fragment with the given tokens in its slots. -/
def fillTokens (d : Dialect) : Fragment → List (List Token) → List Token
  | [], _ => []
  | .text s :: f, xs => d.profile.tokens s.toList ++ fillTokens d f xs
  | .name s :: f, xs => nameTokens s ++ fillTokens d f xs
  | .slot _ :: f, x :: xs => x ++ fillTokens d f xs
  | .slot _ :: f, [] => fillTokens d f []

/-- Behind a text that is not empty, the last break is that of the second text. -/
theorem endsWithBreak_append {a b : List Char} (hb : b ≠ []) :
    endsWithBreak (a ++ b) = endsWithBreak b := by
  obtain ⟨front, c, rfl⟩ := (List.eq_nil_or_concat b).resolve_left hb
  simp [endsWithBreak, List.getLast?_append]

/-- A legible fragment is read piece by piece behind a text that leaves the break it needs. -/
theorem reads_fill_behind {f : Fragment} {before : Bool} (hf : Legible d.profile before f)
    {u : List Char} {ts : List Token} (hu : d.profile.Reads u ts)
    (hbreak : before = true → endsWithBreak u = true) {xs : List String} {xss : List (List Token)}
    (hxs : List.Forall₂ (fun x ts => d.profile.Reads x.toList ts) xs xss) :
    d.profile.Reads (u ++ (f.fill d xs).toList) (ts ++ fillTokens d f xss) := by
  induction f generalizing before u ts xs xss with
  | nil => simpa [fill, fillTokens] using hu
  | cons piece rest ih =>
    obtain ⟨hpiece, hrest⟩ := hf
    cases piece with
    | text s =>
      have hread := hu.append hpiece.1.settles.reads (hpiece.2.imp_left hbreak)
      have hbreak' : (Piece.text s).leavesBreak before = true →
          endsWithBreak (u ++ s.toList) = true := by
        intro hleaves
        by_cases hs : s = ""
        · simpa [hs] using hbreak (by simpa [Piece.leavesBreak, hs] using hleaves)
        · rw [endsWithBreak_append (by simpa using hs)]
          simpa [Piece.leavesBreak, hs] using hleaves
      simpa [fill, fillTokens] using ih hrest hread hbreak' hxs
    | name s =>
      have hread := hu.append (Profile.reads_quote (p := d.profile) s) (.inl (hbreak hpiece))
      simpa [fill, fillTokens, Dialect.quoteName] using
        ih hrest hread (by simp [Piece.leavesBreak]) hxs
    | slot v =>
      cases hxs with
      | nil => exact ih hrest hu (by simp [Piece.leavesBreak]) .nil
      | cons hx hxs =>
        have hread := hu.append hx (.inl (hbreak hpiece))
        simpa [fill, fillTokens] using ih hrest hread (by simp [Piece.leavesBreak]) hxs

/-- A legible fragment is read piece by piece. -/
theorem reads_fill {f : Fragment} (hf : Legible d.profile true f) {xs : List String}
    {xss : List (List Token)}
    (hxs : List.Forall₂ (fun x ts => d.profile.Reads x.toList ts) xs xss) :
    d.profile.Reads (f.fill d xs).toList (fillTokens d f xss) := by
  have hnil : d.profile.Reads [] [] := ⟨rfl, rfl⟩
  exact reads_fill_behind hf hnil (fun _ => rfl) hxs

/-- Placeholders are read as one token each. -/
theorem reads_placeholders (d : Dialect) (start count : Nat) :
    List.Forall₂ (fun x ts => d.profile.Reads x.toList ts) (placeholders d start count)
      ((placeholders d start count).map fun x => [.placeholder x.toList]) := by
  rw [placeholders, List.map_map, List.forall₂_map_left_iff, List.forall₂_map_right_iff]
  exact List.forall₂_same.mpr fun n _ => d.reads_placeholder n

/-- A legible fragment with plain tokens in its slots has no other tokens. -/
theorem isPlain_of_mem_fillTokens {f : Fragment} {before : Bool} (hf : Legible d.profile before f)
    {xss : List (List Token)} (hxss : ∀ xs ∈ xss, ∀ t ∈ xs, t.isPlain) :
    ∀ t ∈ fillTokens d f xss, t.isPlain := by
  induction f generalizing before xss with
  | nil => simp [fillTokens]
  | cons piece rest ih =>
    obtain ⟨hpiece, hrest⟩ := hf
    intro t ht
    cases piece with
    | text s =>
      rcases List.mem_append.mp ht with ht | ht
      · exact hpiece.1.plain t ht
      · exact ih hrest hxss t ht
    | name s =>
      rcases List.mem_append.mp ht with ht | ht
      · exact isPlain_of_mem_nameTokens ht
      · exact ih hrest hxss t ht
    | slot v =>
      cases xss with
      | nil => exact ih hrest hxss t ht
      | cons xs xss =>
        rcases List.mem_append.mp ht with ht | ht
        · exact hxss xs List.mem_cons_self t ht
        · exact ih hrest (fun ys hys => hxss ys (List.mem_cons_of_mem _ hys)) t ht

/-- The placeholders of a legible fragment are those in its slots. -/
theorem placeholders_fillTokens {f : Fragment} {before : Bool} (hf : Legible d.profile before f)
    {xss : List (List Token)} (hlength : xss.length = f.slots.length) :
    (fillTokens d f xss).filterMap Token.placeholder? =
      xss.flatten.filterMap Token.placeholder? := by
  have hplain : ∀ ts : List Token, (∀ t ∈ ts, t.isPlain) → ts.filterMap Token.placeholder? = [] :=
    fun ts hts => List.filterMap_eq_nil_iff.mpr fun t ht => Token.placeholder?_of_isPlain (hts t ht)
  induction f generalizing before xss with
  | nil =>
    rw [List.eq_nil_of_length_eq_zero hlength]
    rfl
  | cons piece rest ih =>
    obtain ⟨hpiece, hrest⟩ := hf
    cases piece with
    | text s =>
      rw [fillTokens, List.filterMap_append, hplain _ hpiece.1.plain, ih hrest hlength]
      rfl
    | name s =>
      rw [fillTokens, List.filterMap_append, hplain _ fun t => isPlain_of_mem_nameTokens,
        ih hrest hlength]
      rfl
    | slot v =>
      cases xss with
      | nil => cases hlength
      | cons x xss =>
        rw [fillTokens, List.filterMap_append, ih hrest (Nat.succ.inj hlength)]
        simp

end Fragment

end SqlRender
