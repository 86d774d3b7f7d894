import SqlRender.Proofs.Fragment.Legible

/-!
# The skeleton of a fragment

The skeleton of a fragment is the tokens of its texts and names with an unnumbered placeholder in
each slot. It is put together piece by piece, and it can be read off the bound text: it is the
tokens of the text with the numbers of the placeholders taken away.
-/

namespace SqlRender

/-- A token without the number of a placeholder. -/
def Token.unnumbered : Token → Token
  | placeholder _ => placeholder []
  | t => t

/-- A plain token has no number. -/
theorem Token.unnumbered_of_isPlain {t : Token} (h : t.isPlain) : t.unnumbered = t := by
  cases t <;> first | rfl | cases h

/-- The tokens of a piece, with an unnumbered placeholder for a slot. -/
def Piece.skeleton (d : Dialect) : Piece → List Token
  | .text s => d.profile.tokens s.toList
  | .name s => nameTokens s
  | .slot _ => [.placeholder []]

namespace Fragment

variable {d : Dialect}

/-- The tokens of a fragment with unnumbered placeholders in its slots. -/
def skeleton (d : Dialect) (f : Fragment) : List Token := f.flatMap (Piece.skeleton d)

@[simp] theorem skeleton_nil : skeleton d [] = [] := rfl

@[simp] theorem skeleton_text (s : String) (f : Fragment) :
    skeleton d (.text s :: f) = d.profile.tokens s.toList ++ skeleton d f := rfl

@[simp] theorem skeleton_name (s : String) (f : Fragment) :
    skeleton d (.name s :: f) = nameTokens s ++ skeleton d f := rfl

@[simp] theorem skeleton_slot (v : Value) (f : Fragment) :
    skeleton d (.slot v :: f) = .placeholder [] :: skeleton d f := rfl

/-- The skeletons of two fragments in a row stand in a row. -/
@[simp] theorem skeleton_append (f g : Fragment) :
    skeleton d (f ++ g) = skeleton d f ++ skeleton d g := List.flatMap_append

/-- The skeleton of fragments with separators is their skeletons with the separators' tokens. -/
theorem skeleton_joined (separator : String) (fs : List Fragment) :
    skeleton d (joined separator fs) =
      (d.profile.tokens separator.toList).intercalate (fs.map (skeleton d)) :=
  flatMap_joined (Piece.skeleton d) separator fs

/-- Without their numbers, the tokens of a legible fragment with placeholders in its slots are its
skeleton. -/
theorem unnumbered_fillTokens {f : Fragment} {before : Bool} (hf : Legible d.profile before f)
    {xs : List String} (hlength : xs.length = f.slots.length) :
    (fillTokens d f (xs.map fun x => [.placeholder x.toList])).map Token.unnumbered =
      f.skeleton d := by
  have hplain : ∀ ts : List Token, (∀ t ∈ ts, t.isPlain) → ts.map Token.unnumbered = ts := by
    intro ts hts
    rw [List.map_congr_left fun t ht => Token.unnumbered_of_isPlain (hts t ht), List.map_id']
  induction f generalizing before xs with
  | nil =>
    rw [List.eq_nil_of_length_eq_zero hlength]
    rfl
  | cons piece rest ih =>
    obtain ⟨hpiece, hrest⟩ := hf
    cases piece with
    | text s =>
      rw [fillTokens, List.map_append, hplain _ hpiece.1.plain, ih hrest hlength, skeleton_text]
    | name s =>
      rw [fillTokens, List.map_append, hplain _ fun t => isPlain_of_mem_nameTokens,
        ih hrest hlength, skeleton_name]
    | slot v =>
      cases xs with
      | nil => cases hlength
      | cons x xs =>
        rw [List.map_cons, fillTokens, List.map_append, ih hrest (Nat.succ.inj hlength),
          skeleton_slot]
        rfl

/-- The skeleton of a legible fragment can be read off its bound text. -/
theorem unnumbered_boundText {f : Fragment} (hf : Legible d.profile true f) (start : Nat) :
    (d.profile.tokens (f.boundText d start).toList).map Token.unnumbered = f.skeleton d := by
  have hlength : (placeholders d start f.slots.length).length = f.slots.length := by
    simp [placeholders]
  rw [boundText_eq_fill, (reads_fill hf (reads_placeholders d start f.slots.length)).tokens_eq,
    unnumbered_fillTokens hf hlength]

end Fragment

end SqlRender
