import SqlRender.Proofs.Fragment.Legible
import SqlRender.Proofs.Token.Literal

/-!
# Fragments that differ in their contents only

Two names are alike when they have as many parts, of which the same are asterisks, and two
values are alike when they are equal or both texts. What is inside the quotes is all in which
alike fragments differ, so written out they are read as the same tokens up to the contents of
names and strings.
-/

namespace SqlRender

/-- Names with as many parts, of which the same are asterisks. -/
def AlikeNames (a b : String) : Prop :=
  List.Forall₂ (fun x y => x = ['*'] ↔ y = ['*']) (a.toList.splitOn '.') (b.toList.splitOn '.')

instance (a b : String) : Decidable (AlikeNames a b) :=
  inferInstanceAs (Decidable (List.Forall₂ _ _ _))

/-- Values that are equal or both texts. -/
inductive Value.Alike : Value → Value → Prop
  | same (v : Value) : Alike v v
  | strings (s t : String) : Alike (.string s) (.string t)

/-- Pieces that differ in their contents only. -/
inductive Piece.Alike : Piece → Piece → Prop
  | text (s : String) : Alike (.text s) (.text s)
  | name {a b : String} (h : AlikeNames a b) : Alike (.name a) (.name b)
  | slot {v w : Value} (h : v.Alike w) : Alike (.slot v) (.slot w)

/-- Fragments that differ in their contents only. -/
def Fragment.Alike (f g : Fragment) : Prop := List.Forall₂ Piece.Alike f g

/-- A token without the contents of a name or a string. -/
def Token.shape : Token → Token
  | name _ => name []
  | string _ => string []
  | t => t

/-- Two texts that are read up to their ends, without a comment, as the same tokens up to the
contents of names and strings. -/
def Profile.SameShape (p : Profile) (s t : String) : Prop :=
  ∃ ts us, p.tokens? s.toList = some ts ∧ p.tokens? t.toList = some us ∧
    Token.comment ∉ ts ∧ Token.comment ∉ us ∧ ts.map Token.shape = us.map Token.shape

/-- Every name is like itself. -/
theorem AlikeNames.refl (a : String) : AlikeNames a a := List.forall₂_same.mpr fun _ _ => Iff.rfl

/-- Alike values are null together. -/
theorem Value.Alike.isNull_eq {v w : Value} (h : v.Alike w) : v.isNull = w.isNull := by
  cases h <;> rfl

/-- The tokens of alike names have the same shape. -/
theorem shape_nameTokens {a b : String} (h : AlikeNames a b) :
    (nameTokens a).map Token.shape = (nameTokens b).map Token.shape := by
  have hpart : ∀ x y : List Char, (x = ['*'] ↔ y = ['*']) →
      (Token.ofPart x).shape = (Token.ofPart y).shape := by
    intro x y hxy
    by_cases hx : x = ['*']
    · rw [Token.ofPart, Token.ofPart, if_pos hx, if_pos (hxy.mp hx)]
    · rw [Token.ofPart, Token.ofPart, if_neg hx, if_neg fun hy => hx (hxy.mpr hy)]
      rfl
  have htokens : List.Forall₂ (fun t u => Token.shape t = Token.shape u) (nameTokens a)
      (nameTokens b) := by
    refine forall₂_intercalate (.cons rfl .nil) ?_
    rw [List.forall₂_map_left_iff, List.forall₂_map_right_iff]
    exact h.imp fun x y hxy => .cons (hpart x y hxy) .nil
  rw [← List.forall₂_eq_eq_eq, List.forall₂_map_left_iff, List.forall₂_map_right_iff]
  exact htokens

namespace Fragment

variable {d : Dialect} {f g : Fragment}

/-- Alike fragments behind alike fragments are alike. -/
theorem Alike.append {f' g' : Fragment} (h : f.Alike g) (h' : f'.Alike g') :
    (f ++ f').Alike (g ++ g') := List.rel_append h h'

/-- Alike fragments with the same separators are alike. -/
theorem Alike.joined {separator : String} {fs gs : List Fragment}
    (h : List.Forall₂ Fragment.Alike fs gs) :
    (joined separator fs).Alike (joined separator gs) :=
  forall₂_intercalate (.cons (.text separator) .nil) h

/-- Alike fragments have alike values in their slots. -/
theorem Alike.slots (h : f.Alike g) : List.Forall₂ Value.Alike f.slots g.slots := by
  induction h with
  | nil => exact .nil
  | cons hpiece _ ih =>
    cases hpiece with
    | text s => exact ih
    | name _ => exact ih
    | slot hvalue => exact .cons hvalue ih

/-- The fragments of alike values are alike. -/
theorem alike_ofValue {v w : Value} (h : v.Alike w) : (ofValue v).Alike (ofValue w) := by
  unfold ofValue
  rw [h.isNull_eq]
  split
  · exact .cons (.text "NULL") .nil
  · exact .cons (.slot h) .nil

/-- Filled with tokens of the same shape, alike fragments have tokens of the same shape. -/
theorem shape_fillTokens (h : f.Alike g) {xss yss : List (List Token)}
    (hxss : List.Forall₂ (fun xs ys => xs.map Token.shape = ys.map Token.shape) xss yss) :
    (fillTokens d f xss).map Token.shape = (fillTokens d g yss).map Token.shape := by
  induction h generalizing xss yss with
  | nil => rfl
  | cons hpiece _ ih =>
    cases hpiece with
    | text s => rw [fillTokens, fillTokens, List.map_append, List.map_append, ih hxss]
    | name hname =>
      rw [fillTokens, fillTokens, List.map_append, List.map_append, shape_nameTokens hname,
        ih hxss]
    | slot _ =>
      cases hxss with
      | nil => exact ih .nil
      | cons hxs hxss =>
        rw [fillTokens, fillTokens, List.map_append, List.map_append, hxs, ih hxss]

end Fragment

/-- Outside dollar tags, the literals of alike values have tokens of the same shape. -/
theorem Dialect.shape_literal {d : Dialect} (hd : d.engine ≠ .postgres) {v w : Value}
    (h : v.Alike w) {n : Nat} {x y : String} (hx : d.literal n v = .ok x)
    (hy : d.literal n w = .ok y) :
    (d.profile.tokens x.toList).map Token.shape = (d.profile.tokens y.toList).map Token.shape := by
  cases h with
  | same v =>
    rw [hx] at hy
    rw [Except.ok.inj hy]
  | strings s t =>
    cases hx
    cases hy
    have hs := Engine.reads_quoteText hd (d.tag n) s
    have ht := Engine.reads_quoteText hd (d.tag n) t
    rw [Dialect.quoteText, Dialect.quoteText, Dialect.profile, hs.tokens_eq, ht.tokens_eq,
      List.map_append, List.map_append]
    rfl

namespace Fragment

variable {d : Dialect} {f g : Fragment}

/-- Outside dollar tags, a legible fragment that is written out is read piece by piece, and
without a comment. -/
theorem reads_writtenText (hd : d.engine ≠ .postgres) (hf : Legible d.profile true f)
    {start : Nat} {xs : List String}
    (hxs : List.Forall₂ (fun vn x => d.literal vn.2 vn.1 = .ok x) (f.slots.zipIdx start) xs) :
    d.profile.Reads (f.fill d xs).toList
        (fillTokens d f (xs.map fun x => d.profile.tokens x.toList)) ∧
      Token.comment ∉ fillTokens d f (xs.map fun x => d.profile.tokens x.toList) := by
  have hplain : ∀ x ∈ xs, d.profile.ReadsPlainly x.toList :=
    forall_of_forall₂ hxs fun _ _ => Dialect.readsPlainly_literal hd
  have hreads : List.Forall₂ (fun x ts => d.profile.Reads x.toList ts) xs
      (xs.map fun x => d.profile.tokens x.toList) := by
    rw [List.forall₂_map_right_iff]
    exact List.forall₂_same.mpr fun x hx => (hplain x hx).settles.reads
  refine ⟨reads_fill hf hreads, fun hcomment => ?_⟩
  have hnone : Token.comment.isPlain := by
    refine isPlain_of_mem_fillTokens hf (fun ts hts => ?_) _ hcomment
    obtain ⟨x, hx, rfl⟩ := List.mem_map.mp hts
    exact (hplain x hx).plain
  cases hnone

/-- Outside dollar tags, alike fragments are written out in the same shape. -/
theorem sameShape_writtenText (hd : d.engine ≠ .postgres) (h : f.Alike g)
    (hf : Legible d.profile true f) (hg : Legible d.profile true g) {s t : String}
    {start : Nat} (hs : f.writtenText d start = .ok s) (ht : g.writtenText d start = .ok t) :
    d.profile.SameShape s t := by
  obtain ⟨xs, hxs, rfl⟩ := writtenText_eq_ok hs
  obtain ⟨ys, hys, rfl⟩ := writtenText_eq_ok ht
  obtain ⟨hreads, hcomment⟩ := reads_writtenText hd hf hxs
  obtain ⟨hreads', hcomment'⟩ := reads_writtenText hd hg hys
  have hshapes : List.Forall₂ (fun ts us => ts.map Token.shape = us.map Token.shape)
      (xs.map fun x => d.profile.tokens x.toList) (ys.map fun y => d.profile.tokens y.toList) := by
    rw [List.forall₂_map_left_iff, List.forall₂_map_right_iff]
    exact forall₂_of_related (forall₂_zipIdx h.slots start) hxs hys fun _ _ _ _ hvalue hx hy =>
      Dialect.shape_literal hd hvalue.1 hx (hvalue.2 ▸ hy)
  exact ⟨_, _, hreads.tokens?, hreads'.tokens?, hcomment, hcomment', shape_fillTokens h hshapes⟩

end Fragment

end SqlRender
