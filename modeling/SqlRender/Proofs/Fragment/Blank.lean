import SqlRender.Proofs.Fragment.Fill

/-!
# Fragments without their values

A fragment with its values taken out of the slots. Bound text is made from this alone: a slot is
written as a placeholder whatever its value is, so fragments that are equal but for their values
have the same bound text and as many parameters.
-/

namespace SqlRender

/-- A piece whose slot, if it is one, has lost its value. -/
def Piece.blank : Piece → Piece
  | .slot _ => .slot .null
  | piece => piece

@[simp] theorem Piece.blank_text (s : String) : (Piece.text s).blank = .text s := rfl

@[simp] theorem Piece.blank_name (s : String) : (Piece.name s).blank = .name s := rfl

@[simp] theorem Piece.blank_slot (v : Value) : (Piece.slot v).blank = .slot .null := rfl

namespace Fragment

variable {d : Dialect} {f g : Fragment}

/-- A fragment whose slots have lost their values. -/
def blank (f : Fragment) : Fragment := f.map Piece.blank

@[simp] theorem blank_nil : blank [] = [] := rfl

@[simp] theorem blank_cons (piece : Piece) (f : Fragment) :
    blank (piece :: f) = piece.blank :: blank f := rfl

@[simp] theorem blank_append (f g : Fragment) : blank (f ++ g) = blank f ++ blank g :=
  List.map_append

/-- Separators have no values to lose. -/
theorem blank_joined (separator : String) (fs : List Fragment) :
    blank (joined separator fs) = joined separator (fs.map blank) := by
  unfold joined
  induction fs with
  | nil => rfl
  | cons f rest ih =>
    cases rest with
    | nil => simp
    | cons g rest =>
      rw [List.intercalate_cons_cons, blank_append, blank_append, ih]
      simp [List.intercalate_cons_cons]

/-- Fragments that are made of related lists, one equal to the other but for its values, are so
behind one another. -/
theorem blank_joined_map {α β : Type} {R : α → β → Prop} (separator : String)
    {g : α → Fragment} {h : β → Fragment} {as : List α} {bs : List β}
    (hrel : List.Forall₂ R as bs) (hblank : ∀ a b, R a b → blank (g a) = blank (h b)) :
    blank (joined separator (as.map g)) = blank (joined separator (bs.map h)) := by
  have hmap : (as.map g).map blank = (bs.map h).map blank := by
    induction hrel with
    | nil => rfl
    | cons hab _ ih =>
      simp only [List.map_cons] at ih ⊢
      rw [hblank _ _ hab, ih]
  rw [blank_joined, blank_joined, hmap]

/-- A value and another one that is null when the first is leave the same blank. -/
theorem blank_ofValue {v w : Value} (h : v.isNull = w.isNull) :
    blank (ofValue v) = blank (ofValue w) := by
  unfold ofValue
  rw [h]
  split <;> rfl

/-- Fragments that are equal but for their values have as many slots. -/
theorem length_slots_of_blank (h : f.blank = g.blank) : f.slots.length = g.slots.length := by
  have hblank : ∀ f : Fragment, f.blank.slots.length = f.slots.length := by
    intro f
    induction f with
    | nil => rfl
    | cons piece rest ih => cases piece <;> simp [ih]
  rw [← hblank f, h, hblank]

/-- Filled with the same texts, fragments that are equal but for their values are the same. -/
theorem fill_of_blank (h : f.blank = g.blank) (xs : List String) : f.fill d xs = g.fill d xs := by
  have hblank : ∀ (f : Fragment) xs, f.blank.fill d xs = f.fill d xs := by
    intro f
    induction f with
    | nil => exact fun _ => rfl
    | cons piece rest ih =>
      intro xs
      cases piece with
      | text s => rw [blank_cons, Piece.blank_text, fill, fill, ih]
      | name s => rw [blank_cons, Piece.blank_name, fill, fill, ih]
      | slot v =>
        cases xs with
        | nil => rw [blank_cons, Piece.blank_slot, fill, fill, ih]
        | cons x xs => rw [blank_cons, Piece.blank_slot, fill, fill, ih]
  rw [← hblank f, h, hblank]

/-- Bound text does not depend on the values bound. -/
theorem boundText_of_blank (h : f.blank = g.blank) (start : Nat) :
    f.boundText d start = g.boundText d start := by
  rw [boundText_eq_fill, boundText_eq_fill, length_slots_of_blank h, fill_of_blank h]

end Fragment

end SqlRender
