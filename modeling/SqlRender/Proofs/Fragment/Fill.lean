import SqlRender.Draft
import SqlRender.Proofs.Lists

/-!
# Fragments with texts in their slots

Binding a fragment and writing it out put different texts into the same slots: numbered
placeholders in the one case and literals in the other. `fill` is what the two have in common.
-/

namespace SqlRender

namespace Fragment

/-- The text of a fragment with the given texts in its slots, from left to right. -/
def fill (d : Dialect) : Fragment → List String → String
  | [], _ => ""
  | .text s :: f, xs => s ++ fill d f xs
  | .name s :: f, xs => d.quoteName s ++ fill d f xs
  | .slot _ :: f, x :: xs => x ++ fill d f xs
  | .slot _ :: f, [] => fill d f []

/-- The placeholders of so many slots, numbered from `start`. -/
def placeholders (d : Dialect) (start count : Nat) : List String :=
  (List.range' start count).map d.placeholder

/-- The literals of some values, numbered from `start`. -/
def literals (d : Dialect) (start : Nat) (vs : List Value) : Except Error (List String) :=
  (vs.zipIdx start).mapM fun (v, n) => d.literal n v

/-- The literals of values in a row are those of the first one and of the others. -/
theorem literals_cons (d : Dialect) (start : Nat) (v : Value) (vs : List Value) :
    literals d start (v :: vs) =
      (d.literal start v).bind fun x => (literals d (start + 1) vs).map (x :: ·) := by
  rw [literals, List.zipIdx_cons, List.mapM_cons]
  rfl

/-- Values have literals when each of them has the one of its number. -/
theorem literals_eq_ok {d : Dialect} {start : Nat} {vs : List Value} {xs : List String} :
    literals d start vs = .ok xs ↔
      List.Forall₂ (fun vn x => d.literal vn.2 vn.1 = .ok x) (vs.zipIdx start) xs := mapM_eq_ok

/-- Values have the same literals further on when each of them has the same one there. -/
theorem literals_add {d : Dialect} {k : Nat} (h : ∀ n v, d.literal (n + k) v = d.literal n v)
    (start : Nat) (vs : List Value) : literals d (start + k) vs = literals d start vs := by
  induction vs generalizing start with
  | nil => rfl
  | cons v rest ih =>
    rw [literals_cons, literals_cons, h, Nat.add_right_comm, ih]

/-- The slots of two fragments in a row are those of the one and of the other. -/
@[simp] theorem slots_append (f g : Fragment) : slots (f ++ g) = slots f ++ slots g :=
  List.filterMap_append

@[simp] theorem slots_nil : slots [] = [] := rfl

@[simp] theorem slots_text (s : String) (f : Fragment) : slots (.text s :: f) = slots f := rfl

@[simp] theorem slots_name (s : String) (f : Fragment) : slots (.name s :: f) = slots f := rfl

@[simp] theorem slots_slot (v : Value) (f : Fragment) : slots (.slot v :: f) = v :: slots f := rfl

/-- Separators have no slots. -/
theorem slots_joined (separator : String) (fs : List Fragment) :
    slots (joined separator fs) = fs.flatMap slots := by
  induction fs with
  | nil => rfl
  | cons f rest ih =>
    cases rest with
    | nil => simp [joined]
    | cons g rest =>
      rw [joined] at ih ⊢
      rw [List.intercalate_cons_cons, slots_append, slots_append, ih]
      simp

/-- What is made of the pieces of fragments in a row, with what is made of the separator between
them. -/
theorem flatMap_joined {α : Type} (g : Piece → List α) (separator : String) (fs : List Fragment) :
    (joined separator fs).flatMap g =
      (g (.text separator)).intercalate (fs.map (List.flatMap g)) := by
  unfold joined
  induction fs with
  | nil => rfl
  | cons f rest ih =>
    cases rest with
    | nil => simp
    | cons f' rest =>
      rw [List.intercalate_cons_cons, List.flatMap_append, List.flatMap_append, ih]
      simp [List.intercalate_cons_cons]

/-- The slot of a value, unless it is null. -/
theorem slots_ofValue (v : Value) : slots (ofValue v) = [v].filter (!·.isNull) := by
  cases h : v.isNull <;> simp [ofValue, h]

/-- The slots of values are the values that are not null. -/
theorem flatMap_slots_ofValue (vs : List Value) :
    vs.flatMap (fun v => (ofValue v).slots) = vs.filter (!·.isNull) := by
  induction vs with
  | nil => rfl
  | cons v rest ih => rw [List.flatMap_cons, ih, slots_ofValue, ← List.filter_append]; rfl

/-- Binding a fragment fills its slots with placeholders. -/
theorem boundText_eq_fill (d : Dialect) (start : Nat) (f : Fragment) :
    f.boundText d start = f.fill d (placeholders d start f.slots.length) := by
  have general : ∀ start out, (f.foldl (bindPiece d) (start, out)).2 =
      out ++ f.fill d (placeholders d start f.slots.length) := by
    induction f with
    | nil => simp [fill]
    | cons piece rest ih =>
      intro start out
      cases piece with
      | text s => simp [bindPiece, fill, ih, String.append_assoc]
      | name s => simp [bindPiece, fill, ih, String.append_assoc]
      | slot v =>
        simp only [List.foldl_cons, bindPiece, ih, slots_slot, List.length_cons, placeholders,
          List.range'_succ, List.map_cons, fill, String.append_assoc]
  rw [boundText, general, String.empty_append]

/-- Writing a fragment out fills its slots with literals, if every one of them has a literal. -/
theorem writtenText_eq_fill (d : Dialect) (start : Nat) (f : Fragment) :
    f.writtenText d start = (literals d start f.slots).map (f.fill d) := by
  have general : ∀ start out, (f.foldlM (writePiece d) (start, out)).map (·.2) =
      (literals d start f.slots).map fun xs => out ++ f.fill d xs := by
    induction f with
    | nil =>
      intro start out
      exact congrArg Except.ok String.append_empty.symm
    | cons piece rest ih =>
      intro start out
      cases piece with
      | text s =>
        simp only [fill, slots_text, ← String.append_assoc]
        exact ih start (out ++ s)
      | name s =>
        simp only [fill, slots_name, ← String.append_assoc]
        exact ih start (out ++ d.quoteName s)
      | slot v =>
        rw [List.foldlM_cons, slots_slot, literals_cons, writePiece]
        cases d.literal start v with
        | error e => rfl
        | ok x =>
          refine (ih (start + 1) (out ++ x)).trans ?_
          cases literals d (start + 1) (slots rest) with
          | error e => rfl
          | ok xs => simp [Except.bind, Except.map, fill, String.append_assoc]
  have hwritten := general start ""
  simp only [String.empty_append] at hwritten
  exact hwritten

/-- A fragment with a literal for every slot is written out. -/
theorem writtenText_of_literals {d : Dialect} {start : Nat} {f : Fragment} {xs : List String}
    (h : List.Forall₂ (fun vn x => d.literal vn.2 vn.1 = .ok x) (f.slots.zipIdx start) xs) :
    f.writtenText d start = .ok (f.fill d xs) := by
  rw [writtenText_eq_fill, literals_eq_ok.mpr h]
  rfl

/-- A fragment that is written out has a literal for every slot, and is filled with them. -/
theorem writtenText_eq_ok {d : Dialect} {start : Nat} {f : Fragment} {s : String}
    (h : f.writtenText d start = .ok s) :
    ∃ xs, List.Forall₂ (fun vn x => d.literal vn.2 vn.1 = .ok x) (f.slots.zipIdx start) xs ∧
      s = f.fill d xs := by
  rw [writtenText_eq_fill] at h
  obtain ⟨xs, hxs, hfill⟩ := map_eq_ok h
  exact ⟨xs, literals_eq_ok.mp hxs, hfill⟩

/-- The placeholders of the parameters of so many values. -/
theorem map_placeholder_parameters (d : Dialect) (start : Nat) (vs : List Value) :
    (parameters d start vs).map (·.placeholder) = placeholders d start vs.length := by
  rw [parameters, List.map_map, placeholders, ← List.zipIdx_map_snd, List.map_map]
  rfl

/-- There is one parameter for each value. -/
theorem length_parameters (d : Dialect) (start : Nat) (vs : List Value) :
    (parameters d start vs).length = vs.length := by
  rw [parameters, List.length_map, List.length_zipIdx]

/-- The values of the parameters made from some values. -/
theorem map_value_parameters (d : Dialect) (start : Nat) (vs : List Value) :
    (parameters d start vs).map (·.value) = vs := by
  rw [parameters, List.map_map]
  exact List.zipIdx_map_fst start vs

/-- Values in a row are numbered one after the other. -/
theorem parameters_append (d : Dialect) (start : Nat) (vs ws : List Value) :
    parameters d start (vs ++ ws) =
      parameters d start vs ++ parameters d (start + vs.length) ws := by
  rw [parameters, List.zipIdx_append, List.map_append]
  rfl

variable {d : Dialect} {mode : Mode}

/-- The texts of some values in a mode: placeholders or literals, numbered from `start`. -/
def valueTexts (d : Dialect) (mode : Mode) (start : Nat) (vs : List Value) :
    Except Error (List String) :=
  match mode with
  | .parameterized => .ok (placeholders d start vs.length)
  | .inline => literals d start vs

/-- Rendering a fragment fills its slots with the texts of their values. -/
theorem render_eq_fill (d : Dialect) (mode : Mode) (start : Nat) (f : Fragment) :
    f.render d mode start = (valueTexts d mode start f.slots).map (f.fill d) := by
  cases mode with
  | parameterized =>
    rw [render, boundText_eq_fill]
    rfl
  | inline => exact writtenText_eq_fill d start f

/-- There is one text for each value. -/
theorem length_valueTexts {start : Nat} {vs : List Value} {xs : List String}
    (h : valueTexts d mode start vs = .ok xs) : xs.length = vs.length := by
  cases mode with
  | parameterized =>
    cases h
    simp [placeholders]
  | inline =>
    have hlength := (literals_eq_ok.mp h).length_eq
    rw [List.length_zipIdx] at hlength
    exact hlength.symm

/-- The texts of some values and of those behind them. -/
theorem valueTexts_append {start : Nat} {vs ws : List Value} {xs : List String}
    (h : valueTexts d mode start vs = .ok xs) :
    valueTexts d mode start (vs ++ ws) =
      (valueTexts d mode (start + vs.length) ws).map (xs ++ ·) := by
  cases mode with
  | parameterized =>
    cases h
    rw [valueTexts, placeholders, List.length_append, ← List.range'_append_1, List.map_append]
    rfl
  | inline =>
    have hxs : (vs.zipIdx start).mapM (fun (v, n) => d.literal n v) = .ok xs := h
    rw [valueTexts, literals, List.zipIdx_append, List.mapM_append, hxs]
    rfl

/-- Two fragments in a row are filled one after the other. -/
theorem fill_append {f g : Fragment} {xs ys : List String} (h : xs.length = f.slots.length) :
    (f ++ g).fill d (xs ++ ys) = f.fill d xs ++ g.fill d ys := by
  induction f generalizing xs with
  | nil =>
    rw [List.eq_nil_of_length_eq_zero h, fill]
    exact String.empty_append.symm
  | cons piece rest ih =>
    cases piece with
    | text s => rw [List.cons_append, fill, fill, ih h, String.append_assoc]
    | name s => rw [List.cons_append, fill, fill, ih h, String.append_assoc]
    | slot v =>
      cases xs with
      | nil => cases h
      | cons x xs =>
        rw [List.cons_append, List.cons_append, fill, fill, ih (Nat.succ.inj h),
          String.append_assoc]

/-- Two fragments in a row are rendered one after the other. -/
theorem render_append {f g : Fragment} {start : Nat} {s t : String}
    (hf : f.render d mode start = .ok s)
    (hg : g.render d mode (start + f.slots.length) = .ok t) :
    (f ++ g).render d mode start = .ok (s ++ t) := by
  rw [render_eq_fill] at hf hg ⊢
  obtain ⟨xs, hxs, rfl⟩ := map_eq_ok hf
  obtain ⟨ys, hys, rfl⟩ := map_eq_ok hg
  rw [slots_append, valueTexts_append hxs, hys]
  exact congrArg Except.ok (fill_append (length_valueTexts hxs))

/-- Behind a fragment that is rendered, the rest of a statement is rendered as by itself. -/
theorem render_append_eq {f g : Fragment} {start : Nat} {s : String}
    (hf : f.render d mode start = .ok s) :
    (f ++ g).render d mode start =
      (g.render d mode (start + f.slots.length)).map (s ++ ·) := by
  rw [render_eq_fill] at hf
  obtain ⟨xs, hxs, rfl⟩ := map_eq_ok hf
  rw [render_eq_fill, render_eq_fill, slots_append, valueTexts_append hxs]
  cases valueTexts d mode (start + f.slots.length) g.slots with
  | error e => rfl
  | ok ys => exact congrArg Except.ok (fill_append (length_valueTexts hxs))

/-- A fragment without slots behind another one is rendered as by itself. -/
theorem render_append_of_slots_eq_nil {f g : Fragment} {start : Nat} (hg : g.slots = []) :
    (f ++ g).render d mode start = (f.render d mode start).map (· ++ g.fill d []) := by
  rw [render_eq_fill, render_eq_fill, slots_append, hg, List.append_nil]
  cases hxs : valueTexts d mode start f.slots with
  | error e => rfl
  | ok xs =>
    have happend : (f ++ g).fill d (xs ++ []) = f.fill d xs ++ g.fill d [] :=
      fill_append (length_valueTexts hxs)
    rw [List.append_nil] at happend
    exact congrArg Except.ok happend

/-- A fragment without slots has one text. -/
theorem render_of_slots_eq_nil {f : Fragment} (h : f.slots = []) (start : Nat) :
    f.render d mode start = .ok (f.fill d []) := by
  rw [render_eq_fill, h]
  cases mode <;> rfl

/-- A text in front of a fragment stands in front of what is rendered. -/
theorem render_text_cons {f : Fragment} {start : Nat} {s : String} (text : String)
    (h : f.render d mode start = .ok s) :
    Fragment.render d mode start (.text text :: f) = .ok (text ++ s) := by
  rw [render_eq_fill] at h ⊢
  obtain ⟨xs, hxs, rfl⟩ := map_eq_ok h
  rw [slots_text, hxs]
  rfl

/-- A text behind a fragment stands behind what is filled in. -/
theorem fill_append_text {f : Fragment} {xs : List String} (h : xs.length = f.slots.length)
    (s : String) : (f ++ [Piece.text s]).fill d xs = f.fill d xs ++ s := by
  have happend : (f ++ [Piece.text s]).fill d (xs ++ []) =
      f.fill d xs ++ fill d [Piece.text s] [] := fill_append h
  rwa [List.append_nil, fill, fill, String.append_empty] at happend

/-- A text behind a fragment stands behind what is rendered. -/
theorem render_append_text {f : Fragment} {start : Nat} {s : String}
    (h : f.render d mode start = .ok s) (text : String) :
    (f ++ [Piece.text text]).render d mode start = .ok (s ++ text) := by
  rw [render_eq_fill] at h ⊢
  obtain ⟨xs, hxs, rfl⟩ := map_eq_ok h
  rw [slots_append, slots_text, slots_nil, List.append_nil, hxs]
  exact congrArg Except.ok (fill_append_text (length_valueTexts hxs) text)

/-- Fragments with one slot each are filled one after the other, with the separator between
them. -/
theorem fill_joined {α : Type} (separator : String) {g : α → Fragment} {h : String → String}
    (hslots : ∀ a, (g a).slots.length = 1) (hfill : ∀ a x, (g a).fill d [x] = h x) {as : List α}
    {xs : List String} (hlength : xs.length = as.length) :
    (joined separator (as.map g)).fill d xs = separator.intercalate (xs.map h) := by
  induction as generalizing xs with
  | nil =>
    rw [List.eq_nil_of_length_eq_zero hlength]
    rfl
  | cons a rest ih =>
    cases xs with
    | nil => cases hlength
    | cons x xs =>
      have hrest := ih (Nat.succ.inj hlength)
      cases rest with
      | nil =>
        rw [List.eq_nil_of_length_eq_zero (Nat.succ.inj hlength)]
        simp [joined, hfill]
      | cons b rest =>
        cases xs with
        | nil => cases hlength
        | cons y ys =>
          calc
            (joined separator ((a :: b :: rest).map g)).fill d (x :: y :: ys) =
                (g a ++ .text separator :: joined separator ((b :: rest).map g)).fill d
                  ([x] ++ (y :: ys)) := by
              simp [joined, List.intercalate_cons_cons]
            _ = h x ++ (separator ++ separator.intercalate ((y :: ys).map h)) := by
              have hcount : [x].length = (g a).slots.length := (hslots a).symm
              rw [fill_append hcount, hfill, fill, hrest]
            _ = separator.intercalate ((x :: y :: ys).map h) := by
              simp [String.append_assoc]

end Fragment

end SqlRender
