import SqlRender.Proofs.Fragment.Skeleton

/-!
# Fragments with their values in place

An engine that runs a statement has the tokens of its texts and names, and for each slot the
value: it has read the value from its literal, or it puts it in for the placeholder that the value
is bound to. Both ways give the tokens of the fragment with something of the value in each slot.
-/

namespace SqlRender

/-- The tokens of a piece, with those of an operand for the value of a slot. -/
def Piece.tokens (d : Dialect) (operand : Value → List Token) : Piece → List Token
  | .text s => d.profile.tokens s.toList
  | .name s => nameTokens s
  | .slot v => operand v

/-- The token of a text that is bound to a placeholder. -/
def boundOperand : Value → List Token
  | .string s => [.string s.toList]
  | _ => []

/-- The tokens of a statement with the texts that are bound in it in place of their placeholders,
which stand in the order of the parameters; none if they do not, or if what is bound is no text. -/
def bindTokens : List Parameter → List Token → Option (List Token)
  | [], [] => some []
  | _ :: _, [] => none
  | params, t :: ts =>
    match t.placeholder? with
    | none => (bindTokens params ts).map (t :: ·)
    | some name =>
      match params with
      | ⟨placeholder, .string s⟩ :: params =>
        if placeholder = name then (bindTokens params ts).map (.string s.toList :: ·) else none
      | _ => none

/-- The tokens of a statement with the texts that are bound in it. -/
def Dialect.readTokens? (d : Dialect) (sql : String) (params : List Parameter) :
    Option (List Token) := (d.profile.tokens? sql.toList).bind (bindTokens params)

/-- Plain tokens stay as they are. -/
theorem bindTokens_plain {ts : List Token} (hts : ∀ t ∈ ts, t.isPlain) (params : List Parameter)
    (us : List Token) : bindTokens params (ts ++ us) = (bindTokens params us).map (ts ++ ·) := by
  induction ts with
  | nil => simp
  | cons t ts ih =>
    have ht := Token.placeholder?_of_isPlain (hts t List.mem_cons_self)
    rw [List.cons_append, bindTokens, ht, ih fun u hu => hts u (List.mem_cons_of_mem _ hu),
      Option.map_map]
    rfl

/-- Plain tokens are all there is where nothing is bound. -/
theorem bindTokens_nil {ts : List Token} (hts : ∀ t ∈ ts, t.isPlain) :
    bindTokens [] ts = some ts := by
  have h := bindTokens_plain hts [] []
  rwa [List.append_nil, bindTokens, Option.map_some, List.append_nil] at h

/-- A placeholder is replaced by the text that is bound to it. -/
theorem bindTokens_placeholder (params : List Parameter) (x s : String) (ts : List Token) :
    bindTokens (⟨x, .string s⟩ :: params) (.placeholder x.toList :: ts) =
      (bindTokens params ts).map (.string s.toList :: ·) := by
  rw [bindTokens]
  simp [Token.placeholder?]

namespace Fragment

variable {d : Dialect} {operand : Value → List Token}

/-- The tokens of a fragment with those of an operand for each value. -/
def tokens (d : Dialect) (operand : Value → List Token) (f : Fragment) : List Token :=
  f.flatMap (Piece.tokens d operand)

@[simp] theorem tokens_nil : tokens d operand [] = [] := rfl

@[simp] theorem tokens_text (s : String) (f : Fragment) :
    tokens d operand (.text s :: f) = d.profile.tokens s.toList ++ tokens d operand f := rfl

@[simp] theorem tokens_name (s : String) (f : Fragment) :
    tokens d operand (.name s :: f) = nameTokens s ++ tokens d operand f := rfl

@[simp] theorem tokens_slot (v : Value) (f : Fragment) :
    tokens d operand (.slot v :: f) = operand v ++ tokens d operand f := rfl

/-- The tokens of two fragments in a row stand in a row. -/
@[simp] theorem tokens_append (f g : Fragment) :
    tokens d operand (f ++ g) = tokens d operand f ++ tokens d operand g := List.flatMap_append

/-- Fragments with a separator have its tokens between theirs. -/
theorem tokens_joined (separator : String) (fs : List Fragment) :
    tokens d operand (joined separator fs) =
      (d.profile.tokens separator.toList).intercalate (fs.map (tokens d operand)) :=
  flatMap_joined (Piece.tokens d operand) separator fs

/-- A fragment that is filled with the operands of its values has their tokens. -/
theorem fillTokens_slots (f : Fragment) :
    fillTokens d f (f.slots.map operand) = f.tokens d operand := by
  induction f with
  | nil => rfl
  | cons piece rest ih =>
    cases piece with
    | text s => rw [slots_text, fillTokens, ih, tokens_text]
    | name s => rw [slots_name, fillTokens, ih, tokens_name]
    | slot v => rw [slots_slot, List.map_cons, fillTokens, ih, tokens_slot]

/-- The first value has the first number, and the others are numbered behind it. -/
theorem parameters_cons (start : Nat) (v : Value) (vs : List Value) :
    parameters d start (v :: vs) = ⟨d.placeholder start, v⟩ :: parameters d (start + 1) vs := by
  rw [parameters, List.zipIdx_cons]
  rfl

/-- The texts that are bound to the placeholders of a legible fragment are put in its slots. -/
theorem bindTokens_fillTokens {f : Fragment} {before : Bool} (hf : Legible d.profile before f)
    (hslots : ∀ v ∈ f.slots, v.string?.isSome) (start : Nat) :
    bindTokens (parameters d start f.slots)
        (fillTokens d f ((placeholders d start f.slots.length).map fun x =>
          [.placeholder x.toList])) =
      some (f.tokens d boundOperand) := by
  induction f generalizing before start with
  | nil => rfl
  | cons piece rest ih =>
    obtain ⟨hpiece, hrest⟩ := hf
    cases piece with
    | text s =>
      rw [slots_text] at hslots ⊢
      rw [fillTokens, bindTokens_plain hpiece.1.plain, ih hrest hslots]
      rfl
    | name s =>
      rw [slots_name] at hslots ⊢
      rw [fillTokens, bindTokens_plain fun t => isPlain_of_mem_nameTokens, ih hrest hslots]
      rfl
    | slot v =>
      rw [slots_slot] at hslots ⊢
      obtain ⟨s, hs⟩ := Option.isSome_iff_exists.mp (hslots v List.mem_cons_self)
      obtain rfl : v = .string s := by cases v <;> cases hs; rfl
      have hbehind := ih hrest (fun w hw => hslots w (List.mem_cons_of_mem _ hw)) (start + 1)
      rw [placeholders] at hbehind ⊢
      rw [List.length_cons, List.range'_succ, List.map_cons, List.map_cons, fillTokens,
        parameters_cons, List.singleton_append, bindTokens_placeholder, hbehind]
      rfl

/-- An engine reads a bound fragment with the texts of its parameters in place. -/
theorem readTokens?_boundText {f : Fragment} (hf : Legible d.profile true f)
    (hslots : ∀ v ∈ f.slots, v.string?.isSome) (start : Nat) :
    d.readTokens? (f.boundText d start) (parameters d start f.slots) =
      some (f.tokens d boundOperand) := by
  have hreads := reads_fill hf (reads_placeholders d start f.slots.length)
  rw [Dialect.readTokens?, boundText_eq_fill, hreads.tokens?]
  exact bindTokens_fillTokens hf hslots start

/-- An engine reads a fragment that is written out with what it reads from the literals. -/
theorem readTokens?_writtenText {f : Fragment} (hf : Legible d.profile true f)
    (written : Nat → Value → String)
    (hslots : ∀ v ∈ f.slots, (∀ n, d.literal n v = .ok (written n v) ∧
      d.profile.Reads (written n v).toList (operand v)) ∧ ∀ t ∈ operand v, t.isPlain)
    (start : Nat) :
    ∃ sql, f.writtenText d start = .ok sql ∧ d.readTokens? sql [] = some (f.tokens d operand) := by
  have hmem : ∀ vn ∈ f.slots.zipIdx start, vn.1 ∈ f.slots := by
    intro vn hvn
    rw [← List.zipIdx_map_fst start f.slots]
    exact List.mem_map_of_mem hvn
  let literals := (f.slots.zipIdx start).map fun vn => written vn.2 vn.1
  have hliterals : List.Forall₂ (fun vn x => d.literal vn.2 vn.1 = .ok x) (f.slots.zipIdx start)
      literals := by
    rw [List.forall₂_map_right_iff, List.forall₂_same]
    exact fun vn hvn => ((hslots vn.1 (hmem vn hvn)).1 vn.2).1
  have hreads : List.Forall₂ (fun x ts => d.profile.Reads x.toList ts) literals
      (f.slots.map operand) := by
    have hoperands : f.slots.map operand = (f.slots.zipIdx start).map fun vn => operand vn.1 := by
      have hcomp : (f.slots.zipIdx start).map (fun vn => operand vn.1) =
          ((f.slots.zipIdx start).map Prod.fst).map operand := (List.map_map ..).symm
      rw [hcomp, List.zipIdx_map_fst]
    rw [hoperands, List.forall₂_map_left_iff, List.forall₂_map_right_iff, List.forall₂_same]
    exact fun vn hvn => ((hslots vn.1 (hmem vn hvn)).1 vn.2).2
  have hplain : ∀ t ∈ f.tokens d operand, t.isPlain := by
    rw [← fillTokens_slots]
    refine isPlain_of_mem_fillTokens hf fun ts hts => ?_
    obtain ⟨v, hv, rfl⟩ := List.mem_map.mp hts
    exact (hslots v hv).2
  refine ⟨f.fill d literals, writtenText_of_literals hliterals, ?_⟩
  rw [Dialect.readTokens?, (reads_fill hf hreads).tokens?, fillTokens_slots]
  exact bindTokens_nil hplain

end Fragment

end SqlRender
