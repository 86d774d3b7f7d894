import SqlRender.Proofs.Json.Reader
import SqlRender.Proofs.Wire.Predicate

/-!
# Predicates that come back from a text

A predicate is read back from the text of its document. A reader of text goes only so deep, and two
arrays or objects stand around a side for every level of a tree, so a tree of at most sixty-two
levels is read back whatever its values are. The one kind of value whose text has to be looked at is
the double: the reader computes it from its digits in floating point.
-/

namespace SqlRender

open Json

variable {form : DoubleForm}

namespace Json

/-- An object with one field is as textual as its content. -/
theorem isTextual_single (name : String) (content : Json) :
    (object [(name, content)]).isTextual = content.isTextual := by
  simp [isTextual, fieldsTextual]

/-- An object with one field goes one level deeper than its content. -/
theorem depth_single (name : String) (content : Json) :
    (object [(name, content)]).depth = 1 + content.depth := by
  rw [depth, fieldsDepth, fieldsDepth, Nat.max_zero]

/-- A list is textual when each of its items is. -/
theorem isTextual_map {α : Type} {write : α → Json} {items : List α}
    (h : ∀ a ∈ items, (write a).isTextual) : (array (items.map write)).isTextual := by
  rw [isTextual]
  induction items with
  | nil => rfl
  | cons a items ih =>
    rw [List.map_cons, itemsTextual, h a List.mem_cons_self,
      ih fun b hb => h b (List.mem_cons_of_mem a hb)]
    rfl

/-- A list goes one level deeper than its items. -/
theorem depth_map_le {α : Type} {write : α → Json} {items : List α} {n : Nat}
    (h : ∀ a ∈ items, (write a).depth ≤ n) : (array (items.map write)).depth ≤ 1 + n := by
  rw [depth]
  refine Nat.add_le_add_left ?_ 1
  induction items with
  | nil => exact Nat.zero_le n
  | cons a items ih =>
    rw [List.map_cons, itemsDepth, Nat.max_le]
    exact ⟨h a List.mem_cons_self, ih fun b hb => h b (List.mem_cons_of_mem a hb)⟩

end Json

namespace Value

/-- Whether a double that stands as a number is read from its text as itself. -/
def isReadBack (form : DoubleForm) : Value → Bool
  | double x => form == .text || readsAs x.structureText.toList x
  | _ => true

/-- A text says everything of the document of a value. -/
theorem isTextual_toJson {v : Value} (h : v.isPortable form) (hread : v.isReadBack form) :
    (v.toJson form).isTextual := by
  cases v with
  | int n =>
    have hlow := n.le_toInt
    have hhigh := n.toInt_lt
    rw [toJson, isTextual_single, isTextual, Bool.and_eq_true, decide_eq_true_eq,
      decide_eq_true_eq]
    omega
  | double x =>
    rw [toJson, isTextual_single]
    cases form with
    | text => rfl
    | number =>
      rw [isPortable, Bool.and_eq_true] at h
      rw [Double.toJson, isTextual, Bool.and_eq_true]
      exact ⟨h.1, hread⟩
  | bytes bs =>
    rw [toJson, isTextual_single]
    refine isTextual_map fun b _ => ?_
    have := b.toNat_lt
    rw [ofNat, isTextual, Bool.and_eq_true, decide_eq_true_eq, decide_eq_true_eq]
    omega
  | null => rfl
  | _ => exact isTextual_single _ _

/-- At most two arrays and objects are around what a value holds: the choice of its kind, and the
list of its bytes. -/
theorem depth_toJson (v : Value) : (v.toJson form).depth ≤ 2 := by
  cases v with
  | bytes bs =>
    have hlist : (array (bs.map fun b => ofNat b.toNat)).depth ≤ 1 + 0 :=
      depth_map_le fun _ _ => Nat.le_refl 0
    rw [toJson, depth_single]
    exact Nat.add_le_add_left hlist 1
  | double x => cases form <;> exact Nat.le_succ 1
  | null => exact Nat.zero_le 2
  | _ => exact Nat.le_succ 1

end Value

/-- The number of levels of a left side. -/
def Term.depth : Term → Nat
  | .field _ => 0
  | .nested p => p.depth

/-- The number of levels of a right side. -/
def Operand.depth : Operand → Nat
  | .nested p => p.depth
  | _ => 0

/-- A tree has one level more than its sides. -/
theorem Predicate.depth_node (left : Term) (op : Operator) (right : Operand) :
    (Predicate.node left op right).depth = 1 + max left.depth right.depth := by
  cases left <;> cases right <;> rfl

mutual

/-- A text says everything of the document of a left side. -/
theorem Term.isTextual_toJson : ∀ {t : Term}, (∀ v ∈ t.literals, v.isPortable form) →
    (∀ v ∈ t.literals, v.isReadBack form) → (t.toJson form).isTextual
  | .field _, _, _ => by rw [Term.toJson, isTextual_single]; rfl
  | .nested p, h, hread => by
    rw [Term.toJson, isTextual_single]
    exact Predicate.isTextual_toJson h hread

/-- A text says everything of the document of a right side. -/
theorem Operand.isTextual_toJson : ∀ {o : Operand}, (∀ v ∈ o.literals, v.isPortable form) →
    (∀ v ∈ o.literals, v.isReadBack form) → (o.toJson form).isTextual
  | .value v, h, hread => by
    rw [Operand.toJson, isTextual_single]
    exact Value.isTextual_toJson (h v (List.mem_singleton_self v))
      (hread v (List.mem_singleton_self v))
  | .nested p, h, hread => by
    rw [Operand.toJson, isTextual_single]
    exact Predicate.isTextual_toJson h hread
  | .list vs, h, hread => by
    rw [Operand.toJson, isTextual_single]
    exact isTextual_map fun v hv => Value.isTextual_toJson (h v hv) (hread v hv)
  | .absent, _, _ => by rw [Operand.toJson]; rfl

/-- A text says everything of the document of a predicate. -/
theorem Predicate.isTextual_toJson : ∀ {p : Predicate}, (∀ v ∈ p.literals, v.isPortable form) →
    (∀ v ∈ p.literals, v.isReadBack form) → (p.toJson form).isTextual
  | .node left op right, h, hread => by
    have hleft := Term.isTextual_toJson (fun v hv => h v (List.mem_append_left _ hv))
      fun v hv => hread v (List.mem_append_left _ hv)
    have hright := Operand.isTextual_toJson (fun v hv => h v (List.mem_append_right _ hv))
      fun v hv => hread v (List.mem_append_right _ hv)
    simp only [Predicate.toJson, isTextual, fieldsTextual, hleft, hright]
    rfl

end

mutual

/-- The document of a left side goes two levels deeper for every level of the side. -/
theorem Term.depth_toJson : ∀ t : Term, (t.toJson form).depth ≤ 2 * t.depth + 4
  | .field _ => by
    rw [Term.toJson, depth_single]
    exact Nat.succ_le_succ (Nat.zero_le _)
  | .nested p => by
    have := Predicate.depth_toJson p
    rw [Term.toJson, depth_single, Term.depth]
    omega

/-- The document of a right side goes two levels deeper for every level of the side. -/
theorem Operand.depth_toJson : ∀ o : Operand, (o.toJson form).depth ≤ 2 * o.depth + 4
  | .value v => by
    have : (v.toJson form).depth ≤ 2 := v.depth_toJson
    rw [Operand.toJson, depth_single]
    omega
  | .nested p => by
    have := Predicate.depth_toJson p
    rw [Operand.toJson, depth_single, Operand.depth]
    omega
  | .list vs => by
    have : (array (vs.map (Value.toJson form))).depth ≤ 1 + 2 :=
      depth_map_le fun v _ => v.depth_toJson
    rw [Operand.toJson, depth_single]
    omega
  | .absent => by
    rw [Operand.toJson]
    exact Nat.zero_le _

/-- The document of a predicate goes two levels deeper for every level of the tree. -/
theorem Predicate.depth_toJson : ∀ p : Predicate, (p.toJson form).depth ≤ 2 * p.depth + 3
  | .node left op right => by
    have hleft := Term.depth_toJson left
    have hright := Operand.depth_toJson right
    have hop : (Json.string op.name).depth = 0 := rfl
    rw [Predicate.toJson, Predicate.depth_node, Json.depth]
    simp only [fieldsDepth, hop]
    omega

end

/-- A predicate comes back from the text of its document. -/
theorem Predicate.ofJson?_parse? {p : Predicate} (h : ∀ v ∈ p.literals, v.isPortable form)
    (hread : ∀ v ∈ p.literals, v.isReadBack form) (hdepth : p.depth ≤ 62) :
    (parse? (p.toJson form).render).bind (Predicate.ofJson? form) = some p := by
  have hlevels : (p.toJson form).depth ≤ 127 := by
    have : (p.toJson form).depth ≤ 2 * p.depth + 3 := p.depth_toJson
    omega
  rw [parse?_render (Predicate.isTextual_toJson h hread) hlevels, Option.bind_some,
    Predicate.ofJson?_toJson h]

example : (parse? (variedTree.toJson .number).render).bind (Predicate.ofJson? .number) =
    some variedTree :=
  Predicate.ofJson?_parse? (by decide +kernel) (by decide +kernel) (by decide +kernel)

end SqlRender
