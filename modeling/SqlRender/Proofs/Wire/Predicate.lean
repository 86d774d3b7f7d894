import SqlRender.Proofs.Wire.Value
import SqlRender.Wire.Predicate

/-!
# Predicates that come back from the wire

A predicate is read back from its document as it was written, to any depth, when its values are. So
two predicates with one document are one predicate. The document is the tree that JSON text writes
down: how the text is printed, and how deep a reader of text goes, are no matter of the predicate,
and `SqlRender.Proofs.Wire.Document` has them.
-/

namespace SqlRender

variable {form : DoubleForm}

mutual

/-- The values of a left side, from left to right. -/
def Term.literals : Term → List Value
  | .field _ => []
  | .nested p => p.literals

/-- The values of a right side, from left to right. -/
def Operand.literals : Operand → List Value
  | .value v => [v]
  | .nested p => p.literals
  | .list vs => vs
  | .absent => []

/-- The values of a predicate, from left to right. -/
def Predicate.literals : Predicate → List Value
  | .node left _ right => left.literals ++ right.literals

end

/-- An operator is read back. -/
theorem Operator.ofJson?_name (op : Operator) : ofJson? (.string op.name) = some op :=
  ofName?_name op

/-- A record of the three parts is read part by part. -/
theorem Predicate.ofJson?_record (form : DoubleForm) (left op right : Json) :
    Predicate.ofJson? form (.object [("left", left), ("operator", op), ("right", right)]) =
      (Term.ofJson? form left).bind fun left => (Operator.ofJson? op).bind fun op =>
        (Operand.ofJson? form right).map fun right => .node left op right := by
  rw [Predicate.ofJson?]
  rfl

mutual

/-- The document of a left side holds no double without a text. -/
theorem Term.portable_toJson : ∀ {t : Term}, (∀ v ∈ t.literals, v.isPortable form) →
    (t.toJson form).portable = t.toJson form
  | .field _, _ => by rw [Term.toJson]; rfl
  | .nested p, h => by
    rw [Term.toJson, Json.portable_single, Predicate.portable_toJson h]

/-- The document of a right side holds no double without a text. -/
theorem Operand.portable_toJson : ∀ {o : Operand}, (∀ v ∈ o.literals, v.isPortable form) →
    (o.toJson form).portable = o.toJson form
  | .value v, h => by
    rw [Operand.toJson, Json.portable_single,
      Value.portable_toJson (h v (List.mem_singleton_self v))]
  | .nested p, h => by
    rw [Operand.toJson, Json.portable_single, Predicate.portable_toJson h]
  | .list vs, h => by
    have hlist : (Json.array (vs.map (Value.toJson form))).portable =
        .array (vs.map (Value.toJson form)) :=
      Json.portable_array_map fun v hv => Value.portable_toJson (h v hv)
    rw [Operand.toJson, Json.portable_single, hlist]
  | .absent, _ => by rw [Operand.toJson]; rfl

/-- The document of a predicate holds no double without a text. -/
theorem Predicate.portable_toJson : ∀ {p : Predicate}, (∀ v ∈ p.literals, v.isPortable form) →
    (p.toJson form).portable = p.toJson form
  | .node left op right, h => by
    rw [Predicate.toJson]
    have hleft := Term.portable_toJson fun v hv => h v (List.mem_append_left _ hv)
    have hright := Operand.portable_toJson fun v hv => h v (List.mem_append_right _ hv)
    simp only [Json.portable, Json.portableFields, hleft, hright]

end

mutual

/-- The document of a left side is read as the left side. -/
theorem Term.ofJson?_toJson : ∀ {t : Term}, (∀ v ∈ t.literals, v.isPortable form) →
    Term.ofJson? form (t.toJson form) = some t
  | .field name, _ => by
    rw [Term.toJson, Term.ofJson?]
    rfl
  | .nested p, h => by
    rw [Term.toJson, Term.ofJson?]
    simp [Predicate.ofJson?_toJson h]

/-- The document of a right side is read as the right side. -/
theorem Operand.ofJson?_toJson : ∀ {o : Operand}, (∀ v ∈ o.literals, v.isPortable form) →
    Operand.ofJson? form (o.toJson form) = some o
  | .value v, h => by
    rw [Operand.toJson, Operand.ofJson?.eq_def]
    simp [Value.ofJson?_toJson (h v (List.mem_singleton_self v))]
  | .nested p, h => by
    rw [Operand.toJson, Operand.ofJson?.eq_def]
    simp [Predicate.ofJson?_toJson h]
  | .list vs, h => by
    have hlist : (Json.array (vs.map (Value.toJson form))).listOf? (Value.ofJson? form) = some vs :=
      Json.listOf?_map fun v hv => Value.ofJson?_toJson (h v hv)
    rw [Operand.toJson, Operand.ofJson?.eq_def]
    simp [hlist]
  | .absent, _ => by
    rw [Operand.toJson, Operand.ofJson?]
    rfl

/-- The document of a predicate is read as the predicate. -/
theorem Predicate.ofJson?_toJson : ∀ {p : Predicate}, (∀ v ∈ p.literals, v.isPortable form) →
    Predicate.ofJson? form (p.toJson form) = some p
  | .node left op right, h => by
    have hleft := Term.ofJson?_toJson fun v hv => h v (List.mem_append_left _ hv)
    have hright := Operand.ofJson?_toJson fun v hv => h v (List.mem_append_right _ hv)
    rw [Predicate.toJson, Predicate.ofJson?_record, hleft, Operator.ofJson?_name, hright]
    rfl

end

/-- A predicate comes back from the wire as it went, to any depth, and no other predicate has its
document. -/
theorem Predicate.comes_back {p : Predicate} (h : ∀ v ∈ p.literals, v.isPortable form) :
    Predicate.ofJson? form (p.toJson form).portable = some p ∧
      ∀ q : Predicate, (∀ v ∈ q.literals, v.isPortable form) →
        (q.toJson form).portable = (p.toJson form).portable → q = p := by
  have hread : ∀ q : Predicate, (∀ v ∈ q.literals, v.isPortable form) →
      Predicate.ofJson? form (q.toJson form).portable = some q := by
    intro q hq
    rw [Predicate.portable_toJson hq, Predicate.ofJson?_toJson hq]
  refine ⟨hread p h, fun q hq heq => ?_⟩
  have hsame := hread q hq
  rw [heq, hread p h] at hsame
  exact (Option.some.inj hsame).symm

/-- A tree of four levels with an operand of every form and a value of every kind. -/
def variedTree : Predicate :=
  .node (.nested (.node (.field "seen") .isIn (.list [.null, .bool true, .int (-7), .string "",
      .bytes [0, 255], .uuid ⟨0x0123456789abcdef⟩, .decimal ⟨true, 150, 2, by decide, by decide⟩,
      .dateTime ⟨{ year := 2024, month := 2, day := 29 }, .midnight⟩])))
    .or (.nested (.node
      (.nested (.node (.field "at") .lessThan (.value (.dateTimeOffset
        ⟨⟨{ year := -1, month := 2, day := 28 }, .midnight⟩, 5400, by decide⟩))))
      .and (.nested (.node
        (.nested (.node (.field "rate") .equals (.value (.double (Double.ofRatio true 1 3)))))
        .and (.nested (.node (.field "gone") .isNull .absent))))))

/-- The tree comes back as it went. -/
theorem Predicate.comes_back_variedTree :
    (∀ v ∈ variedTree.literals, v.isPortable .number) ∧
      Predicate.ofJson? .number (variedTree.toJson .number).portable = some variedTree := by
  have h : ∀ v ∈ variedTree.literals, v.isPortable .number := by decide +kernel
  exact ⟨h, (Predicate.comes_back h).1⟩

end SqlRender
