import SqlRender.Proofs.Number.Decimal
import SqlRender.Proofs.Time.Reader
import SqlRender.Proofs.Uuid
import SqlRender.Wire.Value

/-!
# Values that come back from the wire

A value is read back from its document as it was written, and no double in the document is lost when
the document is made portable. The values that do not come back are named by one test: doubles that
JSON has no number for, the zero with a sign among the decimals, and timestamps that their texts do
not tell.
-/

namespace SqlRender

namespace Json

/-- A list is read back when each of its items is. -/
theorem listOf?_map {α : Type} {read : Json → Option α} {write : α → Json} {items : List α}
    (h : ∀ a ∈ items, read (write a) = some a) :
    listOf? read (.array (items.map write)) = some items := by
  change (items.map write).mapM read = some items
  induction items with
  | nil => rfl
  | cons a items ih =>
    rw [List.map_cons, List.mapM_cons, h a List.mem_cons_self,
      ih fun b hb => h b (List.mem_cons_of_mem a hb)]
    rfl

/-- A list is portable when each of its items is. -/
theorem portable_array_map {α : Type} {write : α → Json} {items : List α}
    (h : ∀ a ∈ items, (write a).portable = write a) :
    (array (items.map write)).portable = .array (items.map write) := by
  have hitems : portableItems (items.map write) = items.map write := by
    induction items with
    | nil => rfl
    | cons a items ih =>
      rw [List.map_cons, portableItems, h a List.mem_cons_self,
        ih fun b hb => h b (List.mem_cons_of_mem a hb)]
  rw [portable, hitems]

/-- An object with one field is portable when its content is. -/
theorem portable_single (name : String) (content : Json) :
    (object [(name, content)]).portable = .object [(name, content.portable)] := rfl

/-- A byte is read back. -/
theorem natBelow?_ofNat (b : UInt8) :
    ((ofNat b.toNat).natBelow? 256).map UInt8.ofNat = some b := by
  have hbound : 0 ≤ (b.toNat : Int) ∧ (b.toNat : Int) < (256 : Nat) := by
    have := b.toNat_lt
    omega
  rw [ofNat, natBelow?, if_pos hbound, Option.map_some, Int.toNat_natCast, UInt8.ofNat_toNat]

end Json

namespace Value

/-- Whether a value comes back from the wire. A double must be a number of JSON and, where it stands
as its text, come back from the text; a decimal zero has no sign; the text of a timestamp tells the
timestamp. -/
def isPortable (form : DoubleForm) : Value → Bool
  | decimal d => !d.negative || d.size != 0
  | double x => x.isFinite && (form == .number || Double.ofText? x.text == some x)
  | dateTime t => t.isReadable
  | dateTimeOffset t => t.isReadable
  | _ => true

/-- A whole number is read back. -/
theorem ofInt?_toInt (n : Int64) : ofInt? n.toInt = some (int n) := by
  have hbounds : Int64.minValue.toInt ≤ n.toInt ∧ n.toInt ≤ Int64.maxValue.toInt :=
    ⟨Int64.minValue_le_toInt n, Int64.toInt_le n⟩
  rw [ofInt?, if_pos hbounds, Int64.ofInt_toInt]

/-- The document of a value that comes back holds no double without a text. -/
theorem portable_toJson {form : DoubleForm} {v : Value} (h : v.isPortable form) :
    (v.toJson form).portable = v.toJson form := by
  cases v with
  | double x =>
    rw [isPortable, Bool.and_eq_true] at h
    rw [toJson, Json.portable_single]
    cases form with
    | number => rw [Double.toJson, Json.portable, if_pos h.1]
    | text => rfl
  | bytes bs => rw [toJson, Json.portable_single, Json.portable_array_map fun b _ => rfl]
  | _ => rfl

/-- The document of a value that comes back is read as the value. -/
theorem ofJson?_toJson {form : DoubleForm} {v : Value} (h : v.isPortable form) :
    ofJson? form (v.toJson form) = some v := by
  cases v with
  | null => rfl
  | bool b => rfl
  | int n => exact ofInt?_toInt n
  | decimal d =>
    have hsign : d.negative = false ∨ d.size ≠ 0 := by simpa [isPortable] using h
    exact congrArg (Option.map decimal) (Decimal.ofText?_text hsign)
  | double x =>
    cases form with
    | number => rfl
    | text =>
      simp only [isPortable, reduceCtorEq, beq_iff_eq, Bool.and_eq_true, Bool.or_eq_true,
        false_or] at h
      exact congrArg (Option.map double) h.2
  | string s => rfl
  | bytes bs =>
    have hbytes : (Json.array (bs.map fun b => .ofNat b.toNat)).listOf?
        (fun b => (b.natBelow? 256).map UInt8.ofNat) = some bs :=
      Json.listOf?_map fun b _ => Json.natBelow?_ofNat b
    exact congrArg (Option.map bytes) hbytes
  | uuid u =>
    exact congrArg (Option.map uuid) (Uuid.ofText?_text u)
  | dateTime t =>
    rw [isPortable] at h
    exact congrArg (Option.map dateTime) (Stamp.ofText?_text h)
  | dateTimeOffset t =>
    rw [isPortable] at h
    exact congrArg (Option.map dateTimeOffset) (OffsetStamp.ofText?_wireText h)

end Value

end SqlRender
