import Mathlib.Algebra.GroupWithZero.Nat
import Mathlib.Algebra.Order.BigOperators.Group.List
import Mathlib.Algebra.Order.Group.Nat
import SqlRender.Proofs.Fragment.Fill

/-!
# Bytes of a rendered fragment

A rendered fragment has the bytes of its fixed texts and quoted names and those of the texts in its
slots. The limit of an engine on the bytes of a statement is a limit on this sum.
-/

namespace SqlRender

/-- The bytes of a piece, but for the text that goes into a slot. -/
def Piece.bytes (d : Dialect) : Piece → Nat
  | .text s => s.utf8ByteSize
  | .name s => (d.quoteName s).utf8ByteSize
  | .slot _ => 0

namespace Fragment

variable {d : Dialect}

/-- The bytes of a fragment, but for the texts that go into its slots. -/
def bytes (d : Dialect) (f : Fragment) : Nat := (f.map (Piece.bytes d)).sum

/-- A fragment has the bytes of its first piece and of the others. -/
theorem bytes_cons (piece : Piece) (f : Fragment) :
    bytes d (piece :: f) = piece.bytes d + bytes d f := by
  rw [bytes, List.map_cons, List.sum_cons, bytes]

/-- A fragment with a text in every slot. -/
theorem utf8ByteSize_fill {f : Fragment} {xs : List String} (h : xs.length = f.slots.length) :
    (f.fill d xs).utf8ByteSize = f.bytes d + (xs.map String.utf8ByteSize).sum := by
  induction f generalizing xs with
  | nil =>
    rw [List.eq_nil_of_length_eq_zero h]
    rfl
  | cons piece rest ih =>
    cases piece with
    | text s => rw [fill, String.utf8ByteSize_append, ih h, bytes_cons, Piece.bytes, Nat.add_assoc]
    | name s => rw [fill, String.utf8ByteSize_append, ih h, bytes_cons, Piece.bytes, Nat.add_assoc]
    | slot v =>
      cases xs with
      | nil => cases h
      | cons x xs =>
        rw [fill, String.utf8ByteSize_append, ih (Nat.succ.inj h), bytes_cons, Piece.bytes,
          List.map_cons, List.sum_cons]
        omega

/-- A number has as many bytes as digits. -/
theorem utf8ByteSize_toString_le {n digits : Nat} (hdigits : 0 < digits) (h : n < 10 ^ digits) :
    (toString n).utf8ByteSize ≤ digits := by
  have hsize : ∀ cs : List Char, (∀ c ∈ cs, c.isDigit) →
      (String.ofList cs).utf8ByteSize = cs.length := by
    intro cs hcs
    induction cs with
    | nil => rfl
    | cons c rest ih =>
      have hone : c.utf8Size = 1 := by
        have hdigit := hcs c List.mem_cons_self
        simp only [Char.isDigit, Bool.and_eq_true, decide_eq_true_eq] at hdigit
        exact Char.utf8Size_eq_one_iff.mpr (UInt32.le_trans hdigit.2 (by decide))
      rw [String.ofList_cons, String.utf8ByteSize_append, String.utf8ByteSize_singleton, hone,
        ih fun c hc => hcs c (List.mem_cons_of_mem _ hc), List.length_cons, Nat.add_comm]
  rw [Nat.toString_eq_ofList_toDigits,
    hsize _ fun c hc => Nat.isDigit_of_mem_toDigits (by decide) (by decide) hc]
  exact (Nat.length_toDigits_le_iff (by decide) hdigits).mpr h

/-- A placeholder has at most two bytes beside its number. -/
theorem utf8ByteSize_placeholder_le {n digits : Nat} (hdigits : 0 < digits)
    (h : n < 10 ^ digits) : (d.placeholder n).utf8ByteSize ≤ 2 + digits := by
  have hnumber := utf8ByteSize_toString_le hdigits h
  have hmarks : "@p".utf8ByteSize = 2 ∧ "?".utf8ByteSize = 1 ∧ "$".utf8ByteSize = 1 := by decide
  unfold Dialect.placeholder
  split <;> try rw [String.utf8ByteSize_append]
  all_goals omega

/-- A fragment with placeholders of so many digits in its slots. -/
theorem utf8ByteSize_boundText_le {f : Fragment} {start digits : Nat} (hdigits : 0 < digits)
    (h : start + f.slots.length ≤ 10 ^ digits) :
    (f.boundText d start).utf8ByteSize ≤ f.bytes d + f.slots.length * (2 + digits) := by
  have hplaceholder : ∀ x ∈ placeholders d start f.slots.length, x.utf8ByteSize ≤ 2 + digits := by
    intro x hx
    obtain ⟨n, hn, rfl⟩ := List.mem_map.mp hx
    have hlast := (List.mem_range'_1.mp hn).2
    exact utf8ByteSize_placeholder_le hdigits (by omega)
  have hsum := List.sum_le_card_nsmul ((placeholders d start f.slots.length).map
    String.utf8ByteSize) (2 + digits) (List.forall_mem_map.mpr hplaceholder)
  have hcount : (placeholders d start f.slots.length).length = f.slots.length := by
    simp [placeholders]
  rw [List.length_map, hcount, Nat.nsmul_eq_mul] at hsum
  rw [boundText_eq_fill, utf8ByteSize_fill hcount]
  exact Nat.add_le_add_left hsum _

end Fragment

end SqlRender
