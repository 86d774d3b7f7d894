import Mathlib.Algebra.GroupWithZero.Nat
import SqlRender.Proofs.Fragment.Fill

/-!
# Texts dealt out

The texts for the slots of a statement lie in one row, and each part of the statement takes its
own from the front of what the parts before it have left. So what a part makes of the texts depends
on how many values stand before it and on nothing else about the parts before it.
-/

namespace SqlRender

section

variable {α β γ δ : Type} {count : α → Nat} {make : α → List γ → β}

/-- What the elements of a list make of a tape, each of what those before it have left. -/
def deal (count : α → Nat) (make : α → List γ → β) : List α → List γ → List β
  | [], _ => []
  | a :: rest, tape => make a tape :: deal count make rest (tape.drop (count a))

@[simp] theorem length_deal (as : List α) (tape : List γ) :
    (deal count make as tape).length = as.length := by
  induction as generalizing tape with
  | nil => rfl
  | cons a rest ih => rw [deal, List.length_cons, ih, List.length_cons]

/-- Two lists in a row are dealt out one after the other. -/
theorem deal_append (as bs : List α) (tape : List γ) : deal count make (as ++ bs) tape =
    deal count make as tape ++ deal count make bs (tape.drop (as.map count).sum) := by
  induction as generalizing tape with
  | nil => rfl
  | cons a rest ih =>
    rw [List.cons_append, deal, deal, ih, List.cons_append, List.drop_drop, List.map_cons,
      List.sum_cons]

/-- The element at an index makes its own of what is left when those before it have taken
theirs. -/
theorem getElem?_deal (as : List α) (tape : List γ) (i : Nat) : (deal count make as tape)[i]? =
    as[i]?.map fun a => make a (tape.drop ((as.take i).map count).sum) := by
  induction as generalizing tape i with
  | nil => rfl
  | cons a rest ih =>
    cases i with
    | zero => rfl
    | succ i =>
      rw [deal, List.getElem?_cons_succ, ih, List.getElem?_cons_succ, List.take_succ_cons,
        List.map_cons, List.sum_cons, List.drop_drop]

/-- What is made is made of an element. -/
theorem exists_of_mem_deal {as : List α} {tape : List γ} {b : β} (h : b ∈ deal count make as tape) :
    ∃ a ∈ as, ∃ rest, b = make a rest := by
  obtain ⟨i, hi⟩ := List.mem_iff_getElem?.mp h
  rw [getElem?_deal] at hi
  obtain ⟨a, ha, rfl⟩ := Option.map_eq_some_iff.mp hi
  exact ⟨a, List.mem_of_getElem? ha, _, rfl⟩

/-- What is made of elements that are made themselves. -/
theorem deal_map (f : δ → α) (ds : List δ) (tape : List γ) :
    deal count make (ds.map f) tape =
      deal (fun x => count (f x)) (fun x => make (f x)) ds tape := by
  induction ds generalizing tape with
  | nil => rfl
  | cons x rest ih => rw [List.map_cons, deal, deal, ih]

/-- What is made can be changed afterwards or at once. -/
theorem map_deal (g : β → δ) (as : List α) (tape : List γ) :
    (deal count make as tape).map g = deal count (fun a rest => g (make a rest)) as tape := by
  induction as generalizing tape with
  | nil => rfl
  | cons a rest ih => rw [deal, List.map_cons, deal, ih]

/-- Where nothing is taken into account, what is made is made of the elements alone. -/
theorem deal_eq_map {g : α → β} (h : ∀ a tape, make a tape = g a) (as : List α) (tape : List γ) :
    deal count make as tape = as.map g := by
  induction as generalizing tape with
  | nil => rfl
  | cons a rest ih => rw [deal, h, ih, List.map_cons]

/-- Parts of a list that are dealt out within themselves are the list dealt out. -/
theorem flatten_deal (parts : List (List α)) (tape : List γ) :
    (deal (fun part => (part.map count).sum) (deal count make) parts tape).flatten =
      deal count make parts.flatten tape := by
  induction parts generalizing tape with
  | nil => rfl
  | cons part rest ih => rw [deal, List.flatten_cons, ih, List.flatten_cons, deal_append]

end

namespace Fragment

variable {d : Dialect}

/-- Two fragments in a row take the texts for their slots one after the other. -/
theorem fill_append_drop (f g : Fragment) (tape : List String) :
    (f ++ g).fill d tape = f.fill d tape ++ g.fill d (tape.drop f.slots.length) := by
  induction f generalizing tape with
  | nil => exact String.empty_append.symm
  | cons piece rest ih =>
    cases piece with
    | text s => rw [List.cons_append, fill, fill, ih, String.append_assoc, slots_text]
    | name s => rw [List.cons_append, fill, fill, ih, String.append_assoc, slots_name]
    | slot v =>
      cases tape with
      | nil => rw [List.cons_append, fill, fill, ih, List.drop_nil, List.drop_nil]
      | cons x tape =>
        rw [List.cons_append, fill, fill, ih, String.append_assoc, slots_slot, List.length_cons,
          List.drop_succ_cons]

/-- Fragments with separators between them take the texts for their slots one after the other. -/
theorem fill_joined_deal (separator : String) (fs : List Fragment) (tape : List String) :
    (joined separator fs).fill d tape =
      separator.intercalate (deal (·.slots.length) (fill d) fs tape) := by
  induction fs generalizing tape with
  | nil => rfl
  | cons f rest ih =>
    cases rest with
    | nil => simp [joined, deal]
    | cons g rest =>
      have hjoined : joined separator (f :: g :: rest) =
          f ++ .text separator :: joined separator (g :: rest) := by
        simp [joined, List.intercalate_cons_cons]
      rw [hjoined, fill_append_drop, fill, ih]
      simp only [deal, String.intercalate_cons_cons, String.append_assoc]

end Fragment

end SqlRender
