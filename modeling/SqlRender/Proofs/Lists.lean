import Mathlib.Data.List.Flatten
import Mathlib.Data.List.Forall2
import SqlRender.Proofs.Results

/-!
# Related lists

Lists whose elements correspond one by one, lists of results that are made element by element,
lists with separators between them, and lists of pairs in which something is looked up by its name.
-/

namespace SqlRender

/-- A list of results is made element by element. -/
theorem mapM_eq_ok {α β : Type} {f : α → Except Error β} {xs : List α} {ys : List β} :
    xs.mapM f = .ok ys ↔ List.Forall₂ (fun x y => f x = .ok y) xs ys := by
  constructor
  · intro h
    induction xs generalizing ys with
    | nil =>
      cases h
      exact .nil
    | cons x rest ih =>
      rw [List.mapM_cons] at h
      obtain ⟨y, hy, h⟩ := bind_eq_ok h
      obtain ⟨zs, hzs, h⟩ := bind_eq_ok h
      cases h
      exact .cons hy (ih hzs)
  · intro h
    induction h with
    | nil => rfl
    | cons hx _ ih =>
      rw [List.mapM_cons, hx, ih]
      rfl

/-- A list of results that is not made fails at an element. -/
theorem mapM_eq_error {α β : Type} {f : α → Except Error β} {xs : List α} {e : Error}
    (h : xs.mapM f = .error e) : ∃ x ∈ xs, f x = .error e := by
  induction xs with
  | nil => cases h
  | cons x rest ih =>
    rw [List.mapM_cons] at h
    rcases bind_eq_error h with hx | ⟨y, -, hrest⟩
    · exact ⟨x, List.mem_cons_self, hx⟩
    · rcases bind_eq_error hrest with hrest | ⟨ys, -, hys⟩
      · obtain ⟨z, hz, hfail⟩ := ih hrest
        exact ⟨z, List.mem_cons_of_mem _ hz, hfail⟩
      · cases hys

/-- A check of a list passes when the check of every element does. -/
theorem forM_eq_ok {α : Type} {f : α → Except Error Unit} {xs : List α} :
    xs.forM f = .ok () ↔ ∀ x ∈ xs, f x = .ok () := by
  induction xs with
  | nil => simp [pure, Except.pure]
  | cons x rest ih =>
    rw [List.forM_eq_forM, List.forM_cons, List.forall_mem_cons, ← ih]
    constructor
    · intro h
      obtain ⟨⟨⟩, hx, hrest⟩ := bind_eq_ok h
      exact ⟨hx, hrest⟩
    · rintro ⟨hx, hrest⟩
      rw [hx]
      exact hrest

/-- Lists of results that are made alike, element by element, end alike. -/
theorem SameEnd.mapM {α β γ δ : Type} {R : α → β → Prop} {S : γ → δ → Prop}
    {f : α → Except Error γ} {g : β → Except Error δ} {xs : List α} {ys : List β}
    (h : List.Forall₂ R xs ys) (hstep : ∀ x y, R x y → SameEnd S (f x) (g y)) :
    SameEnd (List.Forall₂ S) (xs.mapM f) (ys.mapM g) := by
  induction h with
  | nil => exact .ok .nil
  | cons hxy _ ih =>
    rw [List.mapM_cons, List.mapM_cons]
    exact (hstep _ _ hxy).bind fun u v huv => ih.bind fun us vs hrest => .ok (.cons huv hrest)

/-- What is made element by element from related lists is related. -/
theorem forall₂_of_related {α β γ δ : Type} {R : α → β → Prop} {S : α → γ → Prop}
    {T : β → δ → Prop} {U : γ → δ → Prop} {xs : List α} {ys : List β} {us : List γ} {vs : List δ}
    (h : List.Forall₂ R xs ys) (hus : List.Forall₂ S xs us) (hvs : List.Forall₂ T ys vs)
    (hstep : ∀ x y u v, R x y → S x u → T y v → U u v) : List.Forall₂ U us vs := by
  induction h generalizing us vs with
  | nil =>
    cases hus
    cases hvs
    exact .nil
  | cons hxy _ ih =>
    cases hus with
    | cons hu hus =>
      cases hvs with
      | cons hv hvs => exact .cons (hstep _ _ _ _ hxy hu hv) (ih hus hvs)

/-- Two lists in a row are known from the whole when the elements of the first satisfy a test that
the first element behind them fails. -/
theorem append_inj_of_test {α : Type} {test : α → Bool} {a a' b b' : List α} {x x' : α}
    (ha : ∀ y ∈ a, test y) (ha' : ∀ y ∈ a', test y) (hx : test x = false) (hx' : test x' = false)
    (h : a ++ x :: b = a' ++ x' :: b') : a = a' ∧ x = x' ∧ b = b' := by
  have htake : ∀ {l : List α} {y : α} {rest : List α}, (∀ z ∈ l, test z) → test y = false →
      (l ++ y :: rest).takeWhile test = l := by
    intro l y rest hl hy
    rw [List.takeWhile_append_of_pos hl, List.takeWhile_cons_of_neg (by simp [hy]),
      List.append_nil]
  have hfirst : a = a' := by rw [← htake ha hx, h, htake ha' hx']
  subst hfirst
  obtain ⟨rfl, rfl⟩ := List.cons.inj (List.append_cancel_left h)
  exact ⟨rfl, rfl, rfl⟩

/-- A selection of a list gives the same parts in a row as the whole list does when the elements
that are left out give none. -/
theorem flatMap_filter_eq_iff {α β : Type} {test : α → Bool} {f : α → List β} {xs : List α} :
    (xs.filter test).flatMap f = xs.flatMap f ↔ ∀ x ∈ xs, test x ∨ f x = [] := by
  induction xs with
  | nil => simp
  | cons x rest ih =>
    rw [List.forall_mem_cons, ← ih, List.flatMap_cons]
    cases htest : test x with
    | true => simp [htest]
    | false =>
      rw [List.filter_cons_of_neg (by simp [htest])]
      constructor
      · intro h
        have hlength := congrArg List.length h
        have hrest : ((rest.filter test).flatMap f).length ≤ (rest.flatMap f).length :=
          (List.filter_sublist.flatMap f).length_le
        rw [List.length_append] at hlength
        have hnone : f x = [] := List.eq_nil_of_length_eq_zero (by omega)
        rw [hnone, List.nil_append] at h
        exact ⟨.inr hnone, h⟩
      · rintro ⟨hx, h⟩
        have hnone : f x = [] := by simpa using hx
        rw [hnone, List.nil_append, h]

/-- Related lists are empty together. -/
theorem isEmpty_of_forall₂ {α β : Type} {R : α → β → Prop} {xs : List α} {ys : List β}
    (h : List.Forall₂ R xs ys) : xs.isEmpty = ys.isEmpty := by
  cases h <;> rfl

/-- Related lists stay related with their elements numbered. -/
theorem forall₂_zipIdx {α β : Type} {R : α → β → Prop} {xs : List α} {ys : List β}
    (h : List.Forall₂ R xs ys) (start : Nat) :
    List.Forall₂ (fun xn ym => R xn.1 ym.1 ∧ xn.2 = ym.2) (xs.zipIdx start) (ys.zipIdx start) := by
  induction h generalizing start with
  | nil => exact .nil
  | cons hxy _ ih => exact .cons ⟨hxy, rfl⟩ (ih (start + 1))

/-- Every element on the left has a related one. -/
theorem exists_of_forall₂ {α β : Type} {R : α → β → Prop} {xs : List α} {ys : List β}
    (h : List.Forall₂ R xs ys) : ∀ x ∈ xs, ∃ y, R x y := by
  induction h with
  | nil => simp
  | cons hxy _ ih =>
    intro x hx
    rcases List.mem_cons.mp hx with rfl | hx
    · exact ⟨_, hxy⟩
    · exact ih x hx

/-- What every related element on the right has. -/
theorem forall_of_forall₂ {α β : Type} {R : α → β → Prop} {p : β → Prop} {xs : List α}
    {ys : List β} (h : List.Forall₂ R xs ys) (hp : ∀ x y, R x y → p y) : ∀ y ∈ ys, p y := by
  induction h with
  | nil => simp
  | cons hxy _ ih =>
    intro y hy
    rcases List.mem_cons.mp hy with rfl | hy
    · exact hp _ _ hxy
    · exact ih y hy

/-- What stands between separators or is one comes from the lists or the separator. -/
theorem mem_intercalate {α : Type} {separator : List α} {xss : List (List α)} {x : α}
    (h : x ∈ separator.intercalate xss) : x ∈ separator ∨ ∃ xs ∈ xss, x ∈ xs := by
  induction xss with
  | nil => cases h
  | cons xs rest ih =>
    cases rest with
    | nil =>
      rw [List.intercalate_singleton] at h
      exact .inr ⟨xs, List.mem_cons_self, h⟩
    | cons ys rest =>
      rw [List.intercalate_cons_cons, List.mem_append, List.mem_append] at h
      rcases h with (hxs | hseparator) | hrest
      · exact .inr ⟨xs, List.mem_cons_self, hxs⟩
      · exact .inl hseparator
      · refine (ih hrest).imp_right ?_
        rintro ⟨zs, hzs, hx⟩
        exact ⟨zs, List.mem_cons_of_mem _ hzs, hx⟩

/-- Related lists with related separators between them are related. -/
theorem forall₂_intercalate {α β : Type} {R : α → β → Prop} {separator : List α}
    {separator' : List β} {xss : List (List α)} {yss : List (List β)}
    (hseparator : List.Forall₂ R separator separator') (h : List.Forall₂ (List.Forall₂ R) xss yss) :
    List.Forall₂ R (separator.intercalate xss) (separator'.intercalate yss) := by
  induction h with
  | nil => exact .nil
  | cons hhead hrest ih =>
    cases hrest with
    | nil =>
      rw [List.intercalate_singleton, List.intercalate_singleton]
      exact hhead
    | cons hnext hrest =>
      rw [List.intercalate_cons_cons, List.intercalate_cons_cons]
      exact List.rel_append (List.rel_append hhead hseparator) ih

/-- An element that passes a test stands behind those in front of it that pass. -/
theorem getElem?_filter {α : Type} {test : α → Bool} {xs : List α} {i : Nat} {x : α}
    (h : xs[i]? = some x) (hx : test x) :
    (xs.filter test)[((xs.take i).filter test).length]? = some x := by
  induction xs generalizing i with
  | nil => cases h
  | cons y rest ih =>
    cases i with
    | zero =>
      cases h
      rw [List.filter_cons_of_pos hx]
      rfl
    | succ i =>
      have hrest := ih h
      rw [List.take_succ_cons]
      cases hy : test y with
      | true => simpa [List.filter_cons, hy] using hrest
      | false => simpa [List.filter_cons, hy] using hrest

/-- What is made of an element stands behind what is made of those in front of it. -/
theorem getElem?_flatMap {α β : Type} {f : α → List β} {xs : List α} {i k : Nat} {x : α} {y : β}
    (h : xs[i]? = some x) (hy : (f x)[k]? = some y) :
    (xs.flatMap f)[((xs.take i).flatMap f).length + k]? = some y := by
  induction xs generalizing i with
  | nil => cases h
  | cons z rest ih =>
    cases i with
    | zero =>
      cases h
      obtain ⟨hk, -⟩ := List.getElem?_eq_some_iff.mp hy
      rw [List.take_zero, List.flatMap_nil, List.length_nil, Nat.zero_add, List.flatMap_cons,
        List.getElem?_append_left hk, hy]
    | succ i =>
      have hrest := ih h
      rw [List.take_succ_cons, List.flatMap_cons, List.flatMap_cons, List.length_append,
        Nat.add_assoc, List.getElem?_append_right (Nat.le_add_right _ _),
        Nat.add_sub_cancel_left, hrest]

/-- The first pair of a list is found under its name, and another name is looked up behind it. -/
theorem lookup_cons {α : Type} (key : String) (a : α) (rest : List (String × α)) (name : String) :
    ((key, a) :: rest).lookup name = if name = key then some a else rest.lookup name := by
  by_cases h : name = key
  · rw [h, List.lookup_cons_self, if_pos rfl]
  · rw [List.lookup_cons, beq_false_of_ne h, if_neg h]

/-- An element of a list of pairs is found under its name when the names are distinct. -/
theorem lookup_of_mem {α : Type} {entries : List (String × α)}
    (hnames : (entries.map (·.1)).Nodup) {name : String} {a : α} (h : (name, a) ∈ entries) :
    entries.lookup name = some a := by
  induction entries with
  | nil => cases h
  | cons entry rest ih =>
    obtain ⟨other, b⟩ := entry
    rw [List.map_cons, List.nodup_cons] at hnames
    rcases List.mem_cons.mp h with heq | hrest
    · cases heq
      rw [List.lookup_cons_self]
    · have hne : name ≠ other := by
        rintro rfl
        exact hnames.1 (List.mem_map.mpr ⟨_, hrest, rfl⟩)
      rw [lookup_cons, if_neg hne]
      exact ih hnames.2 hrest

/-- What is found under a name is there. -/
theorem mem_of_lookup {α : Type} {entries : List (String × α)} {name : String} {a : α}
    (h : entries.lookup name = some a) : (name, a) ∈ entries := by
  obtain ⟨before, after, rfl, -⟩ := List.lookup_eq_some_iff.mp h
  simp

/-- Nothing is found under a name that is not there. -/
theorem lookup_eq_none {α : Type} {entries : List (String × α)} {name : String} :
    entries.lookup name = none ↔ name ∉ entries.map (·.1) := by
  rw [List.lookup_eq_none_iff]
  simp only [bne_iff_ne, List.mem_map, not_exists, not_and]
  exact ⟨fun h entry hentry heq => h entry hentry heq.symm,
    fun h entry hentry heq => h entry hentry heq.symm⟩

/-- Leaving out another name changes nothing under a name. -/
theorem lookup_filter_ne {α : Type} {entries : List (String × α)} {name other : String}
    (h : name ≠ other) : (entries.filter (·.1 != other)).lookup name = entries.lookup name := by
  induction entries with
  | nil => rfl
  | cons entry rest ih =>
    obtain ⟨key, a⟩ := entry
    by_cases hkey : key = other
    · subst hkey
      rw [List.filter_cons_of_neg (by simp), ih, lookup_cons, if_neg h]
    · rw [List.filter_cons_of_pos (by simpa using hkey), lookup_cons, lookup_cons, ih]

end SqlRender
