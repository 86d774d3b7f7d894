import SqlRender.Error

/-!
# Rows

A row gives values to columns. Its columns have distinct names and keep the order in which
the names first came; a name that comes again takes the new value at its old place.
-/

namespace SqlRender

/-- Puts a cell into a list of cells: at its old place, or at the end. -/
def putCell (name : String) (v : Value) : List (String × Value) → List (String × Value)
  | [] => [(name, v)]
  | (other, old) :: rest =>
    if other = name then (name, v) :: rest else (other, old) :: putCell name v rest

/-- Putting a cell adds its name at the end or changes no name at all. -/
theorem names_putCell (name : String) (v : Value) (cells : List (String × Value)) :
    (putCell name v cells).map (·.1) =
      if name ∈ cells.map (·.1) then cells.map (·.1) else cells.map (·.1) ++ [name] := by
  induction cells with
  | nil => rfl
  | cons head rest ih =>
    obtain ⟨other, old⟩ := head
    by_cases h : other = name
    · simp [putCell, h]
    · simp only [putCell, h, if_false, List.map_cons, ih, List.mem_cons]
      have : ¬name = other := fun e => h e.symm
      simp only [this, false_or]
      split <;> simp

/-- A row: cells with distinct names. -/
structure Row where
  cells : List (String × Value)
  nodup : (cells.map (·.1)).Nodup

namespace Row

/-- The row without cells. -/
def empty : Row := ⟨[], List.nodup_nil⟩

/-- Puts a cell into a row. -/
def put (r : Row) (name : String) (v : Value) : Row where
  cells := putCell name v r.cells
  nodup := by
    rw [names_putCell]
    split
    · exact r.nodup
    · next h =>
      refine List.nodup_append.2 ⟨r.nodup, by simp, ?_⟩
      intro a ha b hb hab
      exact h (by rw [← List.mem_singleton.1 hb, ← hab]; exact ha)

/-- The row of some cells, put in one after the other. -/
def ofCells (cells : List (String × Value)) : Row :=
  cells.foldl (fun r cell => r.put cell.1 cell.2) empty

/-- The names of a row's columns, in order. -/
def names (r : Row) : List String := r.cells.map (·.1)

/-- The values of a row, in order. -/
def values (r : Row) : List Value := r.cells.map (·.2)

/-- The names of a row's columns as a message shows them. -/
def namesText (r : Row) : String := String.intercalate ", " r.names

/-- The first row, if there is one with a cell and every row has its columns in its order. -/
def reference (rows : List Row) : Except Error Row :=
  match rows with
  | [] => .error (.malformed .noRows)
  | first :: _ =>
    if first.cells.isEmpty then .error (.malformed (.noData "INSERT"))
    else
      match rows.findIdx? fun r => r.names != first.names with
      | none => .ok first
      | some index =>
        .error (.schemaMismatch index first.namesText
          ((rows[index]?.map namesText).getD ""))

end Row

end SqlRender
