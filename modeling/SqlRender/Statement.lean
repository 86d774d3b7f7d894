import SqlRender.Predicate.Draft

/-!
# Statements

A statement is its text and the values bound in it, in the order of their placeholders. A
compiler renders predicates and values one by one and numbers the placeholders or the literals of
all of them in one sequence.
-/

namespace SqlRender

/-- A rendered statement. -/
structure Statement where
  sql : String
  params : List Parameter
deriving DecidableEq

namespace Statement

/-- The bound values, in the order of their placeholders. -/
def values (s : Statement) : List Value := s.params.map (·.value)

/-- Whether a statement binds any value. -/
def isParameterized (s : Statement) : Bool := !s.params.isEmpty

/-- The failure of an engine to run a statement. -/
def failure (s : Statement) (message : String) : Error := .execution s.sql message

end Statement

/-- A renderer of predicates and values that keeps the values bound so far, and the number of those
written out. -/
structure Compiler where
  dialect : Dialect
  mode : Mode
  params : List Parameter := []
  written : Nat := 0

namespace Compiler

/-- Keeps the values a draft has bound and counts those it has written, whether or not the draft
came to an end. -/
def keep (c : Compiler) (bound : List Parameter) (written : Nat) : Compiler :=
  { c with params := c.params ++ bound, written := c.written + written }

/-- The number of the next placeholder, or of the next literal where values are written out. -/
def next (c : Compiler) : Nat :=
  match c.mode with
  | .parameterized => c.params.length + 1
  | .inline => c.written + 1

/-- Renders a value: null is always written out. -/
def value (c : Compiler) (v : Value) : Compiler × Played String :=
  let played := (Draft.ofFragment (Fragment.ofValue v)).play c.dialect c.mode c.next
    (Fragment.render c.dialect c.mode c.next)
  (c.keep played.bound played.written, played)

/-- Renders a predicate; there is no text when all of it is dropped. -/
def compile (c : Compiler) (p : Predicate) : Compiler × Played (Option String) :=
  let played := (p.draft c.dialect).play c.dialect c.mode c.next fun fragment =>
    fragment.mapM (Fragment.render c.dialect c.mode c.next)
  (c.keep played.bound played.written, played)

end Compiler

/-- A filter by itself as a `WHERE` clause, in the mode of the dialect; none when all of it is
dropped. -/
def Dialect.filterClause (d : Dialect) (p : Predicate) : Played (Option Statement) :=
  let played := (Compiler.compile { dialect := d, mode := d.mode } p).2
  { bound := played.bound
    written := played.written
    drops := played.drops
    outcome := played.outcome.map (Option.map fun text => ⟨"WHERE " ++ text, played.bound⟩) }

end SqlRender
