import SqlRender.Fragment

/-!
# Drafts

A draft is what is known of a statement or a predicate before its values are bound or written:
the values used and the leaves dropped in the order in which they were met, and at the end the
result or the error that ended it. A draft does not depend on how values reach the engine, and
playing it decides that: values are bound up to the end or the error, or they are written out
until one has no literal.
-/

namespace SqlRender

/-- What is met on the way through a draft. -/
inductive Step
  | use (v : Value)
  | drop (leaf : Drop)

/-- The steps of a draft and its outcome. -/
structure Draft (α : Type) where
  steps : List Step
  outcome : Except Error α

namespace Draft

variable {α β : Type}

/-- A draft that ends in an error at once. -/
def fail (e : Error) : Draft α := ⟨[], .error e⟩

/-- The draft of a fragment, which uses the values of its slots. -/
def ofFragment (f : Fragment) : Draft Fragment := ⟨f.slots.map .use, .ok f⟩

/-- One draft after another; the second is not met when the first ends in an error. -/
def bind (first : Draft α) (next : α → Draft β) : Draft β :=
  match first.outcome with
  | .ok a => ⟨first.steps ++ (next a).steps, (next a).outcome⟩
  | .error e => ⟨first.steps, .error e⟩

instance : Monad Draft where
  pure a := ⟨[], .ok a⟩
  bind := bind

end Draft

/-- What playing a draft leaves behind: the values bound, the number of values written out, the
leaves dropped, and the result. -/
structure Played (α : Type) where
  bound : List Parameter
  written : Nat
  drops : List Drop
  outcome : Except Error α

namespace Step

/-- The value a step uses. -/
def used? : Step → Option Value
  | use v => some v
  | drop _ => none

/-- The leaf a step drops. -/
def dropped? : Step → Option Drop
  | use _ => none
  | drop leaf => some leaf

/-- The error of a step that uses a value without a literal, which it has under no number. -/
def unwritable? (d : Dialect) (step : Step) : Option Error :=
  match step.used?.map (d.literal 0) with
  | some (.error e) => some e
  | _ => none

end Step

namespace Draft

/-- The values a draft binds, numbered from `start`: all that it uses, or none at all. -/
def boundParameters (d : Dialect) (mode : Mode) (start : Nat) (steps : List Step) :
    List Parameter :=
  match mode with
  | .parameterized => Fragment.parameters d start (steps.filterMap Step.used?)
  | .inline => []

/-- The error that ends a draft while its values are used: a value that is to be written out
and has no literal. -/
def playError? (d : Dialect) (mode : Mode) (steps : List Step) : Option Error :=
  match mode with
  | .parameterized => none
  | .inline => steps.findSome? (Step.unwritable? d)

/-- The steps that are met in a mode: all of them, or those in front of a value that is to be
written out and has no literal. -/
def metSteps (d : Dialect) (mode : Mode) (steps : List Step) : List Step :=
  match mode with
  | .parameterized => steps
  | .inline => steps.takeWhile fun step => (step.unwritable? d).isNone

/-- The number of values a draft writes out: those in front of one without a literal. -/
def writtenCount (d : Dialect) (mode : Mode) (steps : List Step) : Nat :=
  match mode with
  | .parameterized => 0
  | .inline => ((metSteps d .inline steps).filterMap Step.used?).length

/-- Plays a draft in a mode, with placeholders numbered from `start`, and finishes its result. -/
def play (d : Dialect) (mode : Mode) (start : Nat) (finish : α → Except Error β)
    (draft : Draft α) : Played β where
  bound := boundParameters d mode start draft.steps
  written := writtenCount d mode draft.steps
  drops := (metSteps d mode draft.steps).filterMap Step.dropped?
  outcome :=
    match playError? d mode draft.steps with
    | some e => .error e
    | none => draft.outcome.bind finish

end Draft

end SqlRender
