import SqlRender.Dialect

/-!
# Paging

A window of rows skips some rows and takes at most some others. Each engine has a grammar of
its own for it, and some can only say "take the rest" by a number that no result reaches.
-/

namespace SqlRender

/-- The text of a window: words after `SELECT`, if any, and words at the end of the statement. -/
structure Paging where
  top : Option String := none
  suffix : String := ""
deriving DecidableEq

/-- More rows than any result has. -/
def Paging.unlimited : Nat := UInt64.size - 1

/-- The text of a window after `offset` rows of at most `limit` rows, in a statement that is
ordered or not. -/
def Dialect.paging (d : Dialect) (offset limit : Option Nat) (ordered : Bool) :
    Except Error Paging :=
  match d.profile.paging with
  | .offsetFetch =>
    match offset, limit with
    | none, none => .ok {}
    | _, _ =>
      if ordered then
        let skip := " OFFSET " ++ toString (offset.getD 0) ++ " ROWS"
        match limit with
        | some n => .ok { suffix := skip ++ " FETCH NEXT " ++ toString n ++ " ROWS ONLY" }
        | none => .ok { suffix := skip }
      else
        match offset, limit with
        | none, some n => .ok { top := some ("TOP (" ++ toString n ++ ")") }
        | _, _ => .error (.unsupportedFeature d.engine .unorderedOffset)
  | .limitComma =>
    .ok { suffix :=
      match offset, limit with
      | some m, some n => " LIMIT " ++ toString m ++ "," ++ toString n
      | none, some n => " LIMIT " ++ toString n
      | some m, none => " LIMIT " ++ toString m ++ "," ++ toString Paging.unlimited
      | none, none => "" }
  | .offsetLimit =>
    let skip := match offset with
      | some m => " OFFSET " ++ toString m
      | none => ""
    let take := match limit with
      | some n => " LIMIT " ++ toString n
      | none => ""
    .ok { suffix := skip ++ take }
  | .limitOffset =>
    .ok { suffix :=
      match offset, limit with
      | some m, some n => " LIMIT " ++ toString n ++ " OFFSET " ++ toString m
      | none, some n => " LIMIT " ++ toString n
      | some m, none => " LIMIT -1 OFFSET " ++ toString m
      | none, none => "" }

end SqlRender
