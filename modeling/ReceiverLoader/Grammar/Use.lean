import ReceiverLoader.Grammar.Rules

/-!
# Use items

The trees of names that `use` items bring into scope. Inside the outermost braces a path may begin
with `::`; such a tree can be read, but it has no normal form and brings nothing into scope.
-/

namespace ReceiverLoader.Grammar

open Grammar.Parser

namespace Rules

/-- Reads the new name behind `as`. -/
def useAlias : Parser String := do
  if ← ahead (Ahead.identifier.or (Ahead.keyword "_")) then word else want .identifier

/-- Reads the trees of a group. -/
def useGroup (g : Rules) (root : Bool) : Parser (List (Option UseTree)) :=
  commaList do
    let rooted ← if root then mark? "::" else pure false
    let tree ← g.useTree (root && !rooted)
    return if rooted then none else tree

/-- The members of a list, if all are there. -/
def allOf {α : Type} : List (Option α) → Option (List α)
  | [] => some []
  | none :: _ => none
  | some a :: rest => (allOf rest).map (a :: ·)

/-- Reads the tree of a `use` item. -/
def useTreeRule (g : Rules) (root : Bool) : Parser (Option UseTree) := do
  if ← ahead (Ahead.identifier.or (Ahead.anyKeyword ["self", "super", "crate", "try"])) then
    let name ← word
    if ← mark? "::" then return (← g.useTree false).map (.path name)
    else if ← keyword? "as" then return some (.rename name (← useAlias))
    else return some (.name name)
  else if ← mark? "*" then return some .glob
  else if ← ahead (Ahead.group .brace) then
    return (allOf (← group .brace (g.useGroup root))).map .group
  else want .continuation

/-- Reads a `use` item behind its visibility. -/
def useItem (g : Rules) : Parser (Option Item) := do
  keyword "use"
  let leadingColon ← mark? "::"
  let tree? ← g.useTree (!leadingColon)
  mark ";"
  return tree?.map (.use leadingColon)

end Rules

end ReceiverLoader.Grammar
