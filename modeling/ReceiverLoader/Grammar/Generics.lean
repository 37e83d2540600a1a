import ReceiverLoader.Grammar.Path

/-!
# Generic parameters and where clauses

The parameters of a declaration and the conditions on them. Their normal form has the lifetimes
first, no colon without bounds behind it, no angle brackets without parameters and no where clause
without predicates.
-/

namespace ReceiverLoader.Grammar

open Grammar.Parser

namespace Rules

/-- Reads the bounds behind a lifetime's colon. -/
def lifetimeBounds (stop : Ahead) : Parser (List Unit) := joined "+" stop lifetime

/-- Reads what may be empty; the normal form leaves it out if `isEmpty` holds of it. -/
def unlessEmpty {α : Type} (isEmpty : α → Bool) (p : Parser α) : Parser Unit := do
  let (a, trees) ← capture p
  if !isEmpty a then emit trees

/-- Reads a colon and the bounds behind it, if it comes next. -/
def optionalBounds {α : Type} (bounds : Parser (List α)) : Parser Unit := do
  if ← ahead (Ahead.mark ":") then
    unlessEmpty List.isEmpty do
      mark ":"
      bounds

/-- Reads a lifetime parameter behind its attributes. -/
def lifetimeParameter : Parser Unit := do
  lifetime
  optionalBounds (lifetimeBounds (Ahead.any [Ahead.nothing, Ahead.mark ",", Ahead.mark ">"]))

/-- Reads a type parameter behind its attributes. -/
def typeParameter (g : Rules) : Parser Unit := do
  let _ ← identifier
  let stop := Ahead.any [Ahead.nothing, Ahead.mark ",", Ahead.mark ">", Ahead.mark "="]
  optionalBounds (joined "+" stop (g.bound false true))
  if ← mark? "=" then
    let _ ← g.type true

/-- Reads a constant parameter behind its attributes. -/
def constantParameter (g : Rules) : Parser Unit := do
  keyword "const"
  let _ ← identifier
  mark ":"
  let _ ← g.type true
  if ← mark? "=" then g.constantArgument

/-- Reads a generic parameter, and says whether it is a lifetime; a type's name may be `_` only if
`placeholder`. -/
def genericParameter (g : Rules) (placeholder : Bool) : Parser Bool := do
  let _ ← g.outerAttributes
  if ← ahead Ahead.lifetime then
    lifetimeParameter
    return true
  else if ← ahead Ahead.identifier then
    g.typeParameter
    return false
  else if ← ahead (Ahead.keyword "const") then
    g.constantParameter
    return false
  else if placeholder && (← ahead (Ahead.keyword "_")) then
    let _ ← word
    return false
  else want .continuation

/-- Reads the generic parameters of a declaration, and says whether there are brackets for them. -/
def generics (g : Rules) : Parser Bool := do
  if ← ahead (Ahead.mark "<") then
    unlessEmpty (· == 0) (lifetimesFirst (g.genericParameter true))
    return true
  else return false

/-- Whether angle brackets that come next hold generic parameters, and do not begin a path. -/
def genericsAhead : Ahead :=
  (Ahead.mark "<").and <| Ahead.any
    [Ahead.second (Ahead.mark ">"),
     Ahead.second (Ahead.mark "#"),
     (Ahead.second (Ahead.lifetime.or Ahead.identifier)).and <| Ahead.third <| Ahead.any
       [Ahead.mark ">", Ahead.mark ",", Ahead.markBut ":" ["::"], Ahead.mark "="],
     Ahead.second (Ahead.keyword "const")]

/-- Reads the binder of lifetimes `for<…>`, if it comes next. -/
def binder (g : Rules) : Parser Bool := do
  if ← keyword? "for" then
    mark "<"
    let _ ← separated "," (Ahead.mark ">") (g.genericParameter false)
    mark ">"
    return true
  else return false

/-- Whether a list of predicates or of their bounds ends. -/
def predicateEnd : Ahead :=
  Ahead.any [Ahead.nothing, Ahead.group .brace, Ahead.mark ",", Ahead.mark ";",
    Ahead.markBut ":" ["::"], Ahead.mark "="]

/-- Reads a predicate of a where clause. -/
def wherePredicate (g : Rules) : Parser Unit := do
  if ← ahead (Ahead.lifetime.and (Ahead.second (Ahead.mark ":"))) then
    lifetime
    mark ":"
    let _ ← lifetimeBounds (predicateEnd.or (Ahead.mark ":"))
  else
    let _ ← g.binder
    let _ ← g.type true
    mark ":"
    let _ ← joined "+" predicateEnd (g.bound false true)

/-- Reads a where clause, and says whether one comes next. -/
def whereClause (g : Rules) : Parser Bool := do
  if ← ahead (Ahead.keyword "where") then
    unlessEmpty List.isEmpty do
      keyword "where"
      if ← ahead genericsAhead then forbid (← here) .genericWhereClause
      joined "," predicateEnd g.wherePredicate
    return true
  else return false

end Rules

end ReceiverLoader.Grammar
