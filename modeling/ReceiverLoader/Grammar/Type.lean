import ReceiverLoader.Grammar.Generics

/-!
# Types and bounds

A type; and what a type parameter is bounded by: traits, lifetimes and, in some places, a list of
captured names.
-/

namespace ReceiverLoader.Grammar

open Grammar.Parser
open Token (Position Tree)

namespace Rules

/-- Reads the result type of a function, if it has one. -/
def resultType (g : Rules) (plus : Bool) : Parser Unit := do
  if ← mark? "->" then
    let _ ← g.type plus

/-- Reads the argument types of a bound in parentheses, and its result type. -/
def parenthesizedArguments (g : Rules) : Parser Unit := do
  let _ ← group .parenthesis (commaList (g.type true))
  g.resultType false

/-- The trees of a path without empty brackets at its end, and without a `::` in front of these. -/
def withoutEmptyBrackets (ts : List Tree) : List Tree :=
  match ts.reverse with
  | .leaf _ (.mark '>' _) :: .leaf _ (.mark '<' _) :: .leaf _ (.mark ':' _) ::
      .leaf _ (.mark ':' _) :: before => before.reverse
  | .leaf _ (.mark '>' _) :: .leaf _ (.mark '<' _) :: before => before.reverse
  | _ => ts

/-- Reads a path of a bound, with argument types in angle brackets or parentheses. In front of
parentheses the normal form has neither empty brackets nor a `::`. -/
def boundPath (g : Rules) : Parser Unit := do
  let (form, path) ← capture (g.path false)
  let parenthesized := (Ahead.group .parenthesis).or
    ((Ahead.mark "::").and (Ahead.third (Ahead.group .parenthesis)))
  if form.lastBare && (← ahead parenthesized) then
    emit (withoutEmptyBrackets path)
    let _ ← silently (mark? "::")
    g.parenthesizedArguments
  else emit path

/-- Reads the `const` of a bound, plain or in brackets, and says whether there is one. -/
def boundConstness (allowed : Bool) : Parser Bool := do
  let position ← here
  let bracketed ← ahead (Ahead.group .bracket)
  if bracketed then group .bracket (keyword "const")
  let found ← if bracketed then pure true else keyword? "const"
  if found && !allowed then forbid position .constantBound
  return found

/-- Reads a trait bound, and says whether it has a normal form. -/
def traitBound (g : Rules) (constant : Bool) : Parser Bool := do
  let bindsBefore ← g.binder
  let isConstant ← boundConstness constant
  let position ← here
  let relaxed ← mark? "?"
  let binds ← if relaxed && !bindsBefore then g.binder else pure bindsBefore
  g.boundPath
  if relaxed && binds then forbid position .relaxedBinder
  return !isConstant

/-- Reads a captured name, and says whether it is a lifetime. -/
def capturedName : Parser Bool := do
  if ← ahead Ahead.lifetime then
    lifetime
    return true
  else
    let _ ← wordIf (Ahead.keyword "Self")
    return false

/-- Reads a list of captured names behind `use`. -/
def capturedNames : Parser Unit := do
  keyword "use"
  let _ ← lifetimesFirst capturedName

/-- Reads a bound, and says whether it names a trait. -/
def boundRule (g : Rules) (capture constant : Bool) : Parser Bool := do
  if ← ahead Ahead.lifetime then
    lifetime
    return false
  else if ← ahead (Ahead.keyword "use") then
    let position ← here
    capturedNames
    if !capture then forbid position .capturedNames
    return false
  else
    if ← ahead (Ahead.group .parenthesis) then
      normalized (group .parenthesis (g.traitBound constant))
    else normalized (g.traitBound constant)
    return true

/-- Whether a bound can begin behind `+`. -/
def boundAhead (constant : Bool) : Ahead :=
  let always := [Ahead.word, Ahead.mark "::", Ahead.mark "?", Ahead.lifetime,
    Ahead.group .parenthesis]
  Ahead.any (if constant then always ++ [Ahead.group .bracket] else always)

/-- Reads a sum of bounds, and says whether one of them names a trait. A `+` at the end is admitted;
without `plus` there is one bound. -/
def boundSum (g : Rules) (plus capture constant : Bool) : Parser Bool :=
  loop (fun found => do
    let found := (← g.bound capture constant) || found
    if ← markIf? plus "+" then
      if ← ahead (boundAhead constant) then return .again found else return .done found
    else return .done found)
    id false

/-- Reads the bounds of a trait object type, one of which has to name a trait. -/
def objectBounds (g : Rules) (plus : Bool) (position : Position) : Parser Unit := do
  if !(← g.boundSum plus false false) then forbid position .boundsWithoutTrait

/-- Reads the bounds that follow the first of a sum, each with a `+` in front, and says whether
there are any. -/
def furtherBounds (g : Rules) : Parser Bool :=
  loop (fun found => do
    if ← mark? "+" then
      let _ ← g.bound false false
      return .again true
    else return .done found)
    id false

/-- Reads the argument type of a function type, with its optional name. The first may be a
receiver, which has no normal form if it is mutable. -/
def functionTypeArgument (g : Rules) (first : Bool) : Parser Unit := normalized do
  let mutableReceiver := (Ahead.keyword "mut").and (Ahead.second (Ahead.keyword "self"))
  let isMutable := first && (← ahead mutableReceiver)
  if isMutable then keyword "mut"
  let receives := first && (← ahead (Ahead.keyword "self"))
  let nameAhead := Ahead.any [Ahead.identifier, Ahead.keyword "_",
    fun ts => first && Ahead.keyword "self" ts]
  let named ← ahead (nameAhead.and (Ahead.second (Ahead.markBut ":" ["::"])))
  if named then
    let _ ← word
    mark ":"
  if first && !(named && receives) && (← ahead mutableReceiver) then
    keyword "mut"
    keyword "self"
  else if isMutable && !named then keyword "self"
  else
    let _ ← g.type true
  return !isMutable

/-- Whether the dots of a variadic function type come next, with or without a name. -/
def variadicAhead : Ahead :=
  let name := Ahead.identifier.or (Ahead.keyword "_")
  let dots := (Ahead.second (Ahead.mark ":")).and (Ahead.third (Ahead.mark "..."))
  (Ahead.mark "...").or (name.and dots)

/-- Reads the argument types of a function type. -/
def functionTypeArguments (g : Rules) : Parser Unit :=
  loop (fun first => do
    if ← ahead Ahead.nothing then return .done ()
    let _ ← g.outerAttributes
    if ← ahead variadicAhead then
      if ← ahead (Ahead.mark "...").not then
        let _ ← word
        mark ":"
      mark "..."
      let _ ← mark? ","
      return .done ()
    g.functionTypeArgument first
    if ← ahead Ahead.nothing then return .done ()
    mark ","
    return .again false)
    (fun _ => ()) true

/-- Reads the linkage of a function. -/
def linkage : Parser Unit := do
  keyword "extern"
  if ← ahead Ahead.textLiteral then
    let _ ← textLiteral

/-- Reads the linkage of a function, if it has one. -/
def optionalLinkage : Parser Unit := do
  let _ ← when (Ahead.keyword "extern") linkage

/-- Reads a function type behind its binder. -/
def functionType (g : Rules) : Parser TypeForm := do
  let _ ← keyword? "unsafe"
  optionalLinkage
  keyword "fn"
  let (_, stray) ← openGroup .parenthesis g.functionTypeArguments
  g.resultType false
  record stray
  return .other

/-- What stands between the parentheses of a type. -/
inductive Enclosed
  /-- A type of its own: none, a tuple or a bound. -/
  | whole
  /-- A relaxed bound, behind which more may follow. -/
  | relaxedBound
  /-- One type, behind which it may turn out to be a bound. -/
  | single (form : TypeForm)

/-- Reads the inside of the parentheses of a type. -/
def enclosed (g : Rules) : Parser Enclosed := do
  if ← ahead Ahead.nothing then return .whole
  else if ← ahead Ahead.lifetime then
    g.objectBounds true (← here)
    return .whole
  else if ← ahead (Ahead.mark "?") then
    let _ ← g.traitBound false
    return .relaxedBound
  else
    let form ← g.type true
    if ← mark? "," then
      let _ ← commaList (g.type true)
      return .whole
    else return .single form

/-- A group in parentheses that holds one group, without the outer parentheses. -/
def withoutOuterParentheses : List Tree → List Tree
  | [.group _ _ _ [.group opens closes d body]] => [.group opens closes d body]
  | ts => ts

/-- Reads a type in parentheses, a tuple type, or a sum of bounds that begins with parentheses. What
the parentheses hold too much is recorded behind the sum. -/
def parenthesizedType (g : Rules) (plus : Bool) : Parser TypeForm := do
  let ((inside, stray), trees) ← capture (openGroup .parenthesis g.enclosed)
  let summed ← ahead (Ahead.mark "+")
  let form ← match inside with
    | .whole =>
      emit trees
      pure .other
    | .relaxedBound =>
      emit trees
      pure (if ← g.furtherBounds then .other else .soleBound)
    | .single form =>
      if plus && summed && form != .other then
        emit (if form == .soleBound then withoutOuterParentheses trees else trees)
        let _ ← g.furtherBounds
      else emit trees
      pure TypeForm.other
  record stray
  return form

/-- Reads the bounds that may follow the first path of a type. `bound` says that a binder stands in
front of it. -/
def behindPath (g : Rules) (plus bound : Bool) (form : PathForm) : Parser TypeForm := do
  if bound || plus && (← ahead (Ahead.mark "+")) then
    let more ← loop (fun found => do
      if ← markIf? plus "+" then
        if ← ahead (boundAhead false) then
          let _ ← g.bound false false
          return .again true
        else return .done true
      else return .done found)
      id false
    return if more then .other else .soleBound
  else return .path form

/-- Reads a type that begins with a path. The normal form of a macro call leaves out the binder,
whose trees are `binder`. -/
def pathType (g : Rules) (plus bound : Bool) (binder : List Tree) : Parser TypeForm := do
  let (form?, path) ← capture (g.anyPath false)
  match form? with
  | none =>
    emit path
    return .other
  | some form =>
    if form.bare && (← ahead (Ahead.markBut "!" ["!="])) then
      emit path
      mark "!"
      let _ ← anyGroup
      return .other
    else
      emit (binder ++ path)
      g.behindPath plus bound form

/-- Whether an operation of the compiler's own comes next. -/
def builtinAhead : Ahead := (Ahead.keyword "builtin").and (Ahead.second (Ahead.mark "#"))

/-- Reads an operation of the compiler's own. -/
def builtinOperation : Parser Unit := do
  let _ ← word
  mark "#"
  let _ ← identifier
  group .parenthesis skipRest

/-- Whether a type can follow a binder. -/
def boundTypeAhead : Ahead :=
  Ahead.any [Ahead.identifier, Ahead.anyKeyword ["fn", "unsafe", "extern"], Ahead.pathKeyword]

/-- Reads a slice or an array type. -/
def bracketedType (g : Rules) : Parser TypeForm := do
  group .bracket do
    let _ ← g.type true
    if ← mark? ";" then
      let _ ← g.expression true
  return .other

/-- Reads a trait object type. One with a `*` has no normal form. -/
def objectType (g : Rules) (plus : Bool) : Parser TypeForm := do
  let position ← here
  normalized do
    keyword "dyn"
    let isPointer ← mark? "*"
    g.objectBounds plus position
    return !isPointer
  return .other

/-- Reads a type. -/
def typeRule (g : Rules) (plus : Bool) : Parser TypeForm := do
  let (bound, binder) ← capture g.binder
  if bound && !(← ahead boundTypeAhead) then want .type
  if ← ahead (Ahead.group .parenthesis) then g.parenthesizedType plus
  else if ← ahead (Ahead.anyKeyword ["fn", "unsafe", "extern"]) then
    emit binder
    g.functionType
  else if ← ahead builtinAhead then
    emit binder
    builtinOperation
    return .other
  else if ← ahead (Ahead.any [Ahead.identifier, Ahead.pathKeyword, Ahead.mark "::",
      Ahead.mark "<"]) then
    g.pathType plus bound binder
  else if ← ahead (Ahead.keyword "dyn") then g.objectType plus
  else if ← ahead (Ahead.group .bracket) then g.bracketedType
  else if ← mark? "*" then
    if ← ahead (Ahead.anyKeyword ["const", "mut"]) then
      let _ ← word
    else want .continuation
    let _ ← g.type false
    return .other
  else if ← mark? "&" then
    let _ ← lifetime?
    let _ ← keyword? "mut"
    let _ ← g.type false
    return .other
  else if ← ahead (Ahead.mark "!") then
    mark "!"
    return .other
  else if ← ahead (Ahead.keyword "impl") then
    let position ← here
    keyword "impl"
    if !(← g.boundSum plus true true) then forbid position .boundsWithoutTrait
    return .other
  else if ← keyword? "_" then return .other
  else if ← ahead Ahead.lifetime then
    g.objectBounds true (← here)
    return .other
  else want .type

end Rules

end ReceiverLoader.Grammar
