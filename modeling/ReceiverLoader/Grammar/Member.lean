import ReceiverLoader.Grammar.Declaration

/-!
# Members of traits, implementations and foreign blocks

The functions, constants, types and macro calls inside the braces of an item. They declare nothing
on the level of modules. A member that is admitted only for the sake of a later check has no normal
form.
-/

namespace ReceiverLoader.Grammar

open Grammar.Parser

namespace Rules

/-- Where a type alias may have its where clause. -/
inductive ClausePlace
  | beforeValue
  | behindValue
  | either
deriving DecidableEq

/-- Which parts of a type alias are there. -/
structure AliasForm where
  bounded : Bool
  valued : Bool

/-- Reads a type alias behind its visibility. -/
def typeAlias (g : Rules) (place : ClausePlace) : Parser AliasForm := do
  keyword "type"
  let _ ← identifier
  let _ ← g.generics
  let bounded ← ahead (Ahead.mark ":")
  optionalBounds <|
    joined "+" (Ahead.any [Ahead.keyword "where", Ahead.mark "=", Ahead.mark ";"])
      (g.bound false true)
  let constrained ← if place = .behindValue then pure false else g.whereClause
  let valued ← mark? "="
  if valued then
    let _ ← g.type true
  if place = .behindValue || place = .either && !constrained then
    let _ ← g.whereClause
  mark ";"
  return { bounded, valued }

/-- Which parts of a constant are there. -/
structure ConstantForm where
  valued : Bool
  /-- It has generic parameters or a where clause, be they empty. -/
  isGeneric : Bool

/-- Reads a constant behind its visibility. -/
def constant (g : Rules) : Parser ConstantForm := do
  keyword "const"
  let _ ← wordIf (Ahead.keyword "_")
  let parametric ← g.generics
  mark ":"
  let _ ← g.type true
  let valued ← mark? "="
  if valued then
    let _ ← g.expression true
  let constrained ← g.whereClause
  mark ";"
  return { valued, isGeneric := parametric || constrained }

/-- Whether a macro call may come next. -/
def macroAhead : Ahead := Ahead.any [Ahead.identifier, Ahead.moduleKeyword, Ahead.mark "::"]

/-- Reads a macro call. Without braces it needs a semicolon. -/
def macroCall : Parser Unit := do
  let _ ← modulePath
  mark "!"
  let (delimiter, _, _) ← anyGroup
  if delimiter != .brace then mark ";"

/-- Whether the word behind the `const` of a trait's member says that a function comes next. -/
def constantFunctionAhead : Ahead :=
  Ahead.second (Ahead.anyKeyword ["async", "unsafe", "extern", "fn"])

/-- Reads a member of a trait, and says whether it has a normal form. -/
def traitMember (g : Rules) : Parser Bool := do
  let _ ← g.outerAttributes
  let isVisible ← visibility
  let isDefault ← keyword? "default"
  let isPlain := !isVisible && !isDefault
  let constantName := Ahead.second (Ahead.identifier.or (Ahead.keyword "_"))
  let const := Ahead.keyword "const"
  if (← ahead (Ahead.keyword "fn")) || (← signatureAhead false) ||
      (← ahead (const.and constantFunctionAhead)) then
    let _ ← g.signature false
    if ← ahead (Ahead.group .brace) then g.attributedBlock else mark ";"
    return isPlain
  else if ← ahead const then
    if ← ahead constantName then return isPlain && !(← g.constant).isGeneric
    else
      keyword "const"
      want .continuation
  else if ← ahead (Ahead.keyword "type") then
    let _ ← g.typeAlias .behindValue
    return isPlain
  else if isPlain && (← ahead macroAhead) then
    macroCall
    return true
  else want .item

/-- Reads a member of an implementation, and says whether it has a normal form. -/
def implementationMember (g : Rules) : Parser Bool := do
  let _ ← g.outerAttributes
  let isVisible ← visibility
  let isDefault ←
    if ← ahead (Ahead.second (Ahead.mark "!")) then pure false else keyword? "default"
  if (← ahead (Ahead.keyword "fn")) || (← signatureAhead false) then
    let _ ← g.signature false
    if ← mark? ";" then return false
    g.attributedBlock
    return true
  else if ← ahead (Ahead.keyword "const") then
    let form ← g.constant
    return form.valued && !form.isGeneric
  else if ← ahead (Ahead.keyword "type") then
    let form ← g.typeAlias .behindValue
    return form.valued && !form.bounded
  else if !isVisible && !isDefault && (← ahead macroAhead) then
    macroCall
    return true
  else want .item

/-- Reads a static variable of a foreign block behind its visibility, and says whether it has a
normal form. -/
def foreignStatic (g : Rules) : Parser Bool := do
  let isMarked ← ahead (Ahead.keyword "static").not
  if isMarked then
    let _ ← word
  keyword "static"
  let _ ← keyword? "mut"
  let _ ← identifier
  mark ":"
  let _ ← g.type true
  let valued ← mark? "="
  if valued then
    let _ ← g.expression true
  mark ";"
  return !isMarked && !valued

/-- Reads a function of a foreign block behind its visibility, and says whether it has a normal
form. -/
def foreignFunction (g : Rules) : Parser Bool := do
  let isSafe ← g.signature true
  if ← ahead (Ahead.group .brace) then
    g.attributedBlock
    return false
  else
    mark ";"
    return !isSafe

/-- Reads a member of a foreign block, and says whether it has a normal form. -/
def foreignMember (g : Rules) : Parser Bool := do
  let _ ← g.outerAttributes
  let isVisible ← visibility
  let isStatic := (Ahead.keyword "static").or
    ((Ahead.anyKeyword ["unsafe", "safe"]).and (Ahead.second (Ahead.keyword "static")))
  if (← ahead (Ahead.keyword "fn")) || (← signatureAhead true) then g.foreignFunction
  else if ← ahead isStatic then g.foreignStatic
  else if ← ahead (Ahead.keyword "type") then
    let form ← g.typeAlias .either
    return !form.valued && !form.bounded
  else if !isVisible && (← ahead macroAhead) then
    macroCall
    return true
  else want .item

/-- Reads the members of an item in braces. -/
def members (g : Rules) (member : Parser Bool) : Parser Unit :=
  group .brace do
    let _ ← g.innerAttributes
    let _ ← manyToEnd (normalized member)

end Rules

end ReceiverLoader.Grammar
