import ReceiverLoader.Grammar.Member
import ReceiverLoader.Grammar.Use

/-!
# Items

The items of a module. Those that declare a type or a trait, implement one, nest a module or bring
names into scope are kept; all others are only read. An item that is admitted only for the
sake of a later check has no normal form.
-/

namespace ReceiverLoader.Grammar

open Grammar.Parser
open Token (Position)

namespace Rules

/-- An item that says nothing to the search; none without a normal form. -/
def otherIf (isNormal : Bool) : Option Item := if isNormal then some .other else none

/-- Reads a function behind its visibility. -/
def functionItem (g : Rules) : Parser (Option Item) := do
  let _ ← g.signature false
  if ← mark? ";" then return none
  g.attributedBlock
  return some .other

/-- Reads the name of another crate behind its visibility. -/
def externCrate : Parser Item := do
  keyword "extern"
  keyword "crate"
  let _ ← wordIf (Ahead.keyword "self")
  if ← keyword? "as" then
    let _ ← wordIf (Ahead.keyword "_")
  mark ";"
  return .other

/-- Reads a foreign block, which has no visibility: the one before it, at `position`, is refused. -/
def foreignBlock (g : Rules) (isVisible : Bool) (position : Position) : Parser Item := do
  if isVisible then throw ⟨position, .wanted (.keyword "extern") false⟩
  let _ ← keyword? "unsafe"
  linkage
  g.members g.foreignMember
  return .other

/-- Reads a static variable behind its visibility. Without type or value it has no normal form. -/
def staticItem (g : Rules) : Parser (Option Item) := do
  keyword "static"
  let _ ← keyword? "mut"
  let _ ← identifier
  let typed ← ahead (Ahead.mark "=").not
  if typed then
    mark ":"
    let _ ← g.type true
  let valued ← ahead (Ahead.mark ";").not
  if !typed || valued then
    mark "="
    let _ ← g.expression true
  mark ";"
  return otherIf (typed && valued)

/-- Reads a module behind its visibility. -/
def moduleItem (g : Rules) : Parser Item := do
  let _ ← keyword? "unsafe"
  keyword "mod"
  let name ← wordIf (Ahead.keyword "try")
  if ← mark? ";" then return .other
  else if ← ahead (Ahead.group .brace) then
    let items ← group .brace do
      let _ ← g.innerAttributes
      manyToEnd g.item
    return .module name items
  else want .continuation

/-- Reads what follows the generic parameters of a trait. -/
def traitBody (g : Rules) : Parser Unit := do
  let stop := (Ahead.keyword "where").or (Ahead.group .brace)
  optionalBounds (separated "+" stop (g.bound false true))
  let _ ← g.whereClause
  g.members g.traitMember

/-- Reads a trait behind its visibility; one that `unsafe` or `auto` marks is no alias. -/
def traitItem (g : Rules) : Parser Item := do
  let isUnsafe ← keyword? "unsafe"
  let isAuto ← keyword? "auto"
  keyword "trait"
  let name ← identifier
  let _ ← g.generics
  if isUnsafe || isAuto then
    g.traitBody
    return .trait name
  else if ← ahead (Ahead.any [Ahead.group .brace, Ahead.mark ":", Ahead.keyword "where"]) then
    g.traitBody
    return .trait name
  else if ← mark? "=" then
    let _ ← separated "+" ((Ahead.keyword "where").or (Ahead.mark ";")) (g.bound false false)
    let _ ← g.whereClause
    mark ";"
    return .other
  else want .continuation

/-- The implementation of a trait that a header stands for. Without a normal form is one that is
visible or constant, and one of a trait that no plain path names. -/
def traitImplementation (isMarked isNegative : Bool) (trait self : TypeForm) : Option Item :=
  match trait with
  | .path t => if isMarked then none else some (.implementation (some ⟨isNegative, t.path⟩) self)
  | _ => none

/-- Reads what stands between the generic parameters of an implementation and its where clause. Only
that of a trait can be negative. -/
def implementationHeader (g : Rules) (isVisible : Bool) : Parser (Option Item) := do
  let isConstant ← ahead ((Ahead.keyword "const").or
    ((Ahead.mark "?").and (Ahead.second (Ahead.keyword "const"))))
  if isConstant then
    let _ ← mark? "?"
    keyword "const"
  let position ← here
  let isNegative ← ahead ((Ahead.mark "!").and (Ahead.second (Ahead.group .brace)).not)
  if isNegative then mark "!"
  let isMarked := isVisible || isConstant
  let first ← g.type true
  if ← keyword? "for" then return traitImplementation isMarked isNegative first (← g.type true)
  else if isNegative then forbid position .negativeImplementation
  else return if isMarked then none else some (.implementation none first)

/-- Reads an implementation behind its visibility. -/
def implementation (g : Rules) (isVisible : Bool) : Parser (Option Item) := do
  let _ ← keyword? "default"
  let _ ← keyword? "unsafe"
  keyword "impl"
  if ← ahead genericsAhead then
    let _ ← g.generics
  let item? ← g.implementationHeader isVisible
  let _ ← g.whereClause
  g.members g.implementationMember
  return item?

/-- Reads the definition of a macro behind its visibility. It has no normal form. -/
def macroDefinition : Parser (Option Item) := do
  keyword "macro"
  let _ ← identifier
  if ← ahead (Ahead.group .parenthesis) then
    let _ ← anyGroup
  group .brace skipRest
  return none

/-- Reads a macro call that is an item. -/
def macroItem : Parser Item := do
  let _ ← modulePath
  mark "!"
  if ← ahead (Ahead.identifier.or (Ahead.keyword "try")) then
    let _ ← word
  let (delimiter, _, _) ← anyGroup
  if delimiter != .brace then mark ";"
  return .other

/-- Reads an item that `extern` introduces, other than a function, behind its visibility. -/
def externItem (g : Rules) (isVisible : Bool) (position : Position) : Parser Item := do
  if ← ahead (Ahead.second (Ahead.keyword "crate")) then externCrate
  else if ← ahead (Ahead.second (Ahead.group .brace)) then g.foreignBlock isVisible position
  else
    let failure ← peek do
      keyword "extern"
      let _ ← textLiteral
      ahead (Ahead.group .brace)
    if failure == some true then g.foreignBlock isVisible position
    else
      keyword "extern"
      let _ ← textLiteral
      want .continuation

/-- Reads an item that `unsafe` introduces, other than a function, behind its visibility. -/
def unsafeItem (g : Rules) (isVisible : Bool) (position : Position) : Parser (Option Item) := do
  if ← ahead (Ahead.second (Ahead.keyword "trait")) then return some (← g.traitItem)
  else if ← ahead ((Ahead.second (Ahead.keyword "auto")).and
      (Ahead.third (Ahead.keyword "trait"))) then
    return some (← g.traitItem)
  else if ← ahead (Ahead.second (Ahead.keyword "impl")) then g.implementation isVisible
  else if ← ahead (Ahead.second (Ahead.keyword "extern")) then
    return some (← g.foreignBlock isVisible position)
  else if ← ahead (Ahead.second (Ahead.keyword "mod")) then return some (← g.moduleItem)
  else
    keyword "unsafe"
    want .item

/-- Reads an item behind its visibility, which stands at `position`. -/
def itemBody (g : Rules) (isVisible : Bool) (position : Position) : Parser (Option Item) := do
  if (← ahead (Ahead.keyword "fn")) || (← signatureAhead false) then g.functionItem
  else if ← ahead (Ahead.keyword "extern") then return some (← g.externItem isVisible position)
  else if ← ahead (Ahead.keyword "use") then g.useItem
  else if ← ahead (Ahead.keyword "static") then g.staticItem
  else if ← ahead (Ahead.keyword "const") then
    let form ← g.constant
    return otherIf (form.valued && !form.isGeneric)
  else if ← ahead (Ahead.keyword "unsafe") then g.unsafeItem isVisible position
  else if ← ahead (Ahead.keyword "mod") then return some (← g.moduleItem)
  else if ← ahead (Ahead.keyword "type") then
    let form ← g.typeAlias .beforeValue
    return otherIf (form.valued && !form.bounded)
  else if ← ahead (Ahead.keyword "struct") then
    return some (← g.declaration "struct" g.structBody)
  else if ← ahead (Ahead.keyword "enum") then return some (← g.declaration "enum" g.enumBody)
  else if ← ahead ((Ahead.keyword "union").and (Ahead.second Ahead.identifier)) then
    return some (← g.declaration "union" g.unionBody)
  else if ← ahead ((Ahead.keyword "trait").or
      ((Ahead.keyword "auto").and (Ahead.second (Ahead.keyword "trait")))) then
    return some (← g.traitItem)
  else if ← ahead ((Ahead.keyword "impl").or
      ((Ahead.keyword "default").and (Ahead.second (Ahead.mark "!")).not)) then
    g.implementation isVisible
  else if ← ahead (Ahead.keyword "macro") then macroDefinition
  else if !isVisible && (← ahead macroAhead) then return some (← macroItem)
  else want .item

/-- Reads an item behind its attributes. -/
def itemBehindRule (g : Rules) (attributes : List Attribute) : Parser (Option Item) := do
  let position ← here
  let isVisible ← visibility
  match ← g.itemBody isVisible position with
  | some (.type d) => return some (.type { d with attributes })
  | item? => return item?

/-- Reads an item. A declaration is kept with its normal form. -/
def itemRule (g : Rules) : Parser Item := do
  let before ← trees
  let (item?, normal) ← capture do g.itemBehind (← g.outerAttributes)
  match item? with
  | some item =>
    emit normal
    match item with
    | .type d => return .type { d with trees := normal }
    | _ => return item
  | none =>
    emit (← readSince before)
    return .other

end Rules

end ReceiverLoader.Grammar
