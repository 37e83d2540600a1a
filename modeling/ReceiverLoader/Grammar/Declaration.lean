import ReceiverLoader.Grammar.Function

/-!
# Declarations of types

Structs, enums and unions. The visibility of a variant, which means nothing, is left out of the
normal form.
-/

namespace ReceiverLoader.Grammar

open Grammar.Parser

namespace Rules

/-- Reads a visibility, and says whether there is one. Parentheses behind `pub` belong to it only if
they restrict it. -/
def visibility : Parser Bool := do
  if ← keyword? "pub" then
    match ← trees with
    | .group _ _ .parenthesis body :: _ =>
      if Ahead.anyKeyword ["crate", "self", "super"] body && body.length == 1 then
        let _ ← anyGroup
      else if Ahead.keyword "in" body then
        group .parenthesis do
          keyword "in"
          let _ ← modulePath
    | _ => pure ()
    return true
  else return false

/-- Whether a type that is written out in place comes next. -/
def typeInPlaceAhead : Ahead :=
  (Ahead.keyword "struct").or ((Ahead.keyword "union").and (Ahead.second (Ahead.group .brace)))

/-- Reads a type that is written out in place. It has no normal form. -/
def typeInPlace (g : Rules) : Parser Unit := asSpelled do
  let _ ← word
  g.namedFields

/-- Reads a field with a name. The name `_` admits a type written out in place. -/
def namedField (g : Rules) : Parser Unit := do
  let _ ← g.outerAttributes
  let _ ← visibility
  let placeholder ← ahead (Ahead.keyword "_")
  let _ ← wordIf (Ahead.keyword "_")
  mark ":"
  if placeholder && (← ahead typeInPlaceAhead) then g.typeInPlace
  else
    let _ ← g.type true

/-- Reads fields in braces. -/
def namedFieldsRule (g : Rules) : Parser Unit := do
  let _ ← group .brace (commaList g.namedField)

/-- Reads a field without a name. -/
def plainField (g : Rules) : Parser Unit := do
  let _ ← g.outerAttributes
  let _ ← visibility
  let _ ← g.type true

/-- Reads fields in parentheses. -/
def plainFields (g : Rules) : Parser Unit := do
  let _ ← group .parenthesis (commaList g.plainField)

/-- Reads what follows the generic parameters of a struct. -/
def structBody (g : Rules) : Parser Unit := do
  let constrained ← g.whereClause
  if !constrained && (← ahead (Ahead.group .parenthesis)) then
    g.plainFields
    let _ ← g.whereClause
    mark ";"
  else if ← ahead (Ahead.group .brace) then g.namedFields
  else if ← ahead (Ahead.mark ";") then mark ";"
  else want .continuation

/-- Reads a variant of an enum. -/
def variant (g : Rules) : Parser Unit := do
  let _ ← g.outerAttributes
  let _ ← silently visibility
  let _ ← identifier
  if ← ahead (Ahead.group .brace) then g.namedFields
  else if ← ahead (Ahead.group .parenthesis) then g.plainFields
  if ← mark? "=" then
    let _ ← g.expression true

/-- Reads what follows the generic parameters of an enum. -/
def enumBody (g : Rules) : Parser Unit := do
  let _ ← g.whereClause
  let _ ← group .brace (commaList g.variant)

/-- Reads what follows the generic parameters of a union. -/
def unionBody (g : Rules) : Parser Unit := do
  let _ ← g.whereClause
  g.namedFields

/-- Reads a declaration that the word `text` introduces, behind its visibility. Its attributes and
its normal form are added where the whole item has been read. -/
def declaration (g : Rules) (text : String) (body : Parser Unit) : Parser Item := do
  keyword text
  let position ← here
  let name ← identifier
  let _ ← g.generics
  body
  return .type { attributes := [], name, position, trees := [] }

end Rules

end ReceiverLoader.Grammar
