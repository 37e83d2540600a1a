import ReceiverLoader.Grammar.Rules

/-!
# Attributes

An attribute is a path with nothing, arguments between delimiters or a value. An outer attribute
belongs to what follows it, an inner one to what encloses it.
-/

namespace ReceiverLoader.Grammar

open Grammar.Parser

/-- Reads a path of words without arguments. -/
def modulePath : Parser Path := do
  let leadingColon ← mark? "::"
  let segments ← loop (fun done => do
    if ← ahead (Ahead.identifier.or Ahead.pathKeyword) then
      let segment ← word
      if ← mark? "::" then return .again (segment :: done)
      else return .done (segment :: done).reverse
    else if done.isEmpty then want .identifier
    else want .pathSegment)
    List.reverse []
  return ⟨leadingColon, segments⟩

namespace Rules

/-- Reads the value of an attribute: one literal or another expression. -/
def attributeValue (g : Rules) : Parser Unit := do
  if (← peek (do let _ ← literal; ahead Ahead.nothing)) == some true then
    let _ ← literal
  else if ← ahead ((Ahead.mark "#").and (Ahead.second (Ahead.group .bracket))) then
    forbid (← here) .attributeInAttribute
  else
    let _ ← g.expression true

/-- Reads the inside of an attribute's brackets. -/
def attributeInside (g : Rules) : Parser Attribute := do
  let path ←
    if ← ahead (Ahead.keyword "unsafe") then pure ⟨false, [← word]⟩ else modulePath
  if ← ahead Ahead.anyGroup then
    let (_, closes, body) ← anyGroup
    return ⟨path, .arguments closes body⟩
  else if ← ahead (Ahead.markBut "=" ["==", "=>"]) then
    let equals ← here
    mark "="
    g.attributeValue
    return ⟨path, .value equals⟩
  else return ⟨path, .nothing⟩

/-- Reads an outer attribute. -/
def outerAttribute (g : Rules) : Parser Attribute := do
  mark "#"
  group .bracket g.attributeInside

/-- Reads the outer attributes that come next. -/
def outerAttributes (g : Rules) : Parser (List Attribute) :=
  manyWhile (Ahead.mark "#") g.outerAttribute

/-- Reads an inner attribute. -/
def innerAttribute (g : Rules) : Parser Attribute := do
  mark "#"
  mark "!"
  group .bracket g.attributeInside

/-- Reads the inner attributes that come next. -/
def innerAttributes (g : Rules) : Parser (List Attribute) :=
  manyWhile ((Ahead.mark "#").and (Ahead.second (Ahead.mark "!"))) g.innerAttribute

/-- Reads a block that may begin with inner attributes. -/
def attributedBlock (g : Rules) : Parser Unit :=
  group .brace do
    let _ ← g.innerAttributes
    g.statements

end Rules

end ReceiverLoader.Grammar
