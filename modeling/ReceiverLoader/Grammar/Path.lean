import ReceiverLoader.Grammar.Attribute

/-!
# Paths

The paths of types and expressions. Their segments may have generic arguments; in expressions these
stand behind `::`. A path may begin with a type in angle brackets that qualifies it.
-/

namespace ReceiverLoader.Grammar

open Grammar.Parser

namespace Rules

/-- Reads the value of a generic argument that is no type: a literal, a name or a block. -/
def constantArgument (g : Rules) : Parser Unit := do
  if ← ahead Ahead.literal then
    let _ ← literal
  else if ← ahead Ahead.identifier then
    let _ ← identifier
  else if ← ahead (Ahead.group .brace) then g.attributedBlock
  else want .continuation

/-- Reads what is bound to an associated type or constant behind `=`. -/
def associatedValue (g : Rules) : Parser Unit := do
  if ← ahead (Ahead.literal.or (Ahead.group .brace)) then g.constantArgument
  else
    let _ ← g.type true

/-- Reads the bounds of an associated type inside angle brackets. -/
def associatedBounds (g : Rules) : Parser Unit := do
  let _ ← joined "+" ((Ahead.mark ",").or (Ahead.mark ">")) (g.bound false true)

/-- Reads a generic argument, and says whether it is a lifetime. -/
def genericArgument (g : Rules) : Parser Bool := do
  if ← ahead (Ahead.lifetime.and (Ahead.second (Ahead.mark "+")).not) then
    lifetime
    return true
  else if ← ahead (Ahead.literal.or (Ahead.group .brace)) then
    g.constantArgument
    return false
  else
    match ← g.type true with
    | .path form =>
      if !form.path.leadingColon && form.path.segments.length == 1 then
        if ← mark? "=" then g.associatedValue
        else if ← mark? ":" then g.associatedBounds
      return false
    | _ => return false

/-- Reads generic arguments in angle brackets, and gives their number. -/
def genericArguments (g : Rules) : Parser Nat := lifetimesFirst g.genericArgument

/-- Reads generic arguments behind `::`, and gives their number. -/
def turbofish (g : Rules) : Parser Nat := do
  mark "::"
  g.genericArguments

/-- A segment of a path. -/
structure Segment where
  name : String
  /-- The number of arguments, if it has brackets for them. -/
  arguments : Option Nat

/-- Whether the angle bracket of generic arguments comes next. -/
def argumentsAhead : Ahead := Ahead.markBut "<" ["<=", "<<="]

/-- Reads a segment of a path. -/
def segment (g : Rules) (inExpression : Bool) : Parser Segment := do
  if ← ahead (Ahead.anyKeyword ["super", "self", "crate", "try"]) then return ⟨← word, none⟩
  let name ← wordIf (Ahead.keyword "Self")
  if !inExpression && (← ahead argumentsAhead) then return ⟨name, some (← g.genericArguments)⟩
  else if ← ahead ((Ahead.mark "::").and (Ahead.third (Ahead.mark "<"))) then
    return ⟨name, some (← g.turbofish)⟩
  else return ⟨name, none⟩

/-- The path of segments that are given last first, with the places of their arguments. -/
def pathForm (leadingColon : Bool) (segments : List Segment) : PathForm :=
  { path := ⟨leadingColon, segments.reverse.map (·.name)⟩
    bare := segments.all fun s => s.arguments.isNone
    lastBare := segments.head?.all fun s => s.arguments.all (· == 0) }

/-- Reads a path. -/
def path (g : Rules) (inExpression : Bool) : Parser PathForm := do
  let leadingColon ← mark? "::"
  let first ← g.segment inExpression
  let segments ← loop (fun done => do
    if ← ahead ((Ahead.mark "::").and (Ahead.third (Ahead.group .parenthesis)).not) then
      mark "::"
      return .again ((← g.segment inExpression) :: done)
    else return .done done)
    id [first]
  return pathForm leadingColon segments

/-- Reads the part of a path in angle brackets, and the segments behind it. -/
def qualifiedPath (g : Rules) (inExpression : Bool) : Parser Unit := do
  mark "<"
  let _ ← g.type true
  if ← keyword? "as" then
    let _ ← g.path false
  mark ">"
  mark "::"
  let _ ← g.segment inExpression
  loop (fun _ => do
    if ← mark? "::" then
      let _ ← g.segment inExpression
      return .again ()
    else return .done ())
    id ()

/-- Reads a path that a type may qualify; `none` if one does. -/
def anyPath (g : Rules) (inExpression : Bool) : Parser (Option PathForm) := do
  if ← ahead (Ahead.mark "<") then
    g.qualifiedPath inExpression
    return none
  else return some (← g.path inExpression)

end Rules

end ReceiverLoader.Grammar
