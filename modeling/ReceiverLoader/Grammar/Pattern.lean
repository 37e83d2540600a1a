import ReceiverLoader.Grammar.Type

/-!
# Patterns

Patterns of `let`, of selections and of arguments. Alternatives are admitted only inside other
patterns and where an arm begins.
-/

namespace ReceiverLoader.Grammar

open Grammar.Parser
open Token (Position Tree)

namespace Rules

/-- The least number that is too large for the index of a member. -/
def indexBound : Nat := 4294967296

/-- The index of a member, which is written out in decimal digits. -/
def indexTree (position : Position) (value : Nat) : Tree :=
  .leaf position (.literal (toString value))

/-- Reads a member of a struct, and says whether it has a name. One without has an index. -/
def member : Parser Bool := do
  if ← ahead Ahead.identifier then
    let _ ← identifier
    return true
  match Ahead.literal? (← trees) with
  | some (position, .integer value suffix, count) =>
    if suffix != "" then want .unsuffixedInteger
    else if indexBound ≤ value then forbid position .indexTooLarge
    else
      leaveOut count
      emit [indexTree position value]
      return false
  | _ => want .member

/-- Whether a pattern of one path can begin: only then a path is read, and not a name. -/
def pathPatternAhead : Ahead :=
  Ahead.any
    [Ahead.identifier.and <| Ahead.second <| Ahead.any
       [Ahead.mark "::", Ahead.mark "!", Ahead.group .brace, Ahead.group .parenthesis,
        Ahead.mark ".."],
     (Ahead.keyword "self").and (Ahead.second (Ahead.mark "::")),
     Ahead.mark "::", Ahead.mark "<", Ahead.anyKeyword ["Self", "super", "crate"]]

/-- The dots of a range. -/
inductive RangeDots
  | open
  | closed
deriving DecidableEq

/-- Writes out the mark of a closed range at `position`. -/
def emitClosedDots (position : Position) : Parser Unit :=
  emit [.leaf position (.mark '.' true), .leaf position (.mark '.' true),
    .leaf position (.mark '=' false)]

/-- Reads the dots of a range; three dots, which stand for a closed one, only if `obsolete`. -/
def rangeDots (obsolete : Bool) : Parser RangeDots := do
  if ← ahead (Ahead.mark "..=") then
    mark "..="
    return .closed
  else if ← ahead (Ahead.mark "...") then
    if obsolete then
      emitClosedDots (← here)
      silently (mark "...")
      return .closed
    else want .continuation
  else
    if ← ahead (Ahead.mark "..") then
      mark ".."
      return .open
    else want .continuation

/-- Reads the end of a range pattern, if it has one. -/
def patternRangeEnd (g : Rules) : Parser Bool := do
  if ← ahead (Ahead.any [Ahead.nothing, Ahead.mark "|", Ahead.mark "=",
      Ahead.markBut ":" ["::"], Ahead.mark ",", Ahead.mark ";", Ahead.keyword "if"]) then
    return false
  else if ← ahead Ahead.literal then
    let _ ← literal
    return true
  else if ← ahead (Ahead.any [Ahead.identifier, Ahead.mark "::", Ahead.mark "<",
      Ahead.pathKeyword]) then
    let _ ← g.anyPath true
    return true
  else if ← ahead (Ahead.keyword "const") then
    keyword "const"
    g.attributedBlock
    return true
  else want .continuation

/-- Reads the dots and the end of a range pattern behind its start. -/
def patternRangeBehind (g : Rules) : Parser PatternForm := do
  let position ← here
  let dots ← rangeDots true
  if ← g.patternRangeEnd then return .other
  else if dots = .closed then want .rangeEnd
  else return .openRange position

/-- Reads a range pattern without start, or the rest pattern. -/
def patternRangeFront (g : Rules) : Parser PatternForm := do
  let position ← here
  let dots ← rangeDots false
  if ← g.patternRangeEnd then return .openRange position
  else if dots = .closed then want .rangeEnd
  else return .rest

/-- Reads a field of a struct pattern. -/
def fieldPattern (g : Rules) : Parser Unit := do
  let boxed ← keyword? "box"
  let byReference ← keyword? "ref"
  let isMutable ← keyword? "mut"
  if boxed || byReference || isMutable then
    let _ ← identifier
  else
    let named ← member
    if !named || (← ahead (Ahead.mark ":")) then
      mark ":"
      let _ ← g.patterns

/-- Reads the fields of a struct pattern. -/
def fieldPatterns (g : Rules) : Parser Unit :=
  loop (fun _ => do
    if ← ahead Ahead.nothing then return .done ()
    let _ ← g.outerAttributes
    if ← mark? ".." then return .done ()
    g.fieldPattern
    if ← ahead Ahead.nothing then return .done ()
    mark ","
    return .again ())
    id ()

/-- Reads a pattern that begins with a path. -/
def pathPattern (g : Rules) : Parser PatternForm := do
  let form? ← g.anyPath true
  if form?.any (·.bare) && (← ahead (Ahead.markBut "!" ["!="])) then
    mark "!"
    let _ ← anyGroup
    return .other
  else if ← ahead (Ahead.group .brace) then
    group .brace g.fieldPatterns
    return .other
  else if ← ahead (Ahead.group .parenthesis) then
    let _ ← group .parenthesis (commaList g.patterns)
    return .other
  else if ← ahead (Ahead.mark "..") then g.patternRangeBehind
  else return .other

/-- Reads a pattern of a name. -/
def namePattern (g : Rules) : Parser PatternForm := do
  let _ ← keyword? "ref"
  let _ ← keyword? "mut"
  let _ ← wordIf (Ahead.keyword "self")
  if ← mark? "@" then
    let _ ← g.pattern
  return .other

/-- Reads a member of a slice pattern, in which a range needs both ends. -/
def slicePatternMember (g : Rules) : Parser Unit := do
  match ← g.patterns with
  | .openRange position => forbid position .openRangeInSlice
  | _ => return

/-- Reads a pattern without alternatives. -/
def patternRule (g : Rules) : Parser PatternForm := do
  if ← ahead pathPatternAhead then g.pathPattern
  else if ← keyword? "_" then return .other
  else if ← ahead (Ahead.keyword "box") then
    asSpelled do
      keyword "box"
      let _ ← g.pattern
    return .other
  else if ← ahead (Ahead.any [Ahead.mark "-", Ahead.literal, Ahead.keyword "const"]) then
    let _ ← g.patternRangeEnd
    if ← ahead (Ahead.mark "..") then g.patternRangeBehind else return .other
  else if ← ahead (Ahead.identifier.or (Ahead.anyKeyword ["ref", "mut", "self"])) then g.namePattern
  else if ← mark? "&" then
    let _ ← keyword? "mut"
    let _ ← g.pattern
    return .other
  else if ← ahead (Ahead.group .parenthesis) then
    let _ ← group .parenthesis (commaList g.patterns)
    return .other
  else if ← ahead (Ahead.group .bracket) then
    let _ ← group .bracket (commaList g.slicePatternMember)
    return .other
  else if ← ahead (Ahead.markBut ".." ["..."]) then g.patternRangeFront
  else want .pattern

/-- Whether a further alternative follows. -/
def alternativeAhead : Ahead := Ahead.markBut "|" ["||", "|="]

/-- Reads alternative patterns. -/
def patternsRule (g : Rules) : Parser PatternForm := do
  let leading ← mark? "|"
  let form ← g.pattern
  let alternatives ← manyWhile alternativeAhead do
    mark "|"
    g.pattern
  return if leading || !alternatives.isEmpty then .other else form

end Rules

end ReceiverLoader.Grammar
