import ReceiverLoader.Grammar.Operator
import ReceiverLoader.Text.Split

/-!
# Expressions

Operands: literals, paths, calls, blocks and control flow, with the prefix and postfix operators
around them.
-/

namespace ReceiverLoader.Grammar

open Grammar.Parser
open Token (Delimiter)

namespace Rules

/-! ## Blocks and control flow -/

/-- Reads a conditional. -/
def conditional (g : Rules) : Parser Unit :=
  loop (fun _ => do
    keyword "if"
    let _ ← g.expression false
    g.block
    if ← keyword? "else" then
      if ← ahead (Ahead.keyword "if") then return .again ()
      else if ← ahead (Ahead.group .brace) then
        g.block
        return .done ()
      else want .continuation
    else return .done ())
    id ()

/-- Reads a loop with a condition. -/
def whileLoop (g : Rules) : Parser Unit := do
  keyword "while"
  let _ ← g.expression false
  g.attributedBlock

/-- Reads a loop over the members of a sequence. -/
def forLoop (g : Rules) : Parser Unit := do
  keyword "for"
  let _ ← g.patterns
  keyword "in"
  let _ ← g.expression false
  g.attributedBlock

/-- Reads a loop without an end. -/
def endlessLoop (g : Rules) : Parser Unit := do
  keyword "loop"
  g.attributedBlock

/-- Reads an arm of a selection. -/
def arm (g : Rules) : Parser Unit := do
  let _ ← g.outerAttributes
  let _ ← g.patterns
  if ← keyword? "if" then
    let _ ← g.expression true
  mark "=>"
  let body ← g.statementExpression
  if body.needsComma && (← ahead Ahead.nothing.not) then mark ","
  else
    let _ ← mark? ","

/-- Reads a selection. -/
def selection (g : Rules) : Parser Unit := do
  keyword "match"
  let _ ← g.expression false
  group .brace do
    let _ ← g.innerAttributes
    let _ ← manyToEnd g.arm

/-- Reads a loop or a block behind its label. -/
def labelled (g : Rules) : Parser ExpressionForm := do
  lifetime
  mark ":"
  if ← ahead (Ahead.keyword "while") then g.whileLoop
  else if ← ahead (Ahead.keyword "for") then g.forLoop
  else if ← ahead (Ahead.keyword "loop") then g.endlessLoop
  else if ← ahead (Ahead.group .brace) then g.attributedBlock
  else want .labelled
  return .block

/-- Reads a block behind the word `text`. -/
def markedBlock (g : Rules) (text : String) : Parser ExpressionForm := do
  keyword text
  g.attributedBlock
  return .block

/-- Reads a block whose failure is caught. -/
def tryBlock (g : Rules) : Parser ExpressionForm := do
  keyword "try"
  g.block
  return .block

/-- Reads a block that runs later. -/
def asyncBlock (g : Rules) : Parser ExpressionForm := do
  keyword "async"
  let _ ← keyword? "move"
  g.block
  return .other

/-! ## Closures and jumps -/

/-- Reads an argument of a closure. -/
def closureArgument (g : Rules) : Parser Unit := do
  let _ ← g.outerAttributes
  let _ ← g.pattern
  if ← mark? ":" then
    let _ ← g.type true

/-- Reads a closure. -/
def closure (g : Rules) (structs : Bool) : Parser ExpressionForm := do
  let _ ← g.binder
  let _ ← keyword? "const"
  let _ ← keyword? "static"
  let _ ← keyword? "async"
  let _ ← keyword? "move"
  mark "|"
  let _ ← separated "," (Ahead.mark "|") g.closureArgument
  mark "|"
  if ← mark? "->" then
    let _ ← g.type true
    g.block
  else
    let _ ← g.expression structs
  return .other

/-- Reads the way out of a loop or block, with its label and its value. Where braces end an
expression, a value cannot begin with them. -/
def breakOut (g : Rules) (structs : Bool) : Parser ExpressionForm := do
  keyword "break"
  let position ← here
  if ← ahead (Ahead.lifetime.and (Ahead.second (Ahead.mark ":"))) then
    let _ ← g.expression true
    forbid position .labelWithoutParentheses
  let _ ← lifetime?
  if ← ahead expressionAhead then
    if structs || (← ahead (Ahead.group .brace).not) then
      let _ ← g.expression true
  return .other

/-- Reads a word and the value behind it, if there is one. -/
def jump (g : Rules) (text : String) : Parser ExpressionForm := do
  keyword text
  if ← ahead expressionAhead then
    let _ ← g.expression true
  return .other

/-- Reads a call in place of the running one. -/
def tailCall (g : Rules) : Parser ExpressionForm := asSpelled do
  keyword "become"
  let _ ← g.expression true
  return .verbatim

/-- Reads a condition that binds names. -/
def bindingCondition (g : Rules) (structs : Bool) : Parser ExpressionForm := do
  keyword "let"
  let _ ← g.patterns
  mark "="
  let left ← g.unary structs
  let _ ← g.operators structs .compare left
  return .other

/-! ## Atoms -/

/-- Reads a field of a struct expression. -/
def fieldValue (g : Rules) : Parser Unit := do
  let _ ← g.outerAttributes
  let named ← member
  if !named || (← ahead (Ahead.mark ":")) then
    mark ":"
    let _ ← g.expression true

/-- Reads the fields of a struct expression. -/
def fieldValues (g : Rules) : Parser Unit :=
  loop (fun _ => do
    if ← ahead Ahead.nothing then return .done ()
    if ← mark? ".." then
      if ← ahead Ahead.nothing.not then
        let _ ← g.expression true
      return .done ()
    g.fieldValue
    if ← ahead Ahead.nothing then return .done ()
    mark ","
    return .again ())
    id ()

/-- Reads a path, a macro call or a struct expression. -/
def pathExpression (g : Rules) (structs : Bool) : Parser ExpressionForm := do
  let form? ← g.anyPath true
  if form?.any (·.bare) && (← ahead (Ahead.markBut "!" ["!="])) then
    mark "!"
    let (delimiter, _, _) ← anyGroup
    return if delimiter = .brace then .bracedCall else .other
  if structs && (← ahead (Ahead.group .brace)) then group .brace g.fieldValues
  return .other

/-- Reads expressions with commas between them behind the first one. -/
def furtherExpressions (g : Rules) : Parser Unit :=
  loop (fun _ => do
    if ← ahead Ahead.nothing then return .done ()
    mark ","
    if ← ahead Ahead.nothing then return .done ()
    let _ ← g.expression true
    return .again ())
    id ()

/-- Reads an expression in parentheses or a tuple. -/
def parenthesized (g : Rules) : Parser ExpressionForm := do
  group .parenthesis do
    if ← ahead Ahead.nothing.not then
      let _ ← g.expression true
      g.furtherExpressions
  return .other

/-- Reads an array, given by its members or by one member and their number. -/
def array (g : Rules) : Parser ExpressionForm := do
  group .bracket do
    if ← ahead Ahead.nothing.not then
      let _ ← g.expression true
      if ← ahead (Ahead.nothing.or (Ahead.mark ",")) then g.furtherExpressions
      else if ← mark? ";" then
        let _ ← g.expression true
      else want .continuation
  return .other

/-- Reads a literal. -/
def literalExpression : Parser ExpressionForm := do
  match ← literal with
  | (position, .integer value _) => return .integer position value
  | _ => return .other

/-- Whether a closure comes next. -/
def closureAhead : Ahead :=
  Ahead.any
    [Ahead.mark "|", Ahead.keyword "move", (Ahead.keyword "for").and (Ahead.second genericsAhead),
     (Ahead.keyword "const").and (Ahead.second (Ahead.group .brace)).not, Ahead.keyword "static",
     (Ahead.keyword "async").and (Ahead.second ((Ahead.mark "|").or (Ahead.keyword "move")))]

/-- Whether a path comes next. -/
def pathAhead : Ahead :=
  Ahead.any
    [Ahead.identifier, Ahead.mark "::", Ahead.mark "<", Ahead.pathKeyword,
     (Ahead.keyword "try").and (Ahead.second ((Ahead.mark "!").or (Ahead.mark "::")))]

/-- Reads an operand without prefix and postfix operators. -/
def atom (g : Rules) (structs : Bool) : Parser ExpressionForm := do
  let brace := Ahead.group .brace
  if ← ahead Ahead.literal then literalExpression
  else if ← ahead ((Ahead.keyword "async").and ((Ahead.second brace).or
      ((Ahead.second (Ahead.keyword "move")).and (Ahead.third brace)))) then g.asyncBlock
  else if ← ahead ((Ahead.keyword "try").and (Ahead.second brace)) then g.tryBlock
  else if ← ahead closureAhead then g.closure structs
  else if ← ahead builtinAhead then
    builtinOperation
    return .verbatim
  else if ← ahead pathAhead then g.pathExpression structs
  else if ← ahead (Ahead.group .parenthesis) then g.parenthesized
  else if ← ahead (Ahead.keyword "break") then g.breakOut structs
  else if ← keyword? "continue" then
    let _ ← lifetime?
    return .other
  else if ← ahead (Ahead.keyword "return") then g.jump "return"
  else if ← ahead (Ahead.keyword "become") then g.tailCall
  else if ← ahead (Ahead.group .bracket) then g.array
  else if ← ahead (Ahead.keyword "let") then g.bindingCondition structs
  else if ← ahead (Ahead.keyword "if") then
    g.conditional
    return .block
  else if ← ahead (Ahead.keyword "while") then
    g.whileLoop
    return .block
  else if ← ahead (Ahead.keyword "for") then
    g.forLoop
    return .block
  else if ← ahead (Ahead.keyword "loop") then
    g.endlessLoop
    return .block
  else if ← ahead (Ahead.keyword "match") then
    g.selection
    return .block
  else if ← ahead (Ahead.keyword "yield") then g.jump "yield"
  else if ← ahead (Ahead.keyword "unsafe") then g.markedBlock "unsafe"
  else if ← ahead (Ahead.keyword "const") then g.markedBlock "const"
  else if ← ahead brace then
    g.attributedBlock
    return .block
  else if ← ahead (Ahead.mark "..") then g.rangeBehind structs
  else if ← keyword? "_" then return .other
  else if ← ahead Ahead.lifetime then g.labelled
  else want .expression

/-! ## Prefix and postfix operators -/

/-- The index that `text` spells without a suffix. -/
def index? (text : List Char) : Option Nat :=
  match Token.Literal.integer? text with
  | some (value, suffix) =>
    if !text.isEmpty && suffix.isEmpty && value < indexBound then some value else none
  | none => none

/-- The indices that are spelled with dots between them. A dot at the end is admitted. -/
def indices? (text : String) : Option (List Nat) :=
  let parts := Text.splitAtChar '.' text.toList
  let parts := if parts.getLast? == some [] then parts.dropLast else parts
  parts.mapM index?

/-- Reads two indices that are spelled like a fraction behind a dot, and says whether they are the
whole access: a dot at their end leaves the next member to be read. -/
def fractionIndices : Parser Bool := do
  match ← trees with
  | .leaf position (.literal text) :: _ =>
    match Token.Literal.ofWritten text with
    | .fraction =>
      match indices? text with
      | none => throw ⟨position, .wanted .unsuffixedInteger false⟩
      | some indices =>
        let dot := .leaf position (.mark '.' false)
        let dotAtEnd := text.toList.getLast? == some '.'
        leaveOut 1
        emit (List.intersperse dot (indices.map (indexTree position)))
        if dotAtEnd then emit [dot]
        return !dotAtEnd
    | _ => return false
  | _ => return false

/-- Reads arguments of a call. -/
def arguments (g : Rules) : Parser Unit := do
  let _ ← group .parenthesis (commaList (g.expression true))

/-- Reads what follows the dot of an access: a member, a method call or the wait for a result. -/
def access (g : Rules) : Parser Unit := do
  if ← fractionIndices then return
  if ← keyword? "await" then return
  let named ← member
  if named && (← ahead (Ahead.mark "::")) then
    let _ ← g.turbofish
    g.arguments
  else if named && (← ahead (Ahead.group .parenthesis)) then g.arguments

/-- Reads the postfix operators behind an operand. -/
def postfixOperators (g : Rules) (form : ExpressionForm) : Parser ExpressionForm :=
  loop (fun form => do
    if ← ahead (Ahead.group .parenthesis) then
      g.arguments
      return .again .other
    else if !form.isRange && (← ahead (Ahead.markBut "." [".."])) then
      mark "."
      g.access
      return .again .other
    else if ← ahead (Ahead.group .bracket) then
      group .bracket do
        let _ ← g.expression true
      return .again .other
    else if ← markIf? (!form.isRange) "?" then return .again .other
    else return .done form)
    id form

/-- Reads an expression without binary operators. -/
def unaryRule (g : Rules) (structs : Bool) : Parser ExpressionForm := do
  let attributes ← g.outerAttributes
  if ← mark? "&" then
    let raw ← ahead ((Ahead.keyword "raw").and (Ahead.second (Ahead.anyKeyword ["mut", "const"])))
    if raw then
      keyword "raw"
    let isMutable ← keyword? "mut"
    if raw && !isMutable then keyword "const"
    let _ ← g.unary structs
    return .other
  else if ← mark? "-" then return .negation (← g.unary structs)
  else if ← ahead ((Ahead.mark "*").or (Ahead.mark "!")) then
    if !(← mark? "*") then mark "!"
    let _ ← g.unary structs
    return .other
  else
    let form ← g.postfixOperators (← g.atom structs)
    match form with
    | .range position =>
      if !attributes.isEmpty then forbid position .attributeOnRange
      return form
    | _ => return form

/-- Reads the beginning of an expression that may end early. -/
def earlyAtom (g : Rules) : Parser ExpressionForm := do
  let brace := Ahead.group .brace
  if ← ahead (Ahead.keyword "if") then
    g.conditional
    return .block
  else if ← ahead (Ahead.keyword "while") then
    g.whileLoop
    return .block
  else if ← ahead ((Ahead.keyword "for").and (Ahead.second genericsAhead).not) then
    g.forLoop
    return .block
  else if ← ahead (Ahead.keyword "loop") then
    g.endlessLoop
    return .block
  else if ← ahead (Ahead.keyword "match") then
    g.selection
    return .block
  else if ← ahead ((Ahead.keyword "try").and (Ahead.second brace)) then g.tryBlock
  else if ← ahead (Ahead.keyword "unsafe") then g.markedBlock "unsafe"
  else if ← ahead ((Ahead.keyword "const").and (Ahead.second brace)) then g.markedBlock "const"
  else if ← ahead brace then
    g.attributedBlock
    return .block
  else if ← ahead Ahead.lifetime then g.labelled
  else g.unary true

/-- Reads an expression that is a statement or the body of an arm: behind a block it ends, unless a
member access follows. -/
def statementExpressionRule (g : Rules) : Parser ExpressionForm := do
  let _ ← g.outerAttributes
  let form ← g.earlyAtom
  if form != .block then g.operators true .jump form
  else if ← ahead ((Ahead.markBut "." [".."]).or (Ahead.mark "?")) then
    let form ← g.postfixOperators form
    g.operators true .jump form
  else return form

end Rules

end ReceiverLoader.Grammar
