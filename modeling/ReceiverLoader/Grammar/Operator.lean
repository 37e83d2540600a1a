import ReceiverLoader.Grammar.Pattern

/-!
# Binary operators

The operators between two expressions, with the order in which they bind. An operator is the
longest one that the next marks spell.
-/

namespace ReceiverLoader.Grammar

open Grammar.Parser

/-- The operators of two operands with their precedences, longer ones before their beginnings. -/
def binaryOperators : List (String × Precedence) :=
  [("+=", .assign), ("-=", .assign), ("*=", .assign), ("/=", .assign), ("%=", .assign),
   ("^=", .assign), ("&=", .assign), ("|=", .assign), ("<<=", .assign), (">>=", .assign),
   ("&&", .and), ("||", .or), ("<<", .shift), (">>", .shift), ("==", .compare), ("<=", .compare),
   ("!=", .compare), (">=", .compare), ("+", .sum), ("-", .sum), ("*", .product), ("/", .product),
   ("%", .product), ("^", .bitXor), ("&", .bitAnd), ("|", .bitOr), ("<", .compare),
   (">", .compare)]

/-- The binary operator that comes next. -/
def binaryOperator? (ts : List Token.Tree) : Option (String × Precedence) :=
  binaryOperators.find? fun o => Ahead.mark o.1 ts

/-- Whether a plain assignment comes next. -/
def assignmentAhead : Ahead := Ahead.markBut "=" ["=>"]

/-- The precedence of what comes next behind an operand. -/
def precedenceAhead (ts : List Token.Tree) : Precedence :=
  match binaryOperator? ts with
  | some (_, precedence) => precedence
  | none =>
    if assignmentAhead ts then .assign
    else if Ahead.mark ".." ts then .range
    else if Ahead.keyword "as" ts then .cast
    else .jump

/-- What may not follow a cast: a postfix operation would not apply to it. -/
def castEndAhead : Ahead :=
  Ahead.any [Ahead.markBut "." [".."], Ahead.mark "?", Ahead.group .bracket,
    Ahead.group .parenthesis]

/-- Whether a range without an end is over where an end could begin. -/
def rangeOverAhead (structs : Bool) : Ahead :=
  Ahead.any
    [Ahead.nothing, Ahead.mark ",", Ahead.mark ";", Ahead.markBut "." [".."], Ahead.mark "?",
     Ahead.mark "=>", fun ts => !structs && Ahead.group .brace ts, Ahead.mark "=", Ahead.mark "+",
     Ahead.mark "/", Ahead.mark "%", Ahead.mark "^", Ahead.mark ">", Ahead.mark "<=",
     Ahead.mark "!=", Ahead.mark "-=", Ahead.mark "*=", Ahead.mark "&=", Ahead.mark "|=",
     Ahead.mark "<<=", Ahead.keyword "as"]

/-- Whether an expression can begin. -/
def expressionAhead : Ahead :=
  Ahead.any
    [Ahead.word.and (Ahead.keyword "as").not, Ahead.anyGroup, Ahead.literal,
     Ahead.markBut "!" ["!="], Ahead.markBut "-" ["-=", "->"], Ahead.markBut "*" ["*="],
     Ahead.markBut "|" ["|="], Ahead.markBut "&" ["&="], Ahead.mark "..", Rules.argumentsAhead,
     Ahead.mark "::", Ahead.lifetime, Ahead.mark "#"]

namespace Rules

/-- Reads the dots of a range and its end, if it has one. -/
def rangeBehind (g : Rules) (structs : Bool) : Parser ExpressionForm := do
  let position ← here
  let dots ← rangeDots false
  if !(dots = .open && (← ahead (rangeOverAhead structs))) then
    let _ ← g.operand structs .range
  return .range position

/-- Reads the operators behind `left` that bind at least as tightly as `base`. -/
def operatorsRule (g : Rules) (structs : Bool) (base : Precedence) (left : ExpressionForm) :
    Parser ExpressionForm :=
  loop (fun left => do
    if left.isRange then return .done left
    match binaryOperator? (← trees) with
    | some (operator, precedence) =>
      if precedence.rank < base.rank then return .done left
      if precedence = .compare && left == .comparison then forbid (← here) .chainedComparison
      mark operator
      let _ ← g.operand structs precedence
      return .again (if precedence = .compare then .comparison else .other)
    | none =>
      if base.rank ≤ Precedence.assign.rank && (← ahead assignmentAhead) then
        mark "="
        let _ ← g.operand structs .assign
        return .again .other
      else if base.rank ≤ Precedence.range.rank && (← ahead (Ahead.mark "..")) then
        return .again (← g.rangeBehind structs)
      else if base.rank ≤ Precedence.cast.rank && (← ahead (Ahead.keyword "as")) then
        keyword "as"
        let _ ← g.type false
        if ← ahead castEndAhead then forbid (← here) .operationOnCast
        return .again .other
      else return .done left)
    id left

/-- Reads the right side of an operator: an operand, with the operators behind it that bind more
tightly. An assignment also takes in the assignments behind it. -/
def operandRule (g : Rules) (structs : Bool) (precedence : Precedence) : Parser ExpressionForm := do
  let first ← g.unary structs
  loop (fun left => do
    let before ← trees
    let next := precedenceAhead before
    if precedence.rank < next.rank || next = precedence && precedence = .assign then
      let left ← g.operators structs next left
      if (← trees).length = before.length then return .done left else return .again left
    else return .done left)
    id first

/-- Reads an expression. -/
def expressionRule (g : Rules) (structs : Bool) : Parser ExpressionForm := do
  let left ← g.unary structs
  g.operators structs .jump left

end Rules

end ReceiverLoader.Grammar
