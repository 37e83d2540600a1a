import ReceiverLoader.Grammar.Item

/-!
# Reading a text

The rules of the grammar, tied to each other. The depth of the recursion is bounded by the number
of tokens: between two steps that read a token there are only a few that read none.
-/

namespace ReceiverLoader.Grammar

open Token (Position Tree)

/-- The rule for a construct, given parsers for the constructs inside it. -/
def rule (g : Rules) : Rules
  | .expression structs => g.expressionRule structs
  | .unary structs => g.unaryRule structs
  | .operators structs base left => g.operatorsRule structs base left
  | .operand structs precedence => g.operandRule structs precedence
  | .statementExpression => g.statementExpressionRule
  | .statements => g.statementsRule
  | .type plus => g.typeRule plus
  | .bound capture constant => g.boundRule capture constant
  | .pattern => g.patternRule
  | .patterns => g.patternsRule
  | .namedFields => g.namedFieldsRule
  | .item => g.itemRule
  | .itemBehind attributes => g.itemBehindRule attributes
  | .useTree root => g.useTreeRule root

/-- The parsers for all constructs that nest at most `depth` deep. -/
def rules : Nat → Rules
  | 0 => fun _ => do throw ⟨← Parser.here, .tooDeep⟩
  | depth + 1 => fun construct => rule (rules depth) construct

/-- A depth that no construct of these trees exceeds. -/
def depthOf (ts : List Tree) : Nat := 16 * (Tree.sizeAll ts + 2)

/-- Reads trees by `p` to their end, which is at `scopeEnd`. A tree that is left unread is refused,
inside a group first. -/
def readAll {α : Type} (p : Rules → Parser α) (scopeEnd : Position) (ts : List Tree) :
    Except SyntaxError α := do
  let (a, reached) ← p (rules (depthOf ts)) scopeEnd (Progress.start ts)
  match reached.stray with
  | some stray => throw ⟨stray.position, .leftOver stray.inside⟩
  | none =>
    match reached.trees with
    | [] => return a
    | t :: _ => throw ⟨t.position, .leftOver none⟩

/-- Where a missing token at the end of the text is reported. -/
def textEnd : Position := Position.start

/-- Reads one item. -/
def readItem (ts : List Tree) : Except SyntaxError Item :=
  readAll (fun g => g.item) textEnd ts

/-- Reads one or more outer attributes. -/
def readAttributes (ts : List Tree) : Except SyntaxError (List Attribute) :=
  readAll (fun g => g.outerAttributes) textEnd ts

/-- Reads the items of a module behind its inner attributes. -/
def readModule (ts : List Tree) : Except SyntaxError (List Item) :=
  readAll (fun g => do
    let _ ← g.innerAttributes
    Parser.manyToEnd g.item) textEnd ts

end ReceiverLoader.Grammar
