import ReceiverLoader.Grammar.LifetimesFirst

/-!
# The recursion of the grammar

The constructs that contain each other, and the parsers for them. A rule of the grammar is written
against some parsers for these constructs, its `Rules`; `ReceiverLoader.Grammar.Reading` ties the
knot.
-/

namespace ReceiverLoader.Grammar

open Token (Position Tree Delimiter)

/-- How tightly an operator binds, from the loosest to the tightest. -/
inductive Precedence
  | jump
  | assign
  | range
  | or
  | and
  | binding
  | compare
  | bitOr
  | bitXor
  | bitAnd
  | shift
  | sum
  | product
  | cast
deriving Repr, DecidableEq

namespace Precedence

/-- The place in the order. -/
def rank : Precedence → Nat
  | jump => 0
  | assign => 1
  | range => 2
  | or => 3
  | and => 4
  | binding => 5
  | compare => 6
  | bitOr => 7
  | bitXor => 8
  | bitAnd => 9
  | shift => 10
  | sum => 11
  | product => 12
  | cast => 13

end Precedence

/-- The constructs that contain each other. Where `structs` is false, a brace ends an expression. -/
inductive Nonterminal
  | expression (structs : Bool)
  /-- An expression without binary operators. -/
  | unary (structs : Bool)
  /-- What follows `left`, of operators that bind at least as tightly as `base`. -/
  | operators (structs : Bool) (base : Precedence) (left : ExpressionForm)
  /-- The right side of an operator. -/
  | operand (structs : Bool) (precedence : Precedence)
  /-- An expression that ends early where it is a statement or an arm of a selection. -/
  | statementExpression
  /-- The statements of a block, up to the end of the group. -/
  | statements
  /-- A type; a sum of bounds only if `plus`. -/
  | type (plus : Bool)
  /-- A bound: a trait, a lifetime or, if `capture`, a list of captured names. -/
  | bound (capture constant : Bool)
  /-- A pattern without alternatives. -/
  | pattern
  /-- Alternative patterns. -/
  | patterns
  /-- Fields in braces. -/
  | namedFields
  | item
  /-- An item behind its attributes. -/
  | itemBehind (attributes : List Attribute)
  /-- The tree of a `use` item; a leading `::` inside it only if `root`. -/
  | useTree (root : Bool)

/-- What reading a construct gives. Of a bound it is whether it names a trait; an item without a
normal form gives none, and neither does a `use` tree with a `::` inside it. -/
@[reducible] def Nonterminal.Value : Nonterminal → Type
  | expression _ => ExpressionForm
  | unary _ => ExpressionForm
  | operators _ _ _ => ExpressionForm
  | operand _ _ => ExpressionForm
  | statementExpression => ExpressionForm
  | statements => Unit
  | type _ => TypeForm
  | bound _ _ => Bool
  | pattern => PatternForm
  | patterns => PatternForm
  | namedFields => Unit
  | item => Item
  | itemBehind _ => Option Item
  | useTree _ => Option UseTree

/-- Parsers for the constructs that contain each other. -/
def Rules := (construct : Nonterminal) → Parser construct.Value

namespace Rules

/-- Reads an expression. -/
def expression (g : Rules) (structs : Bool) : Parser ExpressionForm := g (.expression structs)

/-- Reads an expression without binary operators. -/
def unary (g : Rules) (structs : Bool) : Parser ExpressionForm := g (.unary structs)

/-- Reads the operators behind `left`. -/
def operators (g : Rules) (structs : Bool) (base : Precedence) (left : ExpressionForm) :
    Parser ExpressionForm :=
  g (.operators structs base left)

/-- Reads the right side of an operator. -/
def operand (g : Rules) (structs : Bool) (precedence : Precedence) : Parser ExpressionForm :=
  g (.operand structs precedence)

/-- Reads an expression that ends early where it is a statement. -/
def statementExpression (g : Rules) : Parser ExpressionForm := g .statementExpression

/-- Reads statements to the end of the group. -/
def statements (g : Rules) : Parser Unit := g .statements

/-- Reads a type. -/
def type (g : Rules) (plus : Bool) : Parser TypeForm := g (.type plus)

/-- Reads a bound, and says whether it names a trait. -/
def bound (g : Rules) (capture constant : Bool) : Parser Bool := g (.bound capture constant)

/-- Reads a pattern without alternatives. -/
def pattern (g : Rules) : Parser PatternForm := g .pattern

/-- Reads alternative patterns. -/
def patterns (g : Rules) : Parser PatternForm := g .patterns

/-- Reads fields in braces. -/
def namedFields (g : Rules) : Parser Unit := g .namedFields

/-- Reads an item. -/
def item (g : Rules) : Parser Item := g .item

/-- Reads an item behind its attributes. -/
def itemBehind (g : Rules) (attributes : List Attribute) : Parser (Option Item) :=
  g (.itemBehind attributes)

/-- Reads the tree of a `use` item. -/
def useTree (g : Rules) (root : Bool) : Parser (Option UseTree) := g (.useTree root)

/-- Reads a block. -/
def block (g : Rules) : Parser Unit := Parser.group .brace g.statements

end Rules

end ReceiverLoader.Grammar
