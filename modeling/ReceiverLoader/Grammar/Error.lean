import ReceiverLoader.Token.Basic

/-!
# Grammar errors

Why a list of token trees is not what it should be. An error has the position of the token that
cannot continue the grammar; at the end of a group that of the closing delimiter, at the end of the
text that of its first line.
-/

namespace ReceiverLoader.Grammar

open Token (Position Delimiter)

/-- What the grammar admits at a place. -/
inductive Wanted
  | mark (text : String)
  | keyword (text : String)
  /-- A word that is no keyword. -/
  | identifier
  /-- Any word. -/
  | word
  | lifetime
  | literal
  | stringLiteral
  | group (delimiter : Delimiter)
  /-- A group, whatever its delimiters. -/
  | anyGroup
  | pathSegment
  | expression
  | semicolon
  | member
  | unsuffixedInteger
  | labelled
  | rangeEnd
  | pattern
  | type
  | item
  /-- One of several tokens that continue a construct. -/
  | continuation
deriving Repr, DecidableEq

/-- What the grammar forbids although the tokens have the form of a construct. -/
inductive Forbidden
  | chainedComparison
  | operationOnCast
  | attributeOnRange
  | labelWithoutParentheses
  | boundsWithoutTrait
  | capturedNames
  | constantBound
  | negativeImplementation
  | relaxedBinder
  | genericWhereClause
  | secondReceiver
  | misplacedReceiver
  | openRangeInSlice
  | attributeInAttribute
  | indexTooLarge
deriving Repr, DecidableEq

/-- Why a list of token trees cannot be read. -/
inductive Cause
  | wanted (what : Wanted) (atEnd : Bool)
  | forbidden (what : Forbidden)
  /-- A token is left over in a group of which all that could be read has been read. -/
  | leftOver (inside : Option Delimiter)
  /-- The construct is nested deeper than its number of tokens admits, which cannot happen. -/
  | tooDeep
deriving Repr, DecidableEq

/-- A cause and the position it is reported at. -/
structure SyntaxError where
  position : Position
  cause : Cause
deriving Repr, DecidableEq

namespace Wanted

/-- What is wanted, in words. The texts are short: where one of several tokens could stand, they
name the construct, or nothing, in the stead of a list of the tokens. -/
def message : Wanted → String
  | mark text => s!"expected `{text}`"
  | keyword text => s!"expected `{text}`"
  | identifier => "expected identifier"
  | word => "expected ident"
  | lifetime => "expected lifetime"
  | literal => "expected literal"
  | stringLiteral => "expected string literal"
  | group .parenthesis => "expected parentheses"
  | group .brace => "expected curly braces"
  | group .bracket => "expected square brackets"
  | anyGroup => "expected delimiter"
  | pathSegment => "expected path segment after `::`"
  | expression => "expected an expression"
  | semicolon => "unexpected token, expected `;`"
  | member => "expected identifier or integer"
  | unsuffixedInteger => "expected unsuffixed integer"
  | labelled => "expected loop or block expression"
  | rangeEnd => "expected range upper bound"
  | pattern => "expected a pattern"
  | type => "expected a type"
  | item => "expected an item"
  | continuation => "unexpected token"

end Wanted

namespace Forbidden

/-- What is forbidden, in words. The texts are short: they do not say what could stand there
instead. -/
def message : Forbidden → String
  | chainedComparison => "comparison operators cannot be chained"
  | operationOnCast => "casts cannot be followed by a postfix operation"
  | attributeOnRange => "attributes are not allowed on range expressions starting with `..`"
  | labelWithoutParentheses => "parentheses required"
  | boundsWithoutTrait => "at least one trait is required for an object type"
  | capturedNames => "`use<...>` precise capturing syntax is not allowed here"
  | constantBound => "`const` is not allowed here"
  | negativeImplementation => "inherent impls cannot be negative"
  | relaxedBinder => "`for<...>` binder not allowed with `?` trait polarity modifier"
  | genericWhereClause => "generic parameters on `where` clauses are reserved for future use"
  | secondReceiver => "unexpected second method receiver"
  | misplacedReceiver => "unexpected method receiver"
  | openRangeInSlice => "range pattern is not allowed unparenthesized inside slice pattern"
  | attributeInAttribute => "unexpected attribute inside of attribute"
  | indexTooLarge => "number too large to fit in target type"

end Forbidden

namespace Cause

/-- The message of a cause. That a mark is missing is said alike at the end of a group and inside
it. -/
def message : Cause → String
  | wanted (.mark text) _ => (Wanted.mark text).message
  | wanted what false => what.message
  | wanted what true => "unexpected end of input, " ++ what.message
  | forbidden what => what.message
  | leftOver none => "unexpected token"
  | leftOver (some d) => s!"unexpected token, expected `{d.closing}`"
  | tooDeep => "nested too deeply"

end Cause

end ReceiverLoader.Grammar
