import ReceiverLoader.Grammar.Reading
import ReceiverLoader.Proofs.Grammar.Leaving

/-!
# What the rules leave to be read

All that the rules of the grammar read outside groups they read from the front: `rules_leave` ties
the rules to each other, at any depth.
-/

namespace ReceiverLoader.Grammar

open Token (Position Tree Delimiter)
open Grammar.Parser

set_option synthInstance.maxSize 1000000000

/-! ## Lists with lifetimes first -/

section Lists

variable {member : Parser Bool} [Leaves member]

instance : Leaves (angleMembers member) := by
  unfold angleMembers
  infer_instance

instance : Leaves (lifetimesFirst member) := by
  unfold lifetimesFirst
  infer_instance

end Lists

/-! ## The constructs that contain each other -/

/-- So it is with the parsers for the constructs that contain each other. -/
class RulesLeave (g : Rules) : Prop where
  leaves : ∀ construct, Leaves (g construct)

namespace Rules

variable {g : Rules} [hg : RulesLeave g]

instance (structs : Bool) : Leaves (g.expression structs) := hg.leaves _

instance (structs : Bool) : Leaves (g.unary structs) := hg.leaves _

instance (structs : Bool) (base : Precedence) (left : ExpressionForm) :
    Leaves (g.operators structs base left) :=
  hg.leaves _

instance (structs : Bool) (precedence : Precedence) : Leaves (g.operand structs precedence) :=
  hg.leaves _

instance : Leaves g.statementExpression := hg.leaves _

instance (plus : Bool) : Leaves (g.type plus) := hg.leaves _

instance (capture constant : Bool) : Leaves (g.bound capture constant) := hg.leaves _

instance : Leaves g.pattern := hg.leaves _

instance : Leaves g.patterns := hg.leaves _

instance : Leaves g.namedFields := hg.leaves _

instance : Leaves g.item := hg.leaves _

instance (attributes : List Attribute) : Leaves (g.itemBehind attributes) := hg.leaves _

instance (root : Bool) : Leaves (g.useTree root) := hg.leaves _

instance : Leaves g.block := by
  unfold block
  infer_instance

end Rules

/-! ## Attributes -/

instance : Leaves modulePath := by
  unfold modulePath
  infer_instance

namespace Rules

variable {g : Rules} [hg : RulesLeave g]

instance : Leaves g.outerAttribute := by
  unfold outerAttribute
  infer_instance

instance : Leaves g.outerAttributes := by
  unfold outerAttributes
  infer_instance

instance : Leaves g.innerAttribute := by
  unfold innerAttribute
  infer_instance

instance : Leaves g.innerAttributes := by
  unfold innerAttributes
  infer_instance

instance : Leaves g.attributedBlock := by
  unfold attributedBlock
  infer_instance

/-! ## Paths -/

instance : Leaves g.constantArgument := by
  unfold constantArgument
  infer_instance

instance : Leaves g.associatedValue := by
  unfold associatedValue
  infer_instance

instance : Leaves g.associatedBounds := by
  unfold associatedBounds
  infer_instance

instance : Leaves g.genericArgument := by
  unfold genericArgument
  dsimp only
  refine Leaves.bind inferInstance fun isLifetime => Leaves.ite inferInstance ?_
  refine Leaves.bind inferInstance fun isConstant => Leaves.ite inferInstance ?_
  refine Leaves.bind inferInstance fun form => ?_
  cases form <;> infer_instance

instance : Leaves g.genericArguments := by
  unfold genericArguments
  infer_instance

instance : Leaves g.turbofish := by
  unfold turbofish
  infer_instance

instance (inExpression : Bool) : Leaves (g.segment inExpression) := by
  unfold segment
  infer_instance

instance (inExpression : Bool) : Leaves (g.path inExpression) := by
  unfold path
  infer_instance

instance (inExpression : Bool) : Leaves (g.qualifiedPath inExpression) := by
  unfold qualifiedPath
  infer_instance

instance (inExpression : Bool) : Leaves (g.anyPath inExpression) := by
  unfold anyPath
  infer_instance

/-! ## Generic parameters and where clauses -/

instance (stop : Ahead) : Leaves (lifetimeBounds stop) := by
  unfold lifetimeBounds
  infer_instance

section Empty

variable {α : Type}

instance (isEmpty : α → Bool) {p : Parser α} [Leaves p] : Leaves (unlessEmpty isEmpty p) := by
  unfold unlessEmpty
  infer_instance

instance {p : Parser (List α)} [Leaves p] : Leaves (optionalBounds p) := by
  unfold optionalBounds
  infer_instance

end Empty

instance : Leaves lifetimeParameter := by
  unfold lifetimeParameter
  infer_instance

instance : Leaves g.typeParameter := by
  unfold typeParameter
  infer_instance

instance : Leaves g.constantParameter := by
  unfold constantParameter
  infer_instance

instance (placeholder : Bool) : Leaves (g.genericParameter placeholder) := by
  unfold genericParameter
  infer_instance

instance : Leaves g.generics := by
  unfold generics
  infer_instance

instance : Leaves g.binder := by
  unfold binder
  infer_instance

instance : Leaves g.wherePredicate := by
  unfold wherePredicate
  infer_instance

instance : Leaves g.whereClause := by
  unfold whereClause
  infer_instance

/-! ## Use items -/

instance : Leaves useAlias := by
  unfold useAlias
  infer_instance

instance (root : Bool) : Leaves (g.useTreeRule root) := by
  unfold useTreeRule
  infer_instance

/-! ## Bounds -/

instance (plus : Bool) : Leaves (g.resultType plus) := by
  unfold resultType
  infer_instance

instance : Leaves g.parenthesizedArguments := by
  unfold parenthesizedArguments
  infer_instance

instance : Leaves g.boundPath := by
  unfold boundPath
  infer_instance

instance (allowed : Bool) : Leaves (boundConstness allowed) := by
  unfold boundConstness
  infer_instance

instance (constant : Bool) : Leaves (g.traitBound constant) := by
  unfold traitBound
  infer_instance

instance : Leaves capturedName := by
  unfold capturedName
  infer_instance

instance : Leaves capturedNames := by
  unfold capturedNames
  infer_instance

instance (capture : Bool) (constant : Bool) : Leaves (g.boundRule capture constant) := by
  unfold boundRule
  infer_instance

instance (plus : Bool) (capture : Bool) (constant : Bool) :
    Leaves (g.boundSum plus capture constant) := by
  unfold boundSum
  infer_instance

instance (plus : Bool) (position : Position) : Leaves (g.objectBounds plus position) := by
  unfold objectBounds
  infer_instance

instance : Leaves g.furtherBounds := by
  unfold furtherBounds
  infer_instance

/-! ## Types -/

instance : Leaves linkage := by
  unfold linkage
  infer_instance

instance : Leaves optionalLinkage := by
  unfold optionalLinkage
  infer_instance

instance : Leaves g.functionType := by
  unfold functionType
  infer_instance

instance (plus : Bool) : Leaves (g.parenthesizedType plus) := by
  unfold parenthesizedType
  refine Leaves.bind inferInstance fun ((inside, stray), ts) => ?_
  refine Leaves.bind inferInstance fun summed => ?_
  cases inside <;> infer_instance

instance (plus : Bool) (bound : Bool) (form : PathForm) :
    Leaves (g.behindPath plus bound form) := by
  unfold behindPath
  infer_instance

instance (plus : Bool) (bound : Bool) (binder : List Tree) :
    Leaves (g.pathType plus bound binder) := by
  unfold pathType
  refine Leaves.bind inferInstance fun (form?, path) => ?_
  cases form? <;> infer_instance

instance : Leaves builtinOperation := by
  unfold builtinOperation
  infer_instance

instance : Leaves g.bracketedType := by
  unfold bracketedType
  infer_instance

instance (plus : Bool) : Leaves (g.objectType plus) := by
  unfold objectType
  infer_instance

instance (plus : Bool) : Leaves (g.typeRule plus) := by
  unfold typeRule
  infer_instance

/-! ## Patterns -/

instance : Leaves member := by
  unfold member
  refine Leaves.bind inferInstance fun named => Leaves.ite inferInstance ?_
  refine Leaves.bind inferInstance fun ts => ?_
  split <;> infer_instance

instance (position : Position) : Leaves (emitClosedDots position) := by
  unfold emitClosedDots
  infer_instance

instance (obsolete : Bool) : Leaves (rangeDots obsolete) := by
  unfold rangeDots
  infer_instance

instance : Leaves g.patternRangeEnd := by
  unfold patternRangeEnd
  infer_instance

instance : Leaves g.patternRangeBehind := by
  unfold patternRangeBehind
  infer_instance

instance : Leaves g.patternRangeFront := by
  unfold patternRangeFront
  infer_instance

instance : Leaves g.pathPattern := by
  unfold pathPattern
  infer_instance

instance : Leaves g.namePattern := by
  unfold namePattern
  infer_instance

instance : Leaves g.patternRule := by
  unfold patternRule
  infer_instance

instance : Leaves g.patternsRule := by
  unfold patternsRule
  infer_instance

/-! ## Expressions -/

instance (structs : Bool) : Leaves (g.rangeBehind structs) := by
  unfold rangeBehind
  infer_instance

instance (structs : Bool) (base : Precedence) (left : ExpressionForm) :
    Leaves (g.operatorsRule structs base left) := by
  unfold operatorsRule
  refine loop_leaves fun left => Leaves.ite inferInstance ?_
  refine Leaves.bind inferInstance fun ts => ?_
  dsimp only
  split <;> infer_instance

instance (structs : Bool) (precedence : Precedence) :
    Leaves (g.operandRule structs precedence) := by
  unfold operandRule
  infer_instance

instance (structs : Bool) : Leaves (g.expressionRule structs) := by
  unfold expressionRule
  infer_instance

instance : Leaves g.conditional := by
  unfold conditional
  infer_instance

instance : Leaves g.whileLoop := by
  unfold whileLoop
  infer_instance

instance : Leaves g.forLoop := by
  unfold forLoop
  infer_instance

instance : Leaves g.endlessLoop := by
  unfold endlessLoop
  infer_instance

instance : Leaves g.selection := by
  unfold selection
  infer_instance

instance : Leaves g.labelled := by
  unfold labelled
  infer_instance

instance (text : String) : Leaves (g.markedBlock text) := by
  unfold markedBlock
  infer_instance

instance : Leaves g.tryBlock := by
  unfold tryBlock
  infer_instance

instance : Leaves g.asyncBlock := by
  unfold asyncBlock
  infer_instance

instance : Leaves g.closureArgument := by
  unfold closureArgument
  infer_instance

instance (structs : Bool) : Leaves (g.closure structs) := by
  unfold closure
  infer_instance

instance (structs : Bool) : Leaves (g.breakOut structs) := by
  unfold breakOut
  infer_instance

instance (text : String) : Leaves (g.jump text) := by
  unfold jump
  infer_instance

instance : Leaves g.tailCall := by
  unfold tailCall
  infer_instance

instance (structs : Bool) : Leaves (g.bindingCondition structs) := by
  unfold bindingCondition
  infer_instance

instance (structs : Bool) : Leaves (g.pathExpression structs) := by
  unfold pathExpression
  infer_instance

instance : Leaves g.parenthesized := by
  unfold parenthesized
  infer_instance

instance : Leaves g.array := by
  unfold array
  infer_instance

instance : Leaves literalExpression := by
  unfold literalExpression
  refine Leaves.bind inferInstance fun (position, value) => ?_
  cases value <;> infer_instance

instance (structs : Bool) : Leaves (g.atom structs) := by
  unfold atom
  infer_instance

instance : Leaves fractionIndices := by
  unfold fractionIndices
  refine Leaves.bind inferInstance fun ts => ?_
  split
  · split
    · split <;> infer_instance
    · infer_instance
  · infer_instance

instance : Leaves g.arguments := by
  unfold arguments
  infer_instance

instance : Leaves g.access := by
  unfold access
  infer_instance

instance (form : ExpressionForm) : Leaves (g.postfixOperators form) := by
  unfold postfixOperators
  infer_instance

instance (structs : Bool) : Leaves (g.unaryRule structs) := by
  unfold unaryRule
  refine Leaves.bind inferInstance fun attributes => ?_
  refine Leaves.bind inferInstance fun isReference => Leaves.ite inferInstance ?_
  refine Leaves.bind inferInstance fun isNegation => Leaves.ite inferInstance ?_
  refine Leaves.bind inferInstance fun isMarked => Leaves.ite inferInstance ?_
  refine Leaves.bind inferInstance fun atom => ?_
  refine Leaves.bind inferInstance fun form => ?_
  cases form <;> infer_instance

instance : Leaves g.earlyAtom := by
  unfold earlyAtom
  infer_instance

instance : Leaves g.statementExpressionRule := by
  unfold statementExpressionRule
  infer_instance

/-! ## Statements -/

instance : Leaves macroBang := by
  unfold macroBang
  infer_instance

instance : Leaves g.binding := by
  unfold binding
  infer_instance

instance : Leaves macroStatement := by
  unfold macroStatement
  infer_instance

instance : Leaves g.statement := by
  unfold statement
  infer_instance

instance : Leaves g.statementsRule := by
  unfold statementsRule
  infer_instance

/-! ## Functions -/

instance (safeAllowed : Bool) : Leaves (functionQualifiers safeAllowed) := by
  unfold functionQualifiers
  infer_instance

instance (safeAllowed : Bool) : Leaves (signatureAhead safeAllowed) := by
  unfold signatureAhead
  infer_instance

instance (safeAllowed : Bool) : Leaves (g.signature safeAllowed) := by
  unfold signature
  infer_instance

/-! ## Declarations -/

instance : Leaves visibility := by
  unfold visibility
  refine Leaves.bind inferInstance fun isPublic => Leaves.ite ?_ inferInstance
  refine Leaves.bind inferInstance fun ts => ?_
  dsimp only
  split <;> infer_instance

instance : Leaves g.namedFieldsRule := by
  unfold namedFieldsRule
  infer_instance

instance : Leaves g.plainFields := by
  unfold plainFields
  infer_instance

instance : Leaves g.structBody := by
  unfold structBody
  infer_instance

instance : Leaves g.enumBody := by
  unfold enumBody
  infer_instance

instance : Leaves g.unionBody := by
  unfold unionBody
  infer_instance

instance (text : String) {body : Parser Unit} [Leaves body] :
    Leaves (g.declaration text body) := by
  unfold declaration
  infer_instance

/-! ## Members -/

instance (place : ClausePlace) : Leaves (g.typeAlias place) := by
  unfold typeAlias
  infer_instance

instance : Leaves g.constant := by
  unfold constant
  infer_instance

instance (member : Parser Bool) : Leaves (g.members member) := by
  unfold members
  infer_instance

/-! ## Items -/

instance : Leaves g.useItem := by
  unfold useItem
  infer_instance

instance : Leaves g.functionItem := by
  unfold functionItem
  infer_instance

instance : Leaves externCrate := by
  unfold externCrate
  infer_instance

instance (isVisible : Bool) (position : Position) : Leaves (g.foreignBlock isVisible position) := by
  unfold foreignBlock
  infer_instance

instance : Leaves g.staticItem := by
  unfold staticItem
  infer_instance

instance : Leaves g.moduleItem := by
  unfold moduleItem
  infer_instance

instance : Leaves g.traitBody := by
  unfold traitBody
  infer_instance

instance : Leaves g.traitItem := by
  unfold traitItem
  infer_instance

instance (isVisible : Bool) : Leaves (g.implementationHeader isVisible) := by
  unfold implementationHeader
  infer_instance

instance (isVisible : Bool) : Leaves (g.implementation isVisible) := by
  unfold implementation
  infer_instance

instance : Leaves macroDefinition := by
  unfold macroDefinition
  infer_instance

instance : Leaves macroItem := by
  unfold macroItem
  infer_instance

instance (isVisible : Bool) (position : Position) : Leaves (g.externItem isVisible position) := by
  unfold externItem
  infer_instance

instance (isVisible : Bool) (position : Position) : Leaves (g.unsafeItem isVisible position) := by
  unfold unsafeItem
  infer_instance

instance (isVisible : Bool) (position : Position) : Leaves (g.itemBody isVisible position) := by
  unfold itemBody
  infer_instance

instance (attributes : List Attribute) : Leaves (g.itemBehindRule attributes) := by
  unfold itemBehindRule
  refine Leaves.bind inferInstance fun position => ?_
  refine Leaves.bind inferInstance fun isVisible => ?_
  refine Leaves.bind inferInstance fun item? => ?_
  split <;> infer_instance

instance : Leaves g.itemRule := by
  unfold itemRule
  refine Leaves.bind inferInstance fun before => ?_
  refine Leaves.bind inferInstance fun (item?, normal) => ?_
  cases item? with
  | none => infer_instance
  | some item =>
    refine Leaves.bind inferInstance fun _ => ?_
    cases item <;> infer_instance

theorem rule_leaves (construct : Nonterminal) : Leaves (rule g construct) := by
  cases construct with
  | expression structs => exact inferInstanceAs (Leaves (g.expressionRule structs))
  | unary structs => exact inferInstanceAs (Leaves (g.unaryRule structs))
  | operators structs base left =>
    exact inferInstanceAs (Leaves (g.operatorsRule structs base left))
  | operand structs precedence => exact inferInstanceAs (Leaves (g.operandRule structs precedence))
  | statementExpression => exact inferInstanceAs (Leaves g.statementExpressionRule)
  | statements => exact inferInstanceAs (Leaves g.statementsRule)
  | type plus => exact inferInstanceAs (Leaves (g.typeRule plus))
  | bound capture constant => exact inferInstanceAs (Leaves (g.boundRule capture constant))
  | pattern => exact inferInstanceAs (Leaves g.patternRule)
  | patterns => exact inferInstanceAs (Leaves g.patternsRule)
  | namedFields => exact inferInstanceAs (Leaves g.namedFieldsRule)
  | item => exact inferInstanceAs (Leaves g.itemRule)
  | itemBehind attributes => exact inferInstanceAs (Leaves (g.itemBehindRule attributes))
  | useTree root => exact inferInstanceAs (Leaves (g.useTreeRule root))

end Rules

instance rules_leave (depth : Nat) : RulesLeave (rules depth) := by
  induction depth with
  | zero => exact ⟨fun _ => Leaves.bind inferInstance fun _ => inferInstance⟩
  | succ depth ih => exact ⟨fun construct => Rules.rule_leaves construct⟩

end ReceiverLoader.Grammar
