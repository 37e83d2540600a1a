import ReceiverLoader.Proofs.Grammar.Types

/-!
# The rules of expressions and statements

What expressions and statements are read as does not depend on positions, and a greater depth makes
no difference to it.
-/

namespace ReceiverLoader.Grammar

open Token (Position Tree Delimiter)
open Grammar.Parser

set_option synthInstance.maxSize 1000000000

/-! ## Forms -/

namespace ExpressionForm

variable {form form' : ExpressionForm}

theorem isRange_eq (h : Alike form form') : form.isRange = form'.isRange := by
  obtain ⟨h⟩ := h
  cases h <;> rfl

/-- A form without positions is told from others alike. -/
theorem beq_eq (h : Alike form form') :
    (form == .comparison) = (form' == .comparison) ∧ (form == .block) = (form' == .block) ∧
      (form == .bracedCall) = (form' == .bracedCall) ∧
      (form == .verbatim) = (form' == .verbatim) := by
  obtain ⟨h⟩ := h
  cases h <;> exact ⟨rfl, rfl, rfl, rfl⟩

theorem needsComma_eq (h : Alike form form') : form.needsComma = form'.needsComma :=
  congrArg (!·) (beq_eq h).2.1

theorem needsSemicolon_eq (h : Alike form form') : form.needsSemicolon = form'.needsSemicolon := by
  obtain ⟨-, hblock, hcall, -⟩ := beq_eq h
  unfold needsSemicolon
  rw [bne, bne, bne, bne, hblock, hcall]

end ExpressionForm

namespace Rules

variable {g g' : Rules} [hg : RulesRefine g g']

/-! ## Binary operators -/

theorem binaryOperator?_eq {ts us : List Tree} (h : Alike ts us) :
    binaryOperator? ts = binaryOperator? us := by
  have hmark : ∀ text, Ahead.mark text ts = Ahead.mark text us :=
    fun text => Ahead.Blind.eq h
  unfold binaryOperator?
  simp only [hmark]

instance : Ahead.Blind assignmentAhead := inferInstanceAs (Ahead.Blind (Ahead.markBut _ _))

theorem precedenceAhead_eq {ts us : List Tree} (h : Alike ts us) :
    precedenceAhead ts = precedenceAhead us := by
  have hassignment : assignmentAhead ts = assignmentAhead us := Ahead.Blind.eq h
  have hdots : Ahead.mark ".." ts = Ahead.mark ".." us := Ahead.Blind.eq h
  have has : Ahead.keyword "as" ts = Ahead.keyword "as" us := Ahead.Blind.eq h
  unfold precedenceAhead
  rw [binaryOperator?_eq h, hassignment, hdots, has]

instance : Ahead.Blind castEndAhead := by
  unfold castEndAhead
  infer_instance

instance (structs : Bool) : Ahead.Blind (rangeOverAhead structs) := by
  unfold rangeOverAhead
  infer_instance

instance : Ahead.Blind expressionAhead := by
  unfold expressionAhead
  infer_instance

instance (structs : Bool) : Refines (g.rangeBehind structs) (g'.rangeBehind structs) := by
  unfold rangeBehind
  infer_instance

instance (structs : Bool) (base : Precedence) {left left' : ExpressionForm}
    [hleft : Alike left left'] :
    Refines (g.operatorsRule structs base left) (g'.operatorsRule structs base left') := by
  unfold operatorsRule
  refine loop_refines (fun left left' hleft => ?_) (fun _ _ h => h) hleft
  rw [ExpressionForm.isRange_eq hleft, (ExpressionForm.beq_eq hleft).1]
  refine Refines.ite Iff.rfl inferInstance ?_
  refine Refines.bind inferInstance fun ts us hts => ?_
  rw [binaryOperator?_eq hts]
  cases binaryOperator? us with
  | none =>
    have hrange :
        Refines (do return .again (← g.rangeBehind structs))
          (do return .again (← g'.rangeBehind structs) :
            Parser (Turn ExpressionForm ExpressionForm)) :=
      Refines.bind inferInstance fun _ _ _ => inferInstance
    dsimp only
    infer_instance
  | some o =>
    obtain ⟨operator, precedence⟩ := o
    dsimp only
    infer_instance

instance (structs : Bool) (precedence : Precedence) :
    Refines (g.operandRule structs precedence) (g'.operandRule structs precedence) := by
  unfold operandRule
  refine Refines.bind inferInstance fun first first' hfirst => ?_
  refine loop_refines (fun left left' hleft => ?_) (fun _ _ h => h) hfirst
  refine Refines.bind inferInstance fun before before' hbefore => ?_
  rw [precedenceAhead_eq hbefore, hbefore.length_eq]
  refine Refines.ite Iff.rfl ?_ inferInstance
  refine Refines.bind inferInstance fun left left' hleft => ?_
  refine Refines.bind inferInstance fun ts us hts => ?_
  rw [hts.length_eq]
  infer_instance

instance (structs : Bool) : Refines (g.expressionRule structs) (g'.expressionRule structs) := by
  unfold expressionRule
  exact Refines.bind inferInstance fun _ _ _ => inferInstance

/-! ## Blocks and control flow -/

instance : Refines g.conditional g'.conditional := by
  unfold conditional
  infer_instance

instance : Refines g.whileLoop g'.whileLoop := by
  unfold whileLoop
  infer_instance

instance : Refines g.forLoop g'.forLoop := by
  unfold forLoop
  infer_instance

instance : Refines g.endlessLoop g'.endlessLoop := by
  unfold endlessLoop
  infer_instance

instance : Refines g.arm g'.arm := by
  unfold arm
  refine Refines.bind inferInstance fun _ _ _ => ?_
  refine Refines.bind inferInstance fun _ _ _ => ?_
  refine Refines.bind inferInstance fun a _ ha => ha.eq ▸ ?_
  -- A condition or none, both ways go on alike.
  refine Refines.ite Iff.rfl (Refines.bind inferInstance fun _ _ _ => ?_) ?_ <;>
    refine Refines.bind inferInstance fun _ _ _ => ?_ <;>
    refine Refines.bind inferInstance fun body body' hbody => ?_ <;>
    rw [ExpressionForm.needsComma_eq hbody] <;>
    infer_instance

instance : Refines g.selection g'.selection := by
  unfold selection
  infer_instance

instance : Refines g.labelled g'.labelled := by
  unfold labelled
  dsimp only
  infer_instance

instance (text : String) : Refines (g.markedBlock text) (g'.markedBlock text) := by
  unfold markedBlock
  infer_instance

instance : Refines g.tryBlock g'.tryBlock := by
  unfold tryBlock
  infer_instance

instance : Refines g.asyncBlock g'.asyncBlock := by
  unfold asyncBlock
  infer_instance

instance : Refines g.closureArgument g'.closureArgument := by
  unfold closureArgument
  infer_instance

instance (structs : Bool) : Refines (g.closure structs) (g'.closure structs) := by
  unfold closure
  infer_instance

instance (structs : Bool) : Refines (g.breakOut structs) (g'.breakOut structs) := by
  unfold breakOut
  dsimp only
  infer_instance

instance (text : String) : Refines (g.jump text) (g'.jump text) := by
  unfold jump
  dsimp only
  infer_instance

instance : Refines g.tailCall g'.tailCall := by
  unfold tailCall
  infer_instance

instance (structs : Bool) : Refines (g.bindingCondition structs) (g'.bindingCondition structs) := by
  unfold bindingCondition
  refine Refines.bind inferInstance fun _ _ _ => ?_
  refine Refines.bind inferInstance fun _ _ _ => ?_
  refine Refines.bind inferInstance fun _ _ _ => ?_
  exact Refines.bind inferInstance fun _ _ _ => inferInstance

/-! ## Atoms -/

instance : Refines g.fieldValue g'.fieldValue := by
  unfold fieldValue
  infer_instance

instance : Refines g.fieldValues g'.fieldValues := by
  unfold fieldValues
  dsimp only
  infer_instance

instance (structs : Bool) : Refines (g.pathExpression structs) (g'.pathExpression structs) := by
  unfold pathExpression
  dsimp only
  infer_instance

instance : Refines g.furtherExpressions g'.furtherExpressions := by
  unfold furtherExpressions
  infer_instance

instance : Refines g.parenthesized g'.parenthesized := by
  unfold parenthesized
  infer_instance

instance : Refines g.array g'.array := by
  unfold array
  infer_instance

instance : Refines literalExpression literalExpression := by
  unfold literalExpression
  refine Refines.bind inferInstance fun (p, value) (q, value') h => ?_
  obtain rfl : value = value' := h.like.2
  cases value <;> infer_instance

instance : Ahead.Blind closureAhead := by
  unfold closureAhead
  infer_instance

instance : Ahead.Blind pathAhead := by
  unfold pathAhead
  infer_instance

instance (structs : Bool) : Refines (g.atom structs) (g'.atom structs) := by
  unfold atom
  dsimp only
  infer_instance

/-! ## Prefix and postfix operators -/

theorem intersperse_alike {dot dot' : Tree} (hdot : Alike dot dot') {ts us : List Tree}
    (h : Alike ts us) : Alike (ts.intersperse dot) (us.intersperse dot') := by
  obtain ⟨h⟩ := h
  induction h with
  | nil =>
    rw [List.intersperse_nil, List.intersperse_nil]
    infer_instance
  | @cons t u ts us htu hts ih =>
    have htu : Alike t u := ⟨htu⟩
    cases hts with
    | nil => exact inferInstanceAs (Alike [t] [u])
    | cons => exact inferInstanceAs (Alike (_ :: _ :: _) (_ :: _ :: _))

instance : Refines fractionIndices fractionIndices := by
  unfold fractionIndices
  refine Refines.bind inferInstance fun ts us h => ?_
  cases h.front with
  | literal p q text =>
    dsimp only
    cases Token.Literal.ofWritten text with
    | fraction =>
      dsimp only
      cases indices? text with
      | none => infer_instance
      | some indices =>
        have hdot : Alike (Tree.leaf p (.mark '.' false)) (.leaf q (.mark '.' false)) :=
          inferInstance
        have hindices : Alike (indices.map (indexTree p)) (indices.map (indexTree q)) :=
          ⟨List.forall₂_map_left_iff.mpr <| List.forall₂_map_right_iff.mpr <|
            List.forall₂_same.mpr fun _ _ => Alike.like⟩
        have hdotted := intersperse_alike hdot hindices
        dsimp only
        infer_instance
    | _ => infer_instance
  | _ => infer_instance

instance : Refines g.arguments g'.arguments := by
  unfold arguments
  infer_instance

instance : Refines g.access g'.access := by
  unfold access
  infer_instance

instance {form form' : ExpressionForm} [hform : Alike form form'] :
    Refines (g.postfixOperators form) (g'.postfixOperators form') := by
  unfold postfixOperators
  refine loop_refines (fun form form' hform => ?_) (fun _ _ h => h) hform
  rw [ExpressionForm.isRange_eq hform]
  infer_instance

instance (structs : Bool) : Refines (g.unaryRule structs) (g'.unaryRule structs) := by
  unfold unaryRule
  refine Refines.bind inferInstance fun attributes attributes' hattributes => ?_
  refine Refines.bind inferInstance fun a _ ha => ha.eq ▸ ?_
  refine Refines.ite Iff.rfl inferInstance ?_
  refine Refines.bind inferInstance fun a _ ha => ha.eq ▸ ?_
  refine Refines.ite Iff.rfl (Refines.bind inferInstance fun _ _ _ => inferInstance) ?_
  refine Refines.bind inferInstance fun a _ ha => ha.eq ▸ ?_
  refine Refines.ite Iff.rfl inferInstance ?_
  refine Refines.bind inferInstance fun form form' hform => ?_
  refine Refines.bind inferInstance fun form form' hform => ?_
  rw [hattributes.isEmpty_eq]
  obtain ⟨hform⟩ := id hform
  cases hform <;> infer_instance

instance : Refines g.earlyAtom g'.earlyAtom := by
  unfold earlyAtom
  infer_instance

instance : Refines g.statementExpressionRule g'.statementExpressionRule := by
  unfold statementExpressionRule
  refine Refines.bind inferInstance fun _ _ _ => ?_
  refine Refines.bind inferInstance fun form form' hform => ?_
  rw [bne, bne, (ExpressionForm.beq_eq hform).2.1]
  refine Refines.ite Iff.rfl inferInstance ?_
  refine Refines.bind inferInstance fun a _ ha => ha.eq ▸ ?_
  exact Refines.ite Iff.rfl (Refines.bind inferInstance fun _ _ _ => inferInstance) inferInstance

/-! ## Statements -/

instance : Refines macroBang macroBang := by
  unfold macroBang
  refine Refines.bind inferInstance fun ts? us? h => ?_
  have hbang : ∀ ts us, Alike ts us → Ahead.mark "!" ts = Ahead.mark "!" us :=
    fun _ _ => Ahead.Blind.eq
  obtain ⟨h⟩ := h
  cases h with
  | none => infer_instance
  | @some ts us hts =>
    have hts : Alike ts us := ⟨hts⟩
    rw [Option.filter_some, Option.filter_some, hbang ts us hts]
    infer_instance

theorem isSome_eq {α : Type} [Likeness α] {a? b? : Option α} (h : Alike a? b?) :
    a?.isSome = b?.isSome := by
  obtain ⟨h⟩ := h
  cases h <;> rfl

theorem any_eq {test : Ahead} [ht : Ahead.Blind test] {ts? us? : Option (List Tree)}
    (h : Alike ts? us?) : ts?.any test = us?.any test := by
  obtain ⟨h⟩ := h
  cases h with
  | none => rfl
  | some hts => exact ht.eq ⟨hts⟩

instance : Ahead.Blind definesItem := inferInstanceAs (Ahead.Blind (Ahead.second _))

instance : Ahead.Blind isMacroStatement := by
  unfold isMacroStatement
  infer_instance

instance : Ahead.Blind itemAhead := by
  unfold itemAhead
  dsimp only
  infer_instance

instance : Refines g.binding g'.binding := by
  unfold binding
  infer_instance

instance : Refines macroStatement macroStatement := by
  unfold macroStatement
  infer_instance

instance : Refines g.statement g'.statement := by
  unfold statement
  refine Refines.bind inferInstance fun before before' hbefore => ?_
  refine Refines.bind inferInstance fun (attributes, ts) (attributes', us) h => ?_
  have hattributes : Alike attributes attributes' := ⟨h.like.1⟩
  have hts : Alike ts us := ⟨h.like.2⟩
  refine Refines.bind inferInstance fun bang? bang?' hbang => ?_
  rw [any_eq hbang, any_eq hbang]
  refine Refines.ite Iff.rfl inferInstance ?_
  refine Refines.bind inferInstance fun a _ ha => ha.eq ▸ ?_
  refine Refines.ite Iff.rfl inferInstance ?_
  refine Refines.bind inferInstance fun a _ ha => ha.eq ▸ ?_
  refine Refines.ite Iff.rfl ?_ ?_
  · refine Refines.bind inferInstance fun (item?, normal) (item?', normal') h => ?_
    have hnormal : Alike normal normal' := ⟨h.like.2⟩
    dsimp only
    rw [isSome_eq ⟨h.like.1⟩]
    infer_instance
  · refine Refines.bind inferInstance fun (form, normal) (form', normal') h => ?_
    have hform : Alike form form' := ⟨h.like.1⟩
    have hnormal : Alike normal normal' := ⟨h.like.2⟩
    dsimp only
    rw [(ExpressionForm.beq_eq hform).2.2.2, ExpressionForm.needsSemicolon_eq hform]
    infer_instance

instance : Refines g.statementsRule g'.statementsRule := by
  unfold statementsRule
  infer_instance

end Rules

end ReceiverLoader.Grammar
