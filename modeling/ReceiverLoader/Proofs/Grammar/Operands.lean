import ReceiverLoader.Proofs.Grammar.Attributed
import ReceiverLoader.Proofs.Grammar.Gives

/-!
# Integers and negations

What is read as an integer literal or as a negation, and what a literal is read as that ends a
member of a list.

* `outerAttributes_eq_ok`: behind outer attributes stand the trees that `behindAttributes` gives.
* `Rules.unaryRule_eq_ok`: what is read as an integer or as a negation is spelled as one.
* `Rules.operatorsRule_eq_ok`: with an operator behind it, an expression is neither.
* `Rules.unaryRule_literal`: a literal at the end of a member is read as itself.
-/

namespace ReceiverLoader.Grammar

open Token (Position Tree Delimiter Literal)
open Grammar.Parser

set_option synthInstance.maxSize 1000000000

variable {scopeEnd : Position} {s s' : Progress} {form : ExpressionForm}

/-! ## Attributes -/

/-- The trees behind the outer attributes in front of them. -/
def behindAttributes : List Tree → List Tree
  | .leaf _ (.mark '#' _) :: .group _ _ .bracket _ :: ts => behindAttributes ts
  | ts => ts

theorem behindAttributes_of_not {ts : List Tree} (h : Ahead.mark "#" ts = false) :
    behindAttributes ts = ts := by
  unfold behindAttributes
  split
  · cases h
  · rfl

/-- Behind the outer attributes that are read stand the trees behind attributes. -/
theorem outerAttributes_eq_ok {g : Rules} {as : List Attribute}
    (h : g.outerAttributes scopeEnd s = .ok (as, s')) : s'.trees = behindAttributes s.trees := by
  obtain ⟨n, hn⟩ : ∃ n, s.trees.length = n := ⟨_, rfl⟩
  induction n using Nat.strongRecOn generalizing s as with
  | ind n ih =>
    unfold Rules.outerAttributes at h
    cases hmark : Ahead.mark "#" s.trees with
    | false =>
      rw [manyWhile_of_not _ hmark] at h
      cases h
      exact (behindAttributes_of_not hmark).symm
    | true =>
      cases hread : g.outerAttribute scopeEnd s with
      | error e =>
        rw [manyWhile_apply, loopFor_apply, whileTurn_apply, if_pos hmark, hread] at h
        cases h
      | ok r =>
        obtain ⟨a, s₁⟩ := r
        obtain ⟨p, joint, opens, closes, body, hs⟩ := outerAttribute_eq_ok hread
        rw [manyWhile_cons (outerAttribute_consumes g) hmark hread] at h
        cases hrest : g.outerAttributes scopeEnd s₁ with
        | error e =>
          rw [← Rules.outerAttributes, hrest] at h
          cases h
        | ok r =>
          obtain ⟨as', s₂⟩ := r
          rw [← Rules.outerAttributes, hrest] at h
          cases h
          have hless : s₁.trees.length < n := by
            rw [← hn, hs, List.length_cons, List.length_cons]
            omega
          rw [ih _ hless hrest rfl, hs, behindAttributes]

/-! ## Forms -/

namespace ExpressionForm

/-- The form of the literal at `position` that is written so. -/
def ofLiteral (position : Position) (written : String) : ExpressionForm :=
  match Literal.ofWritten written with
  | .integer value _ => integer position value
  | _ => other

theorem ofLiteral_eq_integer {p q : Position} {w : String} {value : Nat} :
    ofLiteral q w = integer p value ↔
      q = p ∧ ∃ suffix, Literal.ofWritten w = .integer value suffix := by
  unfold ofLiteral
  cases Literal.ofWritten w with
  | integer value' suffix =>
    constructor
    · intro h
      cases h
      exact ⟨rfl, suffix, rfl⟩
    · rintro ⟨rfl, _, h⟩
      cases h
      rfl
  | _ => exact ⟨nofun, fun ⟨_, _, h⟩ => nomatch h⟩

theorem negation_ne_ofLiteral (operand : ExpressionForm) (p : Position) (w : String) :
    negation operand ≠ ofLiteral p w := by
  unfold ofLiteral
  split <;> nofun

/-- The expression is no integer literal and no negation. -/
def IsNoInteger : ExpressionForm → Prop
  | integer .. => False
  | negation _ => False
  | _ => True

end ExpressionForm

open ExpressionForm (IsNoInteger)

/-- Whether a member of a list separated by commas ends. -/
def memberEnd : Ahead := Ahead.nothing.or (Ahead.mark ",")

theorem memberEnd_cases {ts : List Tree} (h : memberEnd ts = true) :
    ts = [] ∨ ∃ p joint rest, ts = .leaf p (.mark ',' joint) :: rest := by
  obtain hnothing | hcomma := (Bool.or_eq_true ..).mp h
  · exact .inl (List.isEmpty_iff.mp hnothing)
  · exact .inr (Ahead.markOf_singleton hcomma)

/-- Only the next tree says whether a member ends. -/
theorem memberEnd_cons (t : Tree) (ts us : List Tree) :
    memberEnd (t :: ts) = memberEnd (t :: us) := by
  cases t with
  | leaf p l => cases l <;> rfl
  | group => rfl

namespace Rules

variable {g : Rules} {structs : Bool}

/-! ## What is no literal -/

instance : Gives IsNoInteger (pure .other : Parser ExpressionForm) := Gives.pure trivial

instance : Gives IsNoInteger (pure .block : Parser ExpressionForm) := Gives.pure trivial

instance : Gives IsNoInteger (pure .bracedCall : Parser ExpressionForm) := Gives.pure trivial

instance : Gives IsNoInteger (pure .verbatim : Parser ExpressionForm) := Gives.pure trivial

instance {c : Prop} [Decidable c] {form form' : ExpressionForm}
    [h : Gives IsNoInteger (pure form : Parser _)]
    [h' : Gives IsNoInteger (pure form' : Parser _)] :
    Gives IsNoInteger (pure (if c then form else form') : Parser ExpressionForm) := by
  split <;> assumption

instance (position : Position) :
    Gives IsNoInteger (pure (.range position) : Parser ExpressionForm) := Gives.pure trivial

instance : Gives IsNoInteger g.asyncBlock := by
  unfold asyncBlock
  infer_instance

instance : Gives IsNoInteger g.tryBlock := by
  unfold tryBlock
  infer_instance

instance : Gives IsNoInteger (g.closure structs) := by
  unfold closure
  infer_instance

instance : Gives IsNoInteger (g.pathExpression structs) := by
  unfold pathExpression
  infer_instance

instance : Gives IsNoInteger g.parenthesized := by
  unfold parenthesized
  infer_instance

instance : Gives IsNoInteger (g.breakOut structs) := by
  unfold breakOut
  infer_instance

instance (text : String) : Gives IsNoInteger (g.jump text) := by
  unfold jump
  infer_instance

instance : Gives IsNoInteger g.tailCall := by
  unfold tailCall
  infer_instance

instance : Gives IsNoInteger g.array := by
  unfold array
  infer_instance

instance : Gives IsNoInteger (g.bindingCondition structs) := by
  unfold bindingCondition
  infer_instance

instance (text : String) : Gives IsNoInteger (g.markedBlock text) := by
  unfold markedBlock
  infer_instance

instance : Gives IsNoInteger (g.rangeBehind structs) := by
  unfold rangeBehind
  infer_instance

instance : Gives IsNoInteger g.labelled := by
  unfold labelled
  infer_instance

/-! ## Literals -/

theorem literal_apply (p : Position) (w : String) (ts : List Tree) (stray : Option Stray)
    (written : List Tree) :
    literal scopeEnd ⟨.leaf p (.literal w) :: ts, stray, written⟩ =
      .ok ((p, Literal.ofWritten w), ⟨ts, stray, .leaf p (.literal w) :: written⟩) := rfl

theorem literalExpression_apply (p : Position) (w : String) (ts : List Tree)
    (stray : Option Stray) (written : List Tree) :
    literalExpression scopeEnd ⟨.leaf p (.literal w) :: ts, stray, written⟩ =
      .ok (.ofLiteral p w, ⟨ts, stray, .leaf p (.literal w) :: written⟩) := by
  unfold literalExpression ExpressionForm.ofLiteral
  rw [bind_of_ok (literal_apply p w ts stray written)]
  cases Literal.ofWritten w <;> rfl

/-- An integer is spelled by one token. -/
theorem literal?_eq_integer {ts : List Tree} {p : Position} {value : Nat} {suffix : String}
    {count : Nat} (h : Ahead.literal? ts = some (p, .integer value suffix, count)) :
    ∃ w rest, ts = .leaf p (.literal w) :: rest := by
  unfold Ahead.literal? at h
  split at h
  · obtain ⟨rfl, -⟩ := Prod.mk.inj (Option.some.inj h)
    exact ⟨_, _, rfl⟩
  · split at h <;> cases h
  · split at h <;> cases h
  · cases h

theorem literalExpression_eq_ok (h : literalExpression scopeEnd s = .ok (form, s')) :
    IsNoInteger form ∨
      ∃ p w, s.trees = .leaf p (.literal w) :: s'.trees ∧ form = .ofLiteral p w := by
  have htrees : trees scopeEnd s = .ok (s.trees, s) := rfl
  obtain ⟨⟨p, value⟩, s₁, hliteral, hform⟩ := bind_eq_ok.mp h
  cases value with
  | text | fraction | other =>
    cases hform
    exact .inl trivial
  | integer value suffix =>
    unfold literal at hliteral
    rw [bind_of_ok htrees] at hliteral
    cases hnext : Ahead.literal? s.trees with
    | none =>
      rw [hnext] at hliteral
      exact absurd hliteral want_ne_ok
    | some r =>
      obtain ⟨_, _, count⟩ := r
      rw [hnext] at hliteral
      obtain ⟨_, s₂, -, hpure⟩ := bind_eq_ok.mp hliteral
      cases hpure
      obtain ⟨w, rest, hs⟩ := literal?_eq_integer hnext
      obtain ⟨ts, stray, written⟩ := s
      cases hs
      rw [literalExpression_apply] at h
      cases h
      exact .inr ⟨p, w, rfl, rfl⟩

/-- What is read as an integer or a negation without prefix operators is a literal. -/
theorem atom_eq_ok (h : g.atom structs scopeEnd s = .ok (form, s')) :
    IsNoInteger form ∨
      ∃ p w, s.trees = .leaf p (.literal w) :: s'.trees ∧ form = .ofLiteral p w := by
  unfold atom at h
  rw [bind_of_ok (ahead_apply ..), ite_apply] at h
  by_cases hliteral : Ahead.literal s.trees = true
  · rw [if_pos hliteral] at h
    exact literalExpression_eq_ok h
  · rw [if_neg hliteral] at h
    exact .inl (Gives.of_ok h)

theorem atom_literal (p : Position) (w : String) (ts : List Tree) (stray : Option Stray)
    (written : List Tree) :
    g.atom structs scopeEnd ⟨.leaf p (.literal w) :: ts, stray, written⟩ =
      .ok (.ofLiteral p w, ⟨ts, stray, .leaf p (.literal w) :: written⟩) := by
  have hliteral : Ahead.literal (.leaf p (.literal w) :: ts) = true := rfl
  unfold atom
  rw [bind_of_ok (ahead_apply ..), ite_apply, if_pos hliteral, literalExpression_apply]

/-! ## Operators -/

/-- A turn that goes on from the expression `form` has made it no integer, and one that ends has
read nothing. -/
def Turn.Extends (form : ExpressionForm) (s s' : Progress) :
    Turn ExpressionForm ExpressionForm → Prop
  | .done form' => form' = form ∧ s' = s
  | .again form' => IsNoInteger form'

/-- A loop of such turns reads nothing, or gives no integer. -/
theorem loop_extends {turn : ExpressionForm → Parser (Turn ExpressionForm ExpressionForm)}
    (hturn : ∀ form s t s', turn form scopeEnd s = .ok (t, s') → Turn.Extends form s s' t)
    {form' : ExpressionForm} (h : loop turn id form scopeEnd s = .ok (form', s')) :
    IsNoInteger form' ∨ form' = form ∧ s' = s := by
  have hfor (bound : List Tree) :
      ∀ form s, loopFor turn id bound form scopeEnd s = .ok (form', s') →
        IsNoInteger form' ∨ form' = form ∧ s' = s := by
    induction bound with
    | nil =>
      intro form s h
      rw [loopFor_apply] at h
      split at h
      · rename_i hdone
        cases h
        exact .inr (hturn _ _ _ _ hdone)
      · rename_i hagain
        cases h
        exact .inl (hturn _ _ _ _ hagain)
      · cases h
    | cons b bound ih =>
      intro form s h
      rw [loopFor_apply] at h
      split at h
      · rename_i hdone
        cases h
        exact .inr (hturn _ _ _ _ hdone)
      · rename_i form₁ s₁ hagain
        have hno : IsNoInteger form₁ := hturn _ _ _ _ hagain
        obtain hform | ⟨rfl, -⟩ := ih form₁ s₁ h
        · exact .inl hform
        · exact .inl hno
      · cases h
  exact hfor s.trees form s h

instance : Gives (Turn.Extends form s s') (pure (.again .other) : Parser _) := Gives.pure trivial

instance (precedence : Precedence) :
    Gives (Turn.Extends form s s')
      (pure (.again (if precedence = .compare then .comparison else .other)) : Parser _) :=
  Gives.pure (by split <;> trivial)

instance :
    Gives (Turn.Extends form s s')
      (g.rangeBehind structs >>= fun form => pure (.again form) : Parser _) :=
  Gives.bind (Q := IsNoInteger) inferInstance fun _ hform => Gives.pure hform

theorem postfixOperators_eq_ok {form' : ExpressionForm}
    (h : g.postfixOperators form scopeEnd s = .ok (form', s')) :
    IsNoInteger form' ∨ form' = form ∧ s' = s := by
  refine loop_extends (fun form s t s' h => ?_) h
  rw [bind_of_ok (ahead_apply ..), ite_apply] at h
  split at h
  · exact Gives.of_ok h
  rw [bind_of_ok (ahead_apply ..), ite_apply] at h
  split at h
  · exact Gives.of_ok h
  rw [bind_of_ok (ahead_apply ..), ite_apply] at h
  split at h
  · exact Gives.of_ok h
  rw [bind_apply, markIf?_apply] at h
  split at h
  · rename_i hmark
    split at hmark
    · cases hmark
      cases h
      trivial
    · cases hmark
      cases h
      exact ⟨rfl, rfl⟩
  · cases h

theorem operatorsRule_eq_ok {base : Precedence} {form' : ExpressionForm}
    (h : g.operatorsRule structs base form scopeEnd s = .ok (form', s')) :
    IsNoInteger form' ∨ form' = form ∧ s' = s := by
  have htrees (s : Progress) : trees scopeEnd s = .ok (s.trees, s) := rfl
  refine loop_extends (fun form s t s' h => ?_) h
  rw [ite_apply] at h
  split at h
  · cases h
    exact ⟨rfl, rfl⟩
  rw [bind_of_ok (htrees s)] at h
  cases hoperator : binaryOperator? s.trees with
  | some o =>
    obtain ⟨operator, precedence⟩ := o
    rw [hoperator] at h
    dsimp only at h
    rw [ite_apply] at h
    split at h
    · cases h
      exact ⟨rfl, rfl⟩
    · exact Gives.of_ok h
  | none =>
    rw [hoperator] at h
    dsimp only at h
    rw [bind_of_ok (ahead_apply ..), ite_apply] at h
    split at h
    · exact Gives.of_ok h
    rw [bind_of_ok (ahead_apply ..), ite_apply] at h
    split at h
    · exact Gives.of_ok h
    rw [bind_of_ok (ahead_apply ..), ite_apply] at h
    split at h
    · exact Gives.of_ok h
    · cases h
      exact ⟨rfl, rfl⟩

/-! ## Operands with a sign -/

/-- What is read as an integer or a negation is spelled as a literal or behind a minus. -/
theorem unaryRule_eq_ok (h : g.unaryRule structs scopeEnd s = .ok (form, s')) :
    IsNoInteger form ∨
      (∃ p w, behindAttributes s.trees = .leaf p (.literal w) :: s'.trees ∧
        form = .ofLiteral p w) ∨
      ∃ p joint s₁ operand, behindAttributes s.trees = .leaf p (.mark '-' joint) :: s₁.trees ∧
        g.unary structs scopeEnd s₁ = .ok (operand, s') ∧ form = .negation operand := by
  obtain ⟨as, s₁, has, h⟩ := bind_eq_ok.mp h
  rw [← outerAttributes_eq_ok has]
  cases hand : Ahead.mark "&" s₁.trees with
  | true =>
    rw [bind_of_ok (mark?_of hand), if_pos rfl] at h
    exact .inl (Gives.of_ok h)
  | false =>
    rw [bind_of_ok (mark?_of_not hand), if_neg Bool.false_ne_true] at h
    cases hminus : Ahead.mark "-" s₁.trees with
    | true =>
      rw [bind_of_ok (mark?_of hminus), if_pos rfl] at h
      obtain ⟨operand, s₂, hread, h⟩ := bind_eq_ok.mp h
      cases h
      obtain ⟨p, joint, rest, hs₁⟩ := Ahead.markOf_singleton hminus
      refine .inr (.inr ⟨p, joint, _, operand, ?_, hread, rfl⟩)
      rw [Progress.past, hs₁]
      rfl
    | false =>
      rw [bind_of_ok (mark?_of_not hminus), if_neg Bool.false_ne_true,
        bind_of_ok (ahead_apply ..), ite_apply] at h
      split at h
      · exact .inl (Gives.of_ok h)
      obtain ⟨first, s₂, hatom, h⟩ := bind_eq_ok.mp h
      obtain ⟨last, s₃, hpostfix, h⟩ := bind_eq_ok.mp h
      cases last with
      | range position => exact .inl (Gives.of_ok h)
      | _ =>
        cases h
        obtain hno | ⟨rfl, rfl⟩ := postfixOperators_eq_ok hpostfix
        · exact .inl hno
        · exact (atom_eq_ok hatom).imp_right .inl

/-- Attributes make no difference to an expression that is no range. -/
theorem unaryRule_attributed {as as' : List Attribute} {s₁ : Progress}
    (has : g.outerAttributes scopeEnd s = .ok (as, s₁)) {t : Progress}
    (has' : g.outerAttributes scopeEnd t = .ok (as', s₁))
    (h : g.unaryRule structs scopeEnd s = .ok (form, s')) (hform : form.isRange = false) :
    g.unaryRule structs scopeEnd t = .ok (form, s') := by
  unfold unaryRule at h ⊢
  rw [bind_of_ok has] at h
  rw [bind_of_ok has']
  cases hand : Ahead.mark "&" s₁.trees with
  | true =>
    rw [bind_of_ok (mark?_of hand), if_pos rfl] at h ⊢
    exact h
  | false =>
    rw [bind_of_ok (mark?_of_not hand), if_neg Bool.false_ne_true] at h ⊢
    cases hminus : Ahead.mark "-" s₁.trees with
    | true =>
      rw [bind_of_ok (mark?_of hminus), if_pos rfl] at h ⊢
      exact h
    | false =>
      rw [bind_of_ok (mark?_of_not hminus), if_neg Bool.false_ne_true,
        bind_of_ok (ahead_apply ..), ite_apply] at h ⊢
      split at h
      · rw [if_pos ‹_›]
        exact h
      rw [if_neg ‹_›]
      obtain ⟨first, s₂, hatom, h⟩ := bind_eq_ok.mp h
      obtain ⟨last, s₃, hpostfix, h⟩ := bind_eq_ok.mp h
      rw [bind_of_ok hatom, bind_of_ok hpostfix]
      cases last with
      | range position =>
        have hrange : Gives (·.isRange = true) (do
            if !as.isEmpty then forbid position .attributeOnRange
            return .range position : Parser ExpressionForm) := by
          have : Gives (·.isRange = true) (pure (.range position) : Parser ExpressionForm) :=
            Gives.pure rfl
          infer_instance
        rw [hrange.of_ok h] at hform
        cases hform
      | _ => exact h

/-! ## Literals at the end of a list member -/

section MemberEnd

variable (hend : memberEnd s.trees = true)
include hend

theorem postfixOperators_end :
    g.postfixOperators form scopeEnd s = .ok (form, s) := by
  refine loop_of_done ?_
  obtain ⟨ts, stray, written⟩ := s
  obtain rfl | ⟨p, joint, rest, rfl⟩ := memberEnd_cases hend <;> cases form <;> rfl

theorem operatorsRule_end :
    g.operatorsRule structs .jump form scopeEnd s = .ok (form, s) := by
  refine loop_of_done ?_
  obtain ⟨ts, stray, written⟩ := s
  obtain rfl | ⟨p, joint, rest, rfl⟩ := memberEnd_cases hend
  · cases form <;> rfl
  · cases joint <;> cases form <;> rfl

end MemberEnd

theorem unaryRule_literal {as : List Attribute} {s₁ : Progress} {p : Position} {w : String}
    {ts : List Tree} (has : g.outerAttributes scopeEnd s = .ok (as, s₁))
    (hs₁ : s₁.trees = .leaf p (.literal w) :: ts) (hend : memberEnd ts = true) :
    g.unaryRule structs scopeEnd s = .ok (.ofLiteral p w, s₁.past 1) := by
  obtain ⟨_, stray, written⟩ := s₁
  cases hs₁
  have hand : Ahead.mark "&" (.leaf p (.literal w) :: ts) = false := rfl
  have hminus : Ahead.mark "-" (.leaf p (.literal w) :: ts) = false := rfl
  have hother :
      ¬ ((Ahead.mark "*").or (Ahead.mark "!")) (.leaf p (.literal w) :: ts) = true := nofun
  unfold unaryRule
  rw [bind_of_ok has, bind_of_ok (mark?_of_not hand), if_neg Bool.false_ne_true,
    bind_of_ok (mark?_of_not hminus), if_neg Bool.false_ne_true,
    bind_of_ok (ahead_apply ..), ite_apply, if_neg hother,
    bind_of_ok (atom_literal p w ts stray written), bind_of_ok (postfixOperators_end hend)]
  unfold ExpressionForm.ofLiteral
  cases Literal.ofWritten w <;> rfl

theorem unaryRule_minus {as : List Attribute} {s₁ : Progress}
    (has : g.outerAttributes scopeEnd s = .ok (as, s₁)) (hminus : Ahead.mark "-" s₁.trees = true) :
    g.unaryRule structs scopeEnd s =
      (g.unary structs >>= fun operand => pure (.negation operand)) scopeEnd (s₁.past 1) := by
  obtain ⟨p, joint, rest, hs₁⟩ := Ahead.markOf_singleton hminus
  have hand : Ahead.mark "&" s₁.trees = false := by rw [hs₁]; rfl
  unfold unaryRule
  rw [bind_of_ok has, bind_of_ok (mark?_of_not hand), if_neg Bool.false_ne_true,
    bind_of_ok (mark?_of hminus), if_pos rfl]
  rfl

end Rules

end ReceiverLoader.Grammar
