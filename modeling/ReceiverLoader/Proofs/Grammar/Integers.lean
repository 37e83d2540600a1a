import ReceiverLoader.Proofs.Grammar.Operands

/-!
# Integer literals

Which expressions are integer literals, with a minus in front or without. Outer attributes in front
of the literal and of the minus are read and left aside; nothing may follow the literal.

* `SignedLiteral.ofTrees?`: the integer literal that trees are.
* `expression_eq_toForm`: an expression is read as an integer literal iff it is spelled as one.
* `IsExpression`: trees that are a complete expression, as the member of any list.
-/

namespace ReceiverLoader.Grammar

open Token (Position Tree Literal)
open ExpressionForm (IsNoInteger)

variable {scopeEnd : Position} {s s' : Progress} {form : ExpressionForm}

/-! ## Signed literals -/

/-- No attribute begins before the end of a list member and ends behind it. -/
theorem behindAttributes_append {rest : List Tree} (hend : memberEnd rest = true)
    (ts : List Tree) : behindAttributes (ts ++ rest) = behindAttributes ts ++ rest := by
  induction ts using behindAttributes.induct with
  | case1 p joint opens closes body ts ih => exact ih
  | case2 ts hts =>
    have hplain : behindAttributes ts = ts := by
      rw [behindAttributes.eq_def]
      split
      · exact absurd rfl (hts _ _ _ _ _ _)
      · rfl
    rw [hplain, behindAttributes.eq_def]
    split
    · rename_i p joint opens closes body us heq
      obtain rfl | ⟨q, joint', rest, rfl⟩ := memberEnd_cases hend
      · rw [List.append_nil] at heq
        exact absurd heq (hts _ _ _ _ _ _)
      · obtain _ | ⟨t, _ | ⟨u, ts⟩⟩ := ts
        · cases heq
        · cases heq
        · cases heq
          exact absurd rfl (hts _ _ _ _ _ _)
    · rfl

/-- An integer literal with its sign. -/
structure SignedLiteral where
  isNegative : Bool
  /-- Where its digits begin. -/
  position : Position
  magnitude : Nat
deriving Repr, DecidableEq

namespace SignedLiteral

/-- The number that the literal stands for. -/
def value (l : SignedLiteral) : Int := if l.isNegative then -l.magnitude else l.magnitude

/-- The form of the literal as an expression. -/
def toForm (l : SignedLiteral) : ExpressionForm :=
  if l.isNegative then .negation (.integer l.position l.magnitude)
  else .integer l.position l.magnitude

/-- The integer literal that trees are behind outer attributes: its position and its value. -/
def unsigned? (ts : List Tree) : Option (Position × Nat) :=
  match behindAttributes ts with
  | [.leaf p (.literal w)] =>
    match Literal.ofWritten w with
    | .integer value _ => some (p, value)
    | _ => none
  | _ => none

/-- The integer literal that trees are behind outer attributes, with a minus in front of it or
without. -/
def ofTrees? (ts : List Tree) : Option SignedLiteral :=
  match behindAttributes ts with
  | .leaf _ (.mark '-' _) :: operand => (unsigned? operand).map fun (p, n) => ⟨true, p, n⟩
  | _ => (unsigned? ts).map fun (p, n) => ⟨false, p, n⟩

theorem unsigned?_eq_some {ts : List Tree} {p : Position} {n : Nat} :
    unsigned? ts = some (p, n) ↔ ∃ w, behindAttributes ts = [.leaf p (.literal w)] ∧
      ExpressionForm.ofLiteral p w = .integer p n := by
  constructor
  · intro h
    unfold unsigned? at h
    split at h
    · rename_i q w hts
      split at h
      · rename_i value suffix hw
        cases h
        exact ⟨w, hts, ExpressionForm.ofLiteral_eq_integer.mpr ⟨rfl, suffix, hw⟩⟩
      · cases h
    · cases h
  · rintro ⟨w, hts, hw⟩
    obtain ⟨-, suffix, hvalue⟩ := ExpressionForm.ofLiteral_eq_integer.mp hw
    unfold unsigned?
    rw [hts]
    dsimp only
    rw [hvalue]

theorem ofTrees?_eq_some {ts : List Tree} {l : SignedLiteral} :
    ofTrees? ts = some l ↔
      (l.isNegative = false ∧ unsigned? ts = some (l.position, l.magnitude)) ∨
        (l.isNegative = true ∧ ∃ p joint operand,
          behindAttributes ts = .leaf p (.mark '-' joint) :: operand ∧
          unsigned? operand = some (l.position, l.magnitude)) := by
  obtain ⟨isNegative, p, m⟩ := l
  unfold ofTrees?
  split
  · rename_i q joint operand hts
    have hplain : unsigned? ts = none := by unfold unsigned?; rw [hts]
    constructor
    · intro h
      obtain ⟨⟨p, n⟩, hoperand, heq⟩ := Option.map_eq_some_iff.mp h
      cases heq
      exact .inr ⟨rfl, q, joint, operand, hts, hoperand⟩
    · rintro (⟨-, h⟩ | ⟨hnegative, _, _, _, hts', h⟩)
      · rw [hplain] at h
        cases h
      · rw [hts] at hts'
        cases hts'
        cases hnegative
        rw [h]
        rfl
  · rename_i hts
    constructor
    · intro h
      obtain ⟨⟨p, n⟩, hplain, heq⟩ := Option.map_eq_some_iff.mp h
      cases heq
      exact .inl ⟨rfl, hplain⟩
    · rintro (⟨hnegative, h⟩ | ⟨-, _, _, _, hts', -⟩)
      · cases hnegative
        rw [h]
        rfl
      · exact absurd hts' (hts _ _ _)

end SignedLiteral

open SignedLiteral (unsigned? unsigned?_eq_some)

theorem rules_unary_eq_ok {depth : Nat} {structs : Bool}
    (h : (rules depth).unary structs scopeEnd s = .ok (form, s')) :
    ∃ n, (rules n).unaryRule structs scopeEnd s = .ok (form, s') := by
  cases depth with
  | zero =>
    obtain ⟨_, _, _, h⟩ := bind_eq_ok.mp h
    cases h
  | succ n => exact ⟨n, h⟩

theorem rules_expression_eq_ok {depth : Nat} {structs : Bool}
    (h : (rules depth).expression structs scopeEnd s = .ok (form, s')) :
    ∃ n left s₁, (rules n).unaryRule structs scopeEnd s = .ok (left, s₁) ∧
      (rules n).operatorsRule structs .jump left scopeEnd s₁ = .ok (form, s') := by
  cases depth with
  | zero =>
    obtain ⟨_, _, _, h⟩ := bind_eq_ok.mp h
    cases h
  | succ depth =>
    obtain ⟨left, s₁, hunary, hoperators⟩ := bind_eq_ok.mp h
    cases depth with
    | zero =>
      obtain ⟨_, _, _, h⟩ := bind_eq_ok.mp hunary
      cases h
    | succ n => exact ⟨n, left, s₁, hunary, hoperators⟩

theorem minus_of_append {us vs rest : List Tree} {p : Position} {joint : Bool}
    (hend : memberEnd rest = true) (h : us ++ rest = .leaf p (.mark '-' joint) :: vs) :
    ∃ operand, us = .leaf p (.mark '-' joint) :: operand ∧ vs = operand ++ rest := by
  cases us with
  | nil =>
    obtain rfl | ⟨q, joint', rest, rfl⟩ := memberEnd_cases hend <;> cases h
  | cons u us =>
    cases h
    exact ⟨us, rfl, rfl⟩

section Member

variable {ts rest : List Tree} (hend : memberEnd rest = true) (hs : s.trees = ts ++ rest)
include hend hs

/-- An operand that is spelled as an integer literal is read as it, to its end. -/
theorem unaryRule_of_unsigned {g : Rules} {structs : Bool} {p : Position} {n : Nat}
    (hts : unsigned? ts = some (p, n)) (h : g.unaryRule structs scopeEnd s = .ok (form, s')) :
    form = .integer p n ∧ s'.trees = rest := by
  obtain ⟨w, hbehind, hw⟩ := unsigned?_eq_some.mp hts
  obtain ⟨as, s₁, has, -⟩ := bind_eq_ok.mp h
  have hs₁ := outerAttributes_eq_ok has
  rw [hs, behindAttributes_append hend, hbehind] at hs₁
  rw [Rules.unaryRule_literal has hs₁ hend] at h
  cases h
  refine ⟨hw, ?_⟩
  rw [Progress.past, hs₁]
  rfl

/-- An operand that is read as an integer, to its end, is spelled as its literal. -/
theorem unsigned_of_unaryRule {g : Rules} {structs : Bool} {p : Position} {n : Nat}
    (h : g.unaryRule structs scopeEnd s = .ok (.integer p n, s')) (hs' : s'.trees = rest) :
    unsigned? ts = some (p, n) := by
  obtain hno | ⟨q, w, hbehind, hw⟩ | ⟨_, _, _, _, _, _, h⟩ := Rules.unaryRule_eq_ok h
  · cases hno
  · rw [hs, behindAttributes_append hend, hs'] at hbehind
    obtain ⟨rfl, -⟩ := ExpressionForm.ofLiteral_eq_integer.mp hw.symm
    exact unsigned?_eq_some.mpr ⟨w, List.append_cancel_right hbehind, hw.symm⟩
  · cases h

/-- An expression that is read to its end is an integer literal, with a sign or without, iff it is
spelled as one. -/
theorem expression_eq_toForm {depth : Nat} {structs : Bool}
    (h : (rules depth).expression structs scopeEnd s = .ok (form, s')) (hs' : s'.trees = rest)
    (l : SignedLiteral) : form = l.toForm ↔ SignedLiteral.ofTrees? ts = some l := by
  obtain ⟨n, left, s₁, hunary, hoperators⟩ := rules_expression_eq_ok h
  have hoperators_end (hs₁ : s₁.trees = rest) : form = left := by
    rw [Rules.operatorsRule_end (by rw [hs₁]; exact hend)] at hoperators
    cases hoperators
    rfl
  rw [SignedLiteral.ofTrees?_eq_some]
  obtain ⟨isNegative, p, m⟩ := l
  cases isNegative with
  | false =>
    constructor
    · rintro rfl
      obtain hno | ⟨rfl, rfl⟩ := Rules.operatorsRule_eq_ok hoperators
      · cases hno
      · exact .inl ⟨rfl, unsigned_of_unaryRule hend hs hunary hs'⟩
    · rintro (⟨-, hts⟩ | ⟨hnegative, -⟩)
      · obtain ⟨rfl, hs₁⟩ := unaryRule_of_unsigned hend hs hts hunary
        exact hoperators_end hs₁
      · cases hnegative
  | true =>
    constructor
    · rintro rfl
      obtain hno | ⟨rfl, rfl⟩ := Rules.operatorsRule_eq_ok hoperators
      · cases hno
      obtain hno | ⟨q, w, -, hw⟩ | ⟨q, joint, s₂, _, hbehind, hread, hform⟩ :=
        Rules.unaryRule_eq_ok hunary
      · cases hno
      · exact absurd hw (ExpressionForm.negation_ne_ofLiteral _ _ _)
      · cases hform
        rw [hs, behindAttributes_append hend] at hbehind
        obtain ⟨operand, hts, hs₂⟩ := minus_of_append hend hbehind
        obtain ⟨k, hread⟩ := rules_unary_eq_ok hread
        exact .inr ⟨rfl, q, joint, operand, hts, unsigned_of_unaryRule hend hs₂ hread hs'⟩
    · rintro (⟨hnegative, -⟩ | ⟨-, q, joint, operand, hts, hoperand⟩)
      · cases hnegative
      obtain ⟨as, s₂, has, -⟩ := bind_eq_ok.mp hunary
      have hs₂ := outerAttributes_eq_ok has
      rw [hs, behindAttributes_append hend, hts] at hs₂
      rw [Rules.unaryRule_minus has (by rw [hs₂]; rfl)] at hunary
      obtain ⟨_, s₃, hread, hpure⟩ := bind_eq_ok.mp hunary
      cases hpure
      obtain ⟨k, hread⟩ := rules_unary_eq_ok hread
      have hpast : (s₂.past 1).trees = operand ++ rest := by
        rw [Progress.past, hs₂]
        rfl
      obtain ⟨rfl, hs₃⟩ := unaryRule_of_unsigned hend hpast hoperand hread
      exact hoperators_end hs₃

end Member

/-! ## Complete expressions -/

/-- The trees are a complete expression: as a member of a list separated by commas, wherever it
stands, the expression that begins with them ends with them. -/
def IsExpression (ts : List Tree) : Prop :=
  ∀ (depth : Nat) (written rest : List Tree), depthOf ts ≤ depth → memberEnd rest = true →
    ∃ form written', (rules depth).expression true textEnd ⟨ts ++ rest, none, written⟩ =
      .ok (form, ⟨rest, none, written'⟩)

theorem IsExpression.ne_nil {ts : List Tree} (h : IsExpression ts) : ts ≠ [] := by
  rintro rfl
  obtain ⟨form, written, hread⟩ := h (depthOf []) [] [] (Nat.le_refl _) rfl
  rw [List.append_nil] at hread
  obtain ⟨n, left, s₁, hunary, -⟩ := rules_expression_eq_ok hread
  have has : (rules n).outerAttributes textEnd ⟨[], none, []⟩ = .ok ([], ⟨[], none, []⟩) :=
    Parser.manyWhile_of_not _ rfl
  unfold Rules.unaryRule at hunary
  rw [bind_of_ok has] at hunary
  cases hunary

theorem exists_depth {ts : List Tree} {depth : Nat} (h : depthOf ts ≤ depth) :
    ∃ n, depth = n + 3 :=
  ⟨depth - 3, by unfold depthOf at h; omega⟩

theorem rules_expression_of {n : Nat} {structs : Bool} {left : ExpressionForm}
    (hunary : (rules (n + 1)).unaryRule structs scopeEnd s = .ok (left, s'))
    (hend : memberEnd s'.trees = true) :
    (rules (n + 3)).expression structs scopeEnd s = .ok (left, s') :=
  (bind_of_ok hunary).trans (Rules.operatorsRule_end hend)

theorem outerAttributes_of_not (g : Rules) (h : Ahead.mark "#" s.trees = false) :
    g.outerAttributes scopeEnd s = .ok ([], s) :=
  Parser.manyWhile_of_not _ h

/-- A literal is an expression. -/
theorem isExpression_literal (p : Position) (w : String) :
    IsExpression [.leaf p (.literal w)] := by
  intro depth written rest hdepth hend
  obtain ⟨n, rfl⟩ := exists_depth hdepth
  have has : (rules (n + 1)).outerAttributes textEnd ⟨.leaf p (.literal w) :: rest, none, written⟩ =
      .ok ([], ⟨.leaf p (.literal w) :: rest, none, written⟩) := outerAttributes_of_not _ rfl
  exact ⟨_, _, rules_expression_of (Rules.unaryRule_literal has rfl hend) hend⟩

/-- A literal with a minus in front is an expression. -/
theorem isExpression_minus (p q : Position) (joint : Bool) (w : String) :
    IsExpression [.leaf p (.mark '-' joint), .leaf q (.literal w)] := by
  intro depth written rest hdepth hend
  obtain ⟨n, rfl⟩ := exists_depth hdepth
  have has : (rules (n + 1)).outerAttributes textEnd
        ⟨.leaf p (.mark '-' joint) :: .leaf q (.literal w) :: rest, none, written⟩ =
      .ok ([], ⟨.leaf p (.mark '-' joint) :: .leaf q (.literal w) :: rest, none, written⟩) :=
    outerAttributes_of_not _ rfl
  have hasBehind : (rules n).outerAttributes textEnd
        ⟨.leaf q (.literal w) :: rest, none, .leaf p (.mark '-' joint) :: written⟩ =
      .ok ([], ⟨.leaf q (.literal w) :: rest, none, .leaf p (.mark '-' joint) :: written⟩) :=
    outerAttributes_of_not _ rfl
  have hoperand : (rules (n + 1)).unary true textEnd _ = .ok _ :=
    Rules.unaryRule_literal hasBehind rfl hend
  have hunary : (rules (n + 1)).unaryRule true textEnd _ = _ := Rules.unaryRule_minus has rfl
  exact ⟨_, _, rules_expression_of (hunary.trans (bind_of_ok hoperand)) hend⟩

theorem SignedLiteral.isRange_toForm (l : SignedLiteral) : l.toForm.isRange = false := by
  unfold toForm
  split <;> rfl

theorem SignedLiteral.not_isNoInteger (l : SignedLiteral) : ¬ IsNoInteger l.toForm := by
  unfold toForm
  split <;> exact id

/-- An outer attribute in front of an integer literal makes no difference. -/
theorem IsExpression.attributed {ts : List Tree} (h : IsExpression ts) {l : SignedLiteral}
    (hl : SignedLiteral.ofTrees? ts = some l) {p : Path} (hp : p.Plain) (arguments : List Tree)
    (delimiter? : Option Token.Delimiter) :
    IsExpression (attributeTrees p arguments delimiter? ++ ts) ∧
      SignedLiteral.ofTrees? (attributeTrees p arguments delimiter? ++ ts) = some l := by
  refine ⟨fun depth written rest hdepth hend => ?_, hl⟩
  have hle : depthOf ts ≤ depth := by
    unfold depthOf at hdepth ⊢
    rw [sizeAll_append] at hdepth
    omega
  obtain ⟨form, written', hread⟩ :=
    h depth ((attributeTrees p arguments delimiter?).reverse ++ written) rest hle hend
  obtain rfl := (expression_eq_toForm hend rfl hread rfl l).mpr hl
  obtain ⟨n, rfl⟩ := exists_depth hle
  obtain ⟨left, s₁, hunary, hoperators⟩ := bind_eq_ok.mp hread
  obtain ⟨as, s₂, has, -⟩ := bind_eq_ok.mp hunary
  have hcons : (rules (n + 1)).outerAttributes textEnd
      ⟨attributeTrees p arguments delimiter? ++ (ts ++ rest), none, written⟩ = _ :=
    outerAttributes_cons (rules (n + 1)) hp arguments delimiter? (ts ++ rest)
  rw [has] at hcons
  have hleft : left.isRange = false := by
    obtain hno | ⟨rfl, -⟩ := Rules.operatorsRule_eq_ok hoperators
    · exact absurd hno l.not_isNoInteger
    · exact l.isRange_toForm
  have hattributed := Rules.unaryRule_attributed has hcons hunary hleft
  rw [List.append_assoc]
  exact ⟨_, _, (bind_of_ok hattributed).trans hoperators⟩

end ReceiverLoader.Grammar
