import ReceiverLoader.Proofs.Grammar.Integers
import ReceiverLoader.Proofs.Token.WrittenInteger

/-!
# Integers as expressions

How an integer is written as an expression: its literal with attributes in front, and perhaps a
minus with attributes of its own in front of both.

* `WrittenAttribute`, `IsAttribute`: outer attributes, and which of them can be read.
* `literalTrees`, `negatedTrees`: the tokens of an integer without a minus and with one.
* `isExpression_literalTrees`, `isExpression_negatedTrees`: they are expressions.
* `SignedLiteral.isInteger_iff`: there are no other integers.
-/

namespace ReceiverLoader.Grammar

open Token (Position Tree Literal WrittenInteger)
open Grammar.Parser

/-! ## Attributes -/

/-- The trees inside brackets are read as an attribute, to their end. -/
def IsAttribute (body : List Tree) : Prop :=
  ∀ (depth : Nat) (closes : Position), depthOf body ≤ depth →
    ∃ a written, (rules depth).attributeInside closes ⟨body, none, []⟩ =
      .ok (a, ⟨[], none, written⟩)

/-- A path with arguments or without is an attribute. -/
theorem isAttribute_trees {p : Path} (hp : p.Plain) (arguments : List Tree)
    (delimiter? : Option Token.Delimiter) :
    IsAttribute (p.trees ++ argumentTrees arguments delimiter?) := fun depth _ _ =>
  ⟨_, _, attributeInside_trees (rules depth) hp arguments delimiter?⟩

/-- An outer attribute as it is written. -/
structure WrittenAttribute where
  position : Position
  joint : Bool
  opens : Position
  closes : Position
  /-- What stands inside its brackets. -/
  body : List Tree

namespace WrittenAttribute

/-- The tokens of the attribute. -/
def trees (a : WrittenAttribute) : List Tree :=
  [.leaf a.position (.mark '#' a.joint), .group a.opens a.closes .bracket a.body]

/-- The tokens of attributes one after the other. -/
def treesAll (as : List WrittenAttribute) : List Tree := as.flatMap trees

theorem behindAttributes_treesAll (as : List WrittenAttribute) (ts : List Tree) :
    behindAttributes (treesAll as ++ ts) = behindAttributes ts := by
  induction as with
  | nil => rfl
  | cons a as ih => exact ih

/-- What stands in front of the trees behind attributes are attributes. -/
theorem exists_treesAll (ts : List Tree) : ∃ as, ts = treesAll as ++ behindAttributes ts := by
  induction ts using behindAttributes.induct with
  | case1 p joint opens closes body ts ih =>
    obtain ⟨as, has⟩ := ih
    exact ⟨⟨p, joint, opens, closes, body⟩ :: as, congrArg (_ :: _ :: ·) has⟩
  | case2 ts hts =>
    refine ⟨[], ?_⟩
    rw [behindAttributes.eq_def]
    split
    · exact absurd rfl (hts _ _ _ _ _ _)
    · rfl

section Reading

variable {scopeEnd : Position}

theorem outerAttribute_trees {g : Rules} {a : WrittenAttribute} {b : Attribute}
    {inside : List Tree}
    (h : g.attributeInside a.closes ⟨a.body, none, []⟩ = .ok (b, ⟨[], none, inside⟩))
    (ts written : List Tree) :
    ∃ written', g.outerAttribute scopeEnd ⟨a.trees ++ ts, none, written⟩ =
      .ok (b, ⟨ts, none, written'⟩) := by
  have hmark : mark "#" scopeEnd ⟨a.trees ++ ts, none, written⟩ =
      .ok ((), (⟨a.trees ++ ts, none, written⟩ : Progress).past 1) := rfl
  have hopen : openGroup .bracket g.attributeInside scopeEnd
        ((⟨a.trees ++ ts, none, written⟩ : Progress).past 1) =
      .ok ((b, none), ⟨ts, none, .group a.opens a.closes .bracket inside.reverse ::
        .leaf a.position (.mark '#' a.joint) :: written⟩) := by
    refine (openGroup_apply ..).trans ?_
    rw [h]
    rfl
  unfold Rules.outerAttribute group
  rw [bind_of_ok hmark, bind_of_ok hopen]
  exact ⟨_, rfl⟩

/-- Attributes are read to the end of the last one. -/
theorem outerAttributes_treesAll {depth : Nat} {as : List WrittenAttribute}
    (has : ∀ a ∈ as, IsAttribute a.body ∧ depthOf a.body ≤ depth) {ts : List Tree}
    (hts : Ahead.mark "#" ts = false) (written : List Tree) :
    ∃ bs written', (rules depth).outerAttributes scopeEnd ⟨treesAll as ++ ts, none, written⟩ =
      .ok (bs, ⟨ts, none, written'⟩) := by
  induction as generalizing written with
  | nil => exact ⟨[], written, outerAttributes_of_not _ hts⟩
  | cons a as ih =>
    obtain ⟨⟨ha, hdepth⟩, has⟩ := List.forall_mem_cons.mp has
    obtain ⟨b, inside, hinside⟩ := ha depth a.closes hdepth
    obtain ⟨written₁, hread⟩ := outerAttribute_trees hinside (treesAll as ++ ts) written
    obtain ⟨bs, written', hrest⟩ := ih has written₁
    refine ⟨b :: bs, written', ?_⟩
    have hcons : (rules depth).outerAttributes scopeEnd
        ⟨a.trees ++ (treesAll as ++ ts), none, written⟩ = _ :=
      manyWhile_cons (outerAttribute_consumes _) rfl hread
    rw [treesAll, List.flatMap_cons, List.append_assoc]
    refine hcons.trans ?_
    change ((rules depth).outerAttributes scopeEnd _).map _ = _
    rw [hrest]
    rfl

end Reading

theorem depthOf_body (as : List WrittenAttribute) (ts : List Tree) :
    ∀ a ∈ as, depthOf a.body + 16 ≤ depthOf (treesAll as ++ ts) := by
  have hsize : ∀ a ∈ as, Tree.sizeAll a.body + 1 ≤ Tree.sizeAll (treesAll as) := by
    induction as with
    | nil => exact nofun
    | cons b as ih =>
      have hcons : Tree.sizeAll (treesAll (b :: as)) =
          Tree.sizeAll b.trees + Tree.sizeAll (treesAll as) := by
        rw [treesAll, List.flatMap_cons, sizeAll_append]
        rfl
      have hself : Tree.sizeAll b.body + 1 ≤ Tree.sizeAll b.trees := by
        simp only [trees, Tree.sizeAll, Tree.size]
        omega
      intro a ha
      obtain rfl | ha := List.mem_cons.mp ha
      · omega
      · have := ih a ha
        omega
  intro a ha
  have := hsize a ha
  unfold depthOf
  rw [sizeAll_append]
  omega

end WrittenAttribute

open WrittenAttribute (treesAll)

/-! ## Integers -/

/-- The tokens of an integer literal behind attributes. -/
def literalTrees (as : List WrittenAttribute) (p : Position) (i : WrittenInteger) : List Tree :=
  treesAll as ++ [.leaf p (.literal i.written)]

/-- The tokens of a minus and an integer literal, each of them behind attributes. -/
def negatedTrees (as : List WrittenAttribute) (p : Position) (joint : Bool)
    (bs : List WrittenAttribute) (q : Position) (i : WrittenInteger) : List Tree :=
  treesAll as ++ .leaf p (.mark '-' joint) :: literalTrees bs q i

/-- The trees are an integer literal, with a minus or without, of this value. -/
inductive IsInteger : List Tree → Int → Prop
  | plain (as : List WrittenAttribute) (p : Position) (i : WrittenInteger) :
      IsInteger (literalTrees as p i) i.value
  | negated (as : List WrittenAttribute) (p : Position) (joint : Bool)
      (bs : List WrittenAttribute) (q : Position) (i : WrittenInteger) :
      IsInteger (negatedTrees as p joint bs q i) (-i.value)

section Expressions

variable {as bs : List WrittenAttribute} (has : ∀ a ∈ as, IsAttribute a.body)
include has

/-- Attributes in front of a tree that is no part of them are read. -/
theorem outerAttributes_in {depth : Nat} {t : Tree} {ts : List Tree}
    (hdepth : depthOf (treesAll as ++ t :: ts) ≤ depth + 16) (ht : Ahead.mark "#" [t] = false)
    (rest written : List Tree) :
    ∃ attributes written', (rules depth).outerAttributes textEnd
        ⟨treesAll as ++ t :: (ts ++ rest), none, written⟩ =
      .ok (attributes, ⟨t :: (ts ++ rest), none, written'⟩) := by
  refine WrittenAttribute.outerAttributes_treesAll (fun a ha => ⟨has a ha, ?_⟩) ?_ written
  · have := WrittenAttribute.depthOf_body as (t :: ts) a ha
    omega
  · cases t with
    | leaf p l => cases l <;> exact ht
    | group => rfl

/-- A literal behind attributes is read to its end as an operand. -/
theorem unaryRule_literalTrees {depth : Nat} (p : Position) (i : WrittenInteger)
    (hdepth : depthOf (literalTrees as p i) ≤ depth + 16) {rest : List Tree}
    (hend : memberEnd rest = true) (written : List Tree) :
    ∃ form written', (rules depth).unaryRule true textEnd
      ⟨literalTrees as p i ++ rest, none, written⟩ = .ok (form, ⟨rest, none, written'⟩) := by
  obtain ⟨attributes, written', hread⟩ := outerAttributes_in has hdepth rfl rest written
  rw [literalTrees, List.append_assoc]
  exact ⟨_, _, Rules.unaryRule_literal hread rfl hend⟩

theorem isExpression_literalTrees (p : Position) (i : WrittenInteger) :
    IsExpression (literalTrees as p i) := by
  intro depth written rest hdepth hend
  obtain ⟨n, rfl⟩ := exists_depth hdepth
  have hoperand : depthOf (literalTrees as p i) ≤ n + 1 + 16 := by omega
  obtain ⟨form, written', hunary⟩ := unaryRule_literalTrees has p i hoperand hend written
  exact ⟨form, written', rules_expression_of hunary hend⟩

theorem isExpression_negatedTrees (hbs : ∀ b ∈ bs, IsAttribute b.body) (p : Position)
    (joint : Bool) (q : Position) (i : WrittenInteger) :
    IsExpression (negatedTrees as p joint bs q i) := by
  intro depth written rest hdepth hend
  obtain ⟨n, rfl⟩ := exists_depth hdepth
  have houter : depthOf (negatedTrees as p joint bs q i) ≤ n + 1 + 16 := by omega
  have hinner : depthOf (literalTrees bs q i) ≤ n + 16 := by
    unfold depthOf negatedTrees at hdepth
    rw [sizeAll_append, Tree.sizeAll, Tree.size] at hdepth
    unfold depthOf
    omega
  obtain ⟨attributes, written₁, hread⟩ := outerAttributes_in has houter rfl rest written
  obtain ⟨form, written₂, hoperand⟩ := unaryRule_literalTrees hbs q i hinner hend
    (.leaf p (.mark '-' joint) :: written₁)
  have hunary : (rules (n + 1)).unary true textEnd
      ⟨literalTrees bs q i ++ rest, none, .leaf p (.mark '-' joint) :: written₁⟩ =
        .ok (form, ⟨rest, none, written₂⟩) := hoperand
  have hminus : (rules (n + 1)).unaryRule true textEnd
      ⟨treesAll as ++ .leaf p (.mark '-' joint) :: (literalTrees bs q i ++ rest), none, written⟩ =
        .ok (.negation form, ⟨rest, none, written₂⟩) :=
    (Rules.unaryRule_minus hread rfl).trans (bind_of_ok hunary)
  rw [negatedTrees, List.append_assoc]
  exact ⟨_, _, rules_expression_of hminus hend⟩

end Expressions

namespace SignedLiteral

theorem behindAttributes_literalTrees (as : List WrittenAttribute) (p : Position)
    (i : WrittenInteger) :
    behindAttributes (literalTrees as p i) = [.leaf p (.literal i.written)] :=
  WrittenAttribute.behindAttributes_treesAll as _

theorem unsigned?_literalTrees (as : List WrittenAttribute) (p : Position) (i : WrittenInteger) :
    unsigned? (literalTrees as p i) = some (p, i.value) :=
  unsigned?_eq_some.mpr ⟨i.written, behindAttributes_literalTrees as p i,
    ExpressionForm.ofLiteral_eq_integer.mpr
      ⟨rfl, _, Token.ofWritten_eq_integer.mpr ⟨i, rfl, rfl, rfl⟩⟩⟩

theorem ofTrees?_literalTrees (as : List WrittenAttribute) (p : Position) (i : WrittenInteger) :
    ofTrees? (literalTrees as p i) = some ⟨false, p, i.value⟩ :=
  ofTrees?_eq_some.mpr (.inl ⟨rfl, unsigned?_literalTrees as p i⟩)

theorem ofTrees?_negatedTrees (as : List WrittenAttribute) (p : Position) (joint : Bool)
    (bs : List WrittenAttribute) (q : Position) (i : WrittenInteger) :
    ofTrees? (negatedTrees as p joint bs q i) = some ⟨true, q, i.value⟩ :=
  ofTrees?_eq_some.mpr (.inr ⟨rfl, p, joint, literalTrees bs q i,
    WrittenAttribute.behindAttributes_treesAll as _, unsigned?_literalTrees bs q i⟩)

theorem eq_literalTrees_of_unsigned? {ts : List Tree} {p : Position} {n : Nat}
    (h : unsigned? ts = some (p, n)) :
    ∃ (as : List WrittenAttribute) (i : WrittenInteger),
      ts = literalTrees as p i ∧ i.value = n := by
  obtain ⟨w, hbehind, hw⟩ := unsigned?_eq_some.mp h
  obtain ⟨-, suffix, hvalue⟩ := ExpressionForm.ofLiteral_eq_integer.mp hw
  obtain ⟨i, rfl, rfl, -⟩ := Token.ofWritten_eq_integer.mp hvalue
  obtain ⟨as, has⟩ := WrittenAttribute.exists_treesAll ts
  rw [hbehind] at has
  exact ⟨as, i, has, rfl⟩

/-- What is read as a signed literal are the integers, and nothing else. -/
theorem isInteger_iff {ts : List Tree} {n : Int} :
    IsInteger ts n ↔ ∃ l, ofTrees? ts = some l ∧ l.value = n := by
  constructor
  · intro h
    cases h with
    | plain as p i => exact ⟨_, ofTrees?_literalTrees as p i, rfl⟩
    | negated as p joint bs q i => exact ⟨_, ofTrees?_negatedTrees as p joint bs q i, rfl⟩
  · rintro ⟨⟨isNegative, p, n⟩, h, rfl⟩
    obtain ⟨hsign, hplain⟩ | ⟨hsign, q, joint, operand, hbehind, hoperand⟩ :=
      ofTrees?_eq_some.mp h
    · obtain ⟨as, i, rfl, rfl⟩ := eq_literalTrees_of_unsigned? hplain
      cases hsign
      exact .plain as p i
    · obtain ⟨bs, i, rfl, rfl⟩ := eq_literalTrees_of_unsigned? hoperand
      obtain ⟨as, has⟩ := WrittenAttribute.exists_treesAll ts
      rw [hbehind] at has
      subst has
      cases hsign
      exact .negated as q joint bs p i

/-- Trees are no integer iff they are not read as a signed literal. -/
theorem ofTrees?_eq_none {ts : List Tree} : ofTrees? ts = none ↔ ∀ n, ¬ IsInteger ts n := by
  constructor
  · intro hnone n h
    obtain ⟨l, hl, -⟩ := isInteger_iff.mp h
    rw [hnone] at hl
    cases hl
  · intro hno
    rw [Option.eq_none_iff_forall_ne_some]
    exact fun l hl => hno l.value (isInteger_iff.mpr ⟨l, hl, rfl⟩)

end SignedLiteral

end ReceiverLoader.Grammar
