import ReceiverLoader.Proofs.Grammar.Refines

/-!
# The rules of paths and generics

What lists in angle brackets, attributes, paths, generic parameters and `use` items are read as does
not depend on positions, and a greater depth makes no difference to it. `Rules.Refines` is the same
of parsers for the constructs that contain each other.
-/

namespace ReceiverLoader.Grammar

open Token (Position Tree Delimiter)
open Grammar.Parser

set_option synthInstance.maxSize 1000000

/-! ## Lists with lifetimes first -/

namespace AngleMember

instance {ms ns : List AngleMember} [h : Alike ms ns] :
    Alike (ms.flatMap whole) (ns.flatMap whole) := by
  refine ⟨List.rel_flatMap h.like fun {m n} hmn => ?_⟩
  obtain ⟨-, htrees, hcomma⟩ := hmn
  exact List.rel_append htrees hcomma

theorem filter_alike {test : AngleMember → Bool}
    (htest : ∀ m n, Alike m n → test m = test n) {ms ns : List AngleMember} (h : Alike ms ns) :
    Alike (ms.filter test) (ns.filter test) := by
  obtain ⟨h⟩ := h
  refine ⟨List.rel_filter (fun {m n} hmn => ?_) h⟩
  have hmn : test m = test n := htest m n ⟨hmn⟩
  change test m = true ↔ test n = true
  rw [hmn]

instance {ms ns : List AngleMember} [h : Alike ms ns] : Alike (lifetimes ms) (lifetimes ns) :=
  filter_alike (fun _ _ h => h.like.1) h

instance {ms ns : List AngleMember} [h : Alike ms ns] : Alike (others ms) (others ns) :=
  filter_alike (fun _ _ h => congrArg (!·) h.like.1) h

instance (p q : Position) {ms ns : List AngleMember} [h : Alike ms ns] :
    Alike (missingComma p ms) (missingComma q ns) := by
  have hlast : Alike (lifetimes ms).getLast? (lifetimes ns).getLast? := inferInstance
  have hothers : (others ms).isEmpty = (others ns).isEmpty := Alike.isEmpty_eq inferInstance
  unfold missingComma
  generalize (lifetimes ms).getLast? = last at hlast ⊢
  generalize (lifetimes ns).getLast? = last' at hlast ⊢
  obtain ⟨hlast⟩ := hlast
  cases hlast with
  | none => infer_instance
  | @some m n hmn =>
    have hcomma : m.comma.isEmpty = n.comma.isEmpty := Alike.isEmpty_eq ⟨hmn.2.2⟩
    simp only [hcomma, hothers]
    split <;> infer_instance

instance (p q : Position) {ms ns : List AngleMember} [h : Alike ms ns] :
    Alike (arrange p ms) (arrange q ns) := by
  unfold arrange
  infer_instance

end AngleMember

section Lists

variable {member member' : Parser Bool} [Refines member member']

instance : Refines (angleMembers member) (angleMembers member') := by
  unfold angleMembers
  refine loop_refines (fun done done' _ => ?_) (fun _ _ _ => inferInstance) inferInstance
  refine Refines.bind inferInstance fun a b hab => ?_
  cases hab.eq
  refine Refines.ite Iff.rfl inferInstance ?_
  refine Refines.bind inferInstance fun (isLifetime, ts) (isLifetime', us) h => ?_
  obtain rfl : isLifetime = isLifetime' := h.like.1
  have hts : Alike ts us := ⟨h.like.2⟩
  have hmember : ∀ comma comma' : List Tree, Alike comma comma' →
      Alike (AngleMember.mk isLifetime ts comma) ⟨isLifetime, us, comma'⟩ :=
    fun _ _ hcomma => ⟨rfl, hts.like, hcomma.like⟩
  have hwithout := hmember [] [] inferInstance
  refine Refines.bind inferInstance fun a b hab => ?_
  cases hab.eq
  refine Refines.ite Iff.rfl inferInstance ?_
  refine Refines.bind inferInstance fun (_, comma) (_, comma') h => ?_
  have hwith := hmember comma comma' ⟨h.like.2⟩
  infer_instance

instance : Refines (lifetimesFirst member) (lifetimesFirst member') := by
  unfold lifetimesFirst
  refine Refines.bind inferInstance fun p q _ => ?_
  refine Refines.bind inferInstance fun _ _ _ => ?_
  refine Refines.bind inferInstance fun ms ns h => ?_
  rw [h.length_eq]
  infer_instance

end Lists

/-! ## The constructs that contain each other -/

/-- The parsers for the constructs that contain each other read alike. -/
class RulesRefine (g g' : Rules) : Prop where
  expression : ∀ structs, Refines (g.expression structs) (g'.expression structs)
  unary : ∀ structs, Refines (g.unary structs) (g'.unary structs)
  operators : ∀ structs base left left', Alike left left' →
    Refines (g.operators structs base left) (g'.operators structs base left')
  operand : ∀ structs precedence,
    Refines (g.operand structs precedence) (g'.operand structs precedence)
  statementExpression : Refines g.statementExpression g'.statementExpression
  statements : Refines g.statements g'.statements
  type : ∀ plus, Refines (g.type plus) (g'.type plus)
  bound : ∀ capture constant, Refines (g.bound capture constant) (g'.bound capture constant)
  pattern : Refines g.pattern g'.pattern
  patterns : Refines g.patterns g'.patterns
  namedFields : Refines g.namedFields g'.namedFields
  item : Refines g.item g'.item
  itemBehind : ∀ attributes attributes', Alike attributes attributes' →
    Refines (g.itemBehind attributes) (g'.itemBehind attributes')
  useTree : ∀ root, Refines (g.useTree root) (g'.useTree root)

namespace Rules

variable {g g' : Rules} [hg : RulesRefine g g']

instance (structs : Bool) : Refines (g.expression structs) (g'.expression structs) :=
  hg.expression structs

instance (structs : Bool) : Refines (g.unary structs) (g'.unary structs) := hg.unary structs

instance (structs : Bool) (base : Precedence) {left left' : ExpressionForm} [h : Alike left left'] :
    Refines (g.operators structs base left) (g'.operators structs base left') :=
  hg.operators structs base left left' h

instance (structs : Bool) (precedence : Precedence) :
    Refines (g.operand structs precedence) (g'.operand structs precedence) :=
  hg.operand structs precedence

instance : Refines g.statementExpression g'.statementExpression := hg.statementExpression

instance : Refines g.statements g'.statements := hg.statements

instance (plus : Bool) : Refines (g.type plus) (g'.type plus) := hg.type plus

instance (capture constant : Bool) :
    Refines (g.bound capture constant) (g'.bound capture constant) :=
  hg.bound capture constant

instance : Refines g.pattern g'.pattern := hg.pattern

instance : Refines g.patterns g'.patterns := hg.patterns

instance : Refines g.namedFields g'.namedFields := hg.namedFields

instance : Refines g.item g'.item := hg.item

instance {attributes attributes' : List Attribute} [h : Alike attributes attributes'] :
    Refines (g.itemBehind attributes) (g'.itemBehind attributes') :=
  hg.itemBehind attributes attributes' h

instance (root : Bool) : Refines (g.useTree root) (g'.useTree root) := hg.useTree root

instance : Refines g.block g'.block := by
  unfold block
  infer_instance

end Rules

/-! ## Attributes -/

instance : Refines modulePath modulePath := by
  unfold modulePath
  infer_instance

namespace Rules

variable {g g' : Rules} [hg : RulesRefine g g']

instance : Refines g.attributeValue g'.attributeValue := by
  unfold attributeValue
  infer_instance

instance : Refines g.attributeInside g'.attributeInside := by
  unfold attributeInside
  dsimp only
  refine Refines.bind inferInstance fun a b hab => ?_
  cases hab.eq
  -- Both ways to read the path go on alike.
  refine Refines.ite Iff.rfl (Refines.bind inferInstance fun w _ hw => hw.eq ▸ ?_) ?_ <;>
    refine Refines.bind inferInstance fun path _ hpath => hpath.eq ▸ ?_ <;>
    refine Refines.bind inferInstance fun c _ hc => hc.eq ▸ ?_ <;>
    refine Refines.ite Iff.rfl ?_ inferInstance <;>
    refine Refines.bind inferInstance fun (_, p, body) (_, q, body') h => ?_ <;>
    have hbody : Alike body body' := ⟨h.like.2.2⟩ <;>
    infer_instance

instance : Refines g.outerAttribute g'.outerAttribute := by
  unfold outerAttribute
  infer_instance

instance : Refines g.outerAttributes g'.outerAttributes := by
  unfold outerAttributes
  infer_instance

instance : Refines g.innerAttribute g'.innerAttribute := by
  unfold innerAttribute
  infer_instance

instance : Refines g.innerAttributes g'.innerAttributes := by
  unfold innerAttributes
  infer_instance

instance : Refines g.attributedBlock g'.attributedBlock := by
  unfold attributedBlock
  infer_instance

/-! ## Paths -/

instance : Refines g.constantArgument g'.constantArgument := by
  unfold constantArgument
  infer_instance

instance : Refines g.associatedValue g'.associatedValue := by
  unfold associatedValue
  infer_instance

instance : Refines g.associatedBounds g'.associatedBounds := by
  unfold associatedBounds
  infer_instance

instance : Refines g.genericArgument g'.genericArgument := by
  unfold genericArgument
  dsimp only
  refine Refines.bind inferInstance fun a _ ha => ha.eq ▸ ?_
  refine Refines.ite Iff.rfl inferInstance ?_
  refine Refines.bind inferInstance fun a _ ha => ha.eq ▸ ?_
  refine Refines.ite Iff.rfl inferInstance ?_
  refine Refines.bind inferInstance fun form _ hform => hform.eq ▸ ?_
  cases form <;> infer_instance

instance : Refines g.genericArguments g'.genericArguments := by
  unfold genericArguments
  infer_instance

instance : Refines g.turbofish g'.turbofish := by
  unfold turbofish
  infer_instance

instance : Ahead.Blind argumentsAhead := inferInstanceAs (Ahead.Blind (Ahead.markBut _ _))

instance (inExpression : Bool) : Refines (g.segment inExpression) (g'.segment inExpression) := by
  unfold segment
  infer_instance

instance (inExpression : Bool) : Refines (g.path inExpression) (g'.path inExpression) := by
  unfold path
  infer_instance

instance (inExpression : Bool) :
    Refines (g.qualifiedPath inExpression) (g'.qualifiedPath inExpression) := by
  unfold qualifiedPath
  infer_instance

instance (inExpression : Bool) : Refines (g.anyPath inExpression) (g'.anyPath inExpression) := by
  unfold anyPath
  infer_instance

/-! ## Generic parameters and where clauses -/

instance (stop : Ahead) [Ahead.Blind stop] :
    Refines (lifetimeBounds stop) (lifetimeBounds stop) := by
  unfold lifetimeBounds
  infer_instance

section Empty

variable {α : Type} [Likeness α] [Discrete α]

instance (isEmpty : α → Bool) {p q : Parser α} [Refines p q] :
    Refines (unlessEmpty isEmpty p) (unlessEmpty isEmpty q) := by
  unfold unlessEmpty
  refine Refines.bind inferInstance fun (a, ts) (b, us) h => ?_
  obtain rfl : a = b := Discrete.eq_of_like h.like.1
  have hts : Alike ts us := ⟨h.like.2⟩
  infer_instance

instance {p q : Parser (List α)} [Refines p q] : Refines (optionalBounds p) (optionalBounds q) := by
  unfold optionalBounds
  infer_instance

end Empty

instance : Refines lifetimeParameter lifetimeParameter := by
  unfold lifetimeParameter
  infer_instance

instance : Refines g.typeParameter g'.typeParameter := by
  unfold typeParameter
  infer_instance

instance : Refines g.constantParameter g'.constantParameter := by
  unfold constantParameter
  infer_instance

instance (placeholder : Bool) :
    Refines (g.genericParameter placeholder) (g'.genericParameter placeholder) := by
  unfold genericParameter
  infer_instance

instance : Refines g.generics g'.generics := by
  unfold generics
  infer_instance

instance : Ahead.Blind genericsAhead := by
  unfold genericsAhead
  infer_instance

instance : Refines g.binder g'.binder := by
  unfold binder
  infer_instance

instance : Ahead.Blind predicateEnd := inferInstanceAs (Ahead.Blind (Ahead.any _))

instance : Refines g.wherePredicate g'.wherePredicate := by
  unfold wherePredicate
  infer_instance

instance : Refines g.whereClause g'.whereClause := by
  unfold whereClause
  infer_instance

/-! ## Use items -/

instance : Refines useAlias useAlias := by
  unfold useAlias
  infer_instance

instance (root : Bool) : Refines (g.useGroup root) (g'.useGroup root) := by
  unfold useGroup
  infer_instance

instance (root : Bool) : Refines (g.useTreeRule root) (g'.useTreeRule root) := by
  unfold useTreeRule
  infer_instance

end Rules

end ReceiverLoader.Grammar
