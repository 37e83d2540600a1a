import ReceiverLoader.Proofs.Grammar.Expressions

/-!
# The rules of items

What functions, declarations and items are read as does not depend on positions, and a greater depth
makes no difference to it.
-/

namespace ReceiverLoader.Grammar

open Token (Position Tree Delimiter)
open Grammar.Parser

set_option synthInstance.maxSize 1000000000

namespace Rules

variable {g g' : Rules} [hg : RulesRefine g g']

/-! ## Functions -/

instance (safeAllowed : Bool) :
    Refines (functionQualifiers safeAllowed) (functionQualifiers safeAllowed) := by
  unfold functionQualifiers
  infer_instance

instance (safeAllowed : Bool) :
    Refines (signatureAhead safeAllowed) (signatureAhead safeAllowed) := by
  unfold signatureAhead
  infer_instance

instance : Refines g.receiver g'.receiver := by
  unfold receiver
  infer_instance

instance : Refines g.argument g'.argument := by
  unfold argument
  refine Refines.bind inferInstance fun a _ ha => ha.eq ▸ ?_
  refine Refines.ite Iff.rfl inferInstance ?_
  refine Refines.bind inferInstance fun position? position?' h => ?_
  obtain ⟨h⟩ := h
  cases h <;> infer_instance

instance : Refines g.functionArguments g'.functionArguments := by
  unfold functionArguments
  refine loop_refines (fun before _ h => h.eq ▸ ?_) (fun _ _ _ => inferInstance) inferInstance
  refine Refines.bind inferInstance fun a _ ha => ha.eq ▸ ?_
  refine Refines.ite Iff.rfl inferInstance ?_
  refine Refines.bind inferInstance fun _ _ _ => ?_
  refine Refines.bind inferInstance fun kind kind' h => ?_
  obtain ⟨h⟩ := h
  cases h <;> cases before <;> infer_instance

instance (safeAllowed : Bool) : Refines (g.signature safeAllowed) (g'.signature safeAllowed) := by
  unfold signature
  refine Refines.bind inferInstance fun isSafe _ h => h.eq ▸ ?_
  refine Refines.bind inferInstance fun _ _ _ => ?_
  refine Refines.bind inferInstance fun _ _ _ => ?_
  refine Refines.bind inferInstance fun _ _ _ => ?_
  refine Refines.bind inferInstance fun (_, stray) (_, stray') h => ?_
  have hstray : Alike stray stray' := ⟨h.like.2⟩
  infer_instance

/-! ## Declarations -/

instance : Refines visibility visibility := by
  unfold visibility
  refine Refines.bind inferInstance fun a _ ha => ha.eq ▸ ?_
  refine Refines.ite Iff.rfl ?_ inferInstance
  refine Refines.bind inferInstance fun ts us h => ?_
  cases h.front with
  | @group _ _ _ _ d body body' _ _ hbody =>
    cases d with
    | parenthesis =>
      have htest (test : Ahead) [ht : Ahead.Blind test] : test body = test body' := ht.eq hbody
      dsimp only
      rw [htest (Ahead.anyKeyword _), htest (Ahead.keyword "in"), hbody.length_eq]
      infer_instance
    | _ => infer_instance
  | _ => infer_instance

instance : Ahead.Blind typeInPlaceAhead := by
  unfold typeInPlaceAhead
  infer_instance

instance : Refines g.typeInPlace g'.typeInPlace := by
  unfold typeInPlace
  infer_instance

instance : Refines g.namedField g'.namedField := by
  unfold namedField
  infer_instance

instance : Refines g.namedFieldsRule g'.namedFieldsRule := by
  unfold namedFieldsRule
  infer_instance

instance : Refines g.plainField g'.plainField := by
  unfold plainField
  infer_instance

instance : Refines g.plainFields g'.plainFields := by
  unfold plainFields
  infer_instance

instance : Refines g.structBody g'.structBody := by
  unfold structBody
  infer_instance

instance : Refines g.variant g'.variant := by
  unfold variant
  infer_instance

instance : Refines g.enumBody g'.enumBody := by
  unfold enumBody
  infer_instance

instance : Refines g.unionBody g'.unionBody := by
  unfold unionBody
  infer_instance

instance (text : String) {body body' : Parser Unit} [Refines body body'] :
    Refines (g.declaration text body) (g'.declaration text body') := by
  unfold declaration
  infer_instance

/-! ## Members -/

instance (place : ClausePlace) : Refines (g.typeAlias place) (g'.typeAlias place) := by
  unfold typeAlias
  infer_instance

instance : Refines g.constant g'.constant := by
  unfold constant
  infer_instance

instance : Ahead.Blind macroAhead := by
  unfold macroAhead
  infer_instance

instance : Refines macroCall macroCall := by
  unfold macroCall
  infer_instance

instance : Ahead.Blind constantFunctionAhead := by
  unfold constantFunctionAhead
  infer_instance

instance : Refines g.traitMember g'.traitMember := by
  unfold traitMember
  infer_instance

instance : Refines g.implementationMember g'.implementationMember := by
  unfold implementationMember
  infer_instance

instance : Refines g.foreignStatic g'.foreignStatic := by
  unfold foreignStatic
  infer_instance

instance : Refines g.foreignFunction g'.foreignFunction := by
  unfold foreignFunction
  infer_instance

instance : Refines g.foreignMember g'.foreignMember := by
  unfold foreignMember
  infer_instance

instance {member member' : Parser Bool} [Refines member member'] :
    Refines (g.members member) (g'.members member') := by
  unfold members
  infer_instance

/-! ## Items -/

instance : Refines g.useItem g'.useItem := by
  unfold useItem
  infer_instance

instance : Refines g.functionItem g'.functionItem := by
  unfold functionItem
  infer_instance

instance : Refines externCrate externCrate := by
  unfold externCrate
  infer_instance

instance (isVisible : Bool) (p q : Position) :
    Refines (g.foreignBlock isVisible p) (g'.foreignBlock isVisible q) := by
  unfold foreignBlock
  infer_instance

instance : Refines g.staticItem g'.staticItem := by
  unfold staticItem
  infer_instance

instance : Refines g.moduleItem g'.moduleItem := by
  unfold moduleItem
  refine Refines.bind inferInstance fun _ _ _ => ?_
  refine Refines.bind inferInstance fun _ _ _ => ?_
  refine Refines.bind inferInstance fun name _ h => h.eq ▸ ?_
  refine Refines.bind inferInstance fun a _ ha => ha.eq ▸ ?_
  refine Refines.ite Iff.rfl inferInstance ?_
  refine Refines.bind inferInstance fun a _ ha => ha.eq ▸ ?_
  exact Refines.ite Iff.rfl (Refines.bind inferInstance fun _ _ _ => inferInstance) inferInstance

instance : Refines g.traitBody g'.traitBody := by
  unfold traitBody
  infer_instance

instance : Refines g.traitItem g'.traitItem := by
  unfold traitItem
  infer_instance

instance (isVisible : Bool) :
    Refines (g.implementationHeader isVisible) (g'.implementationHeader isVisible) := by
  unfold implementationHeader
  infer_instance

instance (isVisible : Bool) :
    Refines (g.implementation isVisible) (g'.implementation isVisible) := by
  unfold implementation
  refine Refines.bind inferInstance fun _ _ _ => ?_
  refine Refines.bind inferInstance fun _ _ _ => ?_
  refine Refines.bind inferInstance fun _ _ _ => ?_
  refine Refines.bind inferInstance fun a _ ha => ha.eq ▸ ?_
  dsimp only
  -- Parameters or none, both ways go on alike.
  refine Refines.ite Iff.rfl (Refines.bind inferInstance fun _ _ _ => ?_) ?_ <;>
    exact Refines.bind inferInstance fun _ _ _ => inferInstance

instance : Refines macroDefinition macroDefinition := by
  unfold macroDefinition
  infer_instance

instance : Refines macroItem macroItem := by
  unfold macroItem
  infer_instance

instance (isVisible : Bool) (p q : Position) :
    Refines (g.externItem isVisible p) (g'.externItem isVisible q) := by
  unfold externItem
  infer_instance

instance (isVisible : Bool) (p q : Position) :
    Refines (g.unsafeItem isVisible p) (g'.unsafeItem isVisible q) := by
  unfold unsafeItem
  infer_instance

instance (isVisible : Bool) (p q : Position) :
    Refines (g.itemBody isVisible p) (g'.itemBody isVisible q) := by
  unfold itemBody
  infer_instance

instance {attributes attributes' : List Attribute} [h : Alike attributes attributes'] :
    Refines (g.itemBehindRule attributes) (g'.itemBehindRule attributes') := by
  unfold itemBehindRule
  refine Refines.bind inferInstance fun p q _ => ?_
  refine Refines.bind inferInstance fun isVisible _ h => h.eq ▸ ?_
  refine Refines.bind inferInstance fun item? item?' hitem => ?_
  obtain ⟨hitem⟩ := id hitem
  cases hitem with
  | none => infer_instance
  | some hlike =>
    cases hlike with
    | @type d e hde =>
      obtain ⟨_, name, _, ts⟩ := d
      obtain ⟨_, _, _, us⟩ := e
      obtain ⟨-, rfl, hts⟩ := hde.like
      have hts : Alike ts us := ⟨hts⟩
      infer_instance
    | _ => exact inferInstanceAs (Refines (pure _) (pure _))

instance : Refines g.itemRule g'.itemRule := by
  unfold itemRule
  have hinside : Refines (do g.itemBehind (← g.outerAttributes))
      (do g'.itemBehind (← g'.outerAttributes)) :=
    Refines.bind inferInstance fun _ _ _ => inferInstance
  refine Refines.bind inferInstance fun before before' _ => ?_
  refine Refines.bind inferInstance fun (item?, normal) (item?', normal') h => ?_
  have hnormal : Alike normal normal' := ⟨h.like.2⟩
  obtain ⟨hitem, -⟩ := h.like
  cases hitem with
  | none => infer_instance
  | @some item item' hlike =>
    have hitem : Alike item item' := ⟨hlike⟩
    cases hlike with
    | @type d e hde =>
      obtain ⟨ds, name, _, _⟩ := d
      obtain ⟨es, _, _, _⟩ := e
      obtain ⟨hds, rfl, -⟩ := hde.like
      have hds : Alike ds es := ⟨hds⟩
      dsimp only
      infer_instance
    | _ =>
      dsimp only
      infer_instance

end Rules

end ReceiverLoader.Grammar
