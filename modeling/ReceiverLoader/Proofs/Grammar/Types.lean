import ReceiverLoader.Proofs.Grammar.Paths

/-!
# The rules of types and patterns

What types, bounds and patterns are read as does not depend on positions, and a greater depth makes
no difference to it.
-/

namespace ReceiverLoader.Grammar

open Token (Position Tree Delimiter)
open Grammar.Parser

set_option synthInstance.maxSize 1000000

namespace Rules

variable {g g' : Rules} [hg : RulesRefine g g']

/-! ## Bounds -/

instance (plus : Bool) : Refines (g.resultType plus) (g'.resultType plus) := by
  unfold resultType
  infer_instance

instance : Refines g.parenthesizedArguments g'.parenthesizedArguments := by
  unfold parenthesizedArguments
  infer_instance

/-- Whether trees are the marks `cs`, be they joint or not, with more behind them. -/
def beginWith : List Char → List Tree → Bool
  | [], _ => true
  | c :: cs, .leaf _ (.mark d _) :: ts => c == d && beginWith cs ts
  | _, _ => false

theorem beginWith_eq (cs : List Char) {ts us : List Tree} (h : Alike ts us) :
    beginWith cs ts = beginWith cs us := by
  induction cs generalizing ts us with
  | nil => rfl
  | cons c cs ih =>
    cases h.front with
    | mark _ _ d _ hrest => exact congrArg (c == d && ·) (ih hrest)
    | _ => rfl

theorem beginWith_cons {c : Char} {cs : List Char} {ts : List Tree} :
    beginWith (c :: cs) ts = true ↔
      ∃ p joint rest, ts = .leaf p (.mark c joint) :: rest ∧ beginWith cs rest = true := by
  constructor
  · intro h
    unfold beginWith at h
    split at h
    · cases ‹_ = []›
    · rename_i d _ _ heq
      cases heq
      rw [Bool.and_eq_true, beq_iff_eq] at h
      obtain ⟨rfl, h⟩ := h
      exact ⟨_, _, _, rfl, h⟩
    · cases h
  · rintro ⟨p, joint, rest, rfl, h⟩
    rw [beginWith, h, beq_self_eq_true, Bool.and_true]

/-- Empty brackets are two marks at the end, or four with the `::` in front of them. -/
theorem withoutEmptyBrackets_eq (ts : List Tree) :
    withoutEmptyBrackets ts =
      if beginWith ['>', '<', ':', ':'] ts.reverse then (ts.reverse.drop 4).reverse
      else if beginWith ['>', '<'] ts.reverse then (ts.reverse.drop 2).reverse
      else ts := by
  have hcons := @beginWith_cons
  unfold withoutEmptyBrackets
  split
  · rename_i hts
    rw [if_pos (by rw [hts]; rfl), hts]
    rfl
  · rename_i hfour hts
    rw [if_neg, if_pos (by rw [hts]; rfl), hts]
    · rfl
    · rw [hts]
      simp only [hcons]
      rintro ⟨_, _, _, h₁, _, _, _, h₂, _, _, _, h₃, _, _, _, h₄, -⟩
      cases h₁
      cases h₂
      cases h₃
      cases h₄
      exact hfour _ _ _ _ _ rfl
  · rename_i hfour htwo
    rw [if_neg, if_neg]
    · simp only [hcons]
      rintro ⟨_, _, _, hts, _, _, _, rfl, -⟩
      exact htwo _ _ _ _ _ hts
    · simp only [hcons]
      rintro ⟨_, _, _, hts, _, _, _, rfl, _, _, _, rfl, _, _, _, rfl, -⟩
      exact hfour _ _ _ _ _ _ _ _ _ hts

theorem withoutEmptyBrackets_alike {ts us : List Tree} (h : Alike ts us) :
    Alike (withoutEmptyBrackets ts) (withoutEmptyBrackets us) := by
  have hreverse : Alike ts.reverse us.reverse := inferInstance
  rw [withoutEmptyBrackets_eq, withoutEmptyBrackets_eq, beginWith_eq _ hreverse,
    beginWith_eq _ hreverse]
  infer_instance

instance : Refines g.boundPath g'.boundPath := by
  unfold boundPath
  refine Refines.bind inferInstance fun (form, path) (form', path') h => ?_
  obtain rfl : form = form' := h.like.1
  have hpath : Alike path path' := ⟨h.like.2⟩
  have hwithout := withoutEmptyBrackets_alike hpath
  infer_instance

instance (allowed : Bool) : Refines (boundConstness allowed) (boundConstness allowed) := by
  unfold boundConstness
  dsimp only
  infer_instance

instance (constant : Bool) : Refines (g.traitBound constant) (g'.traitBound constant) := by
  unfold traitBound
  dsimp only
  infer_instance

instance : Refines capturedName capturedName := by
  unfold capturedName
  infer_instance

instance : Refines capturedNames capturedNames := by
  unfold capturedNames
  infer_instance

instance (capture constant : Bool) :
    Refines (g.boundRule capture constant) (g'.boundRule capture constant) := by
  unfold boundRule
  infer_instance

instance (constant : Bool) : Ahead.Blind (boundAhead constant) := by
  unfold boundAhead
  dsimp only
  infer_instance

instance (plus capture constant : Bool) :
    Refines (g.boundSum plus capture constant) (g'.boundSum plus capture constant) := by
  unfold boundSum
  infer_instance

instance (plus : Bool) (position position' : Position) :
    Refines (g.objectBounds plus position) (g'.objectBounds plus position') := by
  unfold objectBounds
  infer_instance

instance : Refines g.furtherBounds g'.furtherBounds := by
  unfold furtherBounds
  infer_instance

/-! ## Types -/

instance (first : Bool) :
    Refines (g.functionTypeArgument first) (g'.functionTypeArgument first) := by
  unfold functionTypeArgument
  dsimp only
  infer_instance

instance : Ahead.Blind variadicAhead := by
  unfold variadicAhead
  infer_instance

instance : Refines g.functionTypeArguments g'.functionTypeArguments := by
  unfold functionTypeArguments
  infer_instance

instance : Refines linkage linkage := by
  unfold linkage
  infer_instance

instance : Refines optionalLinkage optionalLinkage := by
  unfold optionalLinkage
  infer_instance

instance : Refines g.functionType g'.functionType := by
  unfold functionType
  refine Refines.bind inferInstance fun _ _ _ => ?_
  refine Refines.bind inferInstance fun _ _ _ => ?_
  refine Refines.bind inferInstance fun _ _ _ => ?_
  refine Refines.bind inferInstance fun (_, stray) (_, stray') h => ?_
  have hstray : Alike stray stray' := ⟨h.like.2⟩
  infer_instance

instance : Refines g.enclosed g'.enclosed := by
  unfold enclosed
  infer_instance

theorem withoutOuterParentheses_alike {ts us : List Tree} (h : Alike ts us) :
    Alike (withoutOuterParentheses ts) (withoutOuterParentheses us) := by
  cases h.front with
  | group _ _ _ _ _ hbody hrest =>
    cases hbody.front with
    | group _ _ _ _ _ _ hnothing =>
      cases hnothing.front with
      | nothing =>
        cases hrest.front with
        | nothing => exact hbody
        | _ => exact h
      | _ => exact h
    | _ => exact h
  | _ => exact h

instance (plus : Bool) : Refines (g.parenthesizedType plus) (g'.parenthesizedType plus) := by
  unfold parenthesizedType
  refine Refines.bind inferInstance fun ((inside, stray), ts) ((inside', stray'), us) h => ?_
  obtain rfl : inside = inside' := h.like.1.1
  have hstray : Alike stray stray' := ⟨h.like.1.2⟩
  have hts : Alike ts us := ⟨h.like.2⟩
  have hwithout := withoutOuterParentheses_alike hts
  refine Refines.bind inferInstance fun summed _ hsummed => hsummed.eq ▸ ?_
  cases inside <;> infer_instance

instance (plus bound : Bool) (form : PathForm) :
    Refines (g.behindPath plus bound form) (g'.behindPath plus bound form) := by
  unfold behindPath
  infer_instance

instance (plus bound : Bool) {binder binder' : List Tree} [Alike binder binder'] :
    Refines (g.pathType plus bound binder) (g'.pathType plus bound binder') := by
  unfold pathType
  refine Refines.bind inferInstance fun (form?, path) (form?', path') h => ?_
  obtain rfl : form? = form?' := Discrete.eq_of_like h.like.1
  have hpath : Alike path path' := ⟨h.like.2⟩
  cases form? <;> infer_instance

instance : Ahead.Blind builtinAhead := by
  unfold builtinAhead
  infer_instance

instance : Refines builtinOperation builtinOperation := by
  unfold builtinOperation
  infer_instance

instance : Ahead.Blind boundTypeAhead := by
  unfold boundTypeAhead
  infer_instance

instance : Refines g.bracketedType g'.bracketedType := by
  unfold bracketedType
  infer_instance

instance (plus : Bool) : Refines (g.objectType plus) (g'.objectType plus) := by
  unfold objectType
  infer_instance

instance (plus : Bool) : Refines (g.typeRule plus) (g'.typeRule plus) := by
  unfold typeRule
  refine Refines.bind inferInstance fun (bound, binder) (bound', binder') h => ?_
  obtain rfl : bound = bound' := h.like.1
  have hbinder : Alike binder binder' := ⟨h.like.2⟩
  dsimp only
  infer_instance

/-! ## Patterns -/

instance (p q : Position) (value : Nat) : Alike (indexTree p value) (indexTree q value) :=
  inferInstanceAs (Alike (Tree.leaf p _) (.leaf q _))

instance : Refines member member := by
  unfold member
  refine Refines.bind inferInstance fun a _ ha => ha.eq ▸ ?_
  refine Refines.ite Iff.rfl inferInstance ?_
  refine Refines.bind inferInstance fun ts us h => ?_
  obtain ⟨hts, hus⟩ | ⟨p, q, value, count, hts, hus⟩ := Ahead.literal?_alike h <;> rw [hts, hus]
  · infer_instance
  · cases value <;> infer_instance

instance : Ahead.Blind pathPatternAhead := by
  unfold pathPatternAhead
  infer_instance

instance (p q : Position) : Refines (emitClosedDots p) (emitClosedDots q) := by
  unfold emitClosedDots
  infer_instance

instance (obsolete : Bool) : Refines (rangeDots obsolete) (rangeDots obsolete) := by
  unfold rangeDots
  infer_instance

instance : Refines g.patternRangeEnd g'.patternRangeEnd := by
  unfold patternRangeEnd
  infer_instance

instance : Refines g.patternRangeBehind g'.patternRangeBehind := by
  unfold patternRangeBehind
  infer_instance

instance : Refines g.patternRangeFront g'.patternRangeFront := by
  unfold patternRangeFront
  infer_instance

instance : Refines g.fieldPattern g'.fieldPattern := by
  unfold fieldPattern
  infer_instance

instance : Refines g.fieldPatterns g'.fieldPatterns := by
  unfold fieldPatterns
  infer_instance

instance : Refines g.pathPattern g'.pathPattern := by
  unfold pathPattern
  infer_instance

instance : Refines g.namePattern g'.namePattern := by
  unfold namePattern
  infer_instance

instance : Refines g.slicePatternMember g'.slicePatternMember := by
  unfold slicePatternMember
  refine Refines.bind inferInstance fun form form' h => ?_
  obtain ⟨h⟩ := h
  cases h <;> infer_instance

instance : Refines g.patternRule g'.patternRule := by
  unfold patternRule
  infer_instance

instance : Ahead.Blind alternativeAhead := by
  unfold alternativeAhead
  infer_instance

instance : Refines g.patternsRule g'.patternsRule := by
  unfold patternsRule
  refine Refines.bind inferInstance fun leading _ hleading => hleading.eq ▸ ?_
  refine Refines.bind inferInstance fun form form' hform => ?_
  refine Refines.bind inferInstance fun alternatives alternatives' halternatives => ?_
  rw [halternatives.isEmpty_eq]
  infer_instance

end Rules

end ReceiverLoader.Grammar
