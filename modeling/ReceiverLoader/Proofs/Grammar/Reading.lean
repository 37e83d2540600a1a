import ReceiverLoader.Marker.Arguments
import ReceiverLoader.Proofs.Grammar.Items

/-!
# Reading trees alike

The rules of the grammar, tied to each other, read trees alike to the same, and a greater depth
makes no difference to what they read.

* `rules_refine`: what `rules n` reads, `rules m` reads from trees alike, for `n ≤ m`.
* `Marker.Arguments.ofAttribute_alike`: the arguments of a marker do not depend on positions.
-/

namespace ReceiverLoader.Grammar

open Token (Position Tree)

/-! ## Depth -/

instance {g g' : Rules} [RulesRefine g g'] : RulesRefine (rule g) (rule g') where
  expression structs :=
    inferInstanceAs (Refines (g.expressionRule structs) (g'.expressionRule structs))
  unary structs := inferInstanceAs (Refines (g.unaryRule structs) (g'.unaryRule structs))
  operators structs base left left' _ :=
    inferInstanceAs
      (Refines (g.operatorsRule structs base left) (g'.operatorsRule structs base left'))
  operand structs precedence :=
    inferInstanceAs (Refines (g.operandRule structs precedence) (g'.operandRule structs precedence))
  statementExpression :=
    inferInstanceAs (Refines g.statementExpressionRule g'.statementExpressionRule)
  statements := inferInstanceAs (Refines g.statementsRule g'.statementsRule)
  type plus := inferInstanceAs (Refines (g.typeRule plus) (g'.typeRule plus))
  bound capture constant :=
    inferInstanceAs (Refines (g.boundRule capture constant) (g'.boundRule capture constant))
  pattern := inferInstanceAs (Refines g.patternRule g'.patternRule)
  patterns := inferInstanceAs (Refines g.patternsRule g'.patternsRule)
  namedFields := inferInstanceAs (Refines g.namedFieldsRule g'.namedFieldsRule)
  item := inferInstanceAs (Refines g.itemRule g'.itemRule)
  itemBehind attributes attributes' _ :=
    inferInstanceAs (Refines (g.itemBehindRule attributes) (g'.itemBehindRule attributes'))
  useTree root := inferInstanceAs (Refines (g.useTreeRule root) (g'.useTreeRule root))

/-- A parser that uses its depth up reads like any other. -/
theorem deep_refines {α : Type} [Likeness α] (q : Parser α) :
    Refines (do throw ⟨← Parser.here, .tooDeep⟩) q where
  ends := by
    intro frame hframe scopeEnd scopeEnd' s t hst
    obtain ⟨ts, stray, written⟩ := s
    cases ts <;> exact .deep _ rfl

instance (g : Rules) : RulesRefine (rules 0) g where
  expression _ := deep_refines _
  unary _ := deep_refines _
  operators _ _ _ _ _ := deep_refines _
  operand _ _ := deep_refines _
  statementExpression := deep_refines _
  statements := deep_refines _
  type _ := deep_refines _
  bound _ _ := deep_refines _
  pattern := deep_refines _
  patterns := deep_refines _
  namedFields := deep_refines _
  item := deep_refines _
  itemBehind _ _ _ := deep_refines _
  useTree _ := deep_refines _

/-- A depth that suffices once suffices for good. -/
theorem rules_refine {n m : Nat} (h : n ≤ m) : RulesRefine (rules n) (rules m) := by
  induction n generalizing m with
  | zero => infer_instance
  | succ n ih =>
    obtain ⟨m, rfl⟩ := Nat.exists_eq_add_of_le' (Nat.one_le_of_lt h)
    have := ih (Nat.le_of_succ_le_succ h)
    exact inferInstanceAs (RulesRefine (rule (rules n)) (rule (rules m)))

mutual

theorem size_eq : ∀ {t u : Tree}, t.shape = u.shape → t.size = u.size
  | .leaf .., .leaf .., _ => rfl
  | .group _ _ _ body, .group _ _ _ body', h => by
    rw [Tree.shape, Tree.shape, Token.Shape.group.injEq] at h
    rw [Tree.size, Tree.size, sizeAll_eq h.2]

theorem sizeAll_eq : ∀ {ts us : List Tree}, Tree.shapes ts = Tree.shapes us →
    Tree.sizeAll ts = Tree.sizeAll us
  | [], [], _ => rfl
  | t :: ts, u :: us, h => by
    rw [Tree.shapes, Tree.shapes, List.cons.injEq] at h
    rw [Tree.sizeAll, Tree.sizeAll, size_eq h.1, sizeAll_eq h.2]

end

theorem depthOf_eq {ts us : List Tree} (h : Alike ts us) : depthOf ts = depthOf us :=
  congrArg (fun n => 16 * (n + 2)) (sizeAll_eq (like_trees_iff.mp h.like))

/-! ## Whole texts -/

theorem readAll_eq_ok {α : Type} {p : Rules → Parser α} {scopeEnd : Position} {ts : List Tree}
    {a : α} :
    readAll p scopeEnd ts = .ok a ↔
      ∃ s, p (rules (depthOf ts)) scopeEnd (.start ts) = .ok (a, s) ∧ s.trees = [] ∧
        s.stray = none := by
  unfold readAll
  constructor
  · intro h
    cases hread : p (rules (depthOf ts)) scopeEnd (.start ts) with
    | error => rw [hread] at h; cases h
    | ok r =>
      obtain ⟨b, ⟨us, stray, written⟩⟩ := r
      rw [hread] at h
      cases stray with
      | some => cases h
      | none =>
        cases us with
        | cons => cases h
        | nil =>
          cases h
          exact ⟨_, rfl, rfl, rfl⟩
  · rintro ⟨⟨us, stray, written⟩, hread, rfl, rfl⟩
    rw [hread]
    rfl

/-- Where one side has come to the end, so has the other. -/
theorem finished_of_alike {s t : Progress} (htrees : Alike s.trees t.trees)
    (hstray : Alike s.stray t.stray) (hs : s.trees = []) (hnone : s.stray = none) :
    t.trees = [] ∧ t.stray = none := by
  rw [hs] at htrees
  rw [hnone] at hstray
  refine ⟨List.eq_nil_of_length_eq_zero htrees.length_eq.symm, ?_⟩
  obtain ⟨hstray⟩ := hstray
  generalize t.stray = stray at hstray
  cases hstray
  rfl

/-- Trees alike are read to the same, but for positions. -/
theorem readAll_alike {α : Type} [Likeness α] {p : Rules → Parser α}
    (hp : ∀ (g g' : Rules) [RulesRefine g g'], Refines (p g) (p g')) {scopeEnd : Position}
    {ts us : List Tree} (h : Alike ts us) {a : α} (hread : readAll p scopeEnd ts = .ok a) :
    ∃ b, readAll p scopeEnd us = .ok b ∧ Alike a b := by
  obtain ⟨s, hs, htrees, hstray⟩ := readAll_eq_ok.mp hread
  have hrules := rules_refine (Nat.le_of_eq (depthOf_eq h))
  have hnone : Alike (none : Option Stray) none := inferInstance
  have hends := (hp (rules (depthOf ts)) (rules (depthOf us))).ends_of_written_nil scopeEnd scopeEnd
    h hnone
  rw [show Progress.mk ts none [] = .start ts from rfl, hs] at hends
  obtain ⟨b, t, ht, hab, hst⟩ := hends.of_ok
  obtain ⟨htrees', hstray'⟩ := finished_of_alike hst.trees hst.stray htrees hstray
  exact ⟨b, readAll_eq_ok.mpr ⟨t, ht, htrees', hstray'⟩, hab⟩

theorem readModule_alike {ts us : List Tree} (h : Alike ts us) {items : List Item}
    (hread : readModule ts = .ok items) :
    ∃ items', readModule us = .ok items' ∧ Alike items items' :=
  readAll_alike (fun _ _ => inferInstance) h hread

/-- Where either of two readings uses its depth up only if the other does, both end alike. -/
theorem Ends.both {ε κ α : Type} [Fault ε κ] [Likeness α] {frame frame' : List Tree}
    {r r' : Except ε (α × Progress)} (h : Ends frame r r') (h' : Ends frame' r' r) :
    (∃ e e', r = .error e ∧ r' = .error e' ∧ Fault.cause e = Fault.cause e') ∨
      ∃ a b s t, r = .ok (a, s) ∧ r' = .ok (b, t) ∧ Alike a b ∧ s.AlikeUpTo frame t := by
  cases h with
  | ok hab hst => exact Or.inr ⟨_, _, _, _, rfl, rfl, hab, hst⟩
  | error hcause => exact Or.inl ⟨_, _, rfl, rfl, hcause⟩
  | deep _ hdeep =>
    cases h' with
    | deep _ hdeep' => exact Or.inl ⟨_, _, rfl, rfl, hdeep.trans hdeep'.symm⟩
    | error hcause => exact Or.inl ⟨_, _, rfl, rfl, hcause.symm⟩

end ReceiverLoader.Grammar

/-! ## The arguments of markers -/

namespace ReceiverLoader.Marker

open Token (Position Tree)
open Grammar (Fault Refines RulesRefine Ends Alike Likeness Discrete Plain Ahead Parser Rules
  ExpressionForm)

set_option synthInstance.maxSize 1000000

instance : Plain Taken where
instance : Plain Int32 where

instance : Fault Error Cause := ⟨Error.cause, .grammar .tooDeep⟩

namespace Reader

variable {α : Type} [Likeness α]

instance {p q : Parser α} [hp : Refines p q] : Refines (grammar p) (grammar q) where
  ends := by
    intro frame hframe scopeEnd scopeEnd' s t hst
    have hends := hp.ends hframe scopeEnd scopeEnd' hst
    unfold grammar
    generalize p scopeEnd s = r at hends ⊢
    generalize q scopeEnd' t = r' at hends ⊢
    cases hends with
    | deep _ hdeep => exact .deep _ (congrArg Cause.grammar hdeep)
    | error hcause => exact .error (congrArg Cause.grammar hcause)
    | ok hab hst' => exact .ok hab hst'

instance (p q : Position) (cause : Cause) : Refines (fail p cause : Reader α) (fail q cause) where
  ends := fun _ _ _ _ _ _ => .error rfl

instance (test : Ahead) [Ahead.Blind test] : Refines (ahead test) (ahead test) :=
  inferInstanceAs (Refines (grammar _) (grammar _))

end Reader

open Reader

instance : Refines furtherSegments furtherSegments := by
  unfold furtherSegments
  infer_instance

instance : Refines argumentName argumentName := by
  unfold argumentName
  infer_instance

variable {g g' : Rules} [RulesRefine g g']

/-- An expression stands for the same integer, or is refused for the same cause. -/
theorem integerOf_alike (p q : Position) {form form' : ExpressionForm} (h : Alike form form') :
    (∃ n, integerOf p form = .ok n ∧ integerOf q form' = .ok n) ∨
      ∃ p' q' cause, integerOf p form = .error ⟨p', cause⟩ ∧
        integerOf q form' = .error ⟨q', cause⟩ := by
  obtain ⟨h⟩ := h
  cases h with
  | integer _ _ value =>
    simp only [integerOf]
    cases int32? value with
    | none => exact Or.inr ⟨_, _, _, rfl, rfl⟩
    | some n => exact Or.inl ⟨n, rfl, rfl⟩
  | negation h =>
    cases h with
    | integer _ _ value =>
      simp only [integerOf]
      cases int32? (-value) with
      | none => exact Or.inr ⟨_, _, _, rfl, rfl⟩
      | some n => exact Or.inl ⟨n, rfl, rfl⟩
    | _ => exact Or.inr ⟨_, _, _, rfl, rfl⟩
  | _ => exact Or.inr ⟨_, _, _, rfl, rfl⟩

instance : Refines (integerValue g) (integerValue g') := by
  unfold integerValue
  refine Refines.bind inferInstance fun _ _ _ => ?_
  refine Refines.bind inferInstance fun p q _ => ?_
  refine Refines.bind inferInstance fun form form' hform => ?_
  obtain ⟨n, hp, hq⟩ | ⟨p', q', cause, hp, hq⟩ := integerOf_alike p q hform <;> rw [hp, hq]
  · infer_instance
  · exact inferInstanceAs (Refines (fail p' cause) (fail q' cause))

instance : Refines textValue textValue := by
  unfold textValue
  infer_instance

instance (taken : Taken) : Refines (argument g taken) (argument g' taken) := by
  unfold argument
  refine Refines.bind inferInstance fun (p, name?) (q, name?') h => ?_
  obtain rfl : name? = name?' := Grammar.Discrete.eq_of_like h.like.2
  dsimp only
  cases name?.bind Field.ofName? with
  | none => infer_instance
  | some field =>
    dsimp only
    cases field <;> dsimp only <;> infer_instance

instance (bound : Nat) (taken : Taken) :
    Refines (argumentList g bound taken) (argumentList g' bound taken) := by
  induction bound generalizing taken with
  | zero => exact inferInstanceAs (Refines (pure _) (pure _))
  | succ bound ih =>
    unfold argumentList
    infer_instance

/-- The arguments of a marker, and the cause for which they are refused, do not depend on
positions. -/
theorem Arguments.read_alike (p q : Position) {ts us : List Tree} (h : Alike ts us) :
    (read p ts).mapError Error.cause = (read q us).mapError Error.cause := by
  have hus : Alike us ts :=
    ⟨Grammar.like_trees_iff.mpr (Grammar.like_trees_iff.mp h.like).symm⟩
  have hstray : Alike (none : Option Grammar.Stray) none := inferInstance
  have hrules := Grammar.rules_refine (Nat.le_refl (Grammar.depthOf us))
  have hrefines : Refines (argumentList (Grammar.rules (Grammar.depthOf us)) (us.length + 1) .none)
      (argumentList (Grammar.rules (Grammar.depthOf us)) (us.length + 1) .none) := inferInstance
  have hends := hrefines.ends_of_written_nil p q h hstray
  have hends' := hrefines.ends_of_written_nil q p hus hstray
  unfold read Grammar.Progress.start
  rw [Grammar.depthOf_eq h, h.length_eq]
  obtain ⟨e, e', hl, hr, hcause⟩ | ⟨taken, _, s, t, hl, hr, htaken, hst⟩ := hends.both hends'
  · rw [hl, hr]
    exact congrArg Except.error hcause
  · obtain ⟨_, stray, _⟩ := s
    obtain ⟨_, stray', _⟩ := t
    obtain ⟨hstray⟩ : Alike stray stray' := hst.stray
    rw [hl, hr, htaken.eq]
    cases hstray with
    | none => rfl
    | some hinside =>
      exact congrArg (fun d => Except.error (Cause.grammar (.leftOver d))) hinside

theorem Arguments.ofAttribute_alike {a b : Grammar.Attribute} (h : Alike a b) :
    (ofAttribute a).mapError Error.cause = (ofAttribute b).mapError Error.cause := by
  obtain ⟨path, content⟩ := a
  obtain ⟨path', content'⟩ := b
  obtain ⟨rfl, hcontent⟩ := h.like
  cases hcontent with
  | nothing => rfl
  | arguments closes closes' hbody => exact read_alike closes closes' hbody
  | value => rfl

end ReceiverLoader.Marker
