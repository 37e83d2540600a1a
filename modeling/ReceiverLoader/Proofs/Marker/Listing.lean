import ReceiverLoader.Proofs.Marker.Written

/-!
# Reading lists of marker arguments

A list of arguments is read one by one, from left to right. What it is read as does not depend on
the grammar's depth, nor on where its commas stand: each argument is settled by itself, behind those
that were read before it.

* `argumentName_trees`: the name of an argument is read as its path.
* `readValue_of_some`, `readValue_of_none`: what stands behind `=` is read as the value that it is.
* `argument_trees`: an argument is read by its name and then for the field of that name.
* `argumentList_step`: the step, from one argument to those behind its comma.
* `ofTrees_eq_foldlM`: the run, over all arguments of a list.
-/

namespace ReceiverLoader.Marker

open Grammar (Parser Progress Ahead Rules SignedLiteral IsExpression memberEnd bind_apply bind_of_ok
  rules depthOf textEnd)
open Token (Position Tree Literal)

/-! ## Names -/

section Name

variable {scopeEnd : Position} {rest written : List Tree}

/-- Reads `::` and a word, as long as they follow. -/
def furtherTurn (done : List String) : Parser (Parser.Turn (List String) (List String)) := do
  if ← Parser.mark? "::" then return .again ((← Parser.word) :: done)
  else return .done done.reverse

theorem furtherSegments_eq :
    furtherSegments = Parser.loop furtherTurn List.reverse [] := rfl

/-- Words with `::` in front of each are read to their end. -/
theorem loopFor_furtherTurn (hrest : Ahead.mark "::" rest = false) :
    ∀ (further : List (DoubleColon × Position × String)) (bound : List Tree) (done : List String)
      (written : List Tree), further.length ≤ bound.length →
      Parser.loopFor furtherTurn List.reverse bound done scopeEnd
          ⟨WrittenPath.furtherTrees further ++ rest, none, written⟩ =
        .ok (done.reverse ++ further.map (·.2.2),
          ⟨rest, none, (WrittenPath.furtherTrees further).reverse ++ written⟩)
  | [], bound, done, written, _ => by
    have hturn : furtherTurn done scopeEnd ⟨rest, none, written⟩ =
        .ok (.done done.reverse, ⟨rest, none, written⟩) := by
      unfold furtherTurn
      rw [bind_of_ok (Parser.mark?_of_not hrest), if_neg Bool.false_ne_true]
      rfl
    rw [WrittenPath.furtherTrees, List.nil_append, Parser.loopFor_apply, hturn]
    simp
  | (c, p, w) :: further, b :: bound, done, written, hbound => by
    have hbehind : furtherTurn done scopeEnd
          ⟨WrittenPath.furtherTrees ((c, p, w) :: further) ++ rest, none, written⟩ =
        .ok (.again (w :: done), ⟨WrittenPath.furtherTrees further ++ rest, none,
          .leaf p (.word w) :: (c.trees.reverse ++ written)⟩) := by
      have hmark : Ahead.mark "::"
          (WrittenPath.furtherTrees ((c, p, w) :: further) ++ rest) = true := rfl
      unfold furtherTurn
      rw [bind_of_ok (Parser.mark?_of hmark), if_pos rfl]
      rfl
    have ih := loopFor_furtherTurn hrest further bound (w :: done)
      (.leaf p (.word w) :: (c.trees.reverse ++ written)) (Nat.le_of_succ_le_succ hbound)
    rw [Parser.loopFor_apply, hbehind]
    refine ih.trans ?_
    simp [WrittenPath.furtherTrees]

theorem length_le_furtherTrees :
    ∀ further : List (DoubleColon × Position × String),
      further.length ≤ (WrittenPath.furtherTrees further).length
  | [] => Nat.le_refl 0
  | (c, p, w) :: further => by
    have ih := length_le_furtherTrees further
    rw [WrittenPath.furtherTrees, List.length_append, List.length_cons, List.length_cons]
    omega

theorem furtherSegments_trees (hrest : Ahead.mark "::" rest = false)
    (further : List (DoubleColon × Position × String)) (written : List Tree) :
    furtherSegments scopeEnd ⟨WrittenPath.furtherTrees further ++ rest, none, written⟩ =
      .ok (further.map (·.2.2),
        ⟨rest, none, (WrittenPath.furtherTrees further).reverse ++ written⟩) := by
  rw [furtherSegments_eq]
  refine loopFor_furtherTurn hrest further _ [] written ?_
  have := length_le_furtherTrees further
  rw [List.length_append]
  omega

theorem grammar_of_ok {α : Type} {p : Parser α} {s : Progress} {r : α × Progress}
    (h : p scopeEnd s = .ok r) : Reader.grammar p scopeEnd s = .ok r := by
  unfold Reader.grammar
  rw [h]

theorem ahead_apply (test : Ahead) (s : Progress) :
    Reader.ahead test scopeEnd s = .ok (test s.trees, s) := rfl

theorem leading_trees (path : WrittenPath) (rest written : List Tree) :
    Parser.mark? "::" scopeEnd ⟨path.trees ++ rest, none, written⟩ =
      .ok (path.leading.isSome,
        ⟨.leaf path.position (.word path.first) :: (WrittenPath.furtherTrees path.further ++ rest),
          none, ((path.leading.map DoubleColon.trees).getD []).reverse ++ written⟩) := by
  obtain ⟨leading, position, first, further⟩ := path
  cases leading with
  | none => exact Parser.mark?_of_not rfl
  | some c => exact Parser.mark?_of rfl

/-- The name of an argument is read as its path. -/
theorem argumentName_trees (path : WrittenPath) (hrest : Ahead.mark "::" rest = false)
    (written : List Tree) :
    argumentName scopeEnd ⟨path.trees ++ rest, none, written⟩ =
      .ok ((path.position, path.plain?), ⟨rest, none, path.trees.reverse ++ written⟩) := by
  have hleading : Reader.grammar (Parser.mark? "::") scopeEnd _ = .ok _ :=
    grammar_of_ok (leading_trees path rest written)
  have hfurther : Reader.grammar furtherSegments scopeEnd _ = .ok _ :=
    grammar_of_ok (furtherSegments_trees hrest path.further
      (.leaf path.position (.word path.first) ::
        (((path.leading.map DoubleColon.trees).getD []).reverse ++ written)))
  have hword (ts written : List Tree) :
      Reader.ahead Ahead.word scopeEnd
          ⟨.leaf path.position (.word path.first) :: ts, none, written⟩ =
        .ok (true, ⟨.leaf path.position (.word path.first) :: ts, none, written⟩) := rfl
  unfold argumentName
  rw [bind_of_ok hleading, bind_of_ok (grammar_of_ok rfl), bind_of_ok (hword ..), if_pos rfl,
    bind_of_ok (grammar_of_ok (Parser.word_apply ..)), bind_of_ok hfurther]
  obtain ⟨leading, position, first, further⟩ := path
  cases further <;> simp [WrittenPath.plain?, WrittenPath.trees, Token.Tree.position] <;> rfl

end Name

/-! ## Values -/

/-- What an expression is as an integer does not depend on how it is read. -/
theorem integerOf_eq {ts : List Tree} {form : Grammar.ExpressionForm}
    (h : ∀ l : SignedLiteral, form = l.toForm ↔ SignedLiteral.ofTrees? ts = some l) :
    integerOf (beginning ts) form =
      match integer? ts with
      | some n => .ok n
      | none => .error (integerError ts) := by
  unfold integer? integerError
  cases hl : SignedLiteral.ofTrees? ts with
  | some l =>
    obtain rfl := (h l).mpr hl
    obtain ⟨isNegative, p, magnitude⟩ := l
    cases isNegative <;> rfl
  | none =>
    have hno (l : SignedLiteral) : form ≠ l.toForm := fun hform => by
      rw [(h l).mp hform] at hl
      cases hl
    cases form with
    | integer p value => exact absurd rfl (hno ⟨false, p, value⟩)
    | negation operand =>
      cases operand with
      | integer p value => exact absurd rfl (hno ⟨true, p, value⟩)
      | _ => rfl
    | _ => rfl

theorem textLiteral_iff {ts : List Tree} :
    Ahead.textLiteral ts = true ↔
      ∃ p w value rest, ts = .leaf p (.literal w) :: rest ∧ Literal.ofWritten w = .text value := by
  constructor
  · intro h
    unfold Ahead.textLiteral at h
    split at h
    · rename_i p value count hnext
      unfold Ahead.literal? at hnext
      split at hnext
      · rename_i w _
        exact ⟨_, w, value, _, rfl, (Prod.mk.inj (Prod.mk.inj (Option.some.inj hnext)).2).1⟩
      · split at hnext <;> cases hnext
      · split at hnext <;> cases hnext
      · cases hnext
    · cases h
  · rintro ⟨p, w, value, rest, rfl, hw⟩
    have hnext : Ahead.literal? (.leaf p (.literal w) :: rest) =
      some (p, Literal.ofWritten w, 1) := rfl
    unfold Ahead.textLiteral
    rw [hnext, hw]

section Value

variable {value rest written : List Tree} (hvalue : IsExpression value)
  (hend : memberEnd rest = true)
include hvalue

theorem position_eq (us : List Tree) (scopeEnd : Position) :
    Parser.here scopeEnd ⟨value ++ us, none, written⟩ =
      .ok (beginning value, ⟨value ++ us, none, written⟩) := by
  obtain ⟨t, ts, rfl⟩ := List.exists_cons_of_ne_nil hvalue.ne_nil
  rfl

include hend

/-- What is read behind `=` as an integer is the integer that the expression is. -/
theorem integerValue_trees {depth : Nat} (hdepth : depthOf value ≤ depth) (q : Position)
    (joint : Bool) :
    ∃ written', integerValue (rules depth) textEnd
        ⟨.leaf q (.mark '=' joint) :: (value ++ rest), none, written⟩ =
      match integer? value with
      | some n => .ok (n, ⟨rest, none, written'⟩)
      | none => .error (integerError value) := by
  obtain ⟨form, written', hread⟩ :=
    hvalue depth (.leaf q (.mark '=' joint) :: written) rest hdepth hend
  have hform := integerOf_eq (Grammar.expression_eq_toForm hend rfl hread rfl)
  have hequals : Reader.grammar (Parser.mark "=") textEnd
        ⟨.leaf q (.mark '=' joint) :: (value ++ rest), none, written⟩ =
      .ok ((), ⟨value ++ rest, none, .leaf q (.mark '=' joint) :: written⟩) := grammar_of_ok rfl
  refine ⟨written', ?_⟩
  unfold integerValue
  rw [bind_of_ok hequals, bind_of_ok (grammar_of_ok (position_eq hvalue rest textEnd)),
    bind_of_ok (grammar_of_ok hread), hform]
  cases integer? value <;> rfl

omit hend in
/-- Behind the first literal of a complete expression no comma follows. -/
theorem not_memberEnd {p : Position} {w : String} {t : Tree} {ts : List Tree}
    (hts : value = .leaf p (.literal w) :: t :: ts) (us : List Tree) :
    memberEnd (t :: ts ++ us) = false := by
  refine Bool.eq_false_iff.mpr fun hcomma => ?_
  rw [List.cons_append, Grammar.memberEnd_cons t _ ts] at hcomma
  have hdepth : depthOf [.leaf p (.literal w)] ≤ depthOf value := by
    rw [hts]
    unfold depthOf
    simp only [Tree.sizeAll]
    omega
  obtain ⟨form, written', hread⟩ := hvalue (depthOf value) [] [] (Nat.le_refl _) rfl
  obtain ⟨form', written'', hliteral⟩ :=
    Grammar.isExpression_literal p w (depthOf value) [] (t :: ts) hdepth hcomma
  rw [List.append_nil] at hread
  rw [List.singleton_append, ← hts, hread] at hliteral
  cases hliteral

end Value

theorem textValue_literal {p q : Position} {w v : String} {joint : Bool}
    (hw : Literal.ofWritten w = .text v) (scopeEnd : Position) (us written : List Tree) :
    textValue scopeEnd ⟨.leaf q (.mark '=' joint) :: .leaf p (.literal w) :: us, none, written⟩ =
      .ok (v, ⟨us, none, .leaf p (.literal w) :: .leaf q (.mark '=' joint) :: written⟩) := by
  have hequals : Reader.grammar (Parser.mark "=") scopeEnd
        ⟨.leaf q (.mark '=' joint) :: .leaf p (.literal w) :: us, none, written⟩ =
      .ok ((), ⟨.leaf p (.literal w) :: us, none, .leaf q (.mark '=' joint) :: written⟩) :=
    grammar_of_ok rfl
  have htrees (s : Progress) : Parser.trees scopeEnd s = .ok (s.trees, s) := rfl
  have hnext : Ahead.literal? (.leaf p (.literal w) :: us) = some (p, .text v, 1) := by
    rw [← hw]
    rfl
  unfold textValue
  rw [bind_of_ok hequals]
  refine grammar_of_ok ?_
  unfold Parser.textLiteral
  rw [bind_of_ok (htrees _), hnext]
  rfl

theorem textLiteral_append {ts : List Tree} (hne : ts ≠ []) (us : List Tree) :
    Ahead.textLiteral (ts ++ us) = Ahead.textLiteral ts := by
  obtain ⟨t, ts, rfl⟩ := List.exists_cons_of_ne_nil hne
  rw [Bool.eq_iff_iff, textLiteral_iff, textLiteral_iff]
  constructor <;>
  · rintro ⟨p, w, value, rest, hts, hw⟩
    cases hts
    exact ⟨p, w, value, _, rfl, hw⟩

theorem textLiteral_of_not {scopeEnd : Position} {s : Progress}
    (h : Ahead.textLiteral s.trees = false) :
    Parser.textLiteral scopeEnd s = Parser.want .stringLiteral scopeEnd s := by
  have htrees : Parser.trees scopeEnd s = .ok (s.trees, s) := rfl
  unfold Parser.textLiteral
  rw [bind_of_ok htrees]
  cases hnext : Ahead.literal? s.trees with
  | none => rfl
  | some r =>
    obtain ⟨p, value, count⟩ := r
    cases value with
    | text =>
      unfold Ahead.textLiteral at h
      rw [hnext] at h
      cases h
    | _ => rfl

theorem textValue_of_not {ts : List Tree} (hne : ts ≠ [])
    (hts : Ahead.textLiteral ts = false) (scopeEnd q : Position) (joint : Bool)
    (us written : List Tree) :
    textValue scopeEnd ⟨.leaf q (.mark '=' joint) :: (ts ++ us), none, written⟩ =
      .error ⟨beginning ts, .grammar (.wanted .stringLiteral false)⟩ := by
  have hequals : Reader.grammar (Parser.mark "=") scopeEnd
        ⟨.leaf q (.mark '=' joint) :: (ts ++ us), none, written⟩ =
      .ok ((), ⟨ts ++ us, none, .leaf q (.mark '=' joint) :: written⟩) :=
    grammar_of_ok rfl
  have htrees (s : Progress) : Parser.trees scopeEnd s = .ok (s.trees, s) := rfl
  rw [← textLiteral_append hne us] at hts
  unfold textValue
  rw [bind_of_ok hequals, Reader.grammar, textLiteral_of_not hts]
  obtain ⟨t, ts, rfl⟩ := List.exists_cons_of_ne_nil hne
  rfl

/-! ## Arguments -/

/-- Reads `=` and a value for a field. -/
def readValue (g : Rules) : (f : Field) → Reader f.Value
  | .group => textValue
  | .priority => integerValue g
  | .flag => integerValue g

/-- Reads what stands behind the name at `position`, if it is that of a field. -/
def readField (g : Rules) (taken : Taken) (position : Position) : Option Field → Reader Taken
  | none => Reader.fail position .unknown
  | some f =>
    if taken.has f then Reader.fail position (.duplicate f)
    else readValue g f >>= fun value => pure (taken.set f value)

section Argument

variable (g : Rules) {taken : Taken} {a : WrittenArgument} (rest written : List Tree)

theorem argument_eq :
    argument g taken =
      argumentName >>= fun (position, name?) =>
        readField g taken position (name?.bind Field.ofName?) := by
  unfold argument
  refine bind_congr ?_
  rintro ⟨position, name?⟩
  dsimp only
  cases name?.bind Field.ofName? with
  | none => rfl
  | some f =>
    unfold readField
    cases taken.has f <;> cases f <;> rfl

theorem name_trees :
    argumentName textEnd ⟨a.trees ++ rest, none, written⟩ =
      .ok ((a.path.position, a.path.plain?),
        ⟨.leaf a.equals (.mark '=' a.joint) :: (a.value ++ rest), none,
          a.path.trees.reverse ++ written⟩) := by
  have hmark :
      Ahead.mark "::" (.leaf a.equals (.mark '=' a.joint) :: (a.value ++ rest)) = false := by
    cases a.joint <;> rfl
  have hname : argumentName textEnd _ = .ok _ := argumentName_trees a.path hmark written
  rwa [← List.cons_append, ← List.append_assoc] at hname

/-- Behind its name an argument is read for the field that the name is of. -/
theorem argument_trees :
    argument g taken textEnd ⟨a.trees ++ rest, none, written⟩ =
      readField g taken a.path.position a.field? textEnd
        ⟨.leaf a.equals (.mark '=' a.joint) :: (a.value ++ rest), none,
          a.path.trees.reverse ++ written⟩ := by
  rw [argument_eq, bind_of_ok (name_trees rest written)]
  rfl

end Argument

section Read

variable {depth : Nat} {a : WrittenArgument} {f : Field} {rest : List Tree}
  (hvalue : IsExpression a.value) (hdepth : depthOf a.value ≤ depth) (hend : memberEnd rest = true)
  (q : Position) (joint : Bool) (written : List Tree)
include hvalue hdepth hend

theorem readValue_of_some {v : f.Value} (h : a.value? f = some v) :
    ∃ written', readValue (rules depth) f textEnd
        ⟨.leaf q (.mark '=' joint) :: (a.value ++ rest), none, written⟩ =
      .ok (v, ⟨rest, none, written'⟩) := by
  have hinteger := @integerValue_trees a.value rest written hvalue hend depth hdepth q joint
  cases f with
  | group =>
    obtain ⟨p, w, hts, hw⟩ := text?_eq_some.mp h
    rw [hts]
    exact ⟨_, textValue_literal hw textEnd rest written⟩
  | priority | flag =>
    obtain ⟨written', hread⟩ := hinteger
    rw [show integer? a.value = some v from h] at hread
    exact ⟨written', hread⟩

/-- A value that is refused is no value for the field, or a text with more behind it. -/
theorem readValue_of_none (h : a.value? f = none) :
    readValue (rules depth) f textEnd
        ⟨.leaf q (.mark '=' joint) :: (a.value ++ rest), none, written⟩ =
        .error (a.valueError f) ∨
      ∃ v t ts written', memberEnd (t :: ts) = false ∧
        readValue (rules depth) f textEnd
            ⟨.leaf q (.mark '=' joint) :: (a.value ++ rest), none, written⟩ =
          .ok (v, ⟨t :: ts, none, written'⟩) ∧
        a.valueError f = ⟨t.position, .grammar (.wanted (.mark ",") false)⟩ := by
  have hinteger := @integerValue_trees a.value rest written hvalue hend depth hdepth q joint
  cases f with
  | group =>
    cases htext : Ahead.textLiteral a.value with
    | false =>
      refine .inl ((textValue_of_not hvalue.ne_nil htext textEnd q joint rest written).trans ?_)
      rw [WrittenArgument.valueError, textError, htext, if_neg Bool.false_ne_true]
    | true =>
      obtain ⟨p, w, v, more, hts, hw⟩ := textLiteral_iff.mp htext
      cases more with
      | nil =>
        rw [WrittenArgument.value?, text?_eq_some.mpr ⟨p, w, hts, hw⟩] at h
        cases h
      | cons t ts =>
        have hread : textValue textEnd
              ⟨.leaf q (.mark '=' joint) :: (a.value ++ rest), none, written⟩ =
            .ok (v, ⟨t :: (ts ++ rest), none,
              .leaf p (.literal w) :: .leaf q (.mark '=' joint) :: written⟩) := by
          rw [hts]
          exact textValue_literal hw textEnd (t :: ts ++ rest) written
        have hfault : a.valueError .group = ⟨t.position, .grammar (.wanted (.mark ",") false)⟩ := by
          rw [WrittenArgument.valueError, textError, htext, if_pos rfl, hts]
          rfl
        exact .inr ⟨v, t, ts ++ rest, _, not_memberEnd hvalue hts rest, hread, hfault⟩
  | priority | flag =>
    obtain ⟨written', hread⟩ := hinteger
    rw [show integer? a.value = none from h] at hread
    exact .inl hread

end Read

/-! ## Lists -/

/-- Reads what stands behind an argument: nothing, or a comma and the arguments behind it. -/
def furtherArguments (g : Rules) (bound : Nat) (taken : Taken) : Reader Taken := do
  if ← Reader.ahead Ahead.nothing then return taken
  Reader.grammar (Parser.mark ",")
  argumentList g bound taken

section Further

variable {g : Rules} {taken : Taken} {bound : Nat} {scopeEnd : Position} {ts written : List Tree}

theorem argumentList_succ (hne : ts ≠ []) :
    argumentList g (bound + 1) taken scopeEnd ⟨ts, none, written⟩ =
      (argument g taken >>= furtherArguments g bound) scopeEnd ⟨ts, none, written⟩ := by
  have hnothing : Ahead.nothing ts = false := List.isEmpty_eq_false_iff.mpr hne
  rw [argumentList, bind_of_ok (ahead_apply ..)]
  dsimp only
  rw [hnothing]
  rfl

theorem furtherArguments_comma (p : Position) (joint : Bool) :
    furtherArguments g bound taken scopeEnd ⟨.leaf p (.mark ',' joint) :: ts, none, written⟩ =
      argumentList g bound taken scopeEnd ⟨ts, none, .leaf p (.mark ',' joint) :: written⟩ := rfl

theorem furtherArguments_of_not {t : Tree} (hcomma : memberEnd (t :: ts) = false) :
    furtherArguments g bound taken scopeEnd ⟨t :: ts, none, written⟩ =
      .error ⟨t.position, .grammar (.wanted (.mark ",") false)⟩ := by
  have hmark : Ahead.mark "," (t :: ts) = false := hcomma
  have hcomma : Reader.grammar (Parser.mark ",") scopeEnd ⟨t :: ts, none, written⟩ =
      .error ⟨t.position, .grammar (.wanted (.mark ",") false)⟩ := by
    unfold Reader.grammar Parser.mark
    rw [bind_of_ok (Parser.ahead_apply ..)]
    dsimp only
    rw [hmark]
    rfl
  have hnothing : Reader.ahead Ahead.nothing scopeEnd ⟨t :: ts, none, written⟩ =
      .ok (false, ⟨t :: ts, none, written⟩) := rfl
  unfold furtherArguments
  rw [bind_of_ok hnothing, if_neg Bool.false_ne_true]
  change ((Reader.grammar (Parser.mark ",") : Reader Unit) >>= fun _ => argumentList g bound taken)
    scopeEnd ⟨t :: ts, none, written⟩ = _
  rw [bind_apply, hcomma]

end Further

section Step

variable {depth bound : Nat} {taken : Taken} {a : WrittenArgument} {rest : List Tree}
  (hvalue : IsExpression a.value) (hdepth : depthOf a.value ≤ depth) (hend : memberEnd rest = true)
  (written : List Tree)
include hvalue hdepth hend

/-- An argument that is settled is read to its end. -/
theorem argument_of_ok {taken' : Taken} (h : settle taken a = .ok taken') :
    ∃ written', argument (rules depth) taken textEnd ⟨a.trees ++ rest, none, written⟩ =
      .ok (taken', ⟨rest, none, written'⟩) := by
  rw [argument_trees]
  unfold settle at h
  split at h
  · cases h
  rename_i f hf
  rw [hf, readField]
  split at h
  · cases h
  rename_i hhas
  rw [if_neg hhas]
  split at h
  · rename_i v hv
    cases h
    obtain ⟨written', hread⟩ := readValue_of_some hvalue hdepth hend a.equals a.joint
      (a.path.trees.reverse ++ written) hv
    exact ⟨written', bind_of_ok hread⟩
  · cases h

/-- The list ends with an argument that is refused. -/
theorem argumentList_of_error {e : Error} (h : settle taken a = .error e) :
    argumentList (rules depth) (bound + 1) taken textEnd ⟨a.trees ++ rest, none, written⟩ =
      .error e := by
  rw [argumentList_succ a.append_ne_nil, bind_apply, argument_trees]
  unfold settle at h
  split at h
  · rename_i hf
    cases h
    rw [hf]
    rfl
  rename_i f hf
  rw [hf, readField]
  split at h
  · rename_i hhas
    cases h
    rw [if_pos hhas]
    rfl
  rename_i hhas
  rw [if_neg hhas]
  split at h
  · cases h
  rename_i hv
  cases h
  rw [bind_apply]
  obtain hread | ⟨v, t, ts, written', hcomma, hread, hfault⟩ := readValue_of_none hvalue hdepth
    hend a.equals a.joint (a.path.trees.reverse ++ written) hv
  · rw [hread]
  · rw [hread, hfault]
    exact furtherArguments_of_not hcomma

/-- The step: an argument is settled, and what stands behind it is read with it. -/
theorem argumentList_step :
    ∃ written', argumentList (rules depth) (bound + 1) taken textEnd
        ⟨a.trees ++ rest, none, written⟩ =
      (settle taken a).bind fun taken' =>
        furtherArguments (rules depth) bound taken' textEnd ⟨rest, none, written'⟩ := by
  cases hsettle : settle taken a with
  | error e => exact ⟨[], argumentList_of_error hvalue hdepth hend written hsettle⟩
  | ok taken' =>
    obtain ⟨written', hread⟩ := argument_of_ok hvalue hdepth hend written hsettle
    refine ⟨written', ?_⟩
    rw [argumentList_succ a.append_ne_nil, bind_of_ok hread]
    rfl

end Step

/-- A list is read as its arguments are settled, one by one. -/
theorem argumentList_of_isList {depth : Nat} {as : List WrittenArgument} {ts : List Tree}
    (hlist : IsList as ts) :
    ∀ {bound : Nat} {taken : Taken} (written : List Tree), as.length ≤ bound →
      (∀ a ∈ as, IsExpression a.value ∧ depthOf a.value ≤ depth) →
      ∃ written', argumentList (rules depth) bound taken textEnd ⟨ts, none, written⟩ =
        (as.foldlM settle taken).map fun taken' => (taken', ⟨[], none, written'⟩) := by
  induction hlist with
  | nil =>
    intro bound taken written _ _
    refine ⟨written, ?_⟩
    cases bound <;> rfl
  | last a =>
    intro bound taken written hbound has
    obtain ⟨bound, rfl⟩ := Nat.exists_eq_add_of_le' (Nat.one_le_of_lt hbound)
    obtain ⟨hvalue, hdepth⟩ := has a List.mem_cons_self
    obtain ⟨written', hstep⟩ :=
      @argumentList_step depth bound taken a [] hvalue hdepth rfl written
    refine ⟨written', ?_⟩
    rw [List.append_nil] at hstep
    rw [hstep, List.foldlM_cons]
    cases settle taken a <;> rfl
  | @cons a p joint as ts hlist ih =>
    intro bound taken written hbound has
    obtain ⟨bound, rfl⟩ := Nat.exists_eq_add_of_le' (Nat.one_le_of_lt hbound)
    obtain ⟨hvalue, hdepth⟩ := has a List.mem_cons_self
    obtain ⟨written', hstep⟩ := @argumentList_step depth bound taken a
      (.leaf p (.mark ',' joint) :: ts) hvalue hdepth rfl written
    rw [hstep, List.foldlM_cons]
    cases settle taken a with
    | error e => exact ⟨[], rfl⟩
    | ok taken' =>
      simp only [Except.bind, furtherArguments_comma]
      exact ih (.leaf p (.mark ',' joint) :: written') (Nat.le_of_succ_le_succ hbound)
        fun b hb => has b (List.mem_cons_of_mem a hb)

/-- The run: the arguments of a list are settled one by one, from left to right. -/
theorem ofTrees_eq_foldlM {as : List WrittenArgument} {ts : List Tree} (hlist : IsList as ts)
    (hvalues : ∀ a ∈ as, IsExpression a.value) :
    Arguments.ofTrees ts = (as.foldlM settle .none).map Taken.finish := by
  obtain ⟨hlength, hsize⟩ := hlist.bounds
  have has : ∀ a ∈ as, IsExpression a.value ∧ depthOf a.value ≤ depthOf ts := by
    intro a ha
    have hdepth := hsize a ha
    exact ⟨hvalues a ha, by unfold depthOf; omega⟩
  obtain ⟨written', hread⟩ := @argumentList_of_isList (depthOf ts) as ts hlist (ts.length + 1)
    .none [] (Nat.le_succ_of_le hlength) has
  unfold Arguments.ofTrees Arguments.read Progress.start
  rw [hread]
  cases as.foldlM settle .none <;> rfl

end ReceiverLoader.Marker