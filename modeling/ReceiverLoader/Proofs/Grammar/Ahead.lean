import ReceiverLoader.Proofs.Grammar.Alike

/-!
# Tests that look at no position

`Ahead.Blind` holds of a test that comes out alike on trees alike. All tests of the grammar are
made of a few by `second`, `and`, `any` and the like.
-/

namespace ReceiverLoader.Grammar

open Token (Position Leaf Tree Delimiter Literal)

namespace Ahead

/-- A test that looks at no position. -/
class Blind (test : Ahead) : Prop where
  eq : ∀ {ts us : List Tree}, Alike ts us → test ts = test us

/-- Tests that look at no position. -/
class BlindAll (tests : List Ahead) : Prop where
  blind : ∀ test ∈ tests, Blind test

instance : BlindAll [] := ⟨nofun⟩

instance {test : Ahead} {tests : List Ahead} [h : Blind test] [hs : BlindAll tests] :
    BlindAll (test :: tests) :=
  ⟨List.forall_mem_cons.mpr ⟨h, hs.blind⟩⟩

instance {tests others : List Ahead} [h : BlindAll tests] [h' : BlindAll others] :
    BlindAll (tests ++ others) :=
  ⟨List.forall_mem_append.mpr ⟨h.blind, h'.blind⟩⟩

instance {c : Prop} [Decidable c] {tests others : List Ahead} [BlindAll tests] [BlindAll others] :
    BlindAll (if c then tests else others) := by
  split <;> assumption

/-! ## What comes next -/

instance : Blind nothing where
  eq h := by cases h.front <;> rfl

instance : Blind word where
  eq h := by cases h.front <;> rfl

instance (text : String) : Blind (keyword text) where
  eq h := by cases h.front <;> rfl

instance (texts : List String) : Blind (anyKeyword texts) where
  eq h := by cases h.front <;> rfl

instance : Blind identifier where
  eq h := by cases h.front <;> rfl

instance (d : Delimiter) : Blind (group d) where
  eq h := by cases h.front <;> rfl

instance : Blind anyGroup where
  eq h := by cases h.front <;> rfl

theorem lifetime_mark (p : Position) (c : Char) (joint : Bool) (ts : List Tree) :
    lifetime (.leaf p (.mark c joint) :: ts) = (c == '\'' && joint && word ts) := by
  unfold lifetime word
  by_cases hc : c = '\'' ∧ joint = true
  · obtain ⟨rfl, rfl⟩ := hc
    split <;> simp_all
  · split <;> simp_all

instance : Blind lifetime where
  eq h := by
    cases h.front with
    | mark p q c joint hrest =>
      have hword : word _ = word _ := Blind.eq hrest
      rw [lifetime_mark, lifetime_mark, hword]
    | _ => rfl

theorem markOf_eq (cs : List Char) {ts us : List Tree} (h : Alike ts us) :
    markOf cs ts = markOf cs us := by
  induction cs generalizing ts us with
  | nil => rfl
  | cons c cs ih =>
    cases h.front with
    | mark _ _ d joint hrest =>
      cases cs with
      | nil => rfl
      | cons c' cs =>
        cases joint with
        | false => rfl
        | true =>
          exact congrArg (c == d && ·) (ih hrest)
    | _ => cases cs <;> rfl

instance (text : String) : Blind (mark text) := ⟨markOf_eq text.toList⟩

instance (text : String) (longer : List String) : Blind (markBut text longer) where
  eq h := by
    have hmark : ∀ text, mark text _ = mark text _ := fun text => markOf_eq text.toList h
    unfold markBut
    simp only [hmark]

theorem markOf_singleton {c : Char} {ts : List Tree} (h : markOf [c] ts = true) :
    ∃ p joint rest, ts = .leaf p (.mark c joint) :: rest := by
  match ts with
  | .leaf p (.mark d joint) :: rest =>
    simp only [markOf, Bool.and_eq_true, beq_iff_eq] at h
    obtain ⟨rfl, -⟩ := h
    exact ⟨p, joint, rest, rfl⟩
  | [] | .leaf _ (.word _) :: _ | .leaf _ (.literal _) :: _ | .group .. :: _ => cases h

theorem literal?_mark (p : Position) {c : Char} (hc : c ≠ '-') (joint : Bool) (ts : List Tree) :
    literal? (.leaf p (.mark c joint) :: ts) = none := by
  unfold literal?
  split <;> simp_all

/-- The literal that comes next is the same, if there is one. -/
theorem literal?_alike {ts us : List Tree} (h : Alike ts us) :
    (literal? ts = none ∧ literal? us = none) ∨
      ∃ p q value count, literal? ts = some (p, value, count) ∧
        literal? us = some (q, value, count) := by
  cases h.front with
  | nothing | group => exact Or.inl ⟨rfl, rfl⟩
  | literal p q text => exact Or.inr ⟨p, q, _, _, rfl, rfl⟩
  | word p q text =>
    by_cases htext : (text == "true" || text == "false") = true
    · exact Or.inr ⟨p, q, _, _, if_pos htext, if_pos htext⟩
    · exact Or.inl ⟨if_neg htext, if_neg htext⟩
  | mark p q c joint hrest =>
    by_cases hc : c = '-'
    · subst hc
      cases hrest.front with
      | literal _ _ text =>
        rw [literal?, literal?]
        split
        · exact Or.inr ⟨p, q, _, _, rfl, rfl⟩
        · exact Or.inr ⟨p, q, _, _, rfl, rfl⟩
        · exact Or.inl ⟨rfl, rfl⟩
      | nothing | word | mark | group => exact Or.inl ⟨rfl, rfl⟩
    · exact Or.inl ⟨literal?_mark p hc joint _, literal?_mark q hc joint _⟩

instance : Blind literal where
  eq h := by
    unfold literal
    obtain ⟨hts, hus⟩ | ⟨p, q, value, count, hts, hus⟩ := literal?_alike h
    · rw [hts, hus]
    · rw [hts, hus]
      rfl

instance : Blind textLiteral where
  eq h := by
    unfold textLiteral
    obtain ⟨hts, hus⟩ | ⟨p, q, value, count, hts, hus⟩ := literal?_alike h
    · rw [hts, hus]
    · rw [hts, hus]
      cases value <;> rfl

/-! ## Combinations -/

section Combinations

variable {test other : Ahead} [ht : Blind test] [ho : Blind other]

instance : Blind (test.or other) := ⟨fun h => by rw [or, or, ht.eq h, ho.eq h]⟩

instance : Blind (test.and other) := ⟨fun h => by rw [and, and, ht.eq h, ho.eq h]⟩

instance (b : Bool) : Blind fun ts => b && test ts := ⟨fun h => by rw [ht.eq h]⟩

instance : Blind test.not := ⟨fun h => by rw [not, not, ht.eq h]⟩

instance {tests : List Ahead} [hs : BlindAll tests] : Blind (any tests) where
  eq {ts us} h := by
    unfold any
    rw [Bool.eq_iff_iff, List.any_eq_true, List.any_eq_true]
    refine exists_congr fun t => and_congr_right fun ht => ?_
    rw [(hs.blind t ht).eq h]

theorem skip_eq (ts : List Tree) : skip ts = ts.drop (if lifetime ts then 2 else 1) := by
  unfold skip lifetime
  split <;> simp_all

instance {ts us : List Tree} [h : Alike ts us] : Alike (skip ts) (skip us) := by
  have hlifetime : lifetime ts = lifetime us := Blind.eq h
  rw [skip_eq, skip_eq, hlifetime]
  infer_instance

instance : Blind test.second := ⟨fun _ => ht.eq inferInstance⟩

instance : Blind test.third := ⟨fun _ => ht.eq inferInstance⟩

end Combinations

instance : Blind pathKeyword := inferInstanceAs (Blind (anyKeyword _))

instance : Blind moduleKeyword := inferInstanceAs (Blind (anyKeyword _))

end Ahead

end ReceiverLoader.Grammar
