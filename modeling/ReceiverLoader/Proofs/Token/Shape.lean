import ReceiverLoader.Token.Trees

/-!
# Token trees without positions

* `Shape`: a token tree of which only its tokens count.
* `assemble_eq_ok`: the lexemes of trees are put together to these trees again.
-/

namespace ReceiverLoader.Token

/-- A token tree without positions. -/
inductive Shape
  | leaf (leaf : Leaf)
  | group (delimiter : Delimiter) (body : List Shape)

namespace Tree

mutual

/-- The tree without its positions. -/
def shape : Tree → Shape
  | leaf _ l => .leaf l
  | group _ _ d body => .group d (shapes body)

/-- The trees without their positions. -/
def shapes : List Tree → List Shape
  | [] => []
  | t :: ts => shape t :: shapes ts

end

end Tree

namespace Shape

mutual

/-- The lexemes of a tree. -/
def lexemes : Shape → List Lexeme
  | leaf l => [.leaf l]
  | group d body => .opening d :: (lexemesAll body ++ ([.closing d] : List Lexeme))

/-- The lexemes of trees, one after the other. -/
def lexemesAll : List Shape → List Lexeme
  | [] => []
  | s :: ss => lexemes s ++ lexemesAll ss

end

theorem lexemesAll_append (ss more : List Shape) :
    lexemesAll (ss ++ more) = lexemesAll ss ++ lexemesAll more := by
  induction ss with
  | nil => rfl
  | cons s ss ih => rw [List.cons_append, lexemesAll, lexemesAll, ih, List.append_assoc]

end Shape

mutual

theorem assemble_lexemes (s : Shape) (gs : List OpenGroup) (done : List Tree)
    (rest : List (Position × Lexeme)) :
    ∀ ls, ls.map (·.2) = s.lexemes →
      ∃ t : Tree, t.shape = s ∧ assemble gs done (ls ++ rest) = assemble gs (t :: done) rest := by
  intro ls h
  cases s with
  | leaf l =>
    obtain ⟨⟨p, _⟩, rfl, rfl⟩ := List.map_eq_singleton_iff.mp h
    refine ⟨.leaf p l, rfl, ?_⟩
    cases gs <;> rfl
  | group d body =>
    rw [Shape.lexemes, List.map_eq_cons_iff] at h
    obtain ⟨⟨p, _⟩, ls, rfl, rfl, h⟩ := h
    obtain ⟨inner, last, rfl, hinner, hlast⟩ := List.map_eq_append_iff.mp h
    obtain ⟨⟨q, _⟩, rfl, rfl⟩ := List.map_eq_singleton_iff.mp hlast
    obtain ⟨ts, hts, hassemble⟩ :=
      assemble_lexemesAll body (⟨p, d, done⟩ :: gs) [] ((q, .closing d) :: rest) inner hinner
    refine ⟨.group p q d ts, ?_, ?_⟩
    · rw [Tree.shape, hts]
    · have hopens : ∀ more, assemble gs done ((p, .opening d) :: more) =
          assemble (⟨p, d, done⟩ :: gs) [] more := by
        intro more
        cases gs <;> rfl
      rw [List.cons_append, hopens, List.append_assoc, List.singleton_append, hassemble,
        List.append_nil, assemble, if_pos rfl, List.reverse_reverse]

theorem assemble_lexemesAll (ss : List Shape) (gs : List OpenGroup) (done : List Tree)
    (rest : List (Position × Lexeme)) :
    ∀ ls, ls.map (·.2) = Shape.lexemesAll ss →
      ∃ ts : List Tree, Tree.shapes ts = ss ∧
        assemble gs done (ls ++ rest) = assemble gs (ts.reverse ++ done) rest := by
  intro ls h
  cases ss with
  | nil =>
    rw [Shape.lexemesAll, List.map_eq_nil_iff] at h
    exact ⟨[], rfl, by rw [h]; rfl⟩
  | cons s ss =>
    rw [Shape.lexemesAll, List.map_eq_append_iff] at h
    obtain ⟨front, behind, rfl, hfront, hbehind⟩ := h
    obtain ⟨t, ht, hassemble⟩ := assemble_lexemes s gs done (behind ++ rest) front hfront
    obtain ⟨ts, hts, hassembles⟩ := assemble_lexemesAll ss gs (t :: done) rest behind hbehind
    refine ⟨t :: ts, by rw [Tree.shapes, ht, hts], ?_⟩
    rw [List.append_assoc, hassemble, hassembles]
    simp

end

/-- The lexemes of trees are put together to these trees again. -/
theorem assemble_eq_ok {ls : List (Position × Lexeme)} {ss : List Shape}
    (h : ls.map (·.2) = Shape.lexemesAll ss) :
    ∃ ts, assemble [] [] ls = .ok ts ∧ Tree.shapes ts = ss := by
  obtain ⟨ts, hts, hassemble⟩ := assemble_lexemesAll ss [] [] [] ls h
  refine ⟨ts, ?_, hts⟩
  rw [List.append_nil] at hassemble
  rw [hassemble, assemble, List.append_nil, List.reverse_reverse]

end ReceiverLoader.Token
