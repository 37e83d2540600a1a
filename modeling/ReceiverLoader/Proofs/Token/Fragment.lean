import Mathlib.Data.List.TakeWhile
import ReceiverLoader.Proofs.Token.Piece
import ReceiverLoader.Token.Trees

/-!
# Parts of identifiers

A text can be part of an identifier if the beginning of one with the text behind it is read as a
single word, which is all of it.

* `outermost_prefix`: trees that stand outside all groups stay in front.
* `soleWord?_eq_self_iff`: so are read the texts whose characters all continue identifiers, and no
  other.
-/

namespace ReceiverLoader.Token

open Text

/-- The word that a text consists of; blanks around it do not count. -/
def soleWord? (text : String) : Option String :=
  match trees text with
  | .ok [.leaf _ (.word word)] => some word
  | _ => none

/-! ## The first tree -/

/-- The trees that have been read outside all groups, last first. -/
def outermost : List OpenGroup → List Tree → List Tree
  | [], done => done
  | g :: gs, _ => outermost gs g.before

/-- Trees that stand outside all groups stay in front of what is read behind them. -/
theorem outermost_prefix {gs : List OpenGroup} {done ts : List Tree} {ls : List (Position × Lexeme)}
    (h : assemble gs done ls = .ok ts) : (outermost gs done).reverse <+: ts := by
  fun_induction assemble gs done ls with
  | case1 done =>
    cases h
    exact List.prefix_rfl
  | case2 g gs done => cases h
  | case3 gs done p leaf ls ih =>
    refine List.IsPrefix.trans ?_ (ih h)
    cases gs with
    | nil => exact ⟨[.leaf p leaf], by simp [outermost]⟩
    | cons g gs => exact List.prefix_rfl
  | case4 gs done p d ls ih => exact ih h
  | case5 done p d ls => cases h
  | case6 g gs done p ls ih =>
    refine List.IsPrefix.trans ?_ (ih h)
    cases gs with
    | nil => exact ⟨[.group g.opens p g.delimiter done.reverse], by simp [outermost]⟩
    | cons g' gs => exact List.prefix_rfl
  | case7 g gs done p d ls hd => cases h
  | case8 gs done p ls => cases h

theorem eq_of_assemble_single {p q : Position} {leaf other : Leaf} {ls : List (Position × Lexeme)}
    (h : assemble [] [] ((p, .leaf leaf) :: ls) = .ok [.leaf q other]) : other = leaf := by
  have hassemble : assemble [] [.leaf p leaf] ls = .ok [.leaf q other] := h
  have hfront : [Tree.leaf p leaf] <+: [.leaf q other] := outermost_prefix hassemble
  cases (List.cons_prefix_cons.mp hfront).1
  rfl

/-! ## A word at the front -/

theorem endsWord_dropWhile (cs : List Char) : EndsWord (cs.dropWhile Ident.isContinue) := by
  intro c hc
  have hnot := List.head?_dropWhile_not Ident.isContinue cs
  rw [hc] at hnot
  simpa using hnot

/-- The first lexeme is the beginning of an identifier with all that continues it. -/
theorem map_lexemes_word (name : List Char) :
    (lexemes ('M' :: '_' :: name)).map (·.2) =
      .leaf (.word (String.ofList ('M' :: '_' :: name.takeWhile Ident.isContinue))) ::
        (lexemesFrom 0 Position.start (name.dropWhile Ident.isContinue)).map (·.2) := by
  have hcs : ∀ d ∈ '_' :: name.takeWhile Ident.isContinue, Ident.isContinue d :=
    List.forall_mem_cons.mpr ⟨by decide, fun d hd => List.mem_takeWhile_imp hd⟩
  have hstart : 'M' ∈ wordStarts := by decide
  have hword := pieceAhead_word hstart hcs (endsWord_dropWhile name)
  have hsplit : 'M' :: '_' :: name = 'M' :: ('_' :: name.takeWhile Ident.isContinue) ++
      name.dropWhile Ident.isContinue := by
    rw [List.cons_append, List.cons_append, List.takeWhile_append_dropWhile]
  have hmark : ('M' : Char) ≠ byteOrderMark := by decide
  rw [lexemes, if_neg hmark, hsplit,
    map_lexemesFrom_append (List.cons_ne_nil _ _) hword Position.start Position.start]
  rfl

/-- The beginning of an identifier is read with `name` behind it as one word, all of it, iff every
character of `name` can continue an identifier. -/
theorem soleWord?_eq_self_iff (name : String) :
    soleWord? ("M_" ++ name) = some ("M_" ++ name) ↔ Ident.isFragment name = true := by
  have hlist : ("M_" ++ name).toList = 'M' :: '_' :: name.toList := by
    rw [String.toList_append]
    rfl
  have hlexemes := map_lexemes_word name.toList
  rw [← hlist] at hlexemes
  obtain ⟨⟨p, _⟩, ls, hcons, rfl, hls⟩ := List.map_eq_cons_iff.mp hlexemes
  rw [soleWord?, trees, treesOf, hcons, Ident.isFragment, List.all_eq_true]
  constructor
  · intro h
    split at h
    · rename_i q word htrees
      cases h
      have hword := congrArg String.toList (Leaf.word.inj (eq_of_assemble_single htrees))
      rw [hlist, String.toList_ofList] at hword
      have htake : name.toList = name.toList.takeWhile Ident.isContinue := by simpa using hword
      intro c hc
      rw [htake] at hc
      exact List.mem_takeWhile_imp hc
    · cases h
  · intro hall
    have htake : name.toList.takeWhile Ident.isContinue = name.toList :=
      List.takeWhile_eq_self_iff.mpr hall
    have hdrop : name.toList.dropWhile Ident.isContinue = [] :=
      List.dropWhile_eq_nil_iff.mpr hall
    rw [hdrop] at hls
    obtain rfl := List.map_eq_nil_iff.mp hls
    rw [htake, ← hlist, String.ofList_toList]
    rfl

end ReceiverLoader.Token
