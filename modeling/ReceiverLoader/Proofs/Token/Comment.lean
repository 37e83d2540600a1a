import ReceiverLoader.Proofs.Text.Lines
import ReceiverLoader.Proofs.Token.Piece

/-!
# Comments on one line

A comment ends with its line, and a carriage return before the line feed belongs to it.

* `map_lexemesFrom_comment`: a comment that documents nothing is a blank.
* `map_lexemesFrom_documentation`: one that documents something stands for an attribute with its
  text.
-/

namespace ReceiverLoader.Token

open Text (OnOneLine)

/-- What may stand between the text of a line and its line feed. -/
def IsReturn (ret : List Char) : Prop := ret = [] ∨ ret = ['\r']

theorem lineLengths_cons {c : Char} (hfeed : c ≠ '\n') (hreturn : c ≠ '\r') (cs : List Char) :
    lineLengths (c :: cs) = ((lineLengths cs).1 + 1, (lineLengths cs).2 + 1) := by
  rw [lineLengths.eq_4 _ _ (fun h => hfeed h) (fun _ h => absurd h hreturn)]

theorem returnsPaired_cons {c : Char} (hreturn : c ≠ '\r') (cs : List Char) :
    returnsPaired (c :: cs) = returnsPaired cs := by
  rw [returnsPaired.eq_4 _ _ (fun _ h => absurd h hreturn) (fun h => hreturn h)]

theorem lineLengths_append {text ret : List Char} (htext : OnOneLine text) (hret : IsReturn ret)
    (rest : List Char) :
    lineLengths (text ++ (ret ++ '\n' :: rest)) = (text.length, text.length + ret.length) := by
  induction text with
  | nil => rcases hret with rfl | rfl <;> rfl
  | cons c text ih =>
    obtain ⟨⟨hfeed, hreturn⟩, htext⟩ := List.forall_mem_cons.mp htext
    rw [List.cons_append, lineLengths_cons hfeed hreturn, ih htext, List.length_cons]
    congr 1
    omega

theorem returnsPaired_of_onOneLine {text : List Char} (h : OnOneLine text) :
    returnsPaired text := by
  induction text with
  | nil => rfl
  | cons c text ih =>
    obtain ⟨⟨-, hreturn⟩, htext⟩ := List.forall_mem_cons.mp h
    rw [returnsPaired_cons hreturn]
    exact ih htext

/-- A comment that documents nothing is a blank. -/
theorem pieceAhead_comment {text ret : List Char} (htext : OnOneLine text) (hret : IsReturn ret)
    (rest : List Char) :
    pieceAhead ('/' :: '/' :: ' ' :: (text ++ (ret ++ '\n' :: rest))) =
      some ([], text.length + ret.length + 3) := by
  have hlengths := lineLengths_append htext hret rest
  have hspace : lineLengths (' ' :: (text ++ (ret ++ '\n' :: rest))) =
      (text.length + 1, text.length + ret.length + 1) := by
    rw [lineLengths_cons (by decide) (by decide), hlengths]
  have hblank : blank ('/' :: '/' :: ' ' :: (text ++ (ret ++ '\n' :: rest))) =
      some (text.length + ret.length + 3) := by
    have hslash : isSpace '/' = false := by decide
    simp [blank, hslash, comment, hspace]
  unfold pieceAhead
  simp only [hblank]

/-- A comment that documents something stands for an attribute with its text. -/
theorem pieceAhead_documentation {text ret : List Char} (htext : OnOneLine text)
    (hret : IsReturn ret) (rest : List Char) :
    pieceAhead ('/' :: '/' :: '/' :: ' ' :: (text ++ (ret ++ '\n' :: rest))) =
      some (Documentation.lexemes ⟨false, ' ' :: text, text.length + ret.length + 4⟩,
        text.length + ret.length + 4) := by
  have hlengths := lineLengths_append htext hret rest
  have hspace : lineLengths (' ' :: (text ++ (ret ++ '\n' :: rest))) =
      (text.length + 1, text.length + ret.length + 1) := by
    rw [lineLengths_cons (by decide) (by decide), hlengths]
  have hblank : blank ('/' :: '/' :: '/' :: ' ' :: (text ++ (ret ++ '\n' :: rest))) = none := by
    have hslash : isSpace '/' = false := by decide
    simp [blank, hslash, comment]
  have hpaired : returnsPaired (' ' :: text) :=
    returnsPaired_of_onOneLine (List.forall_mem_cons.mpr ⟨by decide, htext⟩)
  have hdocumentation : documentation ('/' :: '/' :: '/' :: ' ' ::
      (text ++ (ret ++ '\n' :: rest))) =
      some ⟨false, ' ' :: text, text.length + ret.length + 4⟩ := by
    simp [documentation, documentationComment, lineDocumentation, hspace, hpaired]
  unfold pieceAhead
  simp only [hblank, hdocumentation]

/-! ## The lexemes behind a comment -/

theorem map_lexemesFrom_spaces {cs : List Char} (h : ∀ c ∈ cs, c ∈ spaces) (p : Position)
    (rest : List Char) :
    (lexemesFrom 0 p (cs ++ rest)).map (·.2) = (lexemesFrom 0 p rest).map (·.2) := by
  induction cs with
  | nil => rfl
  | cons c cs ih =>
    obtain ⟨hc, hcs⟩ := List.forall_mem_cons.mp h
    have hspace : pieceAhead ([c] ++ (cs ++ rest)) = some ([], [c].length) :=
      pieceAhead_space hc (cs ++ rest)
    have hrest := map_lexemesFrom_append (List.cons_ne_nil c []) hspace p p
    rw [List.nil_append, ih hcs] at hrest
    exact hrest

theorem map_lexemesFrom_comment {text ret : List Char} (htext : OnOneLine text)
    (hret : IsReturn ret) (p : Position) (rest : List Char) :
    (lexemesFrom 0 p ('/' :: '/' :: ' ' :: (text ++ (ret ++ '\n' :: rest)))).map (·.2) =
      (lexemesFrom 0 p ('\n' :: rest)).map (·.2) := by
  have hpiece := pieceAhead_comment htext hret rest
  have hlength : text.length + ret.length + 3 = ('/' :: '/' :: ' ' :: (text ++ ret)).length := by
    simp
  rw [← List.append_assoc text, hlength] at hpiece
  rw [← List.append_assoc text]
  exact @map_lexemesFrom_append ('/' :: '/' :: ' ' :: (text ++ ret)) _ ('\n' :: rest)
    (List.cons_ne_nil _ _) hpiece p p

theorem map_lexemesFrom_documentation {text ret : List Char} (htext : OnOneLine text)
    (hret : IsReturn ret) (p : Position) (rest : List Char) :
    (lexemesFrom 0 p ('/' :: '/' :: '/' :: ' ' :: (text ++ (ret ++ '\n' :: rest)))).map (·.2) =
      Documentation.lexemes ⟨false, ' ' :: text, text.length + ret.length + 4⟩ ++
        (lexemesFrom 0 p ('\n' :: rest)).map (·.2) := by
  have hpiece := pieceAhead_documentation htext hret rest
  have hlength : text.length + ret.length + 4 =
      ('/' :: '/' :: '/' :: ' ' :: (text ++ ret)).length := by
    simp
  rw [← List.append_assoc text, hlength] at hpiece
  rw [← List.append_assoc text, hlength]
  exact @map_lexemesFrom_append ('/' :: '/' :: '/' :: ' ' :: (text ++ ret)) _ ('\n' :: rest)
    (List.cons_ne_nil _ _) hpiece p p

end ReceiverLoader.Token
