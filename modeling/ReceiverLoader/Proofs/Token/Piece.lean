import ReceiverLoader.Proofs.Token.Quoted
import ReceiverLoader.Token.Lexeme

/-!
# Text made of pieces

A text that is put together from spaces, words, marks, literals and delimiters is cut into the same
pieces again, provided that no two of them run together.

* `Piece.Valid`, `Piece.admits`: which pieces can be told apart from their neighbours.
* `Piece.pieceAhead_spell`: a single piece is found at the front of a text.
* `map_lexemesFrom_spell`: the lexemes of a text are those of its pieces.
-/

namespace ReceiverLoader.Token

open Text

/-! ## What begins no other kind of lexeme -/

/-- A leaf begins with `c`, if anything does: no blank, no comment and no group. -/
structure BeginsLeaf (c : Char) : Prop where
  not_space : isSpace c = false
  not_slash : c ≠ '/'
  not_opening : Delimiter.ofOpening? c = none
  not_closing : Delimiter.ofClosing? c = none

instance (c : Char) : Decidable (BeginsLeaf c) :=
  decidable_of_iff (isSpace c = false ∧ c ≠ '/' ∧ Delimiter.ofOpening? c = none ∧
      Delimiter.ofClosing? c = none)
    ⟨fun ⟨h₁, h₂, h₃, h₄⟩ => ⟨h₁, h₂, h₃, h₄⟩, fun ⟨h₁, h₂, h₃, h₄⟩ => ⟨h₁, h₂, h₃, h₄⟩⟩

theorem comment_of_ne {c : Char} (h : c ≠ '/') (cs : List Char) : comment (c :: cs) = none := by
  unfold comment blockComment
  simp_all

theorem documentation_of_ne {c : Char} (h : c ≠ '/') (cs : List Char) :
    documentation (c :: cs) = none := by
  have hnone : documentationComment (c :: cs) = none := by
    unfold documentationComment
    split <;> simp_all
  simp [documentation, hnone]

theorem blank_of_ne {c : Char} (hspace : isSpace c = false) (hslash : c ≠ '/') (cs : List Char) :
    blank (c :: cs) = none := by
  rw [blank, hspace, if_neg Bool.false_ne_true, comment_of_ne hslash]

theorem not_broken_of_ne {c : Char} (h : c ≠ '(') (cs : List Char) :
    brokenLiteral.isPrefixOf (c :: cs) = false := by
  have hne : ('(' == c) = false := beq_eq_false_iff_ne.mpr h.symm
  have hcons : brokenLiteral = '(' :: "/*ERROR*/)".toList := rfl
  rw [hcons, List.isPrefixOf, hne, Bool.false_and]

theorem pieceAhead_of_beginsLeaf {c : Char} (h : BeginsLeaf c) (cs : List Char) :
    pieceAhead (c :: cs) = (leafAhead (c :: cs)).map fun (leaf, n) => ([.leaf leaf], n) := by
  have hparenthesis : c ≠ '(' := by
    rintro rfl
    cases h.not_opening
  unfold pieceAhead
  simp only [blank_of_ne h.not_space h.not_slash, documentation_of_ne h.not_slash,
    not_broken_of_ne hparenthesis, Bool.false_eq_true, if_false, h.not_opening, h.not_closing]

theorem quotation_of_not_mem {c : Char} (h : c ∉ ['"', 'b', 'c', 'r', '\'']) (cs : List Char) :
    quotation (c :: cs) = none := by
  have hnone : quotationBody (c :: cs) = none := by
    unfold quotationBody
    split <;> simp_all
  rw [quotation, hnone, Option.map_none]

theorem number_of_not_isAsciiDigit {c : Char} (h : isAsciiDigit c = false) (cs : List Char) :
    number (c :: cs) = none := by
  have hzero : c ≠ '0' := by
    rintro rfl
    cases h
  have hbase : numberBase (c :: cs) = (10, 0) := by
    unfold numberBase
    split <;> simp_all
  have hdigits : integerDigits 10 false (c :: cs) = none := by
    rw [integerDigits]
    split
    · rfl
    · cases hd : digitValue c with
      | none => rfl
      | some d =>
        have hlt := digitValue_of_not_isAsciiDigit h hd
        simp [hlt, h]
  simp [number, fraction, fractionDigits, integer, h, hbase, hdigits]

theorem isMarkAhead_cons {c : Char} (h : c ≠ '/') (cs : List Char) :
    isMarkAhead (c :: cs) = marks.contains c := by
  unfold isMarkAhead
  split <;> simp_all

theorem word_of_not_mem {c : Char} (h : c ∉ ['b', 'c', 'r']) (cs : List Char) :
    word (c :: cs) = plainWord (c :: cs) := by
  simp only [List.mem_cons, List.not_mem_nil, or_false, not_or] at h
  obtain ⟨hb, hc, hr⟩ := h
  have hliteral : (literalBeginnings.any fun b => b.toList.isPrefixOf (c :: cs)) = false := by
    simp [literalBeginnings, List.isPrefixOf, Ne.symm hb, Ne.symm hc, Ne.symm hr]
  have hany : anyWord (c :: cs) = plainWord (c :: cs) := by
    unfold anyWord
    split
    · rename_i heq
      exact absurd (List.cons.inj heq).1 hr
    · rfl
  rw [word, hliteral, if_neg Bool.false_ne_true, hany]

/-! ## Pieces -/

/-- A piece of a text. -/
inductive Piece
  | space (c : Char)
  | word (text : String)
  | mark (c : Char)
  | literal (text : String)
  | opening (d : Delimiter)
  | closing (d : Delimiter)

/-- Spaces of the usual kind. -/
def spaces : List Char := [' ', '\t', '\n', '\r']

/-- Characters that begin words and no literals. -/
def wordStarts : List Char := "adefghijklmnopqstuvwxyzABCDEFGHIJKLMNOPQRSTUVWXYZ_".toList

/-- Marks that begin neither comments nor quotations. -/
def plainMarks : List Char := "~!@#$%^&*-=+|;:,<.>?".toList

namespace Piece

/-- The piece as written. -/
def text : Piece → List Char
  | space c => [c]
  | word text => text.toList
  | mark c => [c]
  | literal text => text.toList
  | opening d => [d.opening]
  | closing d => [d.closing]

/-- The piece by itself is one of its kind. -/
inductive Valid : Piece → Prop
  | space {c : Char} (h : c ∈ spaces) : Valid (.space c)
  | word {text : String} {c : Char} {cs : List Char} (htext : text.toList = c :: cs)
      (hc : c ∈ wordStarts) (hcs : ∀ d ∈ cs, Ident.isContinue d) : Valid (.word text)
  | mark {c : Char} (h : c ∈ plainMarks) : Valid (.mark c)
  | quoted (text : String) : Valid (.literal (quoted text))
  | decimal {ds : List Char} (hds : AreDigits 10 ds) (hne : ds ≠ []) :
      Valid (.literal (String.ofList ds))
  | opening (d : Delimiter) : Valid (.opening d)
  | closing (d : Delimiter) : Valid (.closing d)

/-- Whether the piece is a word or a literal, which a word or a literal would continue. -/
def isTight : Piece → Bool
  | word _ => true
  | literal _ => true
  | _ => false

/-- Whether the second piece may stand directly behind the first: it does not continue it. -/
def admits : Piece → Piece → Bool
  | literal _, mark c => c != '.'
  | p, q => !(p.isTight && q.isTight)

/-- The lexemes of a piece; a mark is joint if `joint`. -/
def lexemes (joint : Bool) : Piece → List Lexeme
  | space _ => []
  | word text => [.leaf (.word text)]
  | mark c => [.leaf (.mark c joint)]
  | literal text => [.leaf (.literal text)]
  | opening d => [.opening d]
  | closing d => [.closing d]

/-- `Valid`, as a computation, of all but literals. -/
def isValid : Piece → Bool
  | space c => spaces.contains c
  | word text =>
    match text.toList with
    | [] => false
    | c :: cs => wordStarts.contains c && cs.all Ident.isContinue
  | mark c => plainMarks.contains c
  | literal _ => false
  | opening _ => true
  | closing _ => true

theorem valid_of_isValid {p : Piece} (h : p.isValid) : p.Valid := by
  cases p with
  | space c => exact .space (List.contains_iff_mem.mp h)
  | word text =>
    rw [isValid] at h
    split at h
    · cases h
    · rename_i c cs htext
      rw [Bool.and_eq_true, List.all_eq_true] at h
      exact .word htext (List.contains_iff_mem.mp h.1) h.2
  | mark c => exact .mark (List.contains_iff_mem.mp h)
  | literal text => cases h
  | opening d => exact .opening d
  | closing d => exact .closing d

theorem valid_of_all {ps : List Piece} (h : ps.all isValid) : ∀ p ∈ ps, p.Valid := fun p hp =>
  valid_of_isValid (List.all_eq_true.mp h p hp)

end Piece

/-! ## One piece -/

theorem pieceAhead_space {c : Char} (h : c ∈ spaces) (rest : List Char) :
    pieceAhead (c :: rest) = some ([], 1) := by
  have hspace : ∀ c ∈ spaces, isSpace c = true := forall_mem_of_all (by decide)
  have hblank : blank (c :: rest) = some 1 := by rw [blank, if_pos (hspace c h)]
  unfold pieceAhead
  simp only [hblank]

theorem pieceAhead_word {c : Char} (hc : c ∈ wordStarts) {cs rest : List Char}
    (hcs : ∀ d ∈ cs, Ident.isContinue d) (hrest : EndsWord rest) :
    pieceAhead (c :: (cs ++ rest)) =
      some ([.leaf (.word (String.ofList (c :: cs)))], cs.length + 1) := by
  have hstart : ∀ c ∈ wordStarts, BeginsLeaf c ∧ c ∉ ['"', 'b', 'c', 'r', '\''] ∧
      isAsciiDigit c = false ∧ marks.contains c = false ∧ Ident.isStart c :=
    forall_mem_of_all (by decide)
  obtain ⟨hleaf, hquote, hdigit, hmark, hword⟩ := hstart c hc
  have hplain : word (c :: (cs ++ rest)) = some (cs.length + 1) := by
    have hbcr : c ∉ ['b', 'c', 'r'] := fun h => hquote (by simp_all)
    rw [word_of_not_mem hbcr, plainWord_append hword hcs hrest]
  have hahead : markAhead (c :: (cs ++ rest)) = none := by
    unfold markAhead
    simp only [isMarkAhead_cons hleaf.not_slash, hmark, Bool.false_eq_true, if_false]
  rw [pieceAhead_of_beginsLeaf hleaf, leafAhead, quotation_of_not_mem hquote,
    number_of_not_isAsciiDigit hdigit, hahead, hplain]
  simp

theorem pieceAhead_mark {c : Char} (h : c ∈ plainMarks) (rest : List Char) :
    pieceAhead (c :: rest) = some ([.leaf (.mark c (isMarkAhead rest))], 1) := by
  have hstart : ∀ c ∈ plainMarks, BeginsLeaf c ∧ c ∉ ['"', 'b', 'c', 'r', '\''] ∧
      isAsciiDigit c = false ∧ marks.contains c = true := forall_mem_of_all (by decide)
  obtain ⟨hleaf, hquote, hdigit, hmark⟩ := hstart c h
  have hahead : markAhead (c :: rest) = some (.mark c (isMarkAhead rest)) := by
    unfold markAhead
    simp only [isMarkAhead_cons hleaf.not_slash, hmark, if_true]
    split <;> simp_all
  rw [pieceAhead_of_beginsLeaf hleaf, leafAhead, quotation_of_not_mem hquote,
    number_of_not_isAsciiDigit hdigit, hahead]
  simp

theorem pieceAhead_quoted (text : String) {rest : List Char} (hrest : EndsWord rest) :
    pieceAhead ((quoted text).toList ++ rest) =
      some ([.leaf (.literal (quoted text))], (quoted text).toList.length) := by
  have hquotation := quotation_quoted text hrest
  have hleaf : leafAhead ((quoted text).toList ++ rest) =
      some (.literal (quoted text), (quoted text).toList.length) := by
    rw [leafAhead, hquotation]
    simp
  have hcons : ∃ cs, (quoted text).toList ++ rest = '"' :: cs := by
    rw [toList_quoted]
    exact ⟨_, rfl⟩
  obtain ⟨cs, hcs⟩ := hcons
  rw [hcs] at hleaf ⊢
  rw [pieceAhead_of_beginsLeaf (by decide), hleaf, Option.map_some]

theorem pieceAhead_decimal {ds rest : List Char} (hds : AreDigits 10 ds) (hne : ds ≠ [])
    (hrest : EndsWord rest) (hpoint : rest.head? ≠ some '.') :
    pieceAhead (ds ++ rest) = some ([.leaf (.literal (String.ofList ds))], ds.length) := by
  have hnumber := number_digits hds hne hrest hpoint
  obtain ⟨first, behind, rfl⟩ := List.exists_cons_of_ne_nil hne
  obtain ⟨d, hd, rfl⟩ := hds first List.mem_cons_self
  have hstart : ∀ d : Fin 10, BeginsLeaf (Nat.digitChar d.val) ∧
      Nat.digitChar d.val ∉ ['"', 'b', 'c', 'r', '\''] := by decide
  obtain ⟨hleaf, hquote⟩ := hstart ⟨d, hd⟩
  rw [List.cons_append] at hnumber ⊢
  rw [pieceAhead_of_beginsLeaf hleaf, leafAhead, quotation_of_not_mem hquote, hnumber]
  simp

theorem pieceAhead_opening (d : Delimiter) {rest : List Char} (hrest : rest.head? ≠ some '/') :
    pieceAhead (d.opening :: rest) = some ([.opening d], 1) := by
  have hslash : d.opening ≠ '/' := by cases d <;> decide
  have hspace : isSpace d.opening = false := by cases d <;> decide
  -- a parenthesis that a slash follows could stand for a broken literal
  have hbroken : brokenLiteral.isPrefixOf (d.opening :: rest) = false := by
    have hcons : brokenLiteral = '(' :: '/' :: "*ERROR*/)".toList := rfl
    cases rest with
    | nil => simp [hcons, List.isPrefixOf]
    | cons c rest =>
      have hne : ('/' == c) = false := beq_eq_false_iff_ne.mpr fun h => hrest (by rw [← h]; rfl)
      simp only [hcons, List.isPrefixOf, hne, Bool.false_and, Bool.and_false]
  unfold pieceAhead
  simp only [blank_of_ne hspace hslash, documentation_of_ne hslash, hbroken, Bool.false_eq_true,
    if_false, Delimiter.ofOpening?_opening]

theorem pieceAhead_closing (d : Delimiter) (rest : List Char) :
    pieceAhead (d.closing :: rest) = some ([.closing d], 1) := by
  have hslash : d.closing ≠ '/' := by cases d <;> decide
  have hspace : isSpace d.closing = false := by cases d <;> decide
  have hparenthesis : d.closing ≠ '(' := by cases d <;> decide
  have hopening : Delimiter.ofOpening? d.closing = none := by cases d <;> rfl
  unfold pieceAhead
  simp only [blank_of_ne hspace hslash, documentation_of_ne hslash,
    not_broken_of_ne hparenthesis, Bool.false_eq_true, if_false, hopening,
    Delimiter.ofClosing?_closing]

/-! ## A text of pieces -/

namespace Piece

/-- The text that pieces make up. -/
def spell (ps : List Piece) : List Char := ps.flatMap text

/-- No piece continues the one before it. -/
def apart : List Piece → Bool
  | p :: q :: ps => p.admits q && apart (q :: ps)
  | _ => true

/-- Whether a mark comes first. -/
def beginsWithMark : List Piece → Bool
  | .mark _ :: _ => true
  | _ => false

/-- The lexemes of pieces. A mark is joint if another one follows it. -/
def lexemesOf : List Piece → List Lexeme
  | [] => []
  | p :: ps => p.lexemes (beginsWithMark ps) ++ lexemesOf ps

/-- What the first character `c` of the piece tells about it. -/
structure Begins (p : Piece) (c : Char) : Prop where
  not_slash : c ≠ '/'
  contains_marks : marks.contains c = beginsWithMark [p]
  tight : Ident.isContinue c → p.isTight
  point : c = '.' → p = .mark '.'

theorem Valid.begins {p : Piece} (h : p.Valid) : ∃ c cs, p.text = c :: cs ∧ p.Begins c := by
  cases h with
  | @space c h =>
    have hall : ∀ c ∈ spaces, c ≠ '/' ∧ marks.contains c = false ∧ Ident.isContinue c = false ∧
        c ≠ '.' := forall_mem_of_all (by decide)
    obtain ⟨h₁, h₂, h₃, h₄⟩ := hall c h
    exact ⟨c, [], rfl, h₁, h₂, fun h => by simp [h₃] at h, fun h => absurd h h₄⟩
  | @word text c cs htext hc hcs =>
    have hall : ∀ c ∈ wordStarts, c ≠ '/' ∧ marks.contains c = false ∧ c ≠ '.' :=
      forall_mem_of_all (by decide)
    obtain ⟨h₁, h₂, h₃⟩ := hall c hc
    exact ⟨c, cs, htext, h₁, h₂, fun _ => rfl, fun h => absurd h h₃⟩
  | @mark c h =>
    have hall : ∀ c ∈ plainMarks, c ≠ '/' ∧ marks.contains c = true ∧
        Ident.isContinue c = false := forall_mem_of_all (by decide)
    obtain ⟨h₁, h₂, h₃⟩ := hall c h
    exact ⟨c, [], rfl, h₁, h₂, fun h => by simp [h₃] at h, fun h => by rw [h]⟩
  | quoted text =>
    refine ⟨'"', _, toList_quoted text, by decide, rfl, fun _ => rfl, fun h => ?_⟩
    exact absurd h (by decide)
  | @decimal ds hds hne =>
    obtain ⟨first, behind, rfl⟩ := List.exists_cons_of_ne_nil hne
    obtain ⟨d, hd, rfl⟩ := hds first List.mem_cons_self
    have hall : ∀ d : Fin 10, Nat.digitChar d.val ≠ '/' ∧
        marks.contains (Nat.digitChar d.val) = false ∧ Nat.digitChar d.val ≠ '.' := by decide
    obtain ⟨h₁, h₂, h₃⟩ := hall ⟨d, hd⟩
    exact ⟨_, behind, String.toList_ofList, h₁, h₂, fun _ => rfl, fun h => absurd h h₃⟩
  | opening d =>
    refine ⟨d.opening, [], rfl, ?_⟩
    cases d <;> exact ⟨by decide, by decide, by decide, fun h => absurd h (by decide)⟩
  | closing d =>
    refine ⟨d.closing, [], rfl, ?_⟩
    cases d <;> exact ⟨by decide, by decide, by decide, fun h => absurd h (by decide)⟩

section Neighbours

variable {p : Piece} {ps : List Piece}

theorem Valid.spell_cons (hp : p.Valid) (ps : List Piece) :
    ∃ c cs, spell (p :: ps) = c :: cs ∧ p.Begins c := by
  obtain ⟨c, cs, htext, hbegins⟩ := hp.begins
  refine ⟨c, cs ++ spell ps, ?_, hbegins⟩
  rw [spell, List.flatMap_cons, htext, List.cons_append]
  rfl

theorem exists_head_spell (hvalid : ∀ q ∈ ps, q.Valid) {c : Char}
    (hc : (spell ps).head? = some c) : ∃ q qs, ps = q :: qs ∧ q.Begins c := by
  cases ps with
  | nil => cases hc
  | cons q qs =>
    obtain ⟨d, ds, hspell, hbegins⟩ := (hvalid q List.mem_cons_self).spell_cons qs
    rw [hspell] at hc
    cases hc
    exact ⟨q, qs, rfl, hbegins⟩

theorem isMarkAhead_spell (hvalid : ∀ q ∈ ps, q.Valid) :
    isMarkAhead (spell ps) = beginsWithMark ps := by
  cases ps with
  | nil => rfl
  | cons q qs =>
    obtain ⟨d, ds, hspell, hbegins⟩ := (hvalid q List.mem_cons_self).spell_cons qs
    rw [hspell, isMarkAhead_cons hbegins.not_slash, hbegins.contains_marks]
    cases q <;> rfl

theorem endsWord_spell (hvalid : ∀ q ∈ ps, q.Valid) (hapart : apart (p :: ps)) (hp : p.isTight) :
    EndsWord (spell ps) := by
  intro c hc
  obtain ⟨q, qs, rfl, hbegins⟩ := exists_head_spell hvalid hc
  rw [apart, Bool.and_eq_true] at hapart
  cases hcontinue : Ident.isContinue c with
  | false => rfl
  | true =>
    have hq := hbegins.tight hcontinue
    have hadmits := hapart.1
    unfold admits at hadmits
    split at hadmits
    · cases hq
    · simp [hp, hq] at hadmits

theorem head?_spell_ne_point {text : String} (hvalid : ∀ q ∈ ps, q.Valid)
    (hapart : apart (.literal text :: ps)) : (spell ps).head? ≠ some '.' := by
  intro hc
  obtain ⟨q, qs, rfl, hbegins⟩ := exists_head_spell hvalid hc
  rw [hbegins.point rfl, apart, Bool.and_eq_true] at hapart
  exact absurd hapart.1 (by simp [admits])

/-- A valid piece is found in front of others that do not continue it. -/
theorem pieceAhead_spell (hvalid : ∀ q ∈ p :: ps, q.Valid) (hapart : apart (p :: ps)) :
    pieceAhead (p.text ++ spell ps) = some (p.lexemes (beginsWithMark ps), p.text.length) := by
  obtain ⟨hp, hps⟩ := List.forall_mem_cons.mp hvalid
  cases hp with
  | space h => exact pieceAhead_space h (spell ps)
  | @word text c cs htext hc hcs =>
    have hword := pieceAhead_word hc hcs (endsWord_spell hps hapart rfl)
    rw [← List.cons_append, ← htext, String.ofList_toList] at hword
    rw [Piece.text, hword, htext]
    rfl
  | mark h =>
    have hmark := pieceAhead_mark h (spell ps)
    rw [isMarkAhead_spell hps] at hmark
    exact hmark
  | quoted text => exact pieceAhead_quoted text (endsWord_spell hps hapart rfl)
  | @decimal ds hds hne =>
    have hdecimal := pieceAhead_decimal hds hne (endsWord_spell hps hapart rfl)
      (head?_spell_ne_point hps hapart)
    rw [Piece.text, String.toList_ofList]
    exact hdecimal
  | opening d =>
    refine pieceAhead_opening d fun hslash => ?_
    obtain ⟨q, qs, -, hbegins⟩ := exists_head_spell hps hslash
    exact hbegins.not_slash rfl
  | closing d => exact pieceAhead_closing d (spell ps)

end Neighbours

/-! ## Pieces on one line -/

/-- Whether the piece is no line end. -/
def staysOnLine : Piece → Bool
  | space c => c != '\n' && c != '\r'
  | _ => true

theorem Valid.onOneLine {p : Piece} (h : p.Valid) (hline : p.staysOnLine) : OnOneLine p.text := by
  cases h with
  | @space c h =>
    rw [staysOnLine, Bool.and_eq_true, bne_iff_ne, bne_iff_ne] at hline
    exact List.forall_mem_singleton.mpr hline
  | @word text c cs htext hc hcs =>
    have hstart : ∀ c ∈ wordStarts, Ident.isContinue c := forall_mem_of_all (by decide)
    rw [Piece.text, htext]
    exact onOneLine_of_isContinue (List.forall_mem_cons.mpr ⟨hstart c hc, hcs⟩)
  | @mark c h =>
    have hmarks : ∀ c ∈ plainMarks, c ≠ '\n' ∧ c ≠ '\r' := forall_mem_of_all (by decide)
    exact List.forall_mem_singleton.mpr (hmarks c h)
  | quoted text => exact onOneLine_quoted text
  | @decimal ds hds hne =>
    rw [Piece.text, String.toList_ofList]
    exact onOneLine_digits hds (by omega)
  | opening d => cases d <;> decide
  | closing d => cases d <;> decide

theorem onOneLine_spell {ps : List Piece} (hvalid : ∀ p ∈ ps, p.Valid)
    (hline : ps.all staysOnLine) : OnOneLine (spell ps) :=
  onOneLine_flatMap fun p hp => (hvalid p hp).onOneLine (List.all_eq_true.mp hline p hp)

/-! ## Pieces with a space between them -/

theorem spell_append (ps qs : List Piece) : spell (ps ++ qs) = spell ps ++ spell qs :=
  List.flatMap_append

theorem admits_space (p : Piece) (c : Char) : p.admits (.space c) = true := by
  cases p <;> rfl

theorem space_admits (c : Char) (p : Piece) : admits (.space c) p = true := by
  cases p <;> rfl

theorem apart_cons_cons (p q : Piece) (ps : List Piece) :
    apart (p :: q :: ps) = (p.admits q && apart (q :: ps)) := rfl

theorem apart_space (c : Char) (ps : List Piece) : apart (.space c :: ps) = apart ps := by
  cases ps with
  | nil => rfl
  | cons p ps => rw [apart_cons_cons, space_admits, Bool.true_and]

theorem apart_append_space (ps : List Piece) (c : Char) (qs : List Piece) :
    apart (ps ++ .space c :: qs) = (apart ps && apart qs) := by
  induction ps with
  | nil => exact apart_space c qs
  | cons p ps ih =>
    cases ps with
    | nil => exact (apart_cons_cons p (.space c) qs).trans (by rw [admits_space, apart_space]; rfl)
    | cons q ps =>
      rw [List.cons_append, List.cons_append, apart_cons_cons, apart_cons_cons, Bool.and_assoc,
        ← ih]
      rfl

theorem lexemesOf_append_space (ps : List Piece) (c : Char) (qs : List Piece) :
    lexemesOf (ps ++ .space c :: qs) = lexemesOf ps ++ lexemesOf qs := by
  induction ps with
  | nil => rfl
  | cons p ps ih =>
    have hmark : beginsWithMark (ps ++ .space c :: qs) = beginsWithMark ps := by
      cases ps with
      | nil => rfl
      | cons q ps => cases q <;> rfl
    rw [List.cons_append, lexemesOf, lexemesOf, ih, hmark, List.append_assoc]

end Piece

/-! ## Lexemes without positions -/

theorem map_lexemesFrom_eq (skip : Nat) (p q : Position) (cs : List Char) :
    (lexemesFrom skip p cs).map (·.2) = (lexemesFrom skip q cs).map (·.2) := by
  induction cs generalizing skip p q with
  | nil => rfl
  | cons c cs ih =>
    unfold lexemesFrom
    split
    · exact ih _ _ _
    · split
      · rename_i ls n _
        rw [List.map_append, List.map_append, ih (n - 1) (p.after c) (q.after c)]
        simp
      · rfl

theorem map_lexemesFrom_skip (p q : Position) (cs rest : List Char) :
    (lexemesFrom cs.length p (cs ++ rest)).map (·.2) = (lexemesFrom 0 q rest).map (·.2) := by
  induction cs generalizing p with
  | nil => exact map_lexemesFrom_eq 0 p q rest
  | cons c cs ih =>
    rw [List.length_cons, List.cons_append, lexemesFrom, if_pos (Nat.succ_pos _),
      Nat.add_sub_cancel]
    exact ih (p.after c)

/-- The lexemes at the front of a text come before those of the rest. -/
theorem map_lexemesFrom_append {text : List Char} {ls : List Lexeme} {rest : List Char}
    (hne : text ≠ []) (h : pieceAhead (text ++ rest) = some (ls, text.length)) (p q : Position) :
    (lexemesFrom 0 p (text ++ rest)).map (·.2) = ls ++ (lexemesFrom 0 q rest).map (·.2) := by
  obtain ⟨c, cs, rfl⟩ := List.exists_cons_of_ne_nil hne
  rw [List.cons_append] at h ⊢
  rw [lexemesFrom, if_neg (Nat.lt_irrefl 0)]
  simp only [h, List.length_cons, Nat.add_sub_cancel, List.map_append,
    map_lexemesFrom_skip (p.after c) q cs rest]
  simp [Function.comp_def]

/-- The lexemes of a text are those of the pieces that it is made of. -/
theorem map_lexemesFrom_spell {ps : List Piece} (hvalid : ∀ q ∈ ps, q.Valid)
    (hapart : Piece.apart ps) (p : Position) :
    (lexemesFrom 0 p (Piece.spell ps)).map (·.2) = Piece.lexemesOf ps := by
  induction ps with
  | nil => rfl
  | cons q ps ih =>
    obtain ⟨hq, hps⟩ := List.forall_mem_cons.mp hvalid
    have hrest : Piece.apart ps := by
      cases ps with
      | nil => rfl
      | cons r ps =>
        rw [Piece.apart, Bool.and_eq_true] at hapart
        exact hapart.2
    have hne : q.text ≠ [] := by
      obtain ⟨c, cs, htext, -⟩ := hq.begins
      rw [htext]
      exact List.cons_ne_nil c cs
    have hspell : Piece.spell (q :: ps) = q.text ++ Piece.spell ps := List.flatMap_cons
    rw [hspell, map_lexemesFrom_append hne (Piece.pieceAhead_spell hvalid hapart) p p, ih hps hrest]
    rfl

end ReceiverLoader.Token
