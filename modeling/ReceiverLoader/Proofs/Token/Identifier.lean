import ReceiverLoader.Proofs.Text.Word
import ReceiverLoader.Token.Trees

/-!
# The words of a text are identifiers

* `IsIdentifier`: a character that begins identifiers and others that continue them, with or without
  `r#` in front.
* `isIdentifier_of_treesOf`: so is every word in the token trees of a text, at any depth.
-/

namespace ReceiverLoader.Token

open Text

/-- An identifier or a keyword, be it raw or not. -/
def IsIdentifier (word : String) : Prop :=
  ∃ c cs, Ident.isStart c = true ∧ (∀ d ∈ cs, Ident.isContinue d = true) ∧
    (word.toList = c :: cs ∨ word.toList = 'r' :: '#' :: c :: cs)

namespace IsIdentifier

variable {word : String}

/-- Characters that may all begin an identifier make one. -/
theorem of_isStart {c : Char} {cs : List Char} (hword : word.toList = c :: cs)
    (h : (c :: cs).all Ident.isStart = true) : IsIdentifier word := by
  obtain ⟨hc, hcs⟩ := List.forall_mem_cons.mp (List.all_eq_true.mp h)
  exact ⟨c, cs, hc, fun d hd => Ident.isContinue_of_isStart (hcs d hd), .inl hword⟩

theorem ne_empty (h : IsIdentifier word) : word ≠ "" := by
  rintro rfl
  obtain ⟨c, cs, -, -, hword | hword⟩ := h <;> cases hword

/-- The characters of an identifier continue identifiers, but for the `#` of a raw one. -/
theorem isContinue_or (h : IsIdentifier word) {d : Char} (hd : d ∈ word.toList) :
    Ident.isContinue d = true ∨ d = '#' := by
  obtain ⟨c, cs, hc, hcs, hword⟩ := h
  have hall : ∀ d ∈ c :: cs, Ident.isContinue d = true :=
    List.forall_mem_cons.mpr ⟨Ident.isContinue_of_isStart hc, hcs⟩
  obtain hword | hword := hword
  · exact .inl (hall d (hword ▸ hd))
  · rw [hword] at hd
    rcases List.mem_cons.mp hd with rfl | hd
    · exact .inl (by decide)
    · rcases List.mem_cons.mp hd with rfl | hd
      · exact .inr rfl
      · exact .inl (hall d hd)

theorem colon_not_mem (h : IsIdentifier word) : ':' ∉ word.toList := fun hd => by
  obtain hc | hc := h.isContinue_or hd
  · exact absurd hc (by decide)
  · exact absurd hc (by decide)

theorem not_isBlank (h : IsIdentifier word) {d : Char} (hd : d ∈ word.toList) :
    isBlank d = false := by
  rw [← Bool.not_eq_true]
  intro hblank
  obtain hc | rfl := h.isContinue_or hd
  · rw [isContinue_of_isBlank hblank] at hc
    cases hc
  · exact absurd hblank (by decide)

end IsIdentifier

/-! ## Words at the front of a text -/

theorem plainWord_eq_some {cs : List Char} {n : Nat} (h : plainWord cs = some n) :
    ∃ c rest, Ident.isStart c = true ∧ (∀ d ∈ rest, Ident.isContinue d = true) ∧
      cs.take n = c :: rest := by
  cases cs with
  | nil => cases h
  | cons c cs =>
    rw [plainWord] at h
    split at h
    · rename_i hstart
      cases h
      refine ⟨c, cs.takeWhile Ident.isContinue, hstart, fun d hd => List.mem_takeWhile_imp hd, ?_⟩
      rw [List.take_succ_cons, ← List.prefix_iff_eq_take.mp (List.takeWhile_prefix _)]
    · cases h

theorem isIdentifier_of_anyWord {cs : List Char} {n : Nat} (h : anyWord cs = some n) :
    IsIdentifier (String.ofList (cs.take n)) := by
  unfold anyWord at h
  split at h
  · split at h
    · rename_i rest n' hplain
      split at h
      · cases h
      · cases h
        obtain ⟨c, tail, hc, htail, htake⟩ := plainWord_eq_some hplain
        exact ⟨c, tail, hc, htail, .inr (by simp [htake])⟩
    · cases h
  · obtain ⟨c, tail, hc, htail, htake⟩ := plainWord_eq_some h
    exact ⟨c, tail, hc, htail, .inl (by simp [htake])⟩

theorem isIdentifier_of_leafAhead {cs : List Char} {w : String} {n : Nat}
    (h : leafAhead cs = some (.word w, n)) : IsIdentifier w := by
  unfold leafAhead at h
  split at h
  · cases h
  · split at h
    · rename_i leaf hmark
      cases h
      unfold markAhead at hmark
      split at hmark
      · split at hmark
        · split at hmark <;> cases hmark
        · cases hmark
        · cases hmark
      · cases hmark
    · obtain ⟨m, hword, heq⟩ := Option.map_eq_some_iff.mp h
      cases heq
      unfold word at hword
      split at hword
      · cases hword
      · exact isIdentifier_of_anyWord hword

/-! ## The lexemes of a text -/

/-- A lexeme is no word, or one that is an identifier. -/
def Lexeme.IsProper (l : Lexeme) : Prop := ∀ w, l = .leaf (.word w) → IsIdentifier w

theorem isIdentifier_doc : IsIdentifier "doc" := .of_isStart rfl (by decide)

theorem Documentation.isProper (d : Documentation) : ∀ l ∈ d.lexemes, l.IsProper := by
  rintro l hl w rfl
  have hdoc : w = "doc" := by
    cases d with
    | mk inner => cases inner <;> simpa [Documentation.lexemes] using hl
  exact hdoc ▸ isIdentifier_doc

theorem isProper_pieceAhead {cs : List Char} {ls : List Lexeme} {n : Nat}
    (h : pieceAhead cs = some (ls, n)) : ∀ l ∈ ls, l.IsProper := by
  unfold pieceAhead at h
  split at h
  · cases h
    exact List.forall_mem_nil _
  · split at h
    · cases h
      exact Documentation.isProper _
    · split at h
      · cases h
      · split at h
        · cases h
          rintro l hl w rfl
          cases List.mem_singleton.mp hl
        · split at h
          · cases h
            rintro l hl w rfl
            cases List.mem_singleton.mp hl
          · cases h
            rintro l hl w rfl
            cases List.mem_singleton.mp hl
          · obtain ⟨⟨leaf, m⟩, hleaf, heq⟩ := Option.map_eq_some_iff.mp h
            cases heq
            rintro l hl w rfl
            cases List.mem_singleton.mp hl
            exact isIdentifier_of_leafAhead hleaf

theorem isProper_lexemesFrom {skip : Nat} {p : Position} {cs : List Char} :
    ∀ l ∈ lexemesFrom skip p cs, l.2.IsProper := by
  induction cs generalizing skip p with
  | nil => exact List.forall_mem_nil _
  | cons c cs ih =>
    rw [lexemesFrom]
    split
    · exact ih
    · split
      · rename_i ls n hpiece
        intro l hl
        obtain hl | hl := List.mem_append.mp hl
        · obtain ⟨l', hl', rfl⟩ := List.mem_map.mp hl
          exact isProper_pieceAhead hpiece l' hl'
        · exact ih l hl
      · rintro l hl w hw
        cases List.mem_singleton.mp hl
        cases hw

theorem isProper_lexemes {cs : List Char} : ∀ l ∈ lexemes cs, l.2.IsProper := by
  unfold lexemes
  split
  · exact List.forall_mem_nil _
  · split <;> exact isProper_lexemesFrom

/-! ## The trees of a text -/

namespace Tree

mutual

/-- The words of a tree, at any depth. -/
def words : Tree → List String
  | leaf _ (.word w) => [w]
  | leaf _ _ => []
  | group _ _ _ body => wordsAll body

/-- The words of a list of trees, at any depth. -/
def wordsAll : List Tree → List String
  | [] => []
  | t :: ts => words t ++ wordsAll ts

end

/-- Every word in the trees, at any depth, satisfies `W`. -/
def AllWords (W : String → Prop) (ts : List Tree) : Prop := ∀ w ∈ wordsAll ts, W w

variable {W : String → Prop} {t : Tree} {ts us : List Tree}

theorem allWords_nil : AllWords W [] := List.forall_mem_nil W

theorem allWords_cons : AllWords W (t :: ts) ↔ (∀ w ∈ t.words, W w) ∧ AllWords W ts := by
  simp only [AllWords, wordsAll, List.forall_mem_append]

theorem allWords_body {opens closes : Position} {d : Delimiter} :
    (∀ w ∈ (group opens closes d ts).words, W w) ↔ AllWords W ts := by
  rw [words, AllWords]

theorem allWords_iff : AllWords W ts ↔ ∀ t ∈ ts, ∀ w ∈ t.words, W w := by
  induction ts with
  | nil => simp [allWords_nil]
  | cons t ts ih => rw [allWords_cons, ih, List.forall_mem_cons]

theorem allWords_reverse : AllWords W ts.reverse ↔ AllWords W ts := by
  simp only [allWords_iff, List.mem_reverse]

/-- Fewer trees have fewer words. -/
theorem AllWords.of_suffix (h : AllWords W us) (hsuffix : ts <:+ us) : AllWords W ts :=
  allWords_iff.mpr fun t ht => allWords_iff.mp h t (hsuffix.mem ht)

end Tree

open ReceiverLoader.Token.Tree (AllWords allWords_cons allWords_reverse)

theorem allWords_assemble {gs : List OpenGroup} {done ts : List Tree}
    {ls : List (Position × Lexeme)}
    (hls : ∀ l ∈ ls, l.2.IsProper) (hgs : ∀ g ∈ gs, AllWords IsIdentifier g.before)
    (hdone : AllWords IsIdentifier done) (h : assemble gs done ls = .ok ts) :
    AllWords IsIdentifier ts := by
  fun_induction assemble gs done ls with
  | case1 done =>
    cases h
    exact allWords_reverse.mpr hdone
  | case2 g gs done => cases h
  | case3 gs done p leaf ls ih =>
    obtain ⟨hl, hls⟩ := List.forall_mem_cons.mp hls
    refine ih hls hgs (allWords_cons.mpr ⟨fun w hw => ?_, hdone⟩) h
    cases leaf with
    | word =>
      obtain rfl := List.mem_singleton.mp hw
      exact hl _ rfl
    | mark => cases hw
    | literal => cases hw
  | case4 gs done p d ls ih =>
    exact ih (List.forall_mem_cons.mp hls).2 (List.forall_mem_cons.mpr ⟨hdone, hgs⟩)
      Tree.allWords_nil h
  | case5 done p d ls => cases h
  | case6 g gs done p ls ih =>
    obtain ⟨hg, hgs⟩ := List.forall_mem_cons.mp hgs
    exact ih (List.forall_mem_cons.mp hls).2 hgs
      (allWords_cons.mpr ⟨allWords_reverse.mpr hdone, hg⟩) h
  | case7 g gs done p d ls hd => cases h
  | case8 gs done p ls => cases h

/-- Every word in the token trees of a text is an identifier. -/
theorem isIdentifier_of_treesOf {text : List Char} {ts : List Tree} (h : treesOf text = .ok ts) :
    AllWords IsIdentifier ts :=
  allWords_assemble isProper_lexemes (List.forall_mem_nil _) Tree.allWords_nil h

end ReceiverLoader.Token
