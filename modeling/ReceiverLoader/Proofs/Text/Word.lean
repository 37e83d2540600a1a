import Mathlib.Data.List.TakeWhile
import ReceiverLoader.Text.Word

/-!
# White space

* `isAlphanumeric_of_isBlank`, `isContinue_of_isBlank`: white space stands in no word and in no
  identifier.
* `trimBlanks_eq_iff`: what `trimBlanks` leaves of a text, said of the text.
-/

namespace ReceiverLoader.Text

/-! ## Code points -/

/-- The code points of white space, one by one. -/
def blankPoints : List Nat := blankRanges.flatMap fun r => List.range' r.1 (r.2 + 1 - r.1)

theorem mem_blankPoints {c : Char} (h : isBlank c = true) : c.toNat ∈ blankPoints := by
  obtain ⟨r, hr, hfirst, hlast⟩ := (CodeRange.holds_iff (by decide)).mp h
  refine List.mem_flatMap.mpr ⟨r, hr, ?_⟩
  rw [List.mem_range'_1]
  omega

theorem isAlphanumeric_of_isBlank {c : Char} (h : isBlank c = true) : isAlphanumeric c = false := by
  have hpoints : ∀ n ∈ blankPoints, isAlphanumeric (Char.ofNat n) = false := by decide +kernel
  rw [← Char.ofNat_toNat c]
  exact hpoints _ (mem_blankPoints h)

theorem isContinue_of_isBlank {c : Char} (h : isBlank c = true) : Ident.isContinue c = false := by
  have hpoints : ∀ n ∈ blankPoints, Ident.isContinue (Char.ofNat n) = false := by decide +kernel
  rw [← Char.ofNat_toNat c]
  exact hpoints _ (mem_blankPoints h)

/-! ## Trimming -/

/-- `inner` neither begins nor ends with white space. -/
structure Tight (inner : List Char) : Prop where
  head : ∀ c, inner.head? = some c → isBlank c = false
  last : ∀ c, inner.getLast? = some c → isBlank c = false

theorem head?_dropWhile_isBlank {text : List Char} {c : Char}
    (h : (text.dropWhile isBlank).head? = some c) : isBlank c = false := by
  have hhead := List.head?_dropWhile_not isBlank text
  rw [h] at hhead
  simpa using hhead

theorem dropWhile_isBlank_of_head {text : List Char}
    (h : ∀ c, text.head? = some c → isBlank c = false) : text.dropWhile isBlank = text := by
  cases text with
  | nil => rfl
  | cons c text => rw [List.dropWhile_cons, h c rfl, if_neg Bool.false_ne_true]

theorem Tight.trimBlanks {inner : List Char} (h : Tight inner) : trimBlanks inner = inner := by
  rw [Text.trimBlanks, dropWhile_isBlank_of_head h.head, dropWhile_isBlank_of_head,
    List.reverse_reverse]
  intro c hc
  rw [List.head?_reverse] at hc
  exact h.last c hc

/-- White space around a text is dropped. -/
theorem trimBlanks_around {before inner behind : List Char}
    (hbefore : ∀ c ∈ before, isBlank c = true) (hbehind : ∀ c ∈ behind, isBlank c = true)
    (h : Tight inner) :
    trimBlanks (before ++ inner ++ behind) = inner := by
  have hreverse : ∀ c ∈ behind.reverse, isBlank c = true := fun c hc =>
    hbehind c (List.mem_reverse.mp hc)
  rw [trimBlanks, List.append_assoc, List.dropWhile_append_of_pos hbefore]
  cases inner with
  | nil =>
    have hnil : behind.dropWhile isBlank = [] := List.dropWhile_eq_nil_iff.mpr hbehind
    simp [hnil]
  | cons c inner =>
    have hkept : (c :: inner ++ behind).dropWhile isBlank = c :: inner ++ behind :=
      dropWhile_isBlank_of_head h.head
    rw [hkept, List.reverse_append, List.dropWhile_append_of_pos hreverse]
    have htrim := h.trimBlanks
    rwa [trimBlanks, dropWhile_isBlank_of_head h.head] at htrim

theorem exists_trimBlanks (text : List Char) :
    ∃ before behind, text = before ++ trimBlanks text ++ behind ∧
      (∀ c ∈ before, isBlank c = true) ∧ ∀ c ∈ behind, isBlank c = true := by
  let rest := text.dropWhile isBlank
  refine ⟨text.takeWhile isBlank, (rest.reverse.takeWhile isBlank).reverse, ?_, ?_, ?_⟩
  · have hrest : trimBlanks text ++ (rest.reverse.takeWhile isBlank).reverse = rest := by
      rw [trimBlanks, ← List.reverse_append, List.takeWhile_append_dropWhile, List.reverse_reverse]
    rw [List.append_assoc, hrest, List.takeWhile_append_dropWhile]
  · exact fun c hc => List.mem_takeWhile_imp hc
  · exact fun c hc => List.mem_takeWhile_imp (List.mem_reverse.mp hc)

theorem tight_trimBlanks (text : List Char) : Tight (trimBlanks text) where
  last c hc := by
    rw [trimBlanks, List.getLast?_reverse] at hc
    exact head?_dropWhile_isBlank hc
  head c hc := by
    -- What is dropped at the end leaves the beginning as it is, if anything is left.
    obtain ⟨dropped, hdropped⟩ : trimBlanks text <+: text.dropWhile isBlank := by
      rw [← List.reverse_suffix, trimBlanks, List.reverse_reverse]
      exact List.dropWhile_suffix isBlank
    have hhead : (text.dropWhile isBlank).head? = some c := by
      rw [← hdropped, List.head?_append, hc]
      rfl
    exact head?_dropWhile_isBlank hhead

/-- Trimming leaves what has white space around it and not at its own ends. -/
theorem trimBlanks_eq_iff {text inner : List Char} :
    trimBlanks text = inner ↔ Tight inner ∧ ∃ before behind, text = before ++ inner ++ behind ∧
      (∀ c ∈ before, isBlank c = true) ∧ ∀ c ∈ behind, isBlank c = true := by
  constructor
  · rintro rfl
    exact ⟨tight_trimBlanks text, exists_trimBlanks text⟩
  · rintro ⟨hinner, before, behind, rfl, hbefore, hbehind⟩
    exact trimBlanks_around hbefore hbehind hinner

end ReceiverLoader.Text
