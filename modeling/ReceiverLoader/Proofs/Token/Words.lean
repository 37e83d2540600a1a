import ReceiverLoader.Proofs.Text.Lines
import ReceiverLoader.Token.Word

/-!
# Where words end

* `EndsWord`: what comes next does not belong to the word before it.
* `plainWord_append`: a word ends there.
* `suffix_of_endsWord`, `numberSuffix_of_endsWord`: and so does a literal, which then has no suffix.
-/

namespace ReceiverLoader.Token

open Text

theorem char_le_iff {c d : Char} : c ≤ d ↔ c.toNat ≤ d.toNat := Iff.rfl

/-- What comes next continues no word. -/
def EndsWord (rest : List Char) : Prop := ∀ c, rest.head? = some c → Ident.isContinue c = false

theorem takeWhile_append_stop {p : Char → Bool} {cs rest : List Char} (hcs : ∀ c ∈ cs, p c)
    (hrest : ∀ c, rest.head? = some c → p c = false) : (cs ++ rest).takeWhile p = cs := by
  rw [List.takeWhile_append_of_pos hcs]
  cases rest with
  | nil => simp
  | cons c rest => simp [hrest c rfl]

theorem isContinue_of_isAsciiDigit {c : Char} (h : isAsciiDigit c) : Ident.isContinue c := by
  have h0 : ('0' : Char).toNat = 48 := rfl
  have h9 : ('9' : Char).toNat = 57 := rfl
  have hlt : c.toNat < 0x80 := by
    simp only [isAsciiDigit, Bool.and_eq_true, decide_eq_true_eq, char_le_iff] at h
    omega
  simp [Ident.isContinue, hlt, h]

/-- No line ends within a word. -/
theorem onOneLine_of_isContinue {cs : List Char} (h : ∀ c ∈ cs, Ident.isContinue c) :
    OnOneLine cs := by
  intro c hc
  have hcontinue := h c hc
  have hends : Ident.isContinue '\n' = false ∧ Ident.isContinue '\r' = false := by decide
  refine ⟨?_, ?_⟩
  · rintro rfl
    rw [hends.1] at hcontinue
    cases hcontinue
  · rintro rfl
    rw [hends.2] at hcontinue
    cases hcontinue

theorem plainWord_append {c : Char} {cs rest : List Char} (hc : Ident.isStart c)
    (hcs : ∀ d ∈ cs, Ident.isContinue d) (hrest : EndsWord rest) :
    plainWord (c :: (cs ++ rest)) = some (cs.length + 1) := by
  rw [plainWord, if_pos hc, takeWhile_append_stop hcs hrest]

theorem plainWord_of_endsWord {rest : List Char} (h : EndsWord rest) : plainWord rest = none := by
  cases rest with
  | nil => rfl
  | cons c rest =>
    have hc : ¬ Ident.isStart c = true := fun hstart => by
      have hcontinue := Ident.isContinue_of_isStart hstart
      rw [h c rfl] at hcontinue
      cases hcontinue
    rw [plainWord, if_neg hc]

theorem suffix_of_endsWord {rest : List Char} (h : EndsWord rest) : suffix rest = 0 := by
  rw [suffix, plainWord_of_endsWord h, Option.getD_none]

theorem numberSuffix_of_endsWord {rest : List Char} (h : EndsWord rest) :
    numberSuffix rest = some 0 := by
  have hnone := plainWord_of_endsWord h
  unfold numberSuffix
  rw [hnone]
  cases rest with
  | nil => rfl
  | cons c rest => simp [h c rfl]

end ReceiverLoader.Token
