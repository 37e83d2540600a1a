/-!
# Ranges of code points

A property of characters is given by the ascending list of the code point ranges that have it.
`CodeRange.holds` looks a character up; `holds_iff` says what it means on an ascending list.
-/

namespace ReceiverLoader.Text

/-- First and last code point of a range. -/
abbrev CodeRange := Nat × Nat

namespace CodeRange

/-- Whether code point `n` lies in one of the ranges. The search ends at the first range that
starts beyond `n`. -/
def holds (n : Nat) : List CodeRange → Bool
  | [] => false
  | (first, last) :: ranges =>
    if n < first then false else if n ≤ last then true else holds n ranges

/-- Each range starts where, or after, the one before it starts. -/
abbrev Ascending (ranges : List CodeRange) : Prop := ranges.Pairwise fun r s => r.1 ≤ s.1

theorem holds_iff {n : Nat} {ranges : List CodeRange} (h : Ascending ranges) :
    holds n ranges = true ↔ ∃ r ∈ ranges, r.1 ≤ n ∧ n ≤ r.2 := by
  induction ranges with
  | nil => simp [holds]
  | cons r ranges ih =>
    obtain ⟨first, last⟩ := r
    simp only [Ascending, List.pairwise_cons] at h
    simp only [holds, List.mem_cons, exists_eq_or_imp]
    split
    · rename_i hlt
      constructor
      · simp
      · rintro (⟨h1, -⟩ | ⟨s, hs, h1, -⟩)
        · exact absurd hlt (by simpa using h1)
        · have h2 : first ≤ s.1 := h.1 s hs
          omega
    · split
      · rename_i h1 h2
        exact iff_of_true rfl (Or.inl ⟨by omega, h2⟩)
      · rename_i h1 h2
        rw [ih h.2]
        constructor
        · exact Or.inr
        · rintro (⟨-, h3⟩ | h3)
          · exact absurd h3 h2
          · exact h3

end CodeRange

end ReceiverLoader.Text
