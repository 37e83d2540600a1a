import ReceiverLoader.Text.Ident.Table

/-!
# Identifiers

Which characters start an identifier and which continue one: the Unicode properties `XID_Start`
and `XID_Continue`, with the underscore admitted as a start.
-/

namespace ReceiverLoader.Text

/-- ASCII letters. -/
def isAsciiLetter (c : Char) : Bool := ('a' ≤ c && c ≤ 'z') || ('A' ≤ c && c ≤ 'Z')

/-- ASCII decimal digits. -/
def isAsciiDigit (c : Char) : Bool := '0' ≤ c && c ≤ '9'

namespace Ident

/-- Whether `c` may begin an identifier. -/
def isStart (c : Char) : Bool :=
  if c.toNat < 0x80 then isAsciiLetter c || c == '_' else CodeRange.holds c.toNat startRanges

/-- Whether `c` may stand in an identifier after its first character. -/
def isContinue (c : Char) : Bool :=
  if c.toNat < 0x80 then isAsciiLetter c || isAsciiDigit c || c == '_'
  else CodeRange.holds c.toNat startRanges || CodeRange.holds c.toNat continueOnlyRanges

theorem isContinue_of_isStart {c : Char} (h : isStart c = true) : isContinue c = true := by
  unfold isStart at h
  unfold isContinue
  split at h
  · rename_i hc
    simp only [hc, if_true, Bool.or_eq_true] at h ⊢
    rcases h with h | h
    · exact Or.inl (Or.inl h)
    · exact Or.inr h
  · rename_i hc
    simp [hc, h]

/-- Whether `text` can follow the start of an identifier without ending it. -/
def isFragment (text : String) : Bool := text.toList.all isContinue

end Ident

end ReceiverLoader.Text
