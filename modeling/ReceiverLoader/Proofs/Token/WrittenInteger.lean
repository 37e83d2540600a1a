import Mathlib.Data.List.TakeWhile
import Mathlib.Data.Nat.Digits.Defs
import ReceiverLoader.Proofs.Token.Digits

/-!
# Integer literals as they are written

An integer literal has a base, digits with underscores among them, and perhaps a suffix. Its value
is that of its digits in the base, whatever their number.

* `Base`, `WrittenInteger`: the integer literals with their texts and values.
* `integerValue_append`, `integerValue_eq_some`: which digits are read, and their value.
* `ofWritten_eq_integer`: a literal means an integer iff it is written as one of that value.
-/

namespace ReceiverLoader.Token

open Text

/-! ## Texts -/

/-- The bases of integer literals. -/
inductive Base
  | binary
  | octal
  | decimal
  | hexadecimal
deriving Repr, DecidableEq

namespace Base

/-- The number that the base is. -/
def radix : Base → Nat
  | binary => 2
  | octal => 8
  | decimal => 10
  | hexadecimal => 16

/-- How a literal in the base begins. -/
def lead : Base → List Char
  | binary => ['0', 'b']
  | octal => ['0', 'o']
  | decimal => []
  | hexadecimal => ['0', 'x']

/-- Whether `c` is a digit in the base. -/
def isDigit (b : Base) (c : Char) : Bool := (digitValue c).any (· < b.radix)

theorem isDigit_iff {b : Base} {c : Char} :
    b.isDigit c ↔ ∃ d, digitValue c = some d ∧ d < b.radix := by
  unfold isDigit
  cases digitValue c <;> simp

end Base

/-- Whether an exponent begins here: its `e`, digits with underscores among them, and behind these
nothing or a word. -/
def beginsExponent : List Char → Bool
  | [] => false
  | c :: cs =>
    (c == 'e' || c == 'E') && ((cs.takeWhile isDigitOrGap).any isAsciiDigit &&
      ((cs.dropWhile isDigitOrGap).isEmpty || Literal.isWord (cs.dropWhile isDigitOrGap)))

/-- What makes digits without the name of a base an integer in decimal. -/
structure IsDecimal (digits suffix : List Char) : Prop where
  /-- A word begins with an underscore. -/
  digit_first : digits.head? ≠ some '_'
  no_lead : ∀ b : Base, b ≠ .decimal → ¬ b.lead <+: digits ++ suffix
  /-- An exponent makes a fraction. -/
  no_exponent : beginsExponent suffix = false

/-- An integer literal as it is written. -/
structure WrittenInteger where
  base : Base
  /-- The digits, with underscores in any place. -/
  digits : List Char
  /-- The word behind the digits, if there is one. -/
  suffix : List Char
  digit_or_gap : ∀ c ∈ digits, base.isDigit c ∨ c = '_'
  some_digit : ∃ c ∈ digits, base.isDigit c
  suffix_word : suffix = [] ∨ Literal.isWord suffix
  /-- The suffix does not continue the digits. -/
  suffix_apart : ∀ c, suffix.head? = some c → ¬ base.isDigit c ∧ c ≠ '_'
  decimal : base = .decimal → IsDecimal digits suffix

namespace WrittenInteger

/-- The text of the literal. -/
def written (i : WrittenInteger) : String := String.ofList (i.base.lead ++ (i.digits ++ i.suffix))

/-- The value of the digits. -/
def value (i : WrittenInteger) : Nat :=
  Nat.ofDigits i.base.radix (i.digits.filterMap digitValue).reverse

end WrittenInteger

/-! ## Digits -/

/-- The number that digits with underscores continue, from `value` on. -/
def digitsValue (radix value : Nat) (ds : List Char) : Nat :=
  (ds.filterMap digitValue).foldl (fun value d => value * radix + d) value

theorem digitsValue_zero (radix : Nat) (ds : List Char) :
    digitsValue radix 0 ds = Nat.ofDigits radix (ds.filterMap digitValue).reverse := by
  rw [Nat.ofDigits_eq_foldr, List.foldr_reverse, digitsValue]
  congr 1
  funext value d
  rw [Nat.mul_comm, Nat.add_comm]
  rfl

theorem digitsValue_gap (radix value : Nat) (ds : List Char) :
    digitsValue radix value ('_' :: ds) = digitsValue radix value ds := rfl

theorem digitsValue_digit {c : Char} {d : Nat} (hd : digitValue c = some d) (radix value : Nat)
    (ds : List Char) :
    digitsValue radix value (c :: ds) = digitsValue radix (value * radix + d) ds := by
  rw [digitsValue, List.filterMap_cons_some hd, List.foldl_cons, digitsValue]

theorem digitValue_gap : digitValue '_' = none := rfl

theorem Base.not_isDigit_gap (b : Base) : ¬ b.isDigit '_' := by
  unfold isDigit
  rw [digitValue_gap]
  exact Bool.false_ne_true

/-- The digits of an integer end here. -/
structure EndsDigits (b : Base) (rest : List Char) : Prop where
  apart : ∀ c, rest.head? = some c → ¬ b.isDigit c ∧ c ≠ '_'
  no_exponent : b = .decimal → beginsExponent rest = false

theorem endsDigits_nil (b : Base) : EndsDigits b [] where
  apart := nofun
  no_exponent _ := rfl

theorem isWord_cons {c : Char} {cs : List Char} :
    Literal.isWord (c :: cs) ↔ Ident.isStart c ∧ ∀ d ∈ cs, Ident.isContinue d := by
  rw [Literal.isWord, plainWord]
  split
  · rename_i hc
    rw [beq_iff_eq, Option.some_inj, List.length_cons, Nat.add_right_cancel_iff, and_iff_right hc,
      ← List.takeWhile_eq_self_iff]
    exact ⟨(List.takeWhile_prefix _).eq_of_length, congrArg List.length⟩
  · rename_i hc
    constructor
    · intro h
      cases h
    · exact fun h => absurd h.1 hc

/-- A word begins with no digit. -/
theorem not_isAsciiDigit_of_isStart {c : Char} (h : Ident.isStart c) :
    isAsciiDigit c = false := by
  have h0 : ('0' : Char).toNat = 48 := rfl
  have h9 : ('9' : Char).toNat = 57 := rfl
  have ha : ('a' : Char).toNat = 97 := rfl
  have hA : ('A' : Char).toNat = 65 := rfl
  rw [← Bool.not_eq_true]
  intro hdigit
  simp only [isAsciiDigit, Bool.and_eq_true, decide_eq_true_eq, char_le_iff] at hdigit
  rw [Ident.isStart, if_pos (by omega : c.toNat < 0x80), Bool.or_eq_true, beq_iff_eq] at h
  obtain h | rfl := h
  · simp only [isAsciiLetter, Bool.and_eq_true, Bool.or_eq_true, decide_eq_true_eq,
      char_le_iff] at h
    omega
  · exact absurd hdigit (by decide)

/-- An `e` marks an exponent iff one begins there or a sign follows. -/
theorem isExponent_iff {c : Char} {cs : List Char} (hmark : (c == 'e' || c == 'E') = true) :
    Literal.isExponent cs ↔ beginsExponent (c :: cs) ∨
      ∃ sign, (cs.dropWhile isDigitOrGap).head? = some sign ∧ (sign = '+' ∨ sign = '-') := by
  rw [beginsExponent, hmark, Bool.true_and, Literal.isExponent]
  cases hbehind : cs.dropWhile isDigitOrGap with
  | nil =>
    have hall : cs.takeWhile isDigitOrGap = cs := by
      simpa [hbehind] using List.takeWhile_append_dropWhile (p := isDigitOrGap) (l := cs)
    simp [hall]
  | cons n ns => simp [or_comm]

/-- No sign stands in a word. -/
theorem beginsExponent_of_isContinue {c : Char} {cs : List Char}
    (hmark : (c == 'e' || c == 'E') = true) (h : ∀ d ∈ cs, Ident.isContinue d)
    (hexponent : Literal.isExponent cs) : beginsExponent (c :: cs) = true := by
  refine ((isExponent_iff hmark).mp hexponent).resolve_right ?_
  rintro ⟨sign, hhead, hsign⟩
  have hcontinue := h sign ((List.dropWhile_sublist _).subset (List.mem_of_mem_head? hhead))
  rcases hsign with rfl | rfl <;> cases hcontinue

section Step

variable {b : Base} {c : Char} {value : Nat} {found : Bool}

theorem integerValue_gap (cs : List Char) :
    Literal.integerValue b.radix value found ('_' :: cs) =
      Literal.integerValue b.radix value found cs := rfl

/-- A digit belongs to the number. -/
theorem integerValue_digit {d : Nat} (hd : digitValue c = some d) (hlt : d < b.radix)
    (cs : List Char) :
    Literal.integerValue b.radix value found (c :: cs) =
      Literal.integerValue b.radix (value * b.radix + d) true cs := by
  have hgap : c ≠ '_' := by
    rintro rfl
    cases hd
  have hpoint : c ≠ '.' := by
    rintro rfl
    cases hd
  -- `e` is a digit in the largest base only
  have hexponent : (b.radix == 10 && (c == 'e' || c == 'E')) = false := by
    rw [Bool.and_eq_false_imp, beq_iff_eq]
    intro hb
    rw [Bool.or_eq_false_iff, beq_eq_false_iff_ne, beq_eq_false_iff_ne]
    constructor <;>
    · rintro rfl
      cases hd
      omega
  rw [Literal.integerValue, if_neg (by simpa using hgap), if_neg (by simp [hpoint]), hexponent,
    if_neg Bool.false_ne_true]
  simp only [hd, hlt, if_true]

/-- Anything else ends the number, if there is one. -/
theorem integerValue_other (hdigit : ¬ b.isDigit c) (hgap : c ≠ '_') {cs : List Char}
    {r : Nat × List Char} (h : Literal.integerValue b.radix value found (c :: cs) = some r) :
    found = true ∧ r = (value, c :: cs) ∧ (b = .decimal → beginsExponent (c :: cs) = false) := by
  rw [Literal.integerValue, if_neg (by simpa using hgap)] at h
  split at h
  · cases h
  split at h
  · rename_i hmark
    rw [Bool.and_eq_true] at hmark
    split at h
    · cases h
    rename_i hnone
    split at h
    · rename_i hfound
      refine ⟨hfound, (Option.some.inj h).symm, fun _ => Bool.eq_false_iff.mpr fun hexponent => ?_⟩
      exact hnone ((isExponent_iff hmark.2).mpr (.inl hexponent))
    · cases h
  rename_i hmark
  have hexponent : b = .decimal → beginsExponent (c :: cs) = false := by
    rintro rfl
    have he : (c == 'e' || c == 'E') = false := by simpa [Base.radix] using hmark
    rw [beginsExponent, he, Bool.false_and]
  split at h
  · rename_i d hd
    have hlarge : ¬ d < b.radix := fun hlt => hdigit (Base.isDigit_iff.mpr ⟨d, hd, hlt⟩)
    rw [if_neg hlarge] at h
    split at h
    · rename_i hfound
      rw [Bool.and_eq_true] at hfound
      exact ⟨hfound.2, (Option.some.inj h).symm, hexponent⟩
    · cases h
  · split at h
    · rename_i hfound
      exact ⟨hfound, (Option.some.inj h).symm, hexponent⟩
    · cases h

/-- A word behind the digits ends the number. -/
theorem integerValue_word (hdigit : ¬ b.isDigit c) (hgap : c ≠ '_') {cs : List Char}
    (hword : Literal.isWord (c :: cs))
    (hexponent : b = .decimal → beginsExponent (c :: cs) = false) :
    Literal.integerValue b.radix value true (c :: cs) = some (value, c :: cs) := by
  obtain ⟨hstart, hcontinue⟩ := isWord_cons.mp hword
  have hascii := not_isAsciiDigit_of_isStart hstart
  have hpoint : c ≠ '.' := by
    rintro rfl
    cases hstart
  rw [Literal.integerValue, if_neg (by simpa using hgap), if_neg (by simp [hpoint])]
  split
  · rename_i he
    rw [Bool.and_eq_true, beq_iff_eq] at he
    have hb : b = .decimal := by
      cases b
      case decimal => rfl
      all_goals exact absurd he.1 (by decide)
    have hnone : ¬ Literal.isExponent cs := fun h =>
      Bool.eq_false_iff.mp (hexponent hb) (beginsExponent_of_isContinue he.2 hcontinue h)
    rw [if_neg hnone, if_pos rfl]
  · split
    · rename_i d hd
      have hlarge : ¬ d < b.radix := fun hlt => hdigit (Base.isDigit_iff.mpr ⟨d, hd, hlt⟩)
      rw [if_neg hlarge, hascii]
      rfl
    · rfl

end Step

/-- Digits with underscores are read to their end. -/
theorem integerValue_append {b : Base} {ds rest : List Char}
    (hds : ∀ c ∈ ds, b.isDigit c ∨ c = '_') (hends : EndsDigits b rest)
    (hword : rest = [] ∨ Literal.isWord rest) {value : Nat} {found : Bool}
    (hfound : found = true ∨ ∃ c ∈ ds, b.isDigit c) :
    Literal.integerValue b.radix value found (ds ++ rest) =
      some (digitsValue b.radix value ds, rest) := by
  induction ds generalizing value found with
  | nil =>
    obtain rfl := hfound.resolve_right (by simp)
    cases rest with
    | nil => rfl
    | cons c rest =>
      obtain ⟨hdigit, hgap⟩ := hends.apart c rfl
      exact integerValue_word hdigit hgap (hword.resolve_left (List.cons_ne_nil c rest))
        hends.no_exponent
  | cons c ds ih =>
    obtain ⟨hc, hbehind⟩ := List.forall_mem_cons.mp hds
    by_cases hgap : c = '_'
    · subst hgap
      have hdigit : found = true ∨ ∃ c ∈ ds, b.isDigit c := by
        simpa [b.not_isDigit_gap] using hfound
      rw [List.cons_append, integerValue_gap, ih hbehind hdigit, digitsValue_gap]
    · obtain ⟨d, hd, hlt⟩ := Base.isDigit_iff.mp (hc.resolve_right hgap)
      rw [List.cons_append, integerValue_digit hd hlt, ih hbehind (.inl rfl), digitsValue_digit hd]

/-- What is read are digits with underscores, to their end. -/
theorem integerValue_eq_some {b : Base} {cs rest : List Char} {value n : Nat} {found : Bool}
    (h : Literal.integerValue b.radix value found cs = some (n, rest)) :
    ∃ ds, cs = ds ++ rest ∧ (∀ c ∈ ds, b.isDigit c ∨ c = '_') ∧ EndsDigits b rest ∧
      (found = true ∨ ∃ c ∈ ds, b.isDigit c) ∧ n = digitsValue b.radix value ds := by
  induction cs generalizing value found with
  | nil =>
    rw [Literal.integerValue] at h
    split at h
    · rename_i hfound
      cases h
      exact ⟨[], rfl, List.forall_mem_nil _, endsDigits_nil b, .inl hfound, rfl⟩
    · cases h
  | cons c cs ih =>
    by_cases hgap : c = '_'
    · subst hgap
      rw [integerValue_gap] at h
      obtain ⟨ds, rfl, hds, hends, hfound, rfl⟩ := ih h
      refine ⟨'_' :: ds, rfl, List.forall_mem_cons.mpr ⟨.inr rfl, hds⟩, hends, ?_, rfl⟩
      exact hfound.imp_right (.imp fun _ => .imp_left (List.mem_cons_of_mem '_'))
    by_cases hdigit : b.isDigit c = true
    · obtain ⟨d, hd, hlt⟩ := Base.isDigit_iff.mp hdigit
      rw [integerValue_digit hd hlt] at h
      obtain ⟨ds, rfl, hds, hends, -, rfl⟩ := ih h
      exact ⟨c :: ds, rfl, List.forall_mem_cons.mpr ⟨.inl hdigit, hds⟩, hends,
        .inr ⟨c, List.mem_cons_self, hdigit⟩, (digitsValue_digit hd _ _ _).symm⟩
    · obtain ⟨hfound, heq, hexponent⟩ := integerValue_other hdigit hgap h
      cases heq
      refine ⟨[], rfl, List.forall_mem_nil _, ⟨fun c' hc' => ?_, hexponent⟩, .inl hfound, rfl⟩
      cases hc'
      exact ⟨hdigit, hgap⟩

/-! ## Literals -/

/-- The base of a number is told by its beginning. -/
theorem exists_numberBase (cs : List Char) :
    ∃ (b : Base) (rest : List Char), numberBase cs = (b.radix, b.lead.length) ∧
      cs = b.lead ++ rest ∧ (b = .decimal → ∀ b' : Base, b' ≠ .decimal → ¬ b'.lead <+: cs) := by
  unfold numberBase
  split
  · exact ⟨.hexadecimal, _, rfl, rfl, nofun⟩
  · exact ⟨.octal, _, rfl, rfl, nofun⟩
  · exact ⟨.binary, _, rfl, rfl, nofun⟩
  · rename_i hx ho hb
    refine ⟨.decimal, cs, rfl, rfl, fun _ b' hb' hlead => ?_⟩
    obtain ⟨rest, rfl⟩ := hlead
    cases b' with
    | binary => exact hb _ rfl
    | octal => exact ho _ rfl
    | decimal => exact hb' rfl
    | hexadecimal => exact hx _ rfl

namespace WrittenInteger

theorem numberBase_written (i : WrittenInteger) :
    numberBase (i.base.lead ++ (i.digits ++ i.suffix)) = (i.base.radix, i.base.lead.length) := by
  cases hbase : i.base with
  | decimal =>
    have hdecimal := i.decimal hbase
    obtain ⟨b, rest, hnumber, hcs, hplain⟩ := exists_numberBase (i.digits ++ i.suffix)
    by_cases hb : b = .decimal
    · subst hb
      exact hnumber
    · exact absurd ⟨rest, hcs.symm⟩ (hdecimal.no_lead b hb)
  | _ => rfl

theorem endsDigits_suffix (i : WrittenInteger) : EndsDigits i.base i.suffix :=
  ⟨i.suffix_apart, fun h => (i.decimal h).no_exponent⟩

theorem integer?_written (i : WrittenInteger) :
    Literal.integer? i.written.toList = some (i.value, i.suffix) := by
  have hvalue : Literal.integerValue i.base.radix 0 false (i.digits ++ i.suffix) =
      some (digitsValue i.base.radix 0 i.digits, i.suffix) :=
    integerValue_append i.digit_or_gap i.endsDigits_suffix i.suffix_word (.inr i.some_digit)
  have hword : (i.suffix.isEmpty || Literal.isWord i.suffix) = true := by
    rw [Bool.or_eq_true, List.isEmpty_iff]
    exact i.suffix_word
  rw [Literal.integer?, written, String.toList_ofList, i.numberBase_written]
  dsimp only
  rw [List.drop_left, hvalue, digitsValue_zero]
  exact if_pos hword

/-- A literal begins with a digit. -/
theorem exists_written_eq_cons (i : WrittenInteger) :
    ∃ c cs, i.written.toList = c :: cs ∧ isAsciiDigit c := by
  have hcons (cs : List Char) : ∃ c cs', '0' :: cs = c :: cs' ∧ isAsciiDigit c :=
    ⟨'0', cs, rfl, rfl⟩
  rw [written, String.toList_ofList]
  cases hbase : i.base with
  | decimal =>
    obtain ⟨d, hd, hdigit⟩ := i.some_digit
    obtain ⟨c, cs, hcs⟩ := List.exists_cons_of_ne_nil (List.ne_nil_of_mem hd)
    have hgap : c ≠ '_' := fun h => (i.decimal hbase).digit_first (by rw [hcs, h]; rfl)
    have hc := (i.digit_or_gap c (hcs ▸ List.mem_cons_self)).resolve_right hgap
    refine ⟨c, cs ++ i.suffix, by rw [hcs]; rfl, ?_⟩
    rw [hbase] at hc
    obtain ⟨n, hn, hlt⟩ := Base.isDigit_iff.mp hc
    rw [← Bool.not_eq_false]
    intro hnot
    exact digitValue_of_not_isAsciiDigit hnot hn hlt
  | _ => exact hcons _

end WrittenInteger

theorem text?_of_isAsciiDigit {c : Char} (h : isAsciiDigit c) (cs : List Char) :
    Literal.text? (c :: cs) = none := by
  unfold Literal.text?
  split
  · rename_i heq
    cases heq
    cases h
  · rename_i heq
    cases heq
    cases h
  · rfl

/-- The digits that were read are those of an integer literal. -/
theorem integer?_eq_some {c : Char} {cs suffix : List Char} {n : Nat} (hc : isAsciiDigit c)
    (h : Literal.integer? (c :: cs) = some (n, suffix)) :
    ∃ i : WrittenInteger, i.written.toList = c :: cs ∧ i.value = n ∧ i.suffix = suffix := by
  obtain ⟨b, rest, hbase, hcs, hplain⟩ := exists_numberBase (c :: cs)
  rw [Literal.integer?, hbase] at h
  dsimp only at h
  rw [hcs, List.drop_left] at h
  obtain ⟨⟨n', suffix'⟩, hvalue, hword⟩ := Option.bind_eq_some_iff.mp h
  dsimp only at hword
  split at hword
  · rename_i hsuffix
    cases hword
    rw [Bool.or_eq_true, List.isEmpty_iff] at hsuffix
    obtain ⟨ds, rfl, hds, hends, hdigit, rfl⟩ := integerValue_eq_some hvalue
    replace hdigit := hdigit.resolve_left Bool.false_ne_true
    refine ⟨⟨b, ds, suffix, hds, hdigit, hsuffix, hends.apart, ?_⟩, ?_, ?_, rfl⟩
    · rintro rfl
      refine ⟨?_, fun b' hb' => hcs ▸ hplain rfl b' hb', hends.no_exponent rfl⟩
      intro hgap
      obtain ⟨ds, rfl⟩ := List.head?_eq_some_iff.mp hgap
      cases hcs
      cases hc
    · rw [WrittenInteger.written, String.toList_ofList]
      exact hcs.symm
    · exact (digitsValue_zero _ _).symm
  · cases hword

/-- A literal means an integer iff it is written as one of that value. -/
theorem ofWritten_eq_integer {w : String} {n : Nat} {suffix : String} :
    Literal.ofWritten w = .integer n suffix ↔
      ∃ i : WrittenInteger, i.written = w ∧ i.value = n ∧ String.ofList i.suffix = suffix := by
  constructor
  · intro h
    rw [Literal.ofWritten] at h
    split at h
    · cases h
    split at h
    · cases h
    rename_i c cs hw
    split at h
    · rename_i hc
      split at h
      · rename_i value digits hinteger
        cases h
        rw [hw] at hinteger
        obtain ⟨i, hi, rfl, rfl⟩ := integer?_eq_some hc hinteger
        exact ⟨i, String.toList_injective (hi.trans hw.symm), rfl, rfl⟩
      · cases h
    · cases h
  · rintro ⟨i, rfl, rfl, rfl⟩
    obtain ⟨c, cs, hw, hc⟩ := i.exists_written_eq_cons
    have hinteger := i.integer?_written
    rw [Literal.ofWritten]
    rw [hw] at hinteger ⊢
    simp only [text?_of_isAsciiDigit hc, hc, if_true, hinteger]

-- U+0301 can only continue a word: the `e` with the digit behind it is no exponent, but the suffix.
example : Literal.ofWritten "1e5\u0301" = .integer 1 "e5\u0301" := by decide +kernel

end ReceiverLoader.Token
