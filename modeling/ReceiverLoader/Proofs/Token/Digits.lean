import ReceiverLoader.Proofs.Token.Words
import ReceiverLoader.Token.Literal

/-!
# Written digits

The digits of a number in a base up to sixteen are read back as that number.

* `valueOf_toDigits`: the value of the digits of a number.
* `bracedChar_hexDigits`: the code point of a character in braces.
* `number_digits`, `ofWritten_digits`, `ofWritten_toDigits`: a decimal number as a literal.
-/

namespace ReceiverLoader.Token

/-! ## Digits in any base -/

/-- The members of `ds` are digits in base `base`. -/
def AreDigits (base : Nat) (ds : List Char) : Prop := ∀ c ∈ ds, ∃ d, d < base ∧ c = Nat.digitChar d

/-- The number that digits continue, from `value` on. -/
def valueOf (base value : Nat) (ds : List Char) : Nat :=
  ds.foldl (fun value c => value * base + (digitValue c).getD 0) value

theorem digitValue_digitChar {d : Nat} (h : d < 16) : digitValue d.digitChar = some d := by
  have hall : ∀ d : Fin 16, digitValue (Nat.digitChar d.val) = some d.val := by decide
  exact hall ⟨d, h⟩

theorem areDigits_toDigits {base : Nat} (h : 1 < base) (n : Nat) :
    AreDigits base (Nat.toDigits base n) := by
  induction n using Nat.strongRecOn with
  | ind n ih =>
    intro c hc
    rw [Nat.toDigits_eq_if h] at hc
    split at hc
    · rename_i hn
      exact ⟨n, hn, List.mem_singleton.mp hc⟩
    · rename_i hn
      rcases List.mem_append.mp hc with hc | hc
      · exact ih (n / base) (Nat.div_lt_self (by omega) h) c hc
      · exact ⟨n % base, Nat.mod_lt n (by omega), List.mem_singleton.mp hc⟩

theorem valueOf_toDigits {base : Nat} (h : 1 < base) (hle : base ≤ 16) (n : Nat) :
    valueOf base 0 (Nat.toDigits base n) = n := by
  induction n using Nat.strongRecOn with
  | ind n ih =>
    rw [Nat.toDigits_eq_if h]
    split
    · rename_i hn
      simp [valueOf, digitValue_digitChar (show n < 16 by omega)]
    · have hdigit : n % base < base := Nat.mod_lt n (by omega)
      have hlast := digitValue_digitChar (show n % base < 16 by omega)
      have hfront := ih (n / base) (Nat.div_lt_self (by omega) h)
      rw [valueOf] at hfront ⊢
      rw [List.foldl_append, hfront, List.foldl_cons, List.foldl_nil, hlast, Option.getD_some]
      exact Nat.div_add_mod' n base

theorem onOneLine_digits {base : Nat} {ds : List Char} (h : AreDigits base ds) (hle : base ≤ 16) :
    Text.OnOneLine ds := by
  intro c hc
  obtain ⟨d, hd, rfl⟩ := h c hc
  have hall : ∀ d : Fin 16, Nat.digitChar d.val ≠ '\n' ∧ Nat.digitChar d.val ≠ '\r' := by decide
  exact hall ⟨d, by omega⟩

/-! ## Code points in braces -/

theorem bracedDigits_digits {ds : List Char} (hds : AreDigits 16 ds) (rest : List Char)
    {value count : Nat} (hle : count + ds.length ≤ 6) (hpos : 0 < count + ds.length) :
    bracedDigits value count (ds ++ '\x7d' :: rest) =
      some (valueOf 16 value ds, ds.length + 1) := by
  induction ds generalizing value count with
  | nil =>
    have hcount : 0 < count := hpos
    simp [bracedDigits, hcount, valueOf]
  | cons c ds ih =>
    obtain ⟨⟨d, hd, rfl⟩, hrest⟩ := List.forall_mem_cons.mp hds
    have hvalue := digitValue_digitChar hd
    have hgap : (d.digitChar == '_') = false := by
      rw [beq_eq_false_iff_ne]
      rintro h
      rw [h] at hvalue
      cases hvalue
    have hclose : (d.digitChar == '\x7d') = false := by
      rw [beq_eq_false_iff_ne]
      rintro h
      rw [h] at hvalue
      cases hvalue
    rw [List.length_cons] at hle
    have hcount : count < 6 := by omega
    rw [List.cons_append, bracedDigits]
    simp only [hgap, hclose, Bool.false_and, Bool.false_eq_true, if_false, hvalue, hcount, if_true]
    rw [ih hrest (by omega) (by omega)]
    simp [valueOf, hvalue]

theorem charOf?_toNat (c : Char) : charOf? c.toNat = some c := by
  have hvalid : c.toNat < 0xd800 ∨ 0xdfff < c.toNat ∧ c.toNat < 0x110000 := c.valid
  rw [charOf?, if_pos hvalid, Char.ofNat_toNat]

/-- A character in braces is read back. -/
theorem bracedChar_hexDigits (c : Char) (rest : List Char) :
    bracedChar ('\x7b' :: (Nat.toDigits 16 c.toNat ++ '\x7d' :: rest)) =
      some (c, (Nat.toDigits 16 c.toNat).length + 2) := by
  have hlt : c.toNat < 16 ^ 6 := by
    have hvalid : c.toNat < 0xd800 ∨ 0xdfff < c.toNat ∧ c.toNat < 0x110000 := c.valid
    omega
  have hlength : (Nat.toDigits 16 c.toNat).length ≤ 6 :=
    (Nat.length_toDigits_le_iff (by omega) (by omega)).mpr hlt
  have hpos : 0 < (Nat.toDigits 16 c.toNat).length := Nat.length_toDigits_pos
  rw [bracedChar, bracedDigits_digits (areDigits_toDigits (by omega) _) rest (by omega) (by omega),
    valueOf_toDigits (by omega) (by omega)]
  simp [charOf?_toNat]

/-! ## Decimal numbers -/

theorem isContinue_of_digitValue {c : Char} {d : Nat} (h : digitValue c = some d) :
    Text.Ident.isContinue c := by
  have h0 : ('0' : Char).toNat = 48 := rfl
  have h9 : ('9' : Char).toNat = 57 := rfl
  have ha : ('a' : Char).toNat = 97 := rfl
  have hf : ('f' : Char).toNat = 102 := rfl
  have hz : ('z' : Char).toNat = 122 := rfl
  have hA : ('A' : Char).toNat = 65 := rfl
  have hF : ('F' : Char).toNat = 70 := rfl
  have hZ : ('Z' : Char).toNat = 90 := rfl
  have hascii : c.toNat < 0x80 ∧ (Text.isAsciiLetter c ∨ Text.isAsciiDigit c) := by
    simp only [digitValue, Text.isAsciiLetter, Text.isAsciiDigit, Bool.and_eq_true, Bool.or_eq_true,
      decide_eq_true_eq, char_le_iff] at h ⊢
    split at h
    · omega
    · split at h
      · omega
      · split at h
        · omega
        · cases h
  simp [Text.Ident.isContinue, hascii.1, hascii.2]

theorem digitValue_of_not_isAsciiDigit {c : Char} {d : Nat} (h : Text.isAsciiDigit c = false)
    (hd : digitValue c = some d) : ¬ d < 10 := by
  have hdigit : ('0' ≤ c && c ≤ '9') = false := h
  simp only [digitValue, hdigit, Bool.false_eq_true, if_false] at hd
  split at hd
  · cases hd
    omega
  · split at hd
    · cases hd
      omega
    · cases hd

/-- What is known of a decimal digit. -/
theorem decimal_digitChar {d : Nat} (h : d < 10) :
    digitValue d.digitChar = some d ∧ Text.isAsciiDigit d.digitChar ∧
      d.digitChar ∉ ['_', '.', 'e', 'E', 'x', 'o', 'b', '"', 'r'] := by
  have hall : ∀ d : Fin 10, digitValue (Nat.digitChar d.val) = some d.val ∧
      Text.isAsciiDigit (Nat.digitChar d.val) ∧
        Nat.digitChar d.val ∉ ['_', '.', 'e', 'E', 'x', 'o', 'b', '"', 'r'] := by decide
  exact hall ⟨d, h⟩

theorem digitValue_of_not_isContinue {c : Char} (h : Text.Ident.isContinue c = false) :
    digitValue c = none := by
  cases hd : digitValue c with
  | none => rfl
  | some d =>
    rw [isContinue_of_digitValue hd] at h
    cases h

theorem integerDigits_digits {ds rest : List Char} (hds : AreDigits 10 ds) (hrest : EndsWord rest)
    {found : Bool} (hfound : found = true ∨ ds ≠ []) :
    integerDigits 10 found (ds ++ rest) = some ds.length := by
  induction ds generalizing found with
  | nil =>
    have hfound : found = true := hfound.resolve_right fun h => h rfl
    cases rest with
    | nil => simp [integerDigits, hfound]
    | cons c rest =>
      have hc := hrest c rfl
      have hgap : (c == '_') = false := by
        rw [beq_eq_false_iff_ne]
        rintro rfl
        cases hc
      simp [integerDigits, hgap, digitValue_of_not_isContinue hc, hfound]
  | cons c ds ih =>
    obtain ⟨⟨d, hd, rfl⟩, hbehind⟩ := List.forall_mem_cons.mp hds
    obtain ⟨hvalue, -, hne⟩ := decimal_digitChar hd
    have hgap : (d.digitChar == '_') = false := by
      rw [beq_eq_false_iff_ne]
      exact fun h => hne (by simp [h])
    rw [List.cons_append, integerDigits]
    simp only [hgap, Bool.false_eq_true, if_false, hvalue, hd, if_true]
    rw [ih hbehind (Or.inl rfl)]
    simp

theorem numberBase_of_second {c : Char} {cs : List Char}
    (h : ∀ s, cs.head? = some s → s ∉ ['x', 'o', 'b']) : numberBase (c :: cs) = (10, 0) := by
  unfold numberBase
  split
  · exact absurd (by simp) (h 'x' (by simp_all))
  · exact absurd (by simp) (h 'o' (by simp_all))
  · exact absurd (by simp) (h 'b' (by simp_all))
  · rfl

theorem numberBase_digits {ds rest : List Char} (hds : AreDigits 10 ds) (hne : ds ≠ [])
    (hrest : EndsWord rest) : numberBase (ds ++ rest) = (10, 0) := by
  obtain ⟨first, ds, rfl⟩ := List.exists_cons_of_ne_nil hne
  refine numberBase_of_second fun s hs hmem => ?_
  cases ds with
  | nil =>
    have hcontinue := hrest s hs
    revert hcontinue
    simp only [List.mem_cons, List.not_mem_nil, or_false] at hmem
    rcases hmem with rfl | rfl | rfl <;> decide
  | cons second ds =>
    cases hs
    obtain ⟨d, hd, rfl⟩ := hds s (by simp)
    obtain ⟨-, -, hnot⟩ := decimal_digitChar hd
    have hsub : ['x', 'o', 'b'] ⊆ ['_', '.', 'e', 'E', 'x', 'o', 'b', '"', 'r'] := by simp
    exact hnot (hsub hmem)

theorem isDigitOrGap_of_not_isContinue {c : Char} (h : Text.Ident.isContinue c = false) :
    isDigitOrGap c = false := by
  rw [isDigitOrGap, Bool.or_eq_false_iff]
  constructor
  · cases hd : Text.isAsciiDigit c with
    | false => rfl
    | true =>
      rw [isContinue_of_isAsciiDigit hd] at h
      cases h
  · rw [beq_eq_false_iff_ne]
    rintro rfl
    cases h

theorem fractionDigits_digits {ds rest : List Char} (hds : AreDigits 10 ds) (hne : ds ≠ [])
    (hrest : EndsWord rest) (hpoint : rest.head? ≠ some '.') :
    fractionDigits (ds ++ rest) = none := by
  have hwhole : ((ds ++ rest).takeWhile isDigitOrGap) = ds := by
    refine takeWhile_append_stop (fun c hc => ?_) fun c hc =>
      isDigitOrGap_of_not_isContinue (hrest c hc)
    obtain ⟨d, hd, rfl⟩ := hds c hc
    simp [isDigitOrGap, (decimal_digitChar hd).2.1]
  have hexponent : isExponentMark rest = false := by
    unfold isExponentMark
    split
    · cases hrest 'e' rfl
    · cases hrest 'E' rfl
    · rfl
  obtain ⟨first, behind, rfl⟩ := List.exists_cons_of_ne_nil hne
  obtain ⟨d, hd, hfirst⟩ := hds first List.mem_cons_self
  have hdigit : Text.isAsciiDigit first := hfirst ▸ (decimal_digitChar hd).2.1
  unfold fractionDigits
  simp only [List.cons_append] at hwhole ⊢
  simp only [hdigit, Bool.not_true, Bool.false_eq_true, if_false, hwhole]
  have hdrop : (first :: (behind ++ rest)).drop (first :: behind).length = rest :=
    @List.drop_left _ (first :: behind) rest
  rw [hdrop]
  split
  · exact absurd rfl hpoint
  · simp [hexponent]

/-- Decimal digits that no word and no point follow are a number, and nothing more. -/
theorem number_digits {ds rest : List Char} (hds : AreDigits 10 ds) (hne : ds ≠ [])
    (hrest : EndsWord rest) (hpoint : rest.head? ≠ some '.') :
    number (ds ++ rest) = some ds.length := by
  rw [number, fraction, fractionDigits_digits hds hne hrest hpoint, integer,
    numberBase_digits hds hne hrest]
  simp [integerDigits_digits hds hrest (Or.inr hne), numberSuffix_of_endsWord hrest]

theorem integerValue_digits {ds : List Char} (hds : AreDigits 10 ds) {value : Nat} {found : Bool}
    (hfound : found = true ∨ ds ≠ []) :
    Literal.integerValue 10 value found ds = some (valueOf 10 value ds, []) := by
  induction ds generalizing value found with
  | nil =>
    have hfound : found = true := hfound.resolve_right fun h => h rfl
    simp [Literal.integerValue, hfound, valueOf]
  | cons c ds ih =>
    obtain ⟨⟨d, hd, rfl⟩, hbehind⟩ := List.forall_mem_cons.mp hds
    obtain ⟨hvalue, -, hnot⟩ := decimal_digitChar hd
    simp only [List.mem_cons, not_or] at hnot
    rw [Literal.integerValue]
    simp only [hnot, beq_iff_eq, if_false, hvalue, hd, if_true, Bool.and_eq_true, Bool.or_eq_true,
      or_self, and_false]
    rw [ih hbehind (Or.inl rfl)]
    simp [valueOf, hvalue]

/-- Decimal digits mean the number that they spell. -/
theorem ofWritten_digits {ds : List Char} (hds : AreDigits 10 ds) (hne : ds ≠ []) :
    Literal.ofWritten (String.ofList ds) = .integer (valueOf 10 0 ds) "" := by
  have hbase : numberBase ds = (10, 0) := by
    have h := @numberBase_digits ds [] hds hne nofun
    rwa [List.append_nil] at h
  have hinteger : Literal.integer? ds = some (valueOf 10 0 ds, []) := by
    simp [Literal.integer?, hbase, integerValue_digits hds (Or.inr hne)]
  obtain ⟨first, behind, rfl⟩ := List.exists_cons_of_ne_nil hne
  obtain ⟨d, hd, rfl⟩ := hds first List.mem_cons_self
  obtain ⟨-, hdigit, hnot⟩ := decimal_digitChar hd
  have htext : Literal.text? (d.digitChar :: behind) = none := by
    unfold Literal.text?
    split
    · rename_i h
      exact absurd (by simp [(List.cons.inj h).1]) hnot
    · rename_i h
      exact absurd (by simp [(List.cons.inj h).1]) hnot
    · rfl
  rw [Literal.ofWritten]
  simp only [String.toList_ofList, htext, hdigit, if_true, hinteger]

/-- The decimal digits of a number mean that number. -/
theorem ofWritten_toDigits (n : Nat) :
    Literal.ofWritten (String.ofList (Nat.toDigits 10 n)) = .integer n "" := by
  rw [ofWritten_digits (areDigits_toDigits (by omega) n) Nat.toDigits_ne_nil,
    valueOf_toDigits (by omega) (by omega)]

end ReceiverLoader.Token
