import ReceiverLoader.Proofs.Grammar.SignedIntegers
import ReceiverLoader.Proofs.Marker.Settling

/-!
# The range of integer arguments

A priority and a flag are integers of 32 bits. A literal is accepted up to the greatest of them and
behind a minus down to the least, which is one further from zero; what is accepted is read as it is
written. All other expressions are refused.

* `Accepts`, `Refuses`: what a list of arguments is read as that has a value in it.
* `accepts_of_integer?`, `refuses_of_integer?`: a value is accepted iff it is an integer of 32 bits.
* `readsIntegers`: which literals are, and why all else is refused.
-/

namespace ReceiverLoader.Marker

open Grammar (IsAttribute IsExpression IsInteger SignedLiteral WrittenAttribute literalTrees
  negatedTrees)
open Token (Position Tree WrittenInteger)

/-- The integer that has been read for a field. -/
def Arguments.integer? (arguments : Arguments) : Field → Option Int32
  | .group => none
  | .priority => some arguments.priority
  | .flag => some arguments.flag

/-- In each list of arguments whose others are acceptable, the field may have the value, and it is
read as `n`. -/
def Accepts (f : Field) (value : List Tree) (n : Int) : Prop :=
  ∀ (before after : List WrittenArgument) (a : WrittenArgument) (ts : List Tree),
    IsList (before ++ a :: after) ts → a.Names f → a.value = value →
      Acceptable (before ++ after) → (∀ b ∈ before ++ after, IsExpression b.value ∧ ¬ b.Names f) →
        ∃ arguments, Arguments.ofTrees ts = .ok arguments ∧
          (arguments.integer? f).map Int32.toInt = some n

/-- In each list of arguments whose others are acceptable up to it, the value is refused for the
field with this message, whatever stands behind it. -/
def Refuses (f : Field) (value : List Tree) (message : String) : Prop :=
  ∀ (before after : List WrittenArgument) (a : WrittenArgument) (ts : List Tree),
    IsList (before ++ a :: after) ts → a.Names f → a.value = value →
      Acceptable before → (∀ b ∈ before, ¬ b.Names f) →
        (∀ b ∈ before ++ after, IsExpression b.value) →
          ∃ e, Arguments.ofTrees ts = .error e ∧ e.message = message

/-- The integers of 32 bits lie between the least and the greatest of them. -/
theorem int32?_eq_none {n : Int} :
    int32? n = none ↔ ¬ (-2147483648 ≤ n ∧ n ≤ 2147483647) := by
  have hmin : Int32.minValue.toInt = -2147483648 := rfl
  have hmax : Int32.maxValue.toInt = 2147483647 := rfl
  unfold int32?
  rw [hmin, hmax]
  split <;> simp_all

section Integers

variable {f : Field} (hf : f = .priority ∨ f = .flag) {value : List Tree}
include hf

theorem isSome_value? (a : WrittenArgument) :
    (a.value? f).isSome = (integer? a.value).isSome := by
  obtain rfl | rfl := hf <;> rfl

theorem valueError_eq (a : WrittenArgument) : a.valueError f = integerError a.value := by
  obtain rfl | rfl := hf <;> rfl

theorem Carries.integer? {arguments : Arguments} {as : List WrittenArgument}
    (h : Carries arguments as) {a : WrittenArgument} (ha : a ∈ as) (hname : a.Names f) :
    integer? a.value = arguments.integer? f := by
  obtain rfl | rfl := hf <;> exact h.given a ha _ hname

/-- An integer of 32 bits is accepted. -/
theorem accepts_of_integer? {n : Int32} (hvalue : IsExpression value)
    (h : integer? value = some n) : Accepts f value n.toInt := by
  rintro before after a ts hlist hname rfl hothers hrest
  have hperm : (before ++ after ++ [a]).Perm (before ++ a :: after) := by
    rw [List.append_assoc]
    exact List.perm_append_comm.append_left before
  have hsome : (a.value? f).isSome := by rw [isSome_value? hf, h]; rfl
  have hacceptable : Acceptable (before ++ a :: after) :=
    (acceptable_append_singleton.mpr
      ⟨hothers, f, hname, hsome, fun b hb => (hrest b hb).2⟩).perm hperm
  have hvalues : ∀ b ∈ before ++ a :: after, IsExpression b.value := by
    intro b hb
    obtain hb | hb := List.mem_append.mp (hperm.mem_iff.mpr hb)
    · exact (hrest b hb).1
    · obtain rfl := List.mem_singleton.mp hb
      exact hvalue
  obtain ⟨arguments, hread, hcarries⟩ := ofTrees_of_acceptable hlist hvalues hacceptable
  refine ⟨arguments, hread, ?_⟩
  rw [← hcarries.integer? hf (by simp) hname, h]
  rfl

/-- No other value is accepted. -/
theorem refuses_of_integer? (hvalue : IsExpression value) (h : integer? value = none) :
    Refuses f value (integerError value).message := by
  rintro before after a ts hlist hname rfl hbefore hno hrest
  have hnone : a.value? f = none := by
    rw [← Option.not_isSome_iff_eq_none, isSome_value? hf, h]
    exact Bool.false_ne_true
  have hvalues : ∀ b ∈ before ++ a :: after, IsExpression b.value := by
    intro b hb
    obtain hb | rfl | hb := by simpa only [List.mem_append, List.mem_cons] using hb
    · exact hrest b (List.mem_append_left after hb)
    · exact hvalue
    · exact hrest b (List.mem_append_right before hb)
  have hrefused : Refused before a (a.valueError f) := .value hname hno hnone
  exact ⟨_, ofTrees_of_refused hlist hvalues hbefore hrefused, by rw [valueError_eq hf]⟩

/-- An integer is accepted iff it is in range. -/
theorem accepts_or_refuses {n : Int} (hvalue : IsExpression value) (h : integer? value = int32? n) :
    if -2147483648 ≤ n ∧ n ≤ 2147483647 then Accepts f value n
    else Refuses f value (integerError value).message := by
  split
  · rename_i hrange
    have hne : int32? n ≠ none := fun hnone => int32?_eq_none.mp hnone hrange
    obtain ⟨m, hm⟩ := Option.ne_none_iff_exists'.mp hne
    rw [← int32?_eq_some.mp hm]
    exact accepts_of_integer? hf hvalue (h.trans hm)
  · rename_i hrange
    exact refuses_of_integer? hf hvalue (h.trans (int32?_eq_none.mpr hrange))

end Integers

/-! ## Literals -/

/-- Which values a field of integers may have. -/
structure ReadsIntegers (f : Field) : Prop where
  /-- A literal is accepted up to the greatest integer of 32 bits, and read as its value. -/
  plain : ∀ as p i, IsExpression (literalTrees as p i) →
    if i.value ≤ 2147483647 then Accepts f (literalTrees as p i) i.value
    else Refuses f (literalTrees as p i) "number too large to fit in target type"
  /-- Behind a minus it is accepted down to the least integer of 32 bits, and read as its
  negation. -/
  negated : ∀ as p joint bs q i, IsExpression (negatedTrees as p joint bs q i) →
    if i.value ≤ 2147483648 then Accepts f (negatedTrees as p joint bs q i) (-i.value)
    else Refuses f (negatedTrees as p joint bs q i) "number too small to fit in target type"
  /-- No other expression is accepted. -/
  other : ∀ ts, IsExpression ts → (∀ n, ¬ IsInteger ts n) →
    Refuses f ts "expected an integer literal"
  /-- What has been read for the field is what is written there. -/
  exact : ∀ as ts arguments, IsList as ts → (∀ a ∈ as, IsExpression a.value) →
    Arguments.ofTrees ts = .ok arguments → ∀ a ∈ as, a.Names f →
      ∃ n, IsInteger a.value n ∧ (arguments.integer? f).map Int32.toInt = some n

theorem readsIntegers_of {f : Field} (hf : f = .priority ∨ f = .flag) : ReadsIntegers f where
  plain as p i h := by
    have hliteral := SignedLiteral.ofTrees?_literalTrees as p i
    have hinteger : integer? (literalTrees as p i) = int32? i.value := by
      rw [integer?, hliteral]
      rfl
    have hmessage : (integerError (literalTrees as p i)).message =
        "number too large to fit in target type" := by
      rw [integerError, hliteral]
      rfl
    have hread := accepts_or_refuses hf h hinteger
    rw [hmessage] at hread
    convert hread using 2
    omega
  negated as p joint bs q i h := by
    have hliteral := SignedLiteral.ofTrees?_negatedTrees as p joint bs q i
    have hinteger : integer? (negatedTrees as p joint bs q i) = int32? (-i.value) := by
      rw [integer?, hliteral]
      rfl
    have hmessage : (integerError (negatedTrees as p joint bs q i)).message =
        "number too small to fit in target type" := by
      rw [integerError, hliteral]
      rfl
    have hread := accepts_or_refuses hf h hinteger
    rw [hmessage] at hread
    convert hread using 2
    omega
  other ts hts hno := by
    have hnone : SignedLiteral.ofTrees? ts = none := SignedLiteral.ofTrees?_eq_none.mpr hno
    have hinteger : integer? ts = none := by
      rw [integer?, hnone]
      rfl
    have hmessage : (integerError ts).message = "expected an integer literal" := by
      rw [integerError, hnone]
      rfl
    exact hmessage ▸ refuses_of_integer? hf hts hinteger
  exact as ts arguments hlist hvalues hread a ha hname := by
    have hcarries := (ofTrees_settled hlist hvalues).values arguments hread
    have hinteger := hcarries.integer? hf ha hname
    obtain ⟨n, hn⟩ : ∃ n, arguments.integer? f = some n := by
      obtain rfl | rfl := hf <;> exact ⟨_, rfl⟩
    rw [hn] at hinteger ⊢
    obtain ⟨l, hl, hvalue⟩ := integer?_eq_some.mp hinteger
    exact ⟨n.toInt, SignedLiteral.isInteger_iff.mpr ⟨l, hl, hvalue⟩, rfl⟩

/-- Literals with attributes in front are expressions, and a priority and a flag are read from all
of them that are in range, and from nothing else. -/
theorem readsIntegers :
    (∀ as p i, (∀ a ∈ as, IsAttribute a.body) → IsExpression (literalTrees as p i)) ∧
    (∀ as p joint bs q i, (∀ a ∈ as, IsAttribute a.body) → (∀ b ∈ bs, IsAttribute b.body) →
      IsExpression (negatedTrees as p joint bs q i)) ∧
    ReadsIntegers .priority ∧ ReadsIntegers .flag :=
  ⟨fun _ p i has => Grammar.isExpression_literalTrees has p i,
    fun _ p joint _ q i has hbs => Grammar.isExpression_negatedTrees has hbs p joint q i,
    readsIntegers_of (.inl rfl), readsIntegers_of (.inr rfl)⟩

/-- The literal `0x7fff_ffff_u8`. -/
def greatest : WrittenInteger where
  base := .hexadecimal
  digits := "7fff_ffff_".toList
  suffix := "u8".toList
  digit_or_gap := Text.forall_mem_of_all (by decide)
  some_digit := ⟨'7', List.mem_cons_self, by decide⟩
  suffix_word := by decide
  suffix_apart := by
    intro c hc
    cases hc
    decide
  decimal := nofun

/-- The literal `2147483648`. -/
def beyond : WrittenInteger where
  base := .decimal
  digits := "2147483648".toList
  suffix := []
  digit_or_gap := Text.forall_mem_of_all (by decide)
  some_digit := ⟨'2', List.mem_cons_self, by decide⟩
  suffix_word := .inl rfl
  suffix_apart := nofun
  decimal _ :=
    { digit_first := by decide
      no_lead := by
        intro b hb
        cases b with
        | decimal => exact absurd rfl hb
        | _ => decide
      no_exponent := rfl }

/-- The attribute `#[inline]`. -/
def inlined : WrittenAttribute where
  position := Position.start
  joint := false
  opens := Position.start
  closes := Position.start
  body := Grammar.Path.trees ⟨false, ["inline"]⟩ ++ Grammar.argumentTrees [] none

theorem readsIntegers_boundaries :
    Accepts .priority (literalTrees [inlined] Position.start greatest) 2147483647 ∧
    Refuses .flag (literalTrees [inlined] Position.start beyond)
      "number too large to fit in target type" ∧
    Accepts .flag (negatedTrees [inlined] Position.start false [inlined] Position.start beyond)
      (-2147483648) ∧
    Refuses .priority [.leaf Position.start (.literal "1.5")] "expected an integer literal" := by
  have hinlined : ∀ a ∈ [inlined], IsAttribute a.body :=
    List.forall_mem_singleton.mpr (Grammar.isAttribute_trees ⟨by decide, by decide⟩ [] none)
  obtain ⟨hplain, hnegated, hpriority, hflag⟩ := readsIntegers
  have hgreatest : greatest.value = 2147483647 := by decide
  have hbeyond : beyond.value = 2147483648 := by decide
  have hgreatest' := hpriority.plain _ _ _ (hplain [inlined] Position.start greatest hinlined)
  have hbeyond' := hflag.plain _ _ _ (hplain [inlined] Position.start beyond hinlined)
  have hbehind := hflag.negated _ _ _ _ _ _
    (hnegated [inlined] Position.start false [inlined] Position.start beyond hinlined hinlined)
  rw [hgreatest, if_pos (by decide)] at hgreatest'
  rw [hbeyond, if_neg (by decide)] at hbeyond'
  rw [hbeyond, if_pos (by decide)] at hbehind
  exact ⟨hgreatest', hbeyond', hbehind, hpriority.other _ (Grammar.isExpression_literal _ _)
    (SignedLiteral.ofTrees?_eq_none.mp (by decide))⟩

example :
    ["(5)", "--5", "5 as i32", "1.5", "\"5\"", "x::y", "1 + 2"].all fun value =>
      (Token.trees s!"priority = {value}").toOption.map
          (fun ts => (Arguments.ofTrees ts).mapError Error.message) =
        some (.error "expected an integer literal") := by
  decide +kernel

end ReceiverLoader.Marker
