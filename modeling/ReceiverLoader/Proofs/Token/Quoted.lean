import ReceiverLoader.Proofs.Token.Digits
import ReceiverLoader.Text.Quoted

/-!
# Quoted text read back

The written form of a text is one literal, and it means that text. Both are shown character by
character: what is written for a character is a single step for those who read it.

* `spelling_encodeChar`: the three ways to write a character.
* `quotation_quoted`: the literal ends with its own closing quote.
* `ofWritten_quoted`: the literal means the text.
* `onOneLine_quoted`: no line end is left in it.
-/

namespace ReceiverLoader.Token

open Text.Quoted (encodeChar encode)

/-! ## How a character is written -/

/-- The characters with a short escape, each with what stands behind the backslash. -/
def shortEscapes : List (Char × Char) :=
  [('\x00', '0'), ('\t', 't'), ('\r', 'r'), ('\n', 'n'), ('\\', '\\'), ('"', '"')]

/-- The ways to write `c` inside a quoted text. -/
inductive Spelling (c : Char) : List Char → Prop
  | short (e : Char) (h : (c, e) ∈ shortEscapes) : Spelling c ['\\', e]
  | braced : Spelling c ('\\' :: 'u' :: '\x7b' :: (Nat.toDigits 16 c.toNat ++ ['\x7d']))
  | plain (h : c ∉ ['\r', '\n', '\\', '"']) : Spelling c [c]

theorem spelling_encodeChar (c : Char) : Spelling c (encodeChar c) := by
  unfold encodeChar
  split
  · subst c
    exact .short '0' (by decide)
  split
  · subst c
    exact .short 't' (by decide)
  split
  · subst c
    exact .short 'r' (by decide)
  split
  · subst c
    exact .short 'n' (by decide)
  split
  · subst c
    exact .short '\\' (by decide)
  split
  · subst c
    exact .short '"' (by decide)
  split
  · exact .braced
  · exact .plain (by simp_all)

/-! ## Where the literal ends -/

theorem escapedTail_skip (content : Content) (cs rest : List Char) :
    escapedTail content cs.length (cs ++ rest) =
      (escapedTail content 0 rest).map (· + cs.length) := by
  induction cs with
  | nil => simp
  | cons c cs ih =>
    rw [List.length_cons, List.cons_append, escapedTail, if_pos (Nat.succ_pos _),
      Nat.add_sub_cancel, ih, Option.map_map]
    congr 1

theorem escapedTail_escape {content : Content} {cs rest : List Char}
    (h : escapeOrContinuation content (cs ++ rest) = some cs.length) :
    escapedTail content 0 ('\\' :: (cs ++ rest)) =
      (escapedTail content 0 rest).map (· + (cs.length + 1)) := by
  have hquote : ('\\' == '"') = false := rfl
  rw [escapedTail]
  simp only [Nat.lt_irrefl, hquote, Bool.false_eq_true, if_false, beq_self_eq_true, if_true, h]
  rw [escapedTail_skip, Option.map_map]
  congr 1

theorem escapedTail_spelling {c : Char} {cs : List Char} (h : Spelling c cs) (rest : List Char) :
    escapedTail .text 0 (cs ++ rest) = (escapedTail .text 0 rest).map (· + cs.length) := by
  cases h with
  | short e h =>
    refine @escapedTail_escape .text [e] rest ?_
    simp only [shortEscapes, List.mem_cons, Prod.mk.injEq, List.not_mem_nil, or_false] at h
    rcases h with ⟨-, rfl⟩ | ⟨-, rfl⟩ | ⟨-, rfl⟩ | ⟨-, rfl⟩ | ⟨-, rfl⟩ | ⟨-, rfl⟩ <;> rfl
  | braced =>
    have hchar := bracedChar_hexDigits c rest
    refine @escapedTail_escape .text
      ('u' :: '\x7b' :: (Nat.toDigits 16 c.toNat ++ ['\x7d'])) rest ?_
    simp only [List.cons_append, List.append_assoc, List.nil_append] at hchar ⊢
    simp [escapeOrContinuation, Content.escape, hchar, Content.admitsBraced]
  | plain h =>
    simp only [List.mem_cons, List.not_mem_nil, not_or] at h
    obtain ⟨hreturn, -, hslash, hquote, -⟩ := h
    simp [escapedTail, hquote, hslash, hreturn, Content.admits]

/-- The inside of a quoted text ends at the quote behind it. -/
theorem escapedTail_encode (text rest : List Char) :
    escapedTail .text 0 (encode text ++ '"' :: rest) = some ((encode text).length + 1) := by
  induction text with
  | nil => simp [encode, escapedTail]
  | cons c text ih =>
    have hcons : encode (c :: text) = encodeChar c ++ encode text := List.flatMap_cons
    rw [hcons, List.append_assoc, escapedTail_spelling (spelling_encodeChar c), ih, Option.map_some,
      List.length_append]
    congr 1
    omega

/-! ## What the literal means -/

theorem unescape_skip (cs rest : List Char) :
    Literal.unescape cs.length false (cs ++ rest) = Literal.unescape 0 false rest := by
  induction cs with
  | nil => rfl
  | cons c cs ih =>
    rw [List.length_cons, List.cons_append, Literal.unescape.eq_def]
    simp only [Nat.succ_pos, if_true, Nat.add_sub_cancel, ih]

theorem unescape_braced {c : Char} {n : Nat} {cs : List Char} (h : bracedChar cs = some (c, n)) :
    Literal.unescape 0 false ('\\' :: 'u' :: cs) =
      c :: Literal.unescape (n + 1) false ('u' :: cs) := by
  rw [Literal.unescape.eq_def]
  simp [h]

theorem unescape_spelling {c : Char} {cs : List Char} (h : Spelling c cs) (rest : List Char) :
    Literal.unescape 0 false (cs ++ rest) = c :: Literal.unescape 0 false rest := by
  cases h with
  | short e h =>
    have hskip := unescape_skip [e] rest
    simp only [shortEscapes, List.mem_cons, Prod.mk.injEq, List.not_mem_nil, or_false] at h
    rcases h with ⟨rfl, rfl⟩ | ⟨rfl, rfl⟩ | ⟨rfl, rfl⟩ | ⟨rfl, rfl⟩ | ⟨rfl, rfl⟩ | ⟨rfl, rfl⟩
    all_goals exact congrArg (List.cons _) hskip
  | braced =>
    have hchar := bracedChar_hexDigits c rest
    have hskip := unescape_skip ('u' :: '\x7b' :: (Nat.toDigits 16 c.toNat ++ ['\x7d'])) rest
    simp only [List.cons_append, List.append_assoc, List.nil_append] at hchar hskip ⊢
    rw [unescape_braced hchar, ← hskip]
    simp
  | plain h =>
    simp only [List.mem_cons, List.not_mem_nil, not_or] at h
    obtain ⟨hreturn, -, hslash, hquote, -⟩ := h
    simp [Literal.unescape, hquote, hslash, hreturn]

theorem unescape_encode (text rest : List Char) :
    Literal.unescape 0 false (encode text ++ '"' :: rest) = text := by
  induction text with
  | nil => simp [encode, Literal.unescape]
  | cons c text ih =>
    have hcons : encode (c :: text) = encodeChar c ++ encode text := List.flatMap_cons
    rw [hcons, List.append_assoc, unescape_spelling (spelling_encodeChar c), ih]

/-! ## The literal -/

theorem toList_quoted (text : String) :
    (Text.quoted text).toList = '"' :: (encode text.toList ++ ['"']) := by
  rw [Text.quoted, String.toList_ofList, List.cons_append]

/-- A quoted text that no word follows is a literal, and nothing more. -/
theorem quotation_quoted (text : String) {rest : List Char} (h : EndsWord rest) :
    quotation ((Text.quoted text).toList ++ rest) = some (Text.quoted text).toList.length := by
  have hbody : quotationBody ((Text.quoted text).toList ++ rest) =
      some (Text.quoted text).toList.length := by
    rw [toList_quoted, List.cons_append, List.append_assoc, List.singleton_append, quotationBody,
      escapedTail_encode]
    simp
  rw [quotation, hbody, Option.map_some, List.drop_left, suffix_of_endsWord h, Nat.add_zero]

/-- A quoted text means the text. -/
theorem ofWritten_quoted (text : String) : Literal.ofWritten (Text.quoted text) = .text text := by
  have htext : Literal.text? (Text.quoted text).toList = some text := by
    rw [toList_quoted, Literal.text?, unescape_encode, String.ofList_toList]
  rw [Literal.ofWritten]
  simp only [htext]

/-! ## Line ends -/

theorem onOneLine_spelling {c : Char} {cs : List Char} (h : Spelling c cs) :
    Text.OnOneLine cs := by
  cases h with
  | short e h =>
    simp only [shortEscapes, List.mem_cons, Prod.mk.injEq, List.not_mem_nil, or_false] at h
    rcases h with ⟨-, rfl⟩ | ⟨-, rfl⟩ | ⟨-, rfl⟩ | ⟨-, rfl⟩ | ⟨-, rfl⟩ | ⟨-, rfl⟩ <;> decide
  | braced =>
    have hdigits := onOneLine_digits (areDigits_toDigits (by omega : 1 < 16) c.toNat) (by omega)
    exact Text.onOneLine_append (a := ['\\', 'u', '\x7b']) (by decide)
      (Text.onOneLine_append hdigits (by decide))
  | plain h =>
    intro d hd
    rw [List.mem_singleton.mp hd]
    simp only [List.mem_cons, not_or] at h
    exact ⟨h.2.1, h.1⟩

/-- A quoted text is on one line, whatever the text. -/
theorem onOneLine_quoted (text : String) : Text.OnOneLine (Text.quoted text).toList := by
  rw [toList_quoted]
  refine Text.onOneLine_append (a := ['"']) (by decide) (Text.onOneLine_append ?_ (by decide))
  exact Text.onOneLine_flatMap fun c _ => onOneLine_spelling (spelling_encodeChar c)

end ReceiverLoader.Token
