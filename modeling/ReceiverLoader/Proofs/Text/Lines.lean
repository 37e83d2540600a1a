import ReceiverLoader.Text.Split

/-!
# Lines put together and taken apart

* `splitAtText`: the pieces of a text between occurrences of a separator of any length.
* `splitAtText_joinWith`: texts without the first character of the separator are the pieces of what
  is put together from them.
* `OnOneLine`: a text without line ends, of which a line can be made.
-/

namespace ReceiverLoader.Text

/-- The pieces of a text between occurrences of `separator`, which are found from left to right. The
next `skip` characters belong to an occurrence. -/
def piecesAt (separator : List Char) (skip : Nat) : List Char → List (List Char)
  | [] => [[]]
  | c :: cs =>
    if 0 < skip then piecesAt separator (skip - 1) cs
    else if separator.isPrefixOf (c :: cs) then [] :: piecesAt separator (separator.length - 1) cs
    else
      match piecesAt separator 0 cs with
      | [] => [[c]]
      | piece :: pieces => (c :: piece) :: pieces

/-- The pieces of `text` between occurrences of `separator`, as strings. -/
def splitAtText (separator text : String) : List String :=
  (piecesAt separator.toList 0 text.toList).map String.ofList

variable {s : Char} {ss : List Char}

theorem piecesAt_skip (separator cs rest : List Char) :
    piecesAt separator cs.length (cs ++ rest) = piecesAt separator 0 rest := by
  induction cs with
  | nil => rfl
  | cons c cs ih =>
    rw [List.length_cons, List.cons_append, piecesAt, if_pos (Nat.succ_pos _),
      Nat.add_sub_cancel, ih]

theorem piecesAt_of_ne {c : Char} (h : s ≠ c) (cs : List Char) :
    piecesAt (s :: ss) 0 (c :: cs) =
      match piecesAt (s :: ss) 0 cs with
      | [] => [[c]]
      | piece :: pieces => (c :: piece) :: pieces := by
  have hbefore : (s :: ss).isPrefixOf (c :: cs) = false := by
    simp [List.isPrefixOf, beq_eq_false_iff_ne.mpr h]
  rw [piecesAt, if_neg (Nat.lt_irrefl 0), hbefore, if_neg Bool.false_ne_true]

theorem piecesAt_separator (rest : List Char) :
    piecesAt (s :: ss) 0 (s :: ss ++ rest) = [] :: piecesAt (s :: ss) 0 rest := by
  have hbefore : (s :: ss).isPrefixOf (s :: (ss ++ rest)) = true :=
    List.isPrefixOf_iff_prefix.mpr ⟨rest, rfl⟩
  rw [List.cons_append, piecesAt, if_neg (Nat.lt_irrefl 0), if_pos hbefore, List.length_cons,
    Nat.add_sub_cancel, piecesAt_skip]

theorem piecesAt_of_not_mem {line : List Char} (h : s ∉ line) :
    piecesAt (s :: ss) 0 line = [line] := by
  induction line with
  | nil => rfl
  | cons c line ih =>
    simp only [List.mem_cons, not_or] at h
    rw [piecesAt_of_ne h.1, ih h.2]

theorem piecesAt_append {line : List Char} (h : s ∉ line) (rest : List Char) :
    piecesAt (s :: ss) 0 (line ++ (s :: ss ++ rest)) = line :: piecesAt (s :: ss) 0 rest := by
  induction line with
  | nil => exact piecesAt_separator rest
  | cons c line ih =>
    simp only [List.mem_cons, not_or] at h
    rw [List.cons_append, piecesAt_of_ne h.1, ih h.2]

/-- The pieces of what is put together are what it is put together from. -/
theorem splitAtText_joinWith {separator : String} (hseparator : separator.toList = s :: ss)
    {lines : List String} (hne : lines ≠ []) (hlines : ∀ line ∈ lines, s ∉ line.toList) :
    splitAtText separator (joinWith separator lines) = lines := by
  induction lines with
  | nil => exact absurd rfl hne
  | cons line lines ih =>
    obtain ⟨hline, hlines⟩ := List.forall_mem_cons.mp hlines
    by_cases hlast : lines = []
    · rw [hlast, joinWith, String.intercalate_singleton, splitAtText, hseparator,
        piecesAt_of_not_mem hline]
      simp
    · have ih := ih hlast hlines
      rw [splitAtText, hseparator, joinWith] at ih ⊢
      rw [String.intercalate_cons_of_ne_nil hlast, String.toList_append, String.toList_append,
        hseparator, List.append_assoc, piecesAt_append hline, List.map_cons, ih,
        String.ofList_toList]

/-- Where nothing stands behind the last separator, each text has one behind it. -/
theorem toList_joinWith (separator : String) (lines : List String) :
    (joinWith separator (lines ++ [""])).toList =
      lines.flatMap fun line => line.toList ++ separator.toList := by
  induction lines with
  | nil => rfl
  | cons line lines ih =>
    have hne : lines ++ [""] ≠ [] := List.append_ne_nil_of_right_ne_nil lines (List.cons_ne_nil _ _)
    rw [joinWith] at ih ⊢
    rw [List.cons_append, String.intercalate_cons_of_ne_nil hne, String.toList_append,
      String.toList_append, ih, List.flatMap_cons]

/-- A character that stands in no text, and not between them, stands nowhere. -/
theorem not_mem_joinWith {c : Char} {separator : String} {texts : List String}
    (hseparator : c ∉ separator.toList) (htexts : ∀ text ∈ texts, c ∉ text.toList) :
    c ∉ (joinWith separator texts).toList := by
  induction texts with
  | nil => exact List.not_mem_nil
  | cons text texts ih =>
    obtain ⟨htext, htexts⟩ := List.forall_mem_cons.mp htexts
    by_cases hnil : texts = []
    · subst hnil
      exact htext
    · rw [joinWith, String.intercalate_cons_of_ne_nil hnil, String.toList_append,
        String.toList_append, List.mem_append, List.mem_append]
      exact not_or.mpr ⟨not_or.mpr ⟨htext, hseparator⟩, ih htexts⟩

/-- A property of a few characters is decided at these alone, and not at all characters. -/
theorem forall_mem_of_all {p : Char → Prop} [DecidablePred p] {cs : List Char}
    (h : cs.all (p ·)) : ∀ c ∈ cs, p c := fun c hc =>
  of_decide_eq_true (List.all_eq_true.mp h c hc)

/-- A text without line ends. -/
def OnOneLine (text : List Char) : Prop := ∀ c ∈ text, c ≠ '\n' ∧ c ≠ '\r'

instance (text : List Char) : Decidable (OnOneLine text) :=
  List.decidableBAll (fun c => c ≠ '\n' ∧ c ≠ '\r') text

theorem onOneLine_append {a b : List Char} (ha : OnOneLine a) (hb : OnOneLine b) :
    OnOneLine (a ++ b) := List.forall_mem_append.mpr ⟨ha, hb⟩

theorem onOneLine_flatMap {α : Type} {f : α → List Char} {l : List α}
    (h : ∀ a ∈ l, OnOneLine (f a)) : OnOneLine (l.flatMap f) := by
  intro c hc
  obtain ⟨a, ha, hc⟩ := List.mem_flatMap.mp hc
  exact h a ha c hc

end ReceiverLoader.Text
