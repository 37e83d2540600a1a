import ReceiverLoader.Text.Split

/-!
# Splitting at a character

`splitAtChar` gives the pieces of a text whose pieces are known: a text without the separator is one
piece (`splitAtChar_of_not_mem`), and a separator divides the pieces before it from those behind it
(`splitAtChar_append_cons`). So the pieces of what was put together are what it was put together
from (`split_joinWith`), and what is added without a separator belongs to the last piece
(`split_append_of_not_mem`).
-/

namespace ReceiverLoader.Text

theorem splitAtChar_of_not_mem {separator : Char} {text : List Char} (h : separator ∉ text) :
    splitAtChar separator text = [text] := by
  induction text with
  | nil => rfl
  | cons c text ih =>
    simp only [List.mem_cons, not_or] at h
    obtain ⟨hc, htext⟩ := h
    rw [splitAtChar, if_neg (Ne.symm hc), ih htext]

theorem splitAtChar_append_cons (separator : Char) (before behind : List Char) :
    splitAtChar separator (before ++ separator :: behind) =
      splitAtChar separator before ++ splitAtChar separator behind := by
  induction before with
  | nil => simp [splitAtChar]
  | cons c before ih =>
    rw [List.cons_append, splitAtChar, splitAtChar, ih]
    split
    · rfl
    · cases hp : splitAtChar separator before with
      | nil => exact absurd hp (splitAtChar_ne_nil separator before)
      | cons piece pieces => rfl

theorem eq_nil_of_splitAtChar {separator : Char} {text : List Char}
    (h : splitAtChar separator text = [[]]) : text = [] := by
  cases text with
  | nil => rfl
  | cons c rest =>
    rw [splitAtChar] at h
    split at h
    · exact absurd (List.cons.inj h).2 (splitAtChar_ne_nil separator rest)
    · split at h <;> cases h

theorem not_mem_of_mem_splitAtChar {separator : Char} {text piece : List Char}
    (h : piece ∈ splitAtChar separator text) : separator ∉ piece := by
  induction text generalizing piece with
  | nil =>
    rw [List.mem_singleton.mp h]
    exact List.not_mem_nil
  | cons c text ih =>
    rw [splitAtChar] at h
    split at h
    · rcases List.mem_cons.mp h with rfl | h
      · exact List.not_mem_nil
      · exact ih h
    · rename_i hc
      split at h
      · rename_i hp
        exact absurd hp (splitAtChar_ne_nil separator text)
      · rename_i first pieces hp
        rcases List.mem_cons.mp h with rfl | h
        · simp only [List.mem_cons, not_or]
          exact ⟨Ne.symm hc, ih (hp ▸ List.mem_cons_self)⟩
        · exact ih (hp ▸ List.mem_cons_of_mem first h)

/-! ## Splitting strings -/

theorem split_of_not_mem {separator : Char} {text : String} (h : separator ∉ text.toList) :
    split separator text = [text] := by
  rw [split, splitAtChar_of_not_mem h, List.map_singleton, String.ofList_toList]

theorem split_append_append {separator : Char} {between : String}
    (hbetween : between.toList = [separator]) (before behind : String) :
    split separator (before ++ (between ++ behind)) =
      split separator before ++ split separator behind := by
  simp only [split, String.toList_append, hbetween, List.singleton_append, splitAtChar_append_cons,
    List.map_append]

theorem joinWith_cons_of_ne_nil (between text : String) {texts : List String} (hne : texts ≠ []) :
    joinWith between (text :: texts) = text ++ (between ++ joinWith between texts) := by
  rw [joinWith, String.intercalate_cons_of_ne_nil hne, String.append_assoc]
  rfl

/-- The pieces of what is put together are what it is put together from. -/
theorem split_joinWith {separator : Char} {between : String}
    (hbetween : between.toList = [separator]) {texts : List String} (hne : texts ≠ [])
    (htexts : ∀ text ∈ texts, separator ∉ text.toList) :
    split separator (joinWith between texts) = texts := by
  induction texts with
  | nil => exact absurd rfl hne
  | cons text texts ih =>
    obtain ⟨htext, htexts⟩ := List.forall_mem_cons.mp htexts
    by_cases hlast : texts = []
    · subst hlast
      exact split_of_not_mem htext
    · rw [joinWith_cons_of_ne_nil between text hlast, split_append_append hbetween,
        split_of_not_mem htext, ih hlast htexts, List.singleton_append]

/-- What is added without the separator belongs to the last piece. -/
theorem split_append_of_not_mem {separator : Char} (text : String) {added : String}
    (h : separator ∉ added.toList) :
    ∃ before last, split separator text = before ++ [last] ∧
      split separator (text ++ added) = before ++ [last ++ added] := by
  have hpieces (cs : List Char) : ∃ before last, splitAtChar separator cs = before ++ [last] ∧
      splitAtChar separator (cs ++ added.toList) = before ++ [last ++ added.toList] := by
    induction cs with
    | nil => exact ⟨[], [], rfl, splitAtChar_of_not_mem h⟩
    | cons c cs ih =>
      obtain ⟨before, last, hcs, hadded⟩ := ih
      by_cases hc : c = separator
      · refine ⟨[] :: before, last, ?_, ?_⟩
        · rw [splitAtChar, if_pos hc, hcs, List.cons_append]
        · rw [List.cons_append, splitAtChar, if_pos hc, hadded, List.cons_append]
      · cases before with
        | nil =>
          refine ⟨[], c :: last, ?_, ?_⟩
          · rw [splitAtChar, if_neg hc, hcs]
            rfl
          · rw [List.cons_append, splitAtChar, if_neg hc, hadded]
            rfl
        | cons piece before =>
          refine ⟨(c :: piece) :: before, last, ?_, ?_⟩
          · rw [splitAtChar, if_neg hc, hcs]
            rfl
          · rw [List.cons_append, splitAtChar, if_neg hc, hadded]
            rfl
  obtain ⟨before, last, htext, hadded⟩ := hpieces text.toList
  refine ⟨before.map String.ofList, String.ofList last, ?_, ?_⟩
  · rw [split, htext, List.map_append, List.map_singleton]
  · rw [split, String.toList_append, hadded, List.map_append, List.map_singleton,
      String.ofList_append, String.ofList_toList]

end ReceiverLoader.Text
