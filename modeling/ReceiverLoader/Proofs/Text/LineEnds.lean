import Mathlib.Data.List.Basic
import ReceiverLoader.Proofs.Text.Split

/-!
# Lines and their ends

`Lined` cuts a text into lines without reference to how they are found: a line ends at a line feed,
with or without a carriage return directly before it, or at the end of the text.

* `lined_linesOf`: the lines of a text are its lines in this sense.
* `Lined.flatten`: lines lose nothing but the ends of lines.
-/

namespace ReceiverLoader.Text

/-- The text consists of the lines, each with its end. -/
inductive Lined : List Char → List (List Char) → Prop
  | nil : Lined [] []
  /-- The last line may end with the text. -/
  | last {line : List Char} : line ≠ [] → '\n' ∉ line → Lined line [line]
  | feed {line text : List Char} {lines : List (List Char)} : '\n' ∉ line →
      line.getLast? ≠ some '\r' → Lined text lines → Lined (line ++ '\n' :: text) (line :: lines)
  | returnFeed {line text : List Char} {lines : List (List Char)} : '\n' ∉ line →
      Lined text lines → Lined (line ++ '\r' :: '\n' :: text) (line :: lines)

/-- The text without its line feeds, and without the carriage return directly before one. -/
def withoutLineEnds : List Char → List Char
  | [] => []
  | '\n' :: cs => withoutLineEnds cs
  | '\r' :: '\n' :: cs => withoutLineEnds cs
  | c :: cs => c :: withoutLineEnds cs

/-! ## The lines of a text -/

theorem dropFinalReturn_append_return (line : List Char) :
    dropFinalReturn (line ++ ['\r']) = line := by
  rw [dropFinalReturn, List.reverse_append]
  exact List.reverse_reverse line

theorem dropFinalReturn_of_getLast?_ne {line : List Char} (h : line.getLast? ≠ some '\r') :
    dropFinalReturn line = line := by
  rw [← List.head?_reverse] at h
  unfold dropFinalReturn
  split
  · rename_i rest hreverse
    rw [hreverse] at h
    exact absurd rfl h
  · rfl

theorem linesOf_of_not_mem {line : List Char} (hne : line ≠ []) (h : '\n' ∉ line) :
    linesOf line = [line] := by
  rw [linesOf, splitAtChar_of_not_mem h]
  simp [hne]

theorem linesOf_append_feed {line : List Char} (h : '\n' ∉ line) (text : List Char) :
    linesOf (line ++ '\n' :: text) = dropFinalReturn line :: linesOf text := by
  have hpieces := splitAtChar_ne_nil '\n' text
  rw [linesOf, linesOf, splitAtChar_append_cons, splitAtChar_of_not_mem h, List.singleton_append,
    List.dropLast_cons_of_ne_nil hpieces, List.getLast?_cons_of_ne_nil hpieces, List.map_cons,
    List.cons_append]

/-- A line feed, and the carriage return before it, end the line before them. -/
theorem Lined.cons {line text : List Char} {lines : List (List Char)} (h : '\n' ∉ line)
    (hlines : Lined text lines) : Lined (line ++ '\n' :: text) (dropFinalReturn line :: lines) := by
  by_cases hreturn : line.getLast? = some '\r'
  · obtain ⟨before, rfl⟩ := List.getLast?_eq_some_iff.mp hreturn
    rw [dropFinalReturn_append_return, List.append_assoc]
    exact .returnFeed (fun hmem => h (List.mem_append_left _ hmem)) hlines
  · rw [dropFinalReturn_of_getLast?_ne hreturn]
    exact .feed h hreturn hlines

/-- The lines of a text are its lines. By induction on its length: what stands behind the first line
feed is shorter. -/
theorem lined_linesOf (text : List Char) : Lined text (linesOf text) := by
  by_cases hfeed : '\n' ∈ text
  · obtain ⟨line, rest, htext, hline⟩ := List.eq_append_cons_of_mem hfeed
    have hshorter : rest.length < text.length := by
      rw [htext, List.length_append, List.length_cons]
      omega
    rw [htext, linesOf_append_feed hline]
    exact (lined_linesOf rest).cons hline
  · by_cases hempty : text = []
    · rw [hempty]
      exact .nil
    · rw [linesOf_of_not_mem hempty hfeed]
      exact .last hempty hfeed
termination_by text.length

/-! ## What lines lose -/

theorem withoutLineEnds_cons_of_ne {c : Char} (hfeed : c ≠ '\n') (hreturn : c ≠ '\r')
    (cs : List Char) : withoutLineEnds (c :: cs) = c :: withoutLineEnds cs := by
  rw [withoutLineEnds]
  · exact hfeed
  · exact fun _ h => absurd h hreturn

/-- A carriage return stays if no line feed follows it. -/
theorem withoutLineEnds_return {cs : List Char} (h : cs.head? ≠ some '\n') :
    withoutLineEnds ('\r' :: cs) = '\r' :: withoutLineEnds cs := by
  rw [withoutLineEnds]
  · decide
  · rintro rest - rfl
    exact h rfl

/-- What stands in a line stays if it is not the carriage return of the line's end. -/
theorem withoutLineEnds_append {line rest : List Char} (h : '\n' ∉ line)
    (hend : line.getLast? ≠ some '\r' ∨ rest.head? ≠ some '\n') :
    withoutLineEnds (line ++ rest) = line ++ withoutLineEnds rest := by
  induction line with
  | nil => rfl
  | cons c line ih =>
    simp only [List.mem_cons, not_or] at h
    obtain ⟨hc, hline⟩ := h
    have ih : withoutLineEnds (line ++ rest) = line ++ withoutLineEnds rest := by
      cases line with
      | nil => rfl
      | cons c' line => exact ih hline hend
    by_cases hreturn : c = '\r'
    · subst hreturn
      have hhead : (line ++ rest).head? ≠ some '\n' := by
        cases line with
        | nil => exact hend.resolve_left fun hlast => hlast rfl
        | cons c' line =>
          intro hhead
          exact hline (Option.some.inj hhead ▸ List.mem_cons_self)
      rw [List.cons_append, withoutLineEnds_return hhead, ih, List.cons_append]
    · rw [List.cons_append, withoutLineEnds_cons_of_ne (Ne.symm hc) hreturn, ih, List.cons_append]

/-- Lines lose nothing but the ends of lines. -/
theorem Lined.flatten {text : List Char} {lines : List (List Char)} (h : Lined text lines) :
    lines.flatten = withoutLineEnds text := by
  induction h with
  | nil => rfl
  | @last line _ hline =>
    have hkept : withoutLineEnds (line ++ []) = line ++ withoutLineEnds [] :=
      withoutLineEnds_append hline (Or.inr nofun)
    rw [List.append_nil] at hkept
    rw [hkept]
    rfl
  | @feed line text lines hline hreturn _ ih =>
    rw [withoutLineEnds_append hline (Or.inl hreturn), List.flatten_cons, ih]
    rfl
  | @returnFeed line text lines hline _ ih =>
    have hhead : ('\r' :: '\n' :: text).head? ≠ some '\n' := by simp
    rw [withoutLineEnds_append hline (Or.inr hhead), List.flatten_cons, ih]
    rfl

theorem Lined.not_mem_feed {text : List Char} {lines : List (List Char)} (h : Lined text lines) :
    ∀ line ∈ lines, '\n' ∉ line := by
  induction h with
  | nil => exact fun line hline => absurd hline List.not_mem_nil
  | last _ hlast => exact List.forall_mem_singleton.mpr hlast
  | feed hline _ _ ih => exact List.forall_mem_cons.mpr ⟨hline, ih⟩
  | returnFeed hline _ ih => exact List.forall_mem_cons.mpr ⟨hline, ih⟩

theorem Lined.ne_nil {text : List Char} {lines : List (List Char)} (h : Lined text lines)
    (htext : text ≠ []) : lines ≠ [] := by
  cases h with
  | nil => exact absurd rfl htext
  | last => exact List.cons_ne_nil _ _
  | feed => exact List.cons_ne_nil _ _
  | returnFeed => exact List.cons_ne_nil _ _

end ReceiverLoader.Text
