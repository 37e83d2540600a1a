import Mathlib.Data.List.TakeWhile
import ReceiverLoader.FilePath

/-!
# Names without their extensions

* `splitName_eq_some_iff`: a name is split at its last dot, if something stands before it.
* `stemTexts_concat`: only the last of several names loses its extension.
* `moduleComponents_of_names`: what the names of a file below a directory give for its module.
-/

namespace ReceiverLoader.FilePath

/-! ## One name -/

theorem drop_length_takeWhile {α : Type} (p : α → Bool) (l : List α) :
    l.drop (l.takeWhile p).length = l.dropWhile p := by
  induction l with
  | nil => rfl
  | cons a l ih => by_cases ha : p a <;> simp [ha, ih]

/-- A name is split at its last dot; a dot in front of all other characters does not count. -/
theorem splitName_eq_some_iff {name before behind : String} :
    splitName name = some (before, behind) ↔
      name = before ++ "." ++ behind ∧ before ≠ "" ∧ '.' ∉ behind.toList := by
  have hdot : ".".toList = ['.'] := rfl
  constructor
  · intro h
    simp only [splitName, drop_length_takeWhile] at h
    have hall := List.takeWhile_append_dropWhile (p := (· != '.')) (l := name.toList.reverse)
    have hhead := List.head?_dropWhile_not (· != '.') name.toList.reverse
    split at h
    · cases h
    · rename_i c rest hrest
      rw [hrest] at hall hhead
      obtain rfl : c = '.' := by simpa using hhead
      split at h
      · cases h
      · rename_i hempty
        cases h
        refine ⟨String.toList_inj.mp ?_, by simpa using hempty, fun hmem => ?_⟩
        · have hname := congrArg List.reverse hall
          simp only [List.reverse_append, List.reverse_cons, List.reverse_reverse] at hname
          simp only [String.toList_append, String.toList_ofList, hdot]
          exact hname.symm
        · rw [String.toList_ofList, List.mem_reverse] at hmem
          simpa using List.mem_takeWhile_imp hmem
  · rintro ⟨rfl, hbefore, hbehind⟩
    have hall : ∀ c ∈ behind.toList.reverse, (c != '.') = true := fun c hc =>
      bne_iff_ne.mpr fun heq => hbehind (heq ▸ List.mem_reverse.mp hc)
    simp [splitName, List.takeWhile_append_of_pos hall, hbefore]

/-- A name with an extension, without it. -/
theorem dropExtension_append (followed : Bool) {before behind : String} (hne : before ≠ "")
    (hbefore : before ≠ ".") (hbehind : '.' ∉ behind.toList) :
    dropExtension followed (before ++ "." ++ behind) = before := by
  have hsplit := splitName_eq_some_iff.mpr ⟨rfl, hne, hbehind⟩
  simp [dropExtension, hsplit, hbefore]

/-! ## Several names -/

/-- Only the last of several names loses its extension. -/
theorem stemTexts_concat (followed : Bool) (names : List String) {last stem : String}
    (hlast : dropExtension followed last = stem) (hstem : stem ≠ ".") :
    stemTexts followed ((names ++ [last]).map .name) = names ++ [stem] := by
  induction names with
  | nil => simp [stemTexts, hlast]
  | cons name names ih =>
    cases names with
    | nil => simp [stemTexts, hlast, hstem, Component.text]
    | cons next names =>
      have hcons : stemTexts followed ((name :: next :: names ++ [last]).map .name) =
          name :: stemTexts followed ((next :: names ++ [last]).map .name) := by
        cases names <;> rfl
      rw [hcons, ih]
      rfl

/-- The module of a file below a directory has the names on the way to the file, and the file's own
name without extension if it is that of a module. -/
theorem moduleComponents_of_names {base p : FilePath} {names : List String} {last stem : String}
    (hp : p.components = base.components ++ (names ++ [last]).map .name)
    (hlast : dropExtension false last = stem) (hstem : stem ≠ ".") :
    p.moduleComponents base =
      if isModuleRoot names.isEmpty stem then names else names ++ [stem] := by
  have hbelow : p.isBelow base = true := by
    rw [isBelow, hp, List.isPrefixOf_iff_prefix]
    exact List.prefix_append _ _
  have hrelative : p.relativeComponents base = (names ++ [last]).map .name := by
    rw [relativeComponents, if_pos hbelow, hp, List.drop_left]
  have htexts := stemTexts_concat false names hlast hstem
  have honly : ((names ++ [stem]).length == 1) = names.isEmpty := by
    cases names <;> simp
  simp only [moduleComponents, hbelow, hrelative, Bool.not_true, Bool.false_and, htexts,
    List.getLast?_concat, List.dropLast_concat, honly]

end ReceiverLoader.FilePath
