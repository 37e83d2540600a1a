import ReceiverLoader.QualifiedName

/-!
# Segments of qualified names

* `IsLastSegment`: what stands behind the last `::` of a name, said of its text.
* `lastSegment_eq_iff`: that is what `lastSegment` finds, searching from the end.
-/

namespace ReceiverLoader.QualifiedName

/-- `segment` is the whole name or stands behind a `::` of it, and no shorter text does. -/
structure IsLastSegment (name segment : String) : Prop where
  atEnd : name = segment ∨ ∃ front, name = front ++ "::" ++ segment
  shortest : ∀ front behind, name = front ++ "::" ++ behind → segment.length ≤ behind.length

/-- Two names have the same last segment. -/
def SameLastSegment (name other : String) : Prop :=
  ∃ segment, IsLastSegment name segment ∧ IsLastSegment other segment

/-! ## The search from the end -/

theorem untilColons_cons_of_not {c : Char} {cs : List Char}
    (h : ∀ rest, c :: cs ≠ ':' :: ':' :: rest) : untilColons (c :: cs) = c :: untilColons cs := by
  rw [untilColons.eq_def]
  split
  · rename_i heq
    cases heq
  · rename_i rest heq
    exact absurd heq (h rest)
  · rename_i heq
    cases heq
    rfl

/-- The characters before the first `::` are all there are, or it follows them. -/
theorem untilColons_append (cs : List Char) :
    cs = untilColons cs ∨ ∃ rest, cs = untilColons cs ++ ':' :: ':' :: rest := by
  induction cs using untilColons.induct with
  | case1 => exact .inl rfl
  | case2 rest => exact .inr ⟨rest, rfl⟩
  | case3 c cs hnot ih =>
    rw [untilColons_cons_of_not fun rest h => hnot rest (List.cons.inj h).1 (List.cons.inj h).2]
    obtain h | ⟨rest, h⟩ := ih
    · exact .inl (congrArg (c :: ·) h)
    · exact .inr ⟨rest, congrArg (c :: ·) h⟩

/-- No `::` begins earlier. -/
theorem length_untilColons_le (front behind : List Char) :
    (untilColons (front ++ ':' :: ':' :: behind)).length ≤ front.length := by
  induction front with
  | nil => exact Nat.le_refl 0
  | cons c front ih =>
    by_cases hcolons : ∃ rest, c :: (front ++ ':' :: ':' :: behind) = ':' :: ':' :: rest
    · obtain ⟨rest, h⟩ := hcolons
      rw [List.cons_append, h]
      exact Nat.zero_le _
    · rw [List.cons_append, untilColons_cons_of_not fun rest h => hcolons ⟨rest, h⟩]
      exact Nat.succ_le_succ ih

/-! ## The last segment -/

theorem toList_eq_of_colons {name front behind : String} (h : name = front ++ "::" ++ behind) :
    name.toList.reverse = behind.toList.reverse ++ ':' :: ':' :: front.toList.reverse := by
  rw [h, String.toList_append, String.toList_append]
  simp

theorem isLastSegment_lastSegment (name : String) : IsLastSegment name (lastSegment name) where
  atEnd := by
    obtain h | ⟨rest, h⟩ := untilColons_append name.toList.reverse
    · left
      rw [lastSegment, ← h, List.reverse_reverse, String.ofList_toList]
    · right
      refine ⟨String.ofList rest.reverse, String.toList_injective ?_⟩
      have hname := congrArg List.reverse h
      rw [List.reverse_reverse] at hname
      rw [hname, String.toList_append, String.toList_append]
      simp [lastSegment]
  shortest front behind h := by
    have hlength := length_untilColons_le behind.toList.reverse front.toList.reverse
    rw [← toList_eq_of_colons h] at hlength
    rw [List.length_reverse, String.length_toList] at hlength
    simpa [lastSegment] using hlength

/-- A name has one last segment. -/
theorem IsLastSegment.unique {name segment other : String} (h : IsLastSegment name segment)
    (h' : IsLastSegment name other) : segment = other := by
  have hle {s t : String} (hs : IsLastSegment name s) (ht : IsLastSegment name t) :
      s.length ≤ t.length := by
    obtain rfl | ⟨front, hfront⟩ := ht.atEnd
    · obtain rfl | ⟨front, hfront⟩ := hs.atEnd
      · exact Nat.le_refl _
      · rw [hfront, String.length_append]
        omega
    · exact hs.shortest front t hfront
  have hlist {s : String} (hs : IsLastSegment name s) : s.toList <:+ name.toList := by
    obtain rfl | ⟨front, hfront⟩ := hs.atEnd
    · exact List.suffix_rfl
    · rw [hfront, String.toList_append]
      exact List.suffix_append _ _
  have hlength : segment.toList.length = other.toList.length := by
    rw [String.length_toList, String.length_toList]
    exact Nat.le_antisymm (hle h h') (hle h' h)
  have hsuffix := List.suffix_of_suffix_length_le (hlist h) (hlist h') (Nat.le_of_eq hlength)
  exact String.toList_injective (hsuffix.eq_of_length hlength)

theorem lastSegment_eq_iff {name segment : String} :
    lastSegment name = segment ↔ IsLastSegment name segment := by
  refine ⟨?_, (isLastSegment_lastSegment name).unique⟩
  rintro rfl
  exact isLastSegment_lastSegment name

theorem sameLastSegment_iff {name other : String} :
    SameLastSegment name other ↔ lastSegment name = lastSegment other := by
  simp only [SameLastSegment, ← lastSegment_eq_iff]
  exact ⟨fun ⟨segment, h, h'⟩ => h.trans h'.symm, fun h => ⟨_, h, rfl⟩⟩

end ReceiverLoader.QualifiedName
