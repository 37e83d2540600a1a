import ReceiverLoader.Proofs.QualifiedName
import ReceiverLoader.Proofs.Text.Split

/-!
# Names as lists of segments

* `IsMadeOf`: the segments of a name, none of which has a colon.
* `IsMadeOf.unique`: a name has one such list of segments, the one that `segmentsOf` finds.
* `ofSegments_segmentsOf`: whatever `segmentsOf` finds in a text, it is put together from it.
* `IsMadeOf.lastSegment`: `lastSegment` gives the last of the segments.
-/

namespace ReceiverLoader.QualifiedName

/-- `name` has these segments, with `::` between neighbours. -/
structure IsMadeOf (name : String) (segments : List String) : Prop where
  ne_nil : segments ≠ []
  colonFree : ∀ segment ∈ segments, ':' ∉ segment.toList
  eq : name = ofSegments segments

/-! ## Cutting at colons -/

theorem segmentsOf_ne_nil (text : List Char) : segmentsOf text ≠ [] := by
  rw [segmentsOf.eq_def]
  split
  · exact List.cons_ne_nil _ _
  · exact List.cons_ne_nil _ _
  · split <;> exact List.cons_ne_nil _ _

theorem segmentsOf_cons_of_not {c : Char} {cs segment : List Char} {segments : List (List Char)}
    (h : ∀ rest, c = ':' → cs = ':' :: rest → False)
    (hsegments : segmentsOf cs = segment :: segments) :
    segmentsOf (c :: cs) = (c :: segment) :: segments := by
  rw [segmentsOf, hsegments]
  exact h

theorem segmentsOf_cons_of_ne {c : Char} {cs segment : List Char} {segments : List (List Char)}
    (hc : c ≠ ':') (hsegments : segmentsOf cs = segment :: segments) :
    segmentsOf (c :: cs) = (c :: segment) :: segments :=
  segmentsOf_cons_of_not (fun _ h _ => hc h) hsegments

theorem segmentsOf_of_not_mem {text : List Char} (h : ':' ∉ text) : segmentsOf text = [text] := by
  induction text with
  | nil => rfl
  | cons c text ih =>
    obtain ⟨hc, htext⟩ := List.ne_and_not_mem_of_not_mem_cons h
    exact segmentsOf_cons_of_ne (Ne.symm hc) (ih htext)

theorem segmentsOf_append_colons {text : List Char} (h : ':' ∉ text) (behind : List Char) :
    segmentsOf (text ++ ':' :: ':' :: behind) = text :: segmentsOf behind := by
  induction text with
  | nil => rfl
  | cons c text ih =>
    obtain ⟨hc, htext⟩ := List.ne_and_not_mem_of_not_mem_cons h
    exact segmentsOf_cons_of_ne (Ne.symm hc) (ih htext)

/-! ## Putting segments together -/

theorem ofSegments_singleton (segment : String) : ofSegments [segment] = segment := by
  rw [ofSegments, Text.joinWith, String.intercalate_singleton]

theorem ofSegments_cons (segment : String) {segments : List String} (hne : segments ≠ []) :
    ofSegments (segment :: segments) = segment ++ ("::" ++ ofSegments segments) :=
  Text.joinWith_cons_of_ne_nil "::" segment hne

theorem ofSegments_append {front behind : List String} (hfront : front ≠ [])
    (hbehind : behind ≠ []) :
    ofSegments (front ++ behind) = ofSegments front ++ ("::" ++ ofSegments behind) := by
  rw [ofSegments, Text.joinWith, String.intercalate_append_of_ne_nil hfront hbehind,
    String.append_assoc]
  rfl

/-- A character in front belongs to the first segment. -/
theorem ofSegments_cons_char (c : Char) (segment : List Char) (segments : List String) :
    (ofSegments (String.ofList (c :: segment) :: segments)).toList =
      c :: (ofSegments (String.ofList segment :: segments)).toList := by
  by_cases hlast : segments = []
  · subst hlast
    simp [ofSegments_singleton]
  · rw [ofSegments_cons _ hlast, ofSegments_cons _ hlast]
    simp

/-- The pieces that are found make up the text. -/
theorem ofSegments_segmentsOf (text : List Char) :
    ofSegments ((segmentsOf text).map String.ofList) = String.ofList text := by
  apply String.toList_injective
  rw [String.toList_ofList]
  induction text using segmentsOf.induct with
  | case1 => rfl
  | case2 text ih =>
    have hne : (segmentsOf text).map String.ofList ≠ [] := fun h =>
      segmentsOf_ne_nil text (List.map_eq_nil_iff.mp h)
    rw [segmentsOf, List.map_cons, ofSegments_cons _ hne, String.toList_append,
      String.toList_append, ih]
    rfl
  | case3 c text hnot hnil ih => exact absurd hnil (segmentsOf_ne_nil text)
  | case4 c text hnot segment segments hsegments ih =>
    rw [hsegments, List.map_cons] at ih
    rw [segmentsOf_cons_of_not hnot hsegments, List.map_cons, ofSegments_cons_char, ih]

theorem segmentsOf_ofSegments {segments : List String} (hne : segments ≠ [])
    (h : ∀ segment ∈ segments, ':' ∉ segment.toList) :
    (segmentsOf (ofSegments segments).toList).map String.ofList = segments := by
  induction segments with
  | nil => exact absurd rfl hne
  | cons segment segments ih =>
    obtain ⟨hsegment, hsegments⟩ := List.forall_mem_cons.mp h
    by_cases hlast : segments = []
    · subst hlast
      rw [ofSegments_singleton, segmentsOf_of_not_mem hsegment]
      simp
    · have htext : (ofSegments (segment :: segments)).toList =
          segment.toList ++ ':' :: ':' :: (ofSegments segments).toList := by
        rw [ofSegments_cons _ hlast, String.toList_append, String.toList_append]
        rfl
      rw [htext, segmentsOf_append_colons hsegment, List.map_cons, ih hlast hsegments,
        String.ofList_toList]

/-! ## The segments of a name -/

namespace IsMadeOf

variable {name segment : String} {segments others : List String}

theorem segmentsOf_eq (h : IsMadeOf name segments) :
    (segmentsOf name.toList).map String.ofList = segments := by
  rw [h.eq]
  exact segmentsOf_ofSegments h.ne_nil h.colonFree

/-- A name is made of one list of segments. -/
theorem unique (h : IsMadeOf name segments) (h' : IsMadeOf name others) : segments = others :=
  h.segmentsOf_eq.symm.trans h'.segmentsOf_eq

theorem singleton (h : ':' ∉ segment.toList) : IsMadeOf segment [segment] where
  ne_nil := List.cons_ne_nil _ _
  colonFree _ hmem := List.mem_singleton.mp hmem ▸ h
  eq := (ofSegments_singleton segment).symm

end IsMadeOf

/-! ## The last segment -/

theorem untilColons_append_colons {text : List Char} (h : ':' ∉ text) (behind : List Char) :
    untilColons (text ++ ':' :: ':' :: behind) = text := by
  induction text with
  | nil => rfl
  | cons c text ih =>
    obtain ⟨hc, htext⟩ := List.ne_and_not_mem_of_not_mem_cons h
    rw [List.cons_append, untilColons_cons_of_not fun _ heq => hc (List.cons.inj heq).1.symm,
      ih htext]

theorem untilColons_of_not_mem {text : List Char} (h : ':' ∉ text) : untilColons text = text := by
  obtain heq | ⟨rest, heq⟩ := untilColons_append text
  · exact heq.symm
  · rw [heq] at h
    exact absurd (List.mem_append_right _ List.mem_cons_self) h

/-- What stands in front of a `::` makes no difference to the last segment. -/
theorem lastSegment_append {segment : String} (h : ':' ∉ segment.toList) (front : String) :
    lastSegment (front ++ ("::" ++ segment)) = segment := by
  have hreverse : (front ++ ("::" ++ segment)).toList.reverse =
      segment.toList.reverse ++ ':' :: ':' :: front.toList.reverse := by
    simp [String.toList_append]
  rw [lastSegment, hreverse, untilColons_append_colons fun hmem => h (List.mem_reverse.mp hmem),
    List.reverse_reverse, String.ofList_toList]

theorem lastSegment_of_not_mem {segment : String} (h : ':' ∉ segment.toList) :
    lastSegment segment = segment := by
  rw [lastSegment, untilColons_of_not_mem fun hmem => h (List.mem_reverse.mp hmem),
    List.reverse_reverse, String.ofList_toList]

theorem lastSegment_ofSegments (front : List String) {segment : String}
    (h : ':' ∉ segment.toList) : lastSegment (ofSegments (front ++ [segment])) = segment := by
  by_cases hfront : front = []
  · subst hfront
    rw [List.nil_append, ofSegments_singleton, lastSegment_of_not_mem h]
  · rw [ofSegments_append hfront (List.cons_ne_nil _ _), ofSegments_singleton,
      lastSegment_append h]

theorem IsMadeOf.lastSegment {name : String} {segments : List String} (h : IsMadeOf name segments) :
    lastSegment name = segments.getLast h.ne_nil := by
  have hlast := lastSegment_ofSegments segments.dropLast
    (h.colonFree _ (List.getLast_mem h.ne_nil))
  rwa [List.dropLast_concat_getLast, ← h.eq] at hlast

end ReceiverLoader.QualifiedName
