import ReceiverLoader.Proofs.QualifiedName.Segments
import ReceiverLoader.Proofs.Text.Word

/-!
# Which texts name a type

* `IsNormal`: the names in normal form, words with `::` between neighbours.
* `isNormaliser_resolve`: a text names a type if what is left of it without the white space around
  it and without the `::` in front is in normal form, and that is what it is resolved to. White
  space around a normal form and `::` in front of it make no difference.
* `IsTidy.resolve_eq`: a name with nothing to be dropped is resolved iff its segments are words.
-/

namespace ReceiverLoader.QualifiedName

/-- A non-empty text of underscores, letters and numbers. -/
structure IsWord (segment : String) : Prop where
  ne_empty : segment ≠ ""
  chars : ∀ c ∈ segment.toList, c = '_' ∨ Text.isAlphanumeric c = true

/-- One or more words with `::` between neighbours. -/
def IsNormal (name : String) : Prop :=
  ∃ segments ≠ [], (∀ segment ∈ segments, IsWord segment) ∧ name = ofSegments segments

/-- A text of white space only, or of nothing. -/
def IsBlank (text : String) : Prop := ∀ c ∈ text.toList, Text.isBlank c = true

/-- `inner` is `text` without the white space around it. -/
structure Trimmed (text inner : String) : Prop where
  around : ∃ before behind, IsBlank before ∧ IsBlank behind ∧ text = before ++ inner ++ behind
  head : ∀ c, inner.toList.head? = some c → Text.isBlank c = false
  last : ∀ c, inner.toList.getLast? = some c → Text.isBlank c = false

/-- Two colons, `count` times. -/
def colons : Nat → String
  | 0 => ""
  | count + 1 => "::" ++ colons count

/-- `name` is `text` without the pairs of colons in front. -/
structure Stripped (text name : String) : Prop where
  front : ∃ count, text = colons count ++ name
  head : ∀ rest, name ≠ "::" ++ rest

/-- What makes `resolve` a normaliser: which texts it accepts, what it gives for them, and that the
result is the same whatever was dropped. -/
structure IsNormaliser (resolve : String → Option String) : Prop where
  accepts : ∀ text name, resolve text = some name ↔
    IsNormal name ∧ ∃ inner, Trimmed text inner ∧ Stripped inner name
  surrounded : ∀ name before behind count, IsNormal name → IsBlank before → IsBlank behind →
    resolve (before ++ colons count ++ name ++ behind) = some name
  fixed : ∀ name, IsNormal name → resolve name = some name
  simpleName : ∀ segments (hne : segments ≠ []), (∀ segment ∈ segments, IsWord segment) →
    lastSegment (ofSegments segments) = segments.getLast hne

/-! ## Words -/

theorem isSegment_iff {segment : List Char} :
    isSegment segment = true ↔ IsWord (String.ofList segment) := by
  have hempty : segment.isEmpty = false ↔ String.ofList segment ≠ "" := by
    rw [List.isEmpty_eq_false_iff, ne_eq, ne_eq, ← String.toList_inj, String.toList_ofList]
    rfl
  constructor
  · intro h
    simp only [isSegment, Bool.and_eq_true, Bool.not_eq_true', List.all_eq_true,
      Bool.or_eq_true, beq_iff_eq] at h
    exact ⟨hempty.mp h.1, by simpa using h.2⟩
  · intro h
    simp only [isSegment, Bool.and_eq_true, Bool.not_eq_true', List.all_eq_true,
      Bool.or_eq_true, beq_iff_eq]
    exact ⟨hempty.mpr h.ne_empty, by simpa using h.chars⟩

instance (segment : String) : Decidable (IsWord segment) :=
  decidable_of_iff (isSegment segment.toList) (by rw [isSegment_iff, String.ofList_toList])

theorem IsWord.colon_not_mem {segment : String} (h : IsWord segment) : ':' ∉ segment.toList := by
  intro hmem
  obtain hc | hc := h.chars ':' hmem
  · exact absurd hc (by decide)
  · exact absurd hc (by decide)

theorem IsWord.not_isBlank {segment : String} (h : IsWord segment) {c : Char}
    (hc : c ∈ segment.toList) : Text.isBlank c = false := by
  rw [← Bool.not_eq_true]
  intro hblank
  obtain rfl | hword := h.chars c hc
  · exact absurd hblank (by decide)
  · rw [Text.isAlphanumeric_of_isBlank hblank] at hword
    cases hword

/-- A name in normal form is a text that is cut into words. -/
theorem isNormal_iff {name : String} :
    IsNormal name ↔ ∀ segment ∈ segmentsOf name.toList, isSegment segment = true := by
  constructor
  · rintro ⟨segments, hne, hwords, rfl⟩ segment hsegment
    have hsegments := segmentsOf_ofSegments hne fun s hs => (hwords s hs).colon_not_mem
    refine isSegment_iff.mpr (hwords _ ?_)
    rw [← hsegments]
    exact List.mem_map_of_mem hsegment
  · intro h
    refine ⟨(segmentsOf name.toList).map String.ofList, ?_, ?_, ?_⟩
    · exact fun hnil => segmentsOf_ne_nil _ (List.map_eq_nil_iff.mp hnil)
    · intro segment hsegment
      obtain ⟨piece, hpiece, rfl⟩ := List.mem_map.mp hsegment
      exact isSegment_iff.mp (h piece hpiece)
    · rw [ofSegments_segmentsOf, String.ofList_toList]

/-! ## Tidy names -/

/-- A name made of segments that are not empty and have neither colons nor white space. -/
structure IsTidy (name : String) (segments : List String) : Prop
    extends IsMadeOf name segments where
  ne_empty : ∀ segment ∈ segments, segment ≠ ""
  blankFree : ∀ segment ∈ segments, ∀ c ∈ segment.toList, Text.isBlank c = false

theorem IsNormal.exists_isTidy {name : String} (h : IsNormal name) :
    ∃ segments, IsTidy name segments := by
  obtain ⟨segments, hne, hwords, rfl⟩ := h
  exact ⟨segments, ⟨hne, fun s hs => (hwords s hs).colon_not_mem, rfl⟩,
    fun s hs => (hwords s hs).ne_empty, fun s hs c hc => (hwords s hs).not_isBlank hc⟩

theorem mem_ofSegments {segments : List String} {c : Char}
    (h : c ∈ (ofSegments segments).toList) : c = ':' ∨ ∃ s ∈ segments, c ∈ s.toList := by
  induction segments with
  | nil => cases h
  | cons segment segments ih =>
    by_cases hlast : segments = []
    · subst hlast
      rw [ofSegments_singleton] at h
      exact .inr ⟨segment, List.mem_cons_self, h⟩
    · rw [ofSegments_cons _ hlast, String.toList_append, String.toList_append,
        List.mem_append, List.mem_append] at h
      rcases h with h | h | h
      · exact .inr ⟨segment, List.mem_cons_self, h⟩
      · exact .inl (by simpa using h)
      · obtain h | ⟨s, hs, hc⟩ := ih h
        · exact .inl h
        · exact .inr ⟨s, List.mem_cons_of_mem _ hs, hc⟩

namespace IsTidy

variable {name : String} {segments : List String}

theorem not_isBlank (h : IsTidy name segments) {c : Char} (hc : c ∈ name.toList) :
    Text.isBlank c = false := by
  rw [h.eq] at hc
  obtain rfl | ⟨segment, hsegment, hc⟩ := mem_ofSegments hc
  · decide
  · exact h.blankFree segment hsegment c hc

/-- A tidy name begins with a character of its first segment. -/
theorem exists_cons (h : IsTidy name segments) : ∃ c cs, name.toList = c :: cs ∧ c ≠ ':' := by
  obtain ⟨segment, segments, rfl⟩ := List.exists_cons_of_ne_nil h.ne_nil
  have hcolon := h.colonFree segment List.mem_cons_self
  cases hsegment : segment.toList with
  | nil => exact absurd (String.toList_injective hsegment) (h.ne_empty segment List.mem_cons_self)
  | cons c cs =>
    have hc : c ≠ ':' := by
      rintro rfl
      exact hcolon (hsegment ▸ List.mem_cons_self)
    rw [h.eq]
    by_cases hlast : segments = []
    · subst hlast
      exact ⟨c, cs, by rw [ofSegments_singleton, hsegment], hc⟩
    · refine ⟨c, cs ++ ("::" ++ ofSegments segments).toList, ?_, hc⟩
      rw [ofSegments_cons _ hlast, String.toList_append, hsegment, List.cons_append]

/-- A tidy name is in normal form if its segments are words. -/
theorem isNormal_iff (h : IsTidy name segments) :
    IsNormal name ↔ ∀ segment ∈ segments, IsWord segment := by
  constructor
  · rintro ⟨others, hne, hwords, hname⟩
    have hothers : IsMadeOf name others := ⟨hne, fun s hs => (hwords s hs).colon_not_mem, hname⟩
    rw [h.unique hothers]
    exact hwords
  · exact fun hwords => ⟨segments, h.ne_nil, hwords, h.eq⟩

end IsTidy

/-! ## Dropping -/

theorem trimmed_iff {text inner : String} :
    Trimmed text inner ↔ Text.trimBlanks text.toList = inner.toList := by
  rw [Text.trimBlanks_eq_iff]
  constructor
  · rintro ⟨⟨before, behind, hbefore, hbehind, rfl⟩, hhead, hlast⟩
    exact ⟨⟨hhead, hlast⟩, before.toList, behind.toList, by simp, hbefore, hbehind⟩
  · rintro ⟨⟨hhead, hlast⟩, before, behind, htext, hbefore, hbehind⟩
    refine ⟨⟨String.ofList before, String.ofList behind, ?_, ?_, ?_⟩, hhead, hlast⟩
    · exact fun c hc => hbefore c (by simpa using hc)
    · exact fun c hc => hbehind c (by simpa using hc)
    · exact String.toList_injective (by simpa using htext)

theorem dropColons_of_not {text : List Char} (h : ∀ rest, text ≠ ':' :: ':' :: rest) :
    dropColons text = text := by
  rw [dropColons.eq_def]
  split
  · rename_i rest
    exact absurd rfl (h rest)
  · rfl

theorem dropColons_colons (count : Nat) (text : String) :
    dropColons (colons count ++ text).toList = dropColons text.toList := by
  induction count with
  | zero => simp [colons]
  | succ count ih => simpa [colons, dropColons] using ih

theorem mem_colons {count : Nat} {c : Char} (h : c ∈ (colons count).toList) : c = ':' := by
  induction count with
  | zero => cases h
  | succ count ih =>
    rw [colons, String.toList_append, List.mem_append] at h
    obtain h | h := h
    · simpa using h
    · exact ih h

theorem exists_dropColons (text : List Char) :
    (∃ count, text = (colons count).toList ++ dropColons text) ∧
      ∀ rest, dropColons text ≠ ':' :: ':' :: rest := by
  induction text using dropColons.induct with
  | case1 text ih =>
    obtain ⟨⟨count, htext⟩, hrest⟩ := ih
    refine ⟨⟨count + 1, ?_⟩, hrest⟩
    simpa [colons, dropColons] using htext
  | case2 text hnot =>
    rw [dropColons_of_not hnot]
    exact ⟨⟨0, by simp [colons]⟩, hnot⟩

theorem toList_colons_append (rest : String) :
    ("::" ++ rest).toList = ':' :: ':' :: rest.toList := by
  rw [String.toList_append]
  rfl

theorem stripped_iff {text name : String} :
    Stripped text name ↔ dropColons text.toList = name.toList := by
  constructor
  · rintro ⟨⟨count, rfl⟩, hhead⟩
    rw [dropColons_colons]
    refine dropColons_of_not fun rest hrest => hhead (String.ofList rest) ?_
    apply String.toList_injective
    rw [toList_colons_append, hrest, String.toList_ofList]
  · intro h
    obtain ⟨⟨count, htext⟩, hhead⟩ := exists_dropColons text.toList
    rw [h] at htext hhead
    refine ⟨⟨count, String.toList_injective ?_⟩, fun rest hrest => hhead rest.toList ?_⟩
    · rw [htext, String.toList_append]
    · rw [hrest, toList_colons_append]

/-! ## Resolving -/

/-- Whatever stands around a tidy name is dropped. -/
theorem IsTidy.dropColons_trimBlanks {name before behind : String} {segments : List String}
    (h : IsTidy name segments) (count : Nat) (hbefore : IsBlank before) (hbehind : IsBlank behind) :
    dropColons (Text.trimBlanks (before ++ colons count ++ name ++ behind).toList) =
      name.toList := by
  have hblank {c : Char} (hc : c ∈ (colons count ++ name).toList) : Text.isBlank c = false := by
    rw [String.toList_append, List.mem_append] at hc
    obtain hc | hc := hc
    · rw [mem_colons hc]
      decide
    · exact h.not_isBlank hc
  have htrim : Trimmed (before ++ colons count ++ name ++ behind) (colons count ++ name) :=
    ⟨⟨before, behind, hbefore, hbehind, by simp only [String.append_assoc]⟩,
      fun c hc => hblank (List.mem_of_mem_head? hc), fun c hc => hblank (List.mem_of_getLast? hc)⟩
  rw [trimmed_iff.mp htrim, dropColons_colons]
  refine dropColons_of_not fun rest hrest => ?_
  obtain ⟨c, cs, hcons, hc⟩ := h.exists_cons
  rw [hcons] at hrest
  exact hc (List.cons.inj hrest).1

theorem resolve_eq_some_iff {text name : String} :
    resolve text = some name ↔
      dropColons (Text.trimBlanks text.toList) = name.toList ∧ IsNormal name := by
  rw [resolve, Option.ite_none_right_eq_some, Option.some_inj]
  constructor
  · rintro ⟨hsegments, rfl⟩
    rw [Bool.and_eq_true, List.all_eq_true] at hsegments
    refine ⟨(String.toList_ofList).symm, isNormal_iff.mpr ?_⟩
    rw [String.toList_ofList]
    exact hsegments.2
  · rintro ⟨hname, hnormal⟩
    obtain ⟨segments, htidy⟩ := hnormal.exists_isTidy
    obtain ⟨c, cs, hcons, -⟩ := htidy.exists_cons
    refine ⟨?_, by rw [hname, String.ofList_toList]⟩
    rw [hname, Bool.and_eq_true, List.all_eq_true]
    exact ⟨by rw [hcons]; rfl, isNormal_iff.mp hnormal⟩

theorem resolve_surrounded {name before behind : String} (count : Nat) (h : IsNormal name)
    (hbefore : IsBlank before) (hbehind : IsBlank behind) :
    resolve (before ++ colons count ++ name ++ behind) = some name := by
  obtain ⟨segments, htidy⟩ := h.exists_isTidy
  exact resolve_eq_some_iff.mpr ⟨htidy.dropColons_trimBlanks count hbefore hbehind, h⟩

theorem resolve_of_isNormal {name : String} (h : IsNormal name) : resolve name = some name := by
  have hblank : IsBlank "" := fun c hc => by cases hc
  simpa [colons] using resolve_surrounded 0 h hblank hblank

/-- A tidy name stands for itself if its segments are words, and for nothing else. -/
theorem IsTidy.resolve_eq {name : String} {segments : List String} (h : IsTidy name segments) :
    resolve name = if ∀ segment ∈ segments, IsWord segment then some name else none := by
  split
  · rename_i hwords
    exact resolve_of_isNormal (h.isNormal_iff.mpr hwords)
  · rename_i hwords
    have hblank : IsBlank "" := fun c hc => by cases hc
    have hname := h.dropColons_trimBlanks 0 hblank hblank
    simp only [colons, String.empty_append, String.append_empty] at hname
    refine Option.eq_none_iff_forall_ne_some.mpr fun other hother => hwords ?_
    obtain ⟨heq, hnormal⟩ := resolve_eq_some_iff.mp hother
    rw [hname, String.toList_inj] at heq
    exact h.isNormal_iff.mp (heq ▸ hnormal)

/-- Resolving brings the texts that name a type to their normal form, and refuses all others. -/
theorem isNormaliser_resolve : IsNormaliser resolve where
  accepts text name := by
    rw [resolve_eq_some_iff, and_comm]
    refine and_congr_right fun _ => ?_
    constructor
    · intro h
      refine ⟨String.ofList (Text.trimBlanks text.toList), ?_, ?_⟩
      · rw [trimmed_iff, String.toList_ofList]
      · rwa [stripped_iff, String.toList_ofList]
    · rintro ⟨inner, htrimmed, hstripped⟩
      rw [trimmed_iff.mp htrimmed, stripped_iff.mp hstripped]
  surrounded name before behind count h hbefore hbehind :=
    resolve_surrounded count h hbefore hbehind
  fixed name h := resolve_of_isNormal h
  simpleName segments hne hwords :=
    IsMadeOf.lastSegment ⟨hne, fun s hs => (hwords s hs).colon_not_mem, rfl⟩

end ReceiverLoader.QualifiedName
