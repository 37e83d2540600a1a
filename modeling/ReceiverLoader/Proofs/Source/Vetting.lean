import ReceiverLoader.Proofs.Marker.Agreement
import ReceiverLoader.Proofs.Source.Failure
import ReceiverLoader.Proofs.Source.Transparent

/-!
# Which markers a source tree may have

The first attribute of a type that is the marker has to be one that is accepted, by the search as by
the attribute macro; otherwise the tree is not loaded. What stands behind it is not looked at.

* `Marker.bears_iff`: the search and the attribute macro read the same from an attribute.
* `load_vets`: a tree loads iff the first marker of each of its types is accepted, so all markers
  are if no type has two.
* `load_overlooks_repeatedText`: a second marker is not accepted, and yet the tree loads.
-/

namespace ReceiverLoader.Marker

open Grammar (Attribute TypeDeclaration)

/-- The trees that the attribute macro is given for an attribute; none for one with a value, which
no macro is called for. -/
def givenTrees? (a : Attribute) : Option (List Token.Tree) :=
  match a.content with
  | .nothing => some []
  | .arguments _ body => some body
  | .value _ => none

/-- The attribute carries these arguments, for the search as for the attribute macro. -/
structure Bears (a : Attribute) (arguments : Arguments) : Prop where
  ofAttribute : Arguments.ofAttribute a = .ok arguments
  ofTrees : ∃ ts, givenTrees? a = some ts ∧ Arguments.ofTrees ts = .ok arguments
  /-- The macro gives back any type that the attribute stands in front of. -/
  expand : ∀ {text item : String} {ts us is : List Token.Tree} {d : TypeDeclaration},
    givenTrees? a = some ts → Token.trees text = .ok us →
    Token.Tree.shapes us = Token.Tree.shapes ts → Token.trees item = .ok is →
    Grammar.readItem is = .ok (.type d) → expand text item = .ok (Token.Tree.writtenAll d.trees)

/-- The attribute carries some arguments: what it spells is well-formed. -/
def IsAccepted (a : Attribute) : Prop := ∃ arguments, Bears a arguments

theorem mapError_eq_ok_iff {ε ε' α : Type} {f : ε → ε'} {r : Except ε α} {x : α} :
    r.mapError f = .ok x ↔ r = .ok x := by
  cases r <;> simp [Except.mapError]

variable {a : Attribute} {arguments : Arguments}

/-- The trees that are given to the attribute macro spell the arguments of the attribute. -/
theorem ofAttribute_eq_ok_iff :
    Arguments.ofAttribute a = .ok arguments ↔
      ∃ ts, givenTrees? a = some ts ∧ Arguments.ofTrees ts = .ok arguments := by
  obtain ⟨path, content⟩ := a
  cases content with
  | nothing =>
    change Except.ok Arguments.standard = _ ↔ ∃ ts, some [] = some ts ∧ _
    simp [Arguments.ofTrees_nil]
  | arguments closes body =>
    have hsame : Grammar.Alike body body := inferInstance
    have hread := Arguments.read_alike closes Grammar.textEnd hsame
    change Arguments.read closes body = _ ↔ ∃ ts, some body = some ts ∧ _
    rw [← mapError_eq_ok_iff, hread, mapError_eq_ok_iff]
    simp [Arguments.ofTrees]
  | value equals =>
    change Except.error _ = _ ↔ ∃ ts, none = some ts ∧ _
    simp

/-- What the search accepts the attribute macro accepts, and conversely. -/
theorem bears_iff : Bears a arguments ↔ Arguments.ofAttribute a = .ok arguments := by
  refine ⟨Bears.ofAttribute, fun h => ⟨h, ofAttribute_eq_ok_iff.mp h, ?_⟩⟩
  intro text item ts us is d hgiven htext hshapes hitem hd
  obtain ⟨_, hts, hparsed⟩ := ofAttribute_eq_ok_iff.mp h
  cases hgiven.symm.trans hts
  have hlike : Grammar.Alike us ts := ⟨Grammar.like_trees_iff.mpr hshapes⟩
  have hread := Arguments.read_alike Grammar.textEnd Grammar.textEnd hlike
  have hus : Arguments.ofTrees us = .ok arguments := by
    rw [← mapError_eq_ok_iff, Arguments.ofTrees, hread, mapError_eq_ok_iff]
    exact hparsed
  rw [expand_eq htext hitem hd, hus]

end ReceiverLoader.Marker

namespace ReceiverLoader.Source

open Grammar (Attribute TypeDeclaration)
open Marker (IsAccepted isMarker)

variable {fs : FileSystem} {directory p : FilePath} {crateName marker : String}
  {d : TypeDeclaration} {a : Attribute}

/-- `a` is the first attribute of `d` whose path ends in `marker`. -/
def IsFirstMarker (marker : String) (d : TypeDeclaration) (a : Attribute) : Prop :=
  a.path.segments.getLast? = some marker ∧ ∃ before after, d.attributes = before ++ a :: after ∧
    ∀ b ∈ before, b.path.segments.getLast? ≠ some marker

theorem find?_isMarker_eq_some :
    d.attributes.find? (isMarker marker) = some a ↔ IsFirstMarker marker d a := by
  simp only [List.find?_eq_some_iff_append, IsFirstMarker, isMarker, beq_iff_eq, Bool.not_eq_true',
    beq_eq_false_iff_ne]

/-- A marker that is carried once is the first. -/
theorem isFirstMarker_of_countP (hcount : d.attributes.countP (isMarker marker) ≤ 1)
    (ha : a ∈ d.attributes) (hmarker : a.path.segments.getLast? = some marker) :
    IsFirstMarker marker d a := by
  obtain ⟨before, after, hsplit⟩ := List.append_of_mem ha
  refine ⟨hmarker, before, after, hsplit, fun b hb hb' => ?_⟩
  have hfront : 0 < before.countP (isMarker marker) :=
    List.countP_pos_iff.mpr ⟨b, hb, beq_iff_eq.mpr hb'⟩
  have hhere : isMarker marker a = true := beq_iff_eq.mpr hmarker
  rw [hsplit, List.countP_append, List.countP_cons_of_pos hhere] at hcount
  omega

/-- No marker of a type is ill-formed iff its first one, if it has any, is accepted. -/
theorem markerError?_eq_none_iff_isAccepted :
    markerError? marker d = none ↔ ∀ a, IsFirstMarker marker d a → IsAccepted a := by
  rw [markerError?, Option.bind_eq_none_iff]
  refine forall_congr' fun a => ?_
  rw [find?_isMarker_eq_some]
  refine imp_congr_right fun _ => ?_
  unfold IsAccepted
  simp only [Marker.bears_iff]
  cases Marker.Arguments.ofAttribute a <;> simp

/-- The file at `p` holds items whose types have no first marker that is refused. -/
def Passes (fs : FileSystem) (marker : String) (p : FilePath) : Prop :=
  ∃ items, Holds fs p items ∧
    ∀ d ∈ typesIn items, ∀ a, IsFirstMarker marker d a → IsAccepted a

theorem failure?_eq_none_iff_passes : failure? fs marker p = none ↔ Passes fs marker p := by
  have hitems (items : List Grammar.Item) : itemsFailure? marker p items = none ↔
      ∀ d ∈ typesIn items, ∀ a, IsFirstMarker marker d a → IsAccepted a := by
    rw [itemsFailure?, Option.map_eq_none_iff, List.findSome?_eq_none_iff]
    exact forall₂_congr fun d _ => markerError?_eq_none_iff_isAccepted
  unfold failure? Passes Holds
  cases fs.readText p with
  | error reason => simp
  | ok text =>
    cases hread : readItems text with
    | error reason => simp [contentFailure?, hread]
    | ok items => simp [contentFailure?, hread, hitems]

/-- What loading the tree below a directory says about the markers in it. -/
structure Vets (fs : FileSystem) (directory : FilePath) (crateName marker : String) : Prop where
  /-- A tree loads iff its files can be listed and read, and the first marker of each struct, enum
  or union in them is accepted. -/
  loads : (∃ tree, load fs directory crateName marker = .ok tree) ↔
    ∃ paths, sourceFiles fs directory = .ok paths ∧ ∀ p ∈ paths, Passes fs marker p
  /-- In a tree that loads each marker is accepted of a type that has no other. -/
  single : ∀ tree, load fs directory crateName marker = .ok tree →
    ∀ p ∈ tree.files, ∃ items, Holds fs p items ∧
      ∀ d ∈ typesIn items, d.attributes.countP (isMarker marker) ≤ 1 →
        ∀ a ∈ d.attributes, a.path.segments.getLast? = some marker → IsAccepted a

/-- Loading vets the first marker of each type in a tree, wherever it stands among the attributes
and however deep in inline modules, as the attribute macro would. -/
theorem load_vets (fs : FileSystem) (directory : FilePath) (crateName marker : String) :
    Vets fs directory crateName marker := by
  have hloads {paths : List FilePath} (hpaths : sourceFiles fs directory = .ok paths) :
      (∃ tree, load fs directory crateName marker = .ok tree) ↔
        ∀ p ∈ paths, Passes fs marker p := by
    rw [load_eq_ok_iff_findSome? hpaths, List.findSome?_eq_none_iff]
    exact forall₂_congr fun p _ => failure?_eq_none_iff_passes
  constructor
  case loads =>
    constructor
    · rintro ⟨tree, htree⟩
      obtain ⟨hpaths, -⟩ := load_eq_ok htree
      exact ⟨tree.files, hpaths, (hloads hpaths).mp ⟨tree, htree⟩⟩
    · rintro ⟨paths, hpaths, hpasses⟩
      exact (hloads hpaths).mpr hpasses
  case single =>
    intro tree htree p hp
    obtain ⟨hpaths, -⟩ := load_eq_ok htree
    obtain ⟨items, hholds, haccepted⟩ := (hloads hpaths).mp ⟨tree, htree⟩ p hp
    exact ⟨items, hholds, fun d hd hcount a ha hmarker =>
      haccepted d hd a (isFirstMarker_of_countP hcount ha hmarker)⟩

/-! ## A type with two markers -/

/-- A type with a second marker, which has an argument that no marker knows. -/
def repeatedText : String :=
  "#[module_event_receiver] #[module_event_receiver(bogus = 1)] struct S;"

/-- Whether these items are a type with two attributes, of which the second is a marker that is
refused. -/
def isRepeatedSample (marker : String) : List Grammar.Item → Bool
  | [.type ⟨[_, a], _, _, _⟩] =>
    isMarker marker a && (Marker.Arguments.ofAttribute a).toOption.isNone
  | _ => false

/-- Not every marker in a tree that loads is accepted: a second one on a type may be ill-formed, and
the attribute macro refuses it. -/
theorem load_overlooks_repeatedText :
    ∃ tree, load (fileOf repeatedText) ⟨"src"⟩ "app" Loader.markerName = .ok tree ∧
      tree.files = [⟨"src/lib.rs"⟩] ∧
      (∃ items, Holds (fileOf repeatedText) ⟨"src/lib.rs"⟩ items ∧
        ∃ d ∈ typesIn items, ∃ a ∈ d.attributes,
          a.path.segments.getLast? = some Loader.markerName ∧ ¬ IsAccepted a) ∧
      Marker.expand "bogus = 1" "struct S;" = .error (.arguments ⟨⟨1, 0⟩, .unknown⟩) := by
  have hloads : ∀ p ∈ [⟨"src/lib.rs"⟩], LoadsAt (fileOf repeatedText) ⟨"src"⟩
      (normalizeCrateName "app") Loader.markerName p := by decide +kernel
  obtain ⟨tree, hload, hfiles, -⟩ := load_of_loadsAt (sourceFiles_fileOf repeatedText) hloads
  have hread :
      (readItems repeatedText).toOption.any (isRepeatedSample Loader.markerName) = true := by
    decide +kernel
  obtain ⟨items, hitems, hholds⟩ := exists_holds (readText_fileOf _) hread
  refine ⟨tree, hload, hfiles, ⟨items, hholds, ?_⟩, by decide +kernel⟩
  unfold isRepeatedSample at hitems
  split at hitems
  · rename_i first a name position trees
    obtain ⟨hmarker, hnone⟩ := Bool.and_eq_true_iff.mp hitems
    refine ⟨_, List.mem_singleton_self _, a, List.mem_cons_of_mem _ (List.mem_singleton_self a),
      beq_iff_eq.mp hmarker, ?_⟩
    rintro ⟨values, hbears⟩
    rw [hbears.ofAttribute] at hnone
    cases hnone
  · cases hitems

end ReceiverLoader.Source
