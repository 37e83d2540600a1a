import ReceiverLoader.Proofs.Grammar.Reading
import ReceiverLoader.Proofs.Round.Location
import ReceiverLoader.Proofs.Source.Splitting

/-!
# What items contribute is placeless

Declarations but for their locations, declared names, inline modules, resolved implementations and
ill-formed markers: each depends on the item and on its scope, and not on where the item is written
down.

* `Collection.unlocated_gainFiles`: the declarations of files, but for their locations.
-/

namespace ReceiverLoader.Source

open Grammar (Item Attribute TypeDeclaration Alike like)
open Marker (isMarker)

/-! ## Markers -/

theorem find?_isMarker_alike (marker : String) {as bs : List Attribute} (h : Alike as bs) :
    Option.Rel like (as.find? (isMarker marker)) (bs.find? (isMarker marker)) := by
  obtain ⟨h⟩ := h
  induction h with
  | nil => exact .none
  | @cons a b as bs hab _ ih =>
    have hmarker : isMarker marker a = isMarker marker b := by rw [isMarker, isMarker, hab.1]
    rw [List.find?_cons, List.find?_cons, hmarker]
    cases isMarker marker b with
    | true => exact .some hab
    | false => exact ih

theorem toOption_mapError {ε ε' α : Type} (f : ε → ε') (r : Except ε α) :
    (r.mapError f).toOption = r.toOption := by
  cases r <;> rfl

theorem toOption_ofAttribute_alike {a b : Attribute} (h : Alike a b) :
    (Marker.Arguments.ofAttribute a).toOption = (Marker.Arguments.ofAttribute b).toOption := by
  rw [← toOption_mapError Marker.Error.cause, Marker.Arguments.ofAttribute_alike h,
    toOption_mapError]

/-- The arguments of the first attribute that is `marker`, if they are well-formed. -/
def markerOf? (marker : String) (d : TypeDeclaration) : Option (Option Marker.Arguments) :=
  (d.attributes.find? (isMarker marker)).map fun a => (Marker.Arguments.ofAttribute a).toOption

theorem markerOf?_alike (marker : String) {d e : TypeDeclaration} (h : Alike d e) :
    markerOf? marker d = markerOf? marker e := by
  have hfind := find?_isMarker_alike marker ⟨h.like.1⟩
  unfold markerOf?
  generalize d.attributes.find? (isMarker marker) = a? at hfind ⊢
  generalize e.attributes.find? (isMarker marker) = b? at hfind ⊢
  cases hfind with
  | none => rfl
  | some hab => exact congrArg some (toOption_ofAttribute_alike ⟨hab⟩)

/-! ## Contributions -/

namespace Occurrence

/-- The declaration of a marked type, but for its location. -/
def unlocated? (marker : String) (o : Occurrence) : Option Declaration :=
  (o.declaration? marker).map Declaration.unlocated

/-- That the markers of an item are ill-formed. -/
def flaw? (marker : String) (o : Occurrence) : Option Unit :=
  if o.isWellMarked marker then none else some ()

theorem forall_wellMarked_iff {marker : String} {os : List Occurrence} :
    (∀ o ∈ os, o.WellMarked marker) ↔ os.filterMap (flaw? marker) = [] := by
  simp only [List.filterMap_eq_nil_iff, flaw?, ite_eq_left_iff, reduceCtorEq, imp_false,
    Decidable.not_not, isWellMarked_iff]

theorem unlocated?_eq (marker : String) (o : Occurrence) :
    o.unlocated? marker =
      match o.item with
      | .type d => (markerOf? marker d).bind fun arguments? => arguments?.map fun arguments =>
        ⟨o.qualified d.name, o.qualified d.name, none, [(marker, arguments)]⟩
      | _ => none := by
  unfold unlocated? declaration? markerOf?
  cases o.item with
  | type d =>
    simp only [Option.map_bind, Option.bind_map, Function.comp_def, Option.map_map]
    rfl
  | _ => rfl

theorem flaw?_eq (marker : String) (o : Occurrence) :
    o.flaw? marker =
      match o.item with
      | .type d => if (markerOf? marker d).all Option.isSome then none else some ()
      | _ => none := by
  unfold flaw? isWellMarked markerOf?
  cases o.item with
  | type d => simp only [Option.all_map]
  | _ => rfl

theorem module_eq_of_scope {o o' : Occurrence} (h : o.scope = o'.scope) : o.module = o'.module :=
  congrArg Scope.module h

theorem placeless_unlocated? (marker : String) : Placeless (unlocated? marker) where
  same hscope hitem := by simp only [unlocated?_eq, qualified, hitem, module_eq_of_scope hscope]
  type hscope h h' hd := by
    simp only [unlocated?_eq, qualified, h, h', module_eq_of_scope hscope,
      markerOf?_alike marker hd, hd.like.2.1]
  module _ h h' := by simp only [unlocated?_eq, h, h']
  other h := by simp only [unlocated?_eq, h]

theorem placeless_flaw? (marker : String) : Placeless (flaw? marker) where
  same _ hitem := by simp only [flaw?_eq, hitem]
  type _ h h' hd := by simp only [flaw?_eq, h, h', markerOf?_alike marker hd]
  module _ h h' := by simp only [flaw?_eq, h, h']
  other h := by simp only [flaw?_eq, h]

theorem placeless_declaredName? : Placeless declaredName? where
  same hscope hitem := by
    simp only [declaredName?, qualified, hitem, module_eq_of_scope hscope]
  type hscope h h' hd := by
    simp only [declaredName?, qualified, h, h', module_eq_of_scope hscope, hd.like.2.1]
  module _ h h' := by simp only [declaredName?, h, h']
  other h := by simp only [declaredName?, h]

theorem placeless_nested? : Placeless nested? where
  same hscope hitem := by simp only [nested?, hitem, module_eq_of_scope hscope]
  type _ h h' _ := by simp only [nested?, h, h']
  module hscope h h' := by simp only [nested?, h, h', module_eq_of_scope hscope]
  other h := by simp only [nested?, h]

theorem placeless_implementation? (crate : String) (modules : List (List String)) :
    Placeless (implementation? crate modules) where
  same hscope hitem := by simp only [implementation?, pending?, hitem, hscope]
  type _ h h' _ := by simp only [implementation?, pending?, h, h']
  module _ h h' := by simp only [implementation?, pending?, h, h']
  other h := by simp only [implementation?, pending?, h, Option.map_none]

end Occurrence

/-- What files contribute to the declarations, but for locations. -/
theorem Collection.unlocated_gainFiles (crate marker : String) (files : List SourceFile) :
    ((start crate).gainFiles marker files).declarations.map Declaration.unlocated =
      files.flatMap fun f => f.occurrences.filterMap (Occurrence.unlocated? marker) := by
  rw [declarations_gainFiles, start, List.nil_append, List.map_flatMap]
  simp only [SourceFile.declarations, List.map_filterMap]
  rfl

end ReceiverLoader.Source
