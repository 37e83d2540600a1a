import ReceiverLoader.Source.Collection

/-!
# The items of a source file where they stand

`occurrences` visits the items of a file from top to bottom, those of an inline module directly
behind it. `Occurrence.declaration?`, `declaredName?`, `nested?` and `pending?` say what a single
item contributes, and from where.

* `findings_eq`: what is found in a file is what is found at each of its items, in their order.
-/

namespace ReceiverLoader.Source

open Grammar (Item Attribute TypeDeclaration)

/-- An item in the file at `file`, which holds the module `fileModule`. -/
structure Occurrence where
  file : FilePath
  fileModule : List String
  /-- The names of the inline modules around the item, the outermost first. -/
  enclosing : List String
  /-- The items of the innermost of them; those of the file if there is none. -/
  body : List Item
  item : Item

mutual

/-- An item of a body and the items inside it. -/
def itemOccurrences (file : FilePath) (fileModule enclosing : List String) (body : List Item) :
    Item → List Occurrence
  | .module name items =>
    ⟨file, fileModule, enclosing, body, .module name items⟩ ::
      bodyOccurrences file fileModule (enclosing ++ [name]) items items
  | item => [⟨file, fileModule, enclosing, body, item⟩]

/-- Items of a body and the items inside them. -/
def bodyOccurrences (file : FilePath) (fileModule enclosing : List String) (body : List Item) :
    List Item → List Occurrence
  | [] => []
  | item :: items =>
    itemOccurrences file fileModule enclosing body item ++
      bodyOccurrences file fileModule enclosing body items

end

/-- The items of a file, depth first. -/
def occurrences (file : FilePath) (fileModule : List String) (items : List Item) :
    List Occurrence :=
  bodyOccurrences file fileModule [] items items

namespace Occurrence

/-- The module that the item stands in. -/
def module (o : Occurrence) : List String := o.fileModule ++ o.enclosing

/-- The scope in which the paths of the item are to be resolved. -/
def scope (o : Occurrence) : Scope := ⟨o.module, imports o.body⟩

/-- The qualified name of what the item declares under `name`. -/
def qualified (o : Occurrence) (name : String) : String := qualify o.module name

/-- The declaration of a type whose first attribute that is `marker` has well-formed arguments. -/
def declaration? (marker : String) (o : Occurrence) : Option Declaration :=
  match o.item with
  | .type d =>
    (d.attributes.find? (Marker.isMarker marker)).bind fun a =>
      (Marker.Arguments.ofAttribute a).toOption.map fun arguments =>
        { name := o.qualified d.name
          type := o.qualified d.name
          location := some ⟨o.file, d.position.line, d.position.column⟩
          markers := [(marker, arguments)] }
  | _ => none

/-- The name of a type or a trait, be it marked or not. -/
def declaredName? (o : Occurrence) : Option String :=
  match o.item with
  | .type d => some (o.qualified d.name)
  | .trait name => some (o.qualified name)
  | _ => none

/-- The path of an inline module. -/
def nested? (o : Occurrence) : Option (List String) :=
  match o.item with
  | .module name _ => some (o.module ++ [name])
  | _ => none

/-- The implementation of a trait for a type with a plain path. -/
def pending? (o : Occurrence) : Option Pending :=
  match o.item with
  | .implementation (some ⟨false, trait⟩) (.path self) => some ⟨o.scope, trait, self.path⟩
  | _ => none

/-- If the item is a type, the arguments of the first of its attributes that is `marker` are
well-formed. -/
def WellMarked (marker : String) (o : Occurrence) : Prop :=
  ∀ d, o.item = .type d → ∀ a, d.attributes.find? (Marker.isMarker marker) = some a →
    ∃ arguments, Marker.Arguments.ofAttribute a = .ok arguments

/-- `WellMarked`, as a computation. -/
def isWellMarked (marker : String) (o : Occurrence) : Bool :=
  match o.item with
  | .type d => (d.attributes.find? (Marker.isMarker marker)).all fun a =>
      (Marker.Arguments.ofAttribute a).toOption.isSome
  | _ => true

theorem isWellMarked_iff {marker : String} {o : Occurrence} :
    o.isWellMarked marker ↔ o.WellMarked marker := by
  unfold isWellMarked WellMarked
  cases o.item with
  | type d =>
    simp only [Item.type.injEq, forall_eq']
    cases d.attributes.find? (Marker.isMarker marker) with
    | none => simp
    | some a => cases h : Marker.Arguments.ofAttribute a <;> simp [Except.toOption, h]
  | _ => simp

instance (marker : String) (o : Occurrence) : Decidable (o.WellMarked marker) :=
  decidable_of_iff _ isWellMarked_iff

/-- What is found at the item itself. -/
def findings (o : Occurrence) : List Finding :=
  match o.item with
  | .type d => [.type (o.qualified d.name) d]
  | .trait name => [.trait (o.qualified name)]
  | .implementation (some ⟨false, trait⟩) (.path self) =>
    [.implementation o.scope trait self.path]
  | .module name _ => [.module (o.module ++ [name])]
  | _ => []

/-- A type with well-formed markers gives a declaration iff one of its attributes is `marker`. -/
theorem WellMarked.isSome_declaration? {marker : String} {o : Occurrence} (h : o.WellMarked marker)
    {d : TypeDeclaration} (hd : o.item = .type d) :
    (o.declaration? marker).isSome ↔
      ∃ a ∈ d.attributes, a.path.segments.getLast? = some marker := by
  cases hfind : d.attributes.find? (Marker.isMarker marker) with
  | none =>
    refine iff_of_false (by simp [declaration?, hd, hfind]) ?_
    rintro ⟨a, ha, hlast⟩
    exact List.find?_eq_none.mp hfind a ha (beq_iff_eq.mpr hlast)
  | some a =>
    obtain ⟨arguments, harguments⟩ := h d hd a hfind
    have hmarker : Marker.isMarker marker a = true := List.find?_some hfind
    refine iff_of_true (by simp [declaration?, hd, hfind, harguments, Except.toOption]) ?_
    exact ⟨a, List.mem_of_find?_eq_some hfind, beq_iff_eq.mp hmarker⟩

end Occurrence

mutual

theorem itemFindings_eq (file : FilePath) (fileModule enclosing : List String) (body : List Item) :
    ∀ item, itemFindings ⟨fileModule ++ enclosing, imports body⟩ item =
      (itemOccurrences file fileModule enclosing body item).flatMap Occurrence.findings
  | .type _ => rfl
  | .trait _ => rfl
  | .implementation none _ => rfl
  | .implementation (some ⟨true, _⟩) _ => rfl
  | .implementation (some ⟨false, _⟩) (.path _) => rfl
  | .implementation (some ⟨false, _⟩) .soleBound => rfl
  | .implementation (some ⟨false, _⟩) .other => rfl
  | .module name items => by
    have ih := bodyFindings_eq file fileModule (enclosing ++ [name]) items items
    rw [itemFindings, itemOccurrences, List.flatMap_cons, ← ih]
    simp [Occurrence.findings, Occurrence.module]
  | .use _ _ => rfl
  | .other => rfl

theorem bodyFindings_eq (file : FilePath) (fileModule enclosing : List String) (body : List Item) :
    ∀ items, itemsFindings ⟨fileModule ++ enclosing, imports body⟩ items =
      (bodyOccurrences file fileModule enclosing body items).flatMap Occurrence.findings
  | [] => rfl
  | item :: items => by
    rw [itemsFindings, bodyOccurrences, List.flatMap_append,
      itemFindings_eq file fileModule enclosing body item,
      bodyFindings_eq file fileModule enclosing body items]

end

/-- What is found in a file is what is found at each of its items, in their order. -/
theorem findings_eq (file : FilePath) (fileModule : List String) (items : List Item) :
    findings fileModule items =
      (occurrences file fileModule items).flatMap Occurrence.findings := by
  have h := bodyFindings_eq file fileModule [] items items
  rwa [List.append_nil] at h

mutual

theorem file_of_mem_itemOccurrences {file : FilePath} {fileModule : List String} {o : Occurrence} :
    ∀ (item : Item) (enclosing : List String) (body : List Item),
      o ∈ itemOccurrences file fileModule enclosing body item →
        o.file = file ∧ o.fileModule = fileModule
  | .module name items, enclosing, body, h => by
    rw [itemOccurrences] at h
    rcases List.mem_cons.mp h with rfl | h
    · exact ⟨rfl, rfl⟩
    · exact file_of_mem_bodyOccurrences items _ _ h
  | .type _, _, _, h | .trait _, _, _, h | .implementation _ _, _, _, h | .use _ _, _, _, h
  | .other, _, _, h => by
    rw [List.mem_singleton.mp h]
    exact ⟨rfl, rfl⟩

theorem file_of_mem_bodyOccurrences {file : FilePath} {fileModule : List String} {o : Occurrence} :
    ∀ (items : List Item) (enclosing : List String) (body : List Item),
      o ∈ bodyOccurrences file fileModule enclosing body items →
        o.file = file ∧ o.fileModule = fileModule
  | [], _, _, h => absurd h List.not_mem_nil
  | item :: items, enclosing, body, h => by
    rw [bodyOccurrences] at h
    rcases List.mem_append.mp h with h | h
    · exact file_of_mem_itemOccurrences item _ _ h
    · exact file_of_mem_bodyOccurrences items _ _ h

end

/-- The items of a file know the file and its module. -/
theorem file_of_mem_occurrences {file : FilePath} {fileModule : List String} {items : List Item}
    {o : Occurrence} (h : o ∈ occurrences file fileModule items) :
    o.file = file ∧ o.fileModule = fileModule :=
  file_of_mem_bodyOccurrences items [] items h

end ReceiverLoader.Source
