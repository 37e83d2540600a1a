import ReceiverLoader.Proofs.Source.Occurrence
import ReceiverLoader.Proofs.TypeTable

/-!
# What is collected from source files

`Collection.gain` is what items add to a collection, and `Collection.gainFiles` what files add; both
are total. `SourceFile.Readable` says when a file can be added at all.

* `addFindings_findings`: a single file's findings are added iff its markers are well-formed.
* `addFiles_eq_ok`: files are added iff all of them are readable, and then all that they hold is.
* `declarations_gainFiles`, `declared_gainFiles`, `pending_gainFiles`, `modules_gainFiles`: the
  parts of a collection after files have been added.
-/

namespace ReceiverLoader.Source

open Grammar (Item)

/-- A file that is to be collected. -/
structure SourceFile where
  path : FilePath
  /-- The module that the file holds. -/
  module : List String
  content : String

namespace SourceFile

/-- The items of a file; none if its content cannot be read. -/
def items (f : SourceFile) : List Item :=
  match readItems f.content with
  | .ok items => items
  | .error _ => []

/-- The items of a file, depth first. -/
def occurrences (f : SourceFile) : List Occurrence := Source.occurrences f.path f.module f.items

/-- The content can be read, and the markers in it are well-formed. -/
structure Readable (marker : String) (f : SourceFile) : Prop where
  readItems : readItems f.content = .ok f.items
  wellMarked : ∀ o ∈ f.occurrences, o.WellMarked marker

instance (marker : String) (f : SourceFile) : Decidable (f.Readable marker) :=
  decidable_of_iff ((Source.readItems f.content).toOption.isSome ∧
      ∀ o ∈ f.occurrences, o.WellMarked marker) <| by
    refine ⟨fun ⟨hread, hmarked⟩ => ⟨?_, hmarked⟩, fun hf => ⟨?_, hf.wellMarked⟩⟩
    · cases h : Source.readItems f.content with
      | error e =>
        rw [h] at hread
        cases hread
      | ok read => rw [items, h]
    · rw [hf.readItems]
      rfl

/-- The modules that a file holds: its own and the inline ones. -/
def modules (f : SourceFile) : List (List String) :=
  f.module :: f.occurrences.filterMap Occurrence.nested?

/-- The declarations of the marked types of a file. -/
def declarations (marker : String) (f : SourceFile) : List Declaration :=
  f.occurrences.filterMap (Occurrence.declaration? marker)

/-- The names of the types and traits of a file. -/
def declaredNames (f : SourceFile) : List String :=
  f.occurrences.filterMap Occurrence.declaredName?

end SourceFile

namespace Collection

variable {marker : String}

/-- Adds files in their order, up to the first that cannot be read. -/
def addFiles (marker : String) (c : Collection) : List SourceFile → Except Error Collection
  | [] => .ok c
  | f :: files =>
    match c.addFile f.path marker f.module f.content with
    | .error e => .error e
    | .ok c => c.addFiles marker files

/-! ## One file -/

/-- The collection with what items add to it. -/
def gain (marker : String) (c : Collection) (os : List Occurrence) : Collection where
  declarations := c.declarations ++ os.filterMap (Occurrence.declaration? marker)
  declared := c.declared.declareAll (os.filterMap Occurrence.declaredName?)
  modules := (os.filterMap Occurrence.nested?).foldl withModule c.modules
  pending := c.pending ++ os.filterMap Occurrence.pending?

@[simp] theorem gain_nil (c : Collection) : c.gain marker [] = c := by
  simp [gain]

theorem gain_cons (c : Collection) (o : Occurrence) (os : List Occurrence) :
    c.gain marker (o :: os) = (c.gain marker [o]).gain marker os := by
  have hcons : o :: os = [o] ++ os := rfl
  rw [hcons]
  simp only [gain, List.filterMap_append, List.foldl_append, List.append_assoc,
    TypeTable.declareAll_append]

theorem addFindings_append (path : FilePath) (c : Collection) (fs gs : List Finding) :
    c.addFindings path marker (fs ++ gs) =
      (c.addFindings path marker fs).bind fun c => c.addFindings path marker gs := by
  induction fs generalizing c with
  | nil => rfl
  | cons f fs ih =>
    rw [List.cons_append, addFindings, addFindings]
    cases c.addFinding path marker f with
    | error e => rfl
    | ok c => exact ih c

theorem gain_single (c : Collection) (o : Occurrence) :
    c.gain marker [o] =
      { declarations := c.declarations ++ (o.declaration? marker).toList
        declared := c.declared.declareAll o.declaredName?.toList
        modules := o.nested?.toList.foldl withModule c.modules
        pending := c.pending ++ o.pending?.toList } := by
  have hfilter : ∀ {α : Type} (f : Occurrence → Option α), [o].filterMap f = (f o).toList := by
    intro α f
    cases hf : f o with
    | none => rw [List.filterMap_cons_none hf, List.filterMap_nil, Option.toList_none]
    | some a => rw [List.filterMap_cons_some hf, List.filterMap_nil, Option.toList_some]
  rw [gain, hfilter, hfilter, hfilter, hfilter]

/-- A single item whose markers are well-formed is added. -/
theorem addFindings_single (c : Collection) {o : Occurrence} (h : o.WellMarked marker) :
    c.addFindings o.file marker o.findings = .ok (c.gain marker [o]) := by
  rw [gain_single]
  obtain ⟨file, fileModule, enclosing, body, item⟩ := o
  cases item with
  | type d =>
    cases hfind : d.attributes.find? (Marker.isMarker marker) with
    | none =>
      simp [addFindings, addFinding, declarationOf, Occurrence.findings, Occurrence.declaration?,
        Occurrence.declaredName?, Occurrence.nested?, Occurrence.pending?, hfind]
    | some a =>
      obtain ⟨arguments, harguments⟩ := h d rfl a hfind
      simp [addFindings, addFinding, declarationOf, Occurrence.findings, Occurrence.declaration?,
        Occurrence.declaredName?, Occurrence.nested?, Occurrence.pending?, hfind, harguments,
        Except.toOption]
  | implementation trait self =>
    -- Only a trait without negation and a type with a plain path are found.
    rcases trait with _ | ⟨_ | _, trait⟩ <;> cases self <;>
      simp [addFindings, addFinding, Occurrence.findings, Occurrence.declaration?,
        Occurrence.declaredName?, Occurrence.nested?, Occurrence.pending?]
  | _ =>
    simp [addFindings, addFinding, addModule, Occurrence.findings, Occurrence.declaration?,
      Occurrence.declaredName?, Occurrence.nested?, Occurrence.pending?]

/-- An item is only added if its markers are well-formed. -/
theorem wellMarked_of_addFindings {c c' : Collection} {o : Occurrence}
    (h : c.addFindings o.file marker o.findings = .ok c') : o.WellMarked marker := by
  intro d hd a hfind
  rw [Occurrence.findings, hd] at h
  simp only [addFindings, addFinding, declarationOf, hfind] at h
  cases harguments : Marker.Arguments.ofAttribute a with
  | error e =>
    rw [harguments] at h
    cases h
  | ok arguments => exact ⟨arguments, rfl⟩

/-- Findings are added iff the markers among them are well-formed. -/
theorem addFindings_findings {c c' : Collection} {path : FilePath} {os : List Occurrence}
    (hpath : ∀ o ∈ os, o.file = path) :
    c.addFindings path marker (os.flatMap Occurrence.findings) = .ok c' ↔
      (∀ o ∈ os, o.WellMarked marker) ∧ c' = c.gain marker os := by
  induction os generalizing c with
  | nil => simp [addFindings, eq_comm]
  | cons o os ih =>
    obtain ⟨rfl, hos⟩ := List.forall_mem_cons.mp hpath
    rw [List.flatMap_cons, addFindings_append, List.forall_mem_cons, gain_cons]
    constructor
    · intro h
      cases hsingle : c.addFindings o.file marker o.findings with
      | error e =>
        rw [hsingle] at h
        cases h
      | ok c₁ =>
        have ho := wellMarked_of_addFindings hsingle
        rw [addFindings_single c ho] at h
        obtain ⟨hmarked, rfl⟩ := (ih hos).mp h
        exact ⟨⟨ho, hmarked⟩, rfl⟩
    · rintro ⟨⟨ho, hmarked⟩, rfl⟩
      rw [addFindings_single c ho]
      exact (ih hos).mpr ⟨hmarked, rfl⟩

/-! ## Many files -/

/-- The collection with what files add to it. -/
def gainFiles (marker : String) (c : Collection) (files : List SourceFile) : Collection :=
  files.foldl (fun c f => (c.addModule f.module).gain marker f.occurrences) c

theorem addFile_eq_ok {c c' : Collection} {f : SourceFile} :
    c.addFile f.path marker f.module f.content = .ok c' ↔
      f.Readable marker ∧ c' = (c.addModule f.module).gain marker f.occurrences := by
  unfold addFile
  cases h : readItems f.content with
  | error e =>
    refine iff_of_false (by simp) fun ⟨hf, _⟩ => ?_
    rw [hf.readItems] at h
    cases h
  | ok items =>
    have hitems : f.items = items := by rw [SourceFile.items, h]
    have hos : f.occurrences = Source.occurrences f.path f.module items := by
      rw [SourceFile.occurrences, hitems]
    have hreadable : f.Readable marker ↔ ∀ o ∈ f.occurrences, o.WellMarked marker :=
      ⟨fun hf => hf.wellMarked, fun hmarked => ⟨by rw [h, hitems], hmarked⟩⟩
    simp only [findings_eq f.path f.module items]
    rw [addFindings_findings fun o ho => (file_of_mem_occurrences ho).1, hreadable, hos]

/-- Files are added iff all of them are readable. -/
theorem addFiles_eq_ok {c c' : Collection} {files : List SourceFile} :
    c.addFiles marker files = .ok c' ↔
      (∀ f ∈ files, f.Readable marker) ∧ c' = c.gainFiles marker files := by
  induction files generalizing c with
  | nil => simp [addFiles, gainFiles, eq_comm]
  | cons f files ih =>
    rw [addFiles, List.forall_mem_cons]
    constructor
    · intro h
      cases hfile : c.addFile f.path marker f.module f.content with
      | error e =>
        rw [hfile] at h
        cases h
      | ok c₁ =>
        rw [hfile] at h
        obtain ⟨hf, rfl⟩ := addFile_eq_ok.mp hfile
        obtain ⟨hfiles, rfl⟩ := ih.mp h
        exact ⟨⟨hf, hfiles⟩, rfl⟩
    · rintro ⟨⟨hf, hfiles⟩, rfl⟩
      rw [addFile_eq_ok.mpr ⟨hf, rfl⟩]
      exact ih.mpr ⟨hfiles, rfl⟩

theorem gainFiles_cons (c : Collection) (f : SourceFile) (files : List SourceFile) :
    c.gainFiles marker (f :: files) =
      ((c.addModule f.module).gain marker f.occurrences).gainFiles marker files := rfl

theorem declarations_gainFiles (c : Collection) (files : List SourceFile) :
    (c.gainFiles marker files).declarations =
      c.declarations ++ files.flatMap (SourceFile.declarations marker) := by
  induction files generalizing c with
  | nil => simp [gainFiles]
  | cons f files ih =>
    rw [gainFiles_cons, ih, List.flatMap_cons, ← List.append_assoc]
    rfl

theorem declared_gainFiles (c : Collection) (files : List SourceFile) :
    (c.gainFiles marker files).declared =
      c.declared.declareAll (files.flatMap SourceFile.declaredNames) := by
  induction files generalizing c with
  | nil => rfl
  | cons f files ih =>
    rw [gainFiles_cons, ih, List.flatMap_cons, TypeTable.declareAll_append]
    rfl

theorem pending_gainFiles (c : Collection) (files : List SourceFile) :
    (c.gainFiles marker files).pending = c.pending ++
      files.flatMap fun f => f.occurrences.filterMap Occurrence.pending? := by
  induction files generalizing c with
  | nil => simp [gainFiles]
  | cons f files ih =>
    rw [gainFiles_cons, ih, List.flatMap_cons, ← List.append_assoc]
    rfl

theorem modules_gainFiles (c : Collection) (files : List SourceFile) :
    (c.gainFiles marker files).modules =
      (files.flatMap SourceFile.modules).foldl withModule c.modules := by
  induction files generalizing c with
  | nil => rfl
  | cons f files ih =>
    rw [gainFiles_cons, ih, List.flatMap_cons, List.foldl_append]
    rfl

theorem mem_foldl_withModule {modules ms : List (List String)} {m : List String} :
    m ∈ ms.foldl withModule modules ↔ m ∈ modules ∨ ∃ n ∈ ms, m ∈ enclosingModules n := by
  induction ms generalizing modules with
  | nil => simp
  | cons n ms ih =>
    have hmem : m ∈ withModule modules n ↔ m ∈ modules ∨ m ∈ enclosingModules n := by
      by_cases h : m ∈ modules <;> simp [withModule, h]
    rw [List.foldl_cons, ih, hmem, or_assoc]
    simp only [List.mem_cons, exists_eq_or_imp]

/-! ## The type table of a collection -/

theorem types_eq (crate : String) (c : Collection) :
    c.types crate = c.declared.addAll (c.pending.map fun p =>
      (resolve crate c.modules p.scope p.self, resolve crate c.modules p.scope p.trait)) := by
  rw [types, TypeTable.addAll, List.foldl_map]

theorem declared_types (crate : String) (c : Collection) :
    (c.types crate).declared = c.declared.declared := by
  rw [types_eq, TypeTable.addAll_eq]

end Collection

end ReceiverLoader.Source
