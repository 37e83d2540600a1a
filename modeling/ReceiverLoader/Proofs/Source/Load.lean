import Mathlib.Control.Monad.Basic
import ReceiverLoader.Proofs.Source.Collection
import ReceiverLoader.Proofs.Source.Files

/-!
# What loading a source tree finds

* `collect_eq_ok`: files are collected from disk iff they can be read, and then as they were read.
* `qualify_eq_ofSegments`: the qualified name of what a module declares.
* `load_shows`: the files, the declarations and the declared names of a tree that has been loaded.
-/

namespace ReceiverLoader.Source

open OrderedList (Ascending)

variable {fs : FileSystem} {directory : FilePath} {crate crateName marker : String}

/-- `f` is the file at its path in the tree of `crate` below `directory`. -/
structure SourceFile.StandsIn (fs : FileSystem) (directory : FilePath) (crate : String)
    (f : SourceFile) : Prop where
  module_eq : f.module = modulePath crate directory f.path
  readText : fs.readText f.path = .ok f.content

/-- Files that have been collected from disk are added as they stand there. -/
theorem collect_eq_ok {paths : List FilePath} {c c' : Collection}
    (h : collect fs crate marker directory c paths = .ok c') :
    ∃ files : List SourceFile, files.map SourceFile.path = paths ∧
      (∀ f ∈ files, f.StandsIn fs directory crate) ∧ c.addFiles marker files = .ok c' := by
  induction paths generalizing c with
  | nil => exact ⟨[], rfl, nofun, h⟩
  | cons path paths ih =>
    unfold collect at h
    split at h
    · cases h
    · rename_i content hcontent
      split at h
      · cases h
      · rename_i c₁ hadd
        obtain ⟨files, hpaths, hfiles, hadds⟩ := ih h
        refine ⟨⟨path, modulePath crate directory path, content⟩ :: files, ?_, ?_, ?_⟩
        · rw [List.map_cons, hpaths]
        · exact List.forall_mem_cons.mpr ⟨⟨rfl, hcontent⟩, hfiles⟩
        · simp only [Collection.addFiles, hadd]
          exact hadds

theorem load_eq_ok {tree : Tree} (h : load fs directory crateName marker = .ok tree) :
    sourceFiles fs directory = .ok tree.files ∧
      ∃ files : List SourceFile, files.map SourceFile.path = tree.files ∧
        (∀ f ∈ files, f.StandsIn fs directory (normalizeCrateName crateName)) ∧
          ∃ c, (Collection.start (normalizeCrateName crateName)).addFiles marker files = .ok c ∧
            tree.round = c.round ∧ tree.types = c.types (normalizeCrateName crateName) := by
  unfold load at h
  split at h
  · cases h
  · rename_i paths hpaths
    cases hcollect : collect fs (normalizeCrateName crateName) marker directory
      (Collection.start (normalizeCrateName crateName)) paths with
    | error e =>
      simp only [hcollect] at h
      cases h
    | ok c =>
      simp only [hcollect] at h
      cases h
      obtain ⟨files, hfiles, hstands, hadd⟩ := collect_eq_ok hcollect
      exact ⟨hpaths, files, hfiles, hstands, c, hadd, rfl, rfl⟩

/-! ## What loads -/

/-- The file at `p` in the tree of `crate` below `directory`; without content if it cannot be
read. -/
def fileAt (fs : FileSystem) (directory : FilePath) (crate : String) (p : FilePath) : SourceFile :=
  ⟨p, modulePath crate directory p, (fs.readText p).toOption.getD ""⟩

theorem SourceFile.StandsIn.eq_fileAt {f : SourceFile} (h : f.StandsIn fs directory crate) :
    f = fileAt fs directory crate f.path := by
  rw [fileAt, ← h.module_eq, h.readText]
  rfl

/-- Files that stand at these paths are the ones that can be read there. -/
theorem eq_map_fileAt {files : List SourceFile} {paths : List FilePath}
    (hpaths : files.map SourceFile.path = paths)
    (hstands : ∀ f ∈ files, f.StandsIn fs directory crate) :
    files = paths.map (fileAt fs directory crate) := by
  rw [← hpaths, List.map_map]
  have hsame := List.map_congr_left fun f hf => (hstands f hf).eq_fileAt
  rwa [List.map_id''] at hsame
  exact fun _ => rfl

/-- The file at `p` can be read, and added to a collection. -/
structure LoadsAt (fs : FileSystem) (directory : FilePath) (crate marker : String) (p : FilePath) :
    Prop where
  readText : fs.readText p = .ok (fileAt fs directory crate p).content
  readable : (fileAt fs directory crate p).Readable marker

instance (p : FilePath) : Decidable (LoadsAt fs directory crate marker p) :=
  decidable_of_iff (fs.readText p = .ok (fileAt fs directory crate p).content ∧
      (fileAt fs directory crate p).Readable marker)
    ⟨fun ⟨hread, hreadable⟩ => ⟨hread, hreadable⟩, fun h => ⟨h.readText, h.readable⟩⟩

theorem collect_of_loadsAt {paths : List FilePath}
    (h : ∀ p ∈ paths, LoadsAt fs directory crate marker p) (c : Collection) :
    collect fs crate marker directory c paths =
      .ok (c.gainFiles marker (paths.map (fileAt fs directory crate))) := by
  induction paths generalizing c with
  | nil => rfl
  | cons p paths ih =>
    obtain ⟨hp, hpaths⟩ := List.forall_mem_cons.mp h
    have hadd : c.addFile p marker (modulePath crate directory p)
        (fileAt fs directory crate p).content = .ok _ :=
      Collection.addFile_eq_ok.mpr ⟨hp.readable, rfl⟩
    rw [collect, hp.readText]
    simp only [hadd]
    exact ih hpaths _

/-- A tree loads iff its files can be listed and each of them can be read and added; then it is what
these files hold. -/
theorem load_eq_ok_iff {tree : Tree} :
    load fs directory crateName marker = .ok tree ↔
      sourceFiles fs directory = .ok tree.files ∧
        (∀ p ∈ tree.files, LoadsAt fs directory (normalizeCrateName crateName) marker p) ∧
          ∃ c, c = (Collection.start (normalizeCrateName crateName)).gainFiles marker
              (tree.files.map (fileAt fs directory (normalizeCrateName crateName))) ∧
            tree.round = c.round ∧ tree.types = c.types (normalizeCrateName crateName) := by
  constructor
  · intro h
    obtain ⟨hpaths, files, hfiles, hstands, c, hadd, hround, htypes⟩ := load_eq_ok h
    obtain ⟨hreadable, hc⟩ := Collection.addFiles_eq_ok.mp hadd
    have hmap := eq_map_fileAt hfiles hstands
    refine ⟨hpaths, ?_, c, hmap.symm ▸ hc, hround, htypes⟩
    rw [← hfiles]
    intro p hp
    obtain ⟨f, hf, rfl⟩ := List.mem_map.mp hp
    have heq := (hstands f hf).eq_fileAt
    exact ⟨heq ▸ (hstands f hf).readText, heq ▸ hreadable f hf⟩
  · rintro ⟨hpaths, hloads, c, rfl, hround, htypes⟩
    simp only [load, hpaths, collect_of_loadsAt hloads, ← hround, ← htypes]

/-- What is loaded from files that can be listed, read and added. -/
theorem load_of_loadsAt {paths : List FilePath} (hpaths : sourceFiles fs directory = .ok paths)
    (hloads : ∀ p ∈ paths, LoadsAt fs directory (normalizeCrateName crateName) marker p) :
    ∃ tree, load fs directory crateName marker = .ok tree ∧ tree.files = paths ∧
      ∃ c, c = (Collection.start (normalizeCrateName crateName)).gainFiles marker
          (paths.map (fileAt fs directory (normalizeCrateName crateName))) ∧
        tree.round = c.round ∧ tree.types = c.types (normalizeCrateName crateName) :=
  ⟨⟨_, _, paths⟩, load_eq_ok_iff.mpr ⟨hpaths, hloads, _, rfl, rfl, rfl⟩, rfl, _, rfl, rfl, rfl⟩

/-- The file at `p` can be read, and holds these items. -/
def Holds (fs : FileSystem) (p : FilePath) (items : List Grammar.Item) : Prop :=
  ∃ text, fs.readText p = .ok text ∧ readItems text = .ok items

section Holds

variable {p : FilePath} {items : List Grammar.Item}

theorem Holds.content (h : Holds fs p items) :
    fs.readText p = .ok (fileAt fs directory crate p).content ∧
      readItems (fileAt fs directory crate p).content = .ok items := by
  obtain ⟨text, htext, hitems⟩ := h
  have hcontent : (fileAt fs directory crate p).content = text := by
    rw [fileAt, htext]
    rfl
  rw [hcontent]
  exact ⟨htext, hitems⟩

theorem Holds.items_fileAt (h : Holds fs p items) :
    (fileAt fs directory crate p).items = items := by
  rw [SourceFile.items, h.content.2]

theorem Holds.loadsAt (h : Holds fs p items)
    (hmarked : ∀ o ∈ (fileAt fs directory crate p).occurrences, o.WellMarked marker) :
    LoadsAt fs directory crate marker p where
  readText := h.content.1
  readable := ⟨h.items_fileAt ▸ h.content.2, hmarked⟩

/-- What is read from a file is known by a test that only such items pass. -/
theorem exists_holds {text : String} (htext : fs.readText p = .ok text)
    {test : List Grammar.Item → Bool} (hread : (readItems text).toOption.any test = true) :
    ∃ items, test items = true ∧ Holds fs p items := by
  cases hitems : readItems text with
  | error e =>
    rw [hitems] at hread
    cases hread
  | ok items =>
    rw [hitems] at hread
    exact ⟨items, hread, text, htext, hitems⟩

end Holds

/-! ## What a tree shows -/

/-- The qualified name of what a module declares has the name behind the segments of the module. -/
theorem qualify_eq_ofSegments {module : List String} (h : module ≠ []) (name : String) :
    qualify module name = QualifiedName.ofSegments (module ++ [name]) := by
  rw [qualify, QualifiedName.ofSegments, QualifiedName.ofSegments, Text.joinWith, Text.joinWith,
    String.intercalate_append_of_ne_nil h (List.cons_ne_nil name []), String.intercalate_singleton]

theorem SourceFile.StandsIn.qualified {f : SourceFile} (h : f.StandsIn fs directory crate)
    {o : Occurrence} (ho : o ∈ f.occurrences) (name : String) :
    o.qualified name =
      QualifiedName.ofSegments (modulePath crate directory f.path ++ o.enclosing ++ [name]) := by
  have hmodule : o.module = modulePath crate directory f.path ++ o.enclosing := by
    rw [Occurrence.module, (file_of_mem_occurrences ho).2, h.module_eq]
  rw [Occurrence.qualified, hmodule, qualify_eq_ofSegments]
  exact List.cons_ne_nil _ _

/-- `tree` is what there is below `directory`, read as `crate` with an eye to `marker`; `files` are
its files with their content. -/
structure Tree.Shows (tree : Tree) (fs : FileSystem) (directory : FilePath) (crate marker : String)
    (files : List SourceFile) : Prop where
  /-- Each file is listed once, in the order of the paths. -/
  ascending : Ascending FilePath.order tree.files
  mem_files : ∀ p, p ∈ tree.files ↔ IsSourceFile fs directory p
  paths : files.map SourceFile.path = tree.files
  readText : ∀ f ∈ files, fs.readText f.path = .ok f.content
  readItems : ∀ f ∈ files, readItems f.content = .ok f.items
  qualified : ∀ f ∈ files, ∀ o ∈ f.occurrences, ∀ name, o.qualified name =
    QualifiedName.ofSegments (modulePath crate directory f.path ++ o.enclosing ++ [name])
  /-- The types that give a declaration are those with an attribute that is `marker`. -/
  isSome_declaration? : ∀ f ∈ files, ∀ o ∈ f.occurrences, ∀ d, o.item = .type d →
    ((o.declaration? marker).isSome ↔ ∃ a ∈ d.attributes, a.path.segments.getLast? = some marker)
  declarations : tree.round.declarations =
    files.flatMap fun f => f.occurrences.filterMap (Occurrence.declaration? marker)
  isDeclared : ∀ name, tree.types.isDeclared name ↔
    ∃ f ∈ files, ∃ o ∈ f.occurrences, o.declaredName? = some name

/-- A tree that has been loaded is what there is below the directory: its files are all source
files, its round has the declarations of their marked types as they are visited, and its table
declares the types and traits that are visited. -/
theorem load_shows (wf : fs.WellFormed) {tree : Tree}
    (h : load fs directory crateName marker = .ok tree) :
    ∃ files, tree.Shows fs directory (normalizeCrateName crateName) marker files := by
  obtain ⟨hpaths, files, hfiles, hstands, c, hadd, hround, htypes⟩ := load_eq_ok h
  obtain ⟨hreadable, rfl⟩ := Collection.addFiles_eq_ok.mp hadd
  refine ⟨files, ?_⟩
  constructor
  case ascending => exact ascending_sourceFiles wf hpaths
  case mem_files => exact fun p => mem_sourceFiles wf hpaths
  case paths => exact hfiles
  case readText => exact fun f hf => (hstands f hf).readText
  case readItems => exact fun f hf => (hreadable f hf).readItems
  case qualified => exact fun f hf o ho => (hstands f hf).qualified ho
  case isSome_declaration? =>
    exact fun f hf o ho d hd => ((hreadable f hf).wellMarked o ho).isSome_declaration? hd
  case declarations =>
    rw [hround]
    exact Collection.declarations_gainFiles _ files
  case isDeclared =>
    intro name
    rw [htypes, TypeTable.isDeclared, List.contains_iff_mem, Collection.declared_types,
      Collection.declared_gainFiles, Collection.start, TypeTable.mem_declared_declareAll]
    simp only [List.mem_flatMap, SourceFile.declaredNames, List.mem_filterMap]

/-- Two files of a crate: one with a marked type in an inline module, one with a trait. -/
def sampleFiles : FileSystem :=
  ⟨[(["src"], .directory),
    (["src", "a.rs"], .file "mod m \x7b #[x::mark(group = \"g\")] struct S; \x7d".toUTF8),
    (["src", "lib.rs"], .file "trait T \x7b\x7d".toUTF8)], []⟩

theorem sourceFiles_sampleFiles :
    sourceFiles sampleFiles ⟨"src"⟩ = .ok [⟨"src/a.rs"⟩, ⟨"src/lib.rs"⟩] :=
  sourceFiles_of_filesBelow rfl rfl (by decide)

theorem load_shows_sampleFiles :
    ∃ tree, load sampleFiles ⟨"src"⟩ "my-app" "mark" = .ok tree ∧
      ∃ files, tree.Shows sampleFiles ⟨"src"⟩ "my_app" "mark" files := by
  have hwf : sampleFiles.WellFormed := by decide
  have hcollect : (collect sampleFiles "my_app" "mark" ⟨"src"⟩ (Collection.start "my_app")
      [⟨"src/a.rs"⟩, ⟨"src/lib.rs"⟩]).toOption.isSome := by decide +kernel
  have hcrate : normalizeCrateName "my-app" = "my_app" := by decide
  cases hc : collect sampleFiles "my_app" "mark" ⟨"src"⟩ (Collection.start "my_app")
      [⟨"src/a.rs"⟩, ⟨"src/lib.rs"⟩] with
  | error e =>
    rw [hc] at hcollect
    cases hcollect
  | ok c =>
    have hload : load sampleFiles ⟨"src"⟩ "my-app" "mark" =
        .ok ⟨c.round, c.types "my_app", [⟨"src/a.rs"⟩, ⟨"src/lib.rs"⟩]⟩ := by
      rw [load, sourceFiles_sampleFiles, hcrate]
      simp only [hc]
    have hshows := load_shows hwf hload
    rw [hcrate] at hshows
    exact ⟨_, hload, hshows⟩

end ReceiverLoader.Source
