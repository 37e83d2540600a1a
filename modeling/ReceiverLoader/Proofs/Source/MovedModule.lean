import ReceiverLoader.Proofs.FileSystem.Writing
import ReceiverLoader.Proofs.Source.Contributions
import ReceiverLoader.Proofs.Source.Load

/-!
# Moving an inline module to a file of its own

An inline module may be replaced by its declaration and its items be put into a new file, at a path
that stands for the same module. The tree then loads as it did before.

* `MovedModule`: the tree after the move and the tree before it.
* `SplitsInto.perm`: the file of the module and the two files after the move contribute the same.
* `load_movedModule`: the two trees have the same types, and the same receivers but for locations.
-/

namespace ReceiverLoader.Source

open Grammar (Item TypeDeclaration Alike)
open Declaration (unlocated)

/-! ## The file of the module -/

/-- The inline module `name` of `file`, with these members, is moved to the file `new`; `rest` is
what remains of `file`. -/
structure SplitsInto (file rest new : SourceFile) (name : String) (enclosing : List String)
    (members : List Item) : Prop where
  path_eq : rest.path = file.path
  module_eq : rest.module = file.module
  items : SplitsOff name members enclosing file.items rest.items
  new_module : new.module = file.module ++ enclosing ++ [name]
  new_items : Alike members new.items

section Split

variable {file rest new : SourceFile} {name : String} {enclosing : List String}
  {members : List Item}

/-- The items of the two files contribute what those of the one file have contributed, but for the
item of the module. -/
theorem SplitsInto.perm (h : SplitsInto file rest new name enclosing members) {β : Type}
    {g : Occurrence → Option β} (hg : Placeless g) :
    ∃ o, o.item = .module name members ∧ new.module = o.module ++ [name] ∧
      (file.occurrences.filterMap g).Perm
        (rest.occurrences.filterMap g ++ ((g o).toList ++ new.occurrences.filterMap g)) := by
  obtain ⟨o, hitem, hmodule, hperm⟩ :=
    h.items.perm hg h.new_items file.path new.path file.module [] h.items.imports_eq
  have hnew : new.module = o.module ++ [name] := by
    rw [h.new_module, hmodule, List.append_nil]
  have hrest :
      rest.occurrences = bodyOccurrences file.path file.module [] rest.items rest.items := by
    rw [SourceFile.occurrences, h.path_eq, h.module_eq, occurrences]
  rw [← hnew, ← hrest] at hperm
  exact ⟨o, hitem, hnew, hperm⟩

theorem SplitsInto.perm_of_none (h : SplitsInto file rest new name enclosing members) {β : Type}
    {g : Occurrence → Option β} (hg : Placeless g)
    (hmodule : ∀ {o : Occurrence}, o.item = .module name members → g o = none) :
    (file.occurrences.filterMap g).Perm
      (rest.occurrences.filterMap g ++ new.occurrences.filterMap g) := by
  obtain ⟨o, hitem, -, hperm⟩ := h.perm hg
  rwa [hmodule hitem] at hperm

/-- The module of the new file is the one that was inline. -/
theorem SplitsInto.perm_modules (h : SplitsInto file rest new name enclosing members) :
    file.modules.Perm (rest.modules ++ new.modules) := by
  obtain ⟨o, hitem, hmodule, hperm⟩ := h.perm Occurrence.placeless_nested?
  have hnested : o.nested? = some new.module := by
    rw [Occurrence.nested?, hitem, hmodule]
  rw [hnested] at hperm
  rw [SourceFile.modules, SourceFile.modules, h.module_eq]
  exact hperm.cons file.module

theorem SplitsInto.wellMarked (h : SplitsInto file rest new name enclosing members)
    {marker : String} (hfile : ∀ o ∈ file.occurrences, o.WellMarked marker) :
    (∀ o ∈ rest.occurrences, o.WellMarked marker) ∧ ∀ o ∈ new.occurrences, o.WellMarked marker := by
  have hperm := h.perm_of_none (Occurrence.placeless_flaw? marker) fun {o} hitem => by
    rw [Occurrence.flaw?_eq, hitem]
  rw [Occurrence.forall_wellMarked_iff.mp hfile] at hperm
  obtain ⟨hrest, hnew⟩ := List.append_eq_nil_iff.mp hperm.nil_eq.symm
  exact ⟨Occurrence.forall_wellMarked_iff.mpr hrest, Occurrence.forall_wellMarked_iff.mpr hnew⟩

/-! ## The files of the tree -/

variable {files files' others : List SourceFile} (hfiles : files.Perm (file :: others))
  (hfiles' : files'.Perm (new :: rest :: others))
include hfiles hfiles'

theorem flatMap_perm {β : Type} {F : SourceFile → List β} (hF : (F file).Perm (F rest ++ F new)) :
    (files.flatMap F).Perm (files'.flatMap F) :=
  calc (files.flatMap F).Perm ((file :: others).flatMap F) := hfiles.flatMap_right F
    _ = F file ++ others.flatMap F := List.flatMap_cons
    List.Perm _ (F rest ++ F new ++ others.flatMap F) := hF.append_right _
    List.Perm _ (F new ++ F rest ++ others.flatMap F) := List.perm_append_comm.append_right _
    _ = (new :: rest :: others).flatMap F := by
      rw [List.flatMap_cons, List.flatMap_cons, List.append_assoc]
    List.Perm _ (files'.flatMap F) := (hfiles'.flatMap_right F).symm

theorem SplitsInto.types_eq (h : SplitsInto file rest new name enclosing members)
    (crate marker : String) :
    ((Collection.start crate).gainFiles marker files').types crate =
      ((Collection.start crate).gainFiles marker files).types crate := by
  refine (types_gainFiles_congr (fun m => ?_) (fun declared => ?_) fun modules p => ?_).symm
  · exact (flatMap_perm hfiles hfiles' h.perm_modules).mem_iff
  · have hfile := h.perm_of_none Occurrence.placeless_declaredName? fun {o} hitem => by
      rw [Occurrence.declaredName?, hitem]
    exact (flatMap_perm hfiles hfiles' hfile).mem_iff
  · have hfile := h.perm_of_none (Occurrence.placeless_implementation? crate modules)
      fun {o} hitem => by
        rw [Occurrence.implementation?, Occurrence.pending?, hitem, Option.map_none]
    exact (flatMap_perm hfiles hfiles' hfile).mem_iff

theorem SplitsInto.declarations_perm (h : SplitsInto file rest new name enclosing members)
    (crate marker : String) :
    (((Collection.start crate).gainFiles marker files).declarations.map unlocated).Perm
      (((Collection.start crate).gainFiles marker files').declarations.map unlocated) := by
  have hfile := h.perm_of_none (Occurrence.placeless_unlocated? marker) fun {o} hitem => by
    rw [Occurrence.unlocated?_eq, hitem]
  rw [Collection.unlocated_gainFiles, Collection.unlocated_gainFiles]
  exact flatMap_perm hfiles hfiles' hfile

end Split

/-! ## The tree on disk -/

theorem exists_sourceFiles {fs : FileSystem} {directory p : FilePath}
    (h : IsSourceFile fs directory p) : ∃ files, sourceFiles fs directory = .ok files := by
  obtain ⟨root, node, names, content, hfind, -⟩ := h
  rw [sourceFiles, FileSystem.filesBelow, hfind]
  exact ⟨_, rfl⟩

/-- The tree of `crate` below `directory` in `fs'` is that in `fs` with an inline module moved to a
file of its own. -/
structure MovedModule (fs fs' : FileSystem) (directory : FilePath) (crate : String) where
  name : String
  members : List Item
  /-- The inline modules around the module, the outermost first. -/
  enclosing : List String
  /-- The file that the module stands in. -/
  path : FilePath
  items : List Item
  items' : List Item
  /-- The file that the module is moved to. -/
  new : FilePath
  newItems : List Item
  isSourceFile_path : IsSourceFile fs directory path
  not_isSourceFile_new : ¬IsSourceFile fs directory new
  isSourceFile_iff : ∀ p, IsSourceFile fs' directory p ↔ IsSourceFile fs directory p ∨ p = new
  readText_eq : ∀ p, IsSourceFile fs directory p → p ≠ path → fs'.readText p = fs.readText p
  holds : Holds fs path items
  /-- The module is replaced by its declaration. -/
  splitsOff : SplitsOff name members enclosing items items'
  holds' : Holds fs' path items'
  /-- The new file stands for the module, and holds its items. -/
  modulePath_new :
    modulePath crate directory new = modulePath crate directory path ++ enclosing ++ [name]
  alike_newItems : Alike members newItems
  holds_new : Holds fs' new newItems

namespace MovedModule

variable {fs fs' : FileSystem} {directory : FilePath} {crate crateName marker : String}
  (move : MovedModule fs fs' directory crate)
include move

theorem splitsInto :
    SplitsInto (fileAt fs directory crate move.path) (fileAt fs' directory crate move.path)
      (fileAt fs' directory crate move.new) move.name move.enclosing move.members where
  path_eq := rfl
  module_eq := rfl
  items := move.holds.items_fileAt.symm ▸ move.holds'.items_fileAt.symm ▸ move.splitsOff
  new_module := move.modulePath_new
  new_items := move.holds_new.items_fileAt.symm ▸ move.alike_newItems

theorem fileAt_eq {p : FilePath} (hp : IsSourceFile fs directory p) (hne : p ≠ move.path) :
    fileAt fs' directory crate p = fileAt fs directory crate p := by
  rw [fileAt, fileAt, move.readText_eq p hp hne]

/-- If the files of the tree could be read and added, they can after the move. -/
theorem loadsAt (h : ∀ p, IsSourceFile fs directory p → LoadsAt fs directory crate marker p)
    {p : FilePath} (hp : IsSourceFile fs' directory p) : LoadsAt fs' directory crate marker p := by
  obtain ⟨hrest, hnew⟩ :=
    move.splitsInto.wellMarked (h move.path move.isSourceFile_path).readable.wellMarked
  rcases (move.isSourceFile_iff p).mp hp with hp | rfl
  · by_cases hpath : p = move.path
    · subst hpath
      exact move.holds'.loadsAt hrest
    · have heq := move.fileAt_eq hp hpath
      obtain ⟨hread, hreadable⟩ := h p hp
      refine ⟨?_, heq ▸ hreadable⟩
      rw [move.readText_eq p hp hpath, heq, hread]
  · exact move.holds_new.loadsAt hnew

/-- The files after the move, in terms of those before it. -/
theorem perm_files {paths paths' : List FilePath} (hnodup : paths.Nodup) (hnodup' : paths'.Nodup)
    (hmem : ∀ p, p ∈ paths ↔ IsSourceFile fs directory p)
    (hmem' : ∀ p, p ∈ paths' ↔ IsSourceFile fs' directory p) :
    ∃ others, (paths.map (fileAt fs directory crate)).Perm
        (fileAt fs directory crate move.path :: others) ∧
      (paths'.map (fileAt fs' directory crate)).Perm
        (fileAt fs' directory crate move.new ::
          fileAt fs' directory crate move.path :: others) := by
  have hpath : paths.Perm (move.path :: paths.erase move.path) :=
    List.perm_cons_erase ((hmem _).mpr move.isSourceFile_path)
  have hnew : (move.new :: paths).Nodup :=
    List.nodup_cons.mpr ⟨fun h => move.not_isSourceFile_new ((hmem _).mp h), hnodup⟩
  have hpaths' : paths'.Perm (move.new :: paths) := by
    refine (List.perm_ext_iff_of_nodup hnodup' hnew).mpr fun p => ?_
    rw [hmem', move.isSourceFile_iff, List.mem_cons, hmem, or_comm]
  have hothers : (paths.erase move.path).map (fileAt fs' directory crate) =
      (paths.erase move.path).map (fileAt fs directory crate) := by
    refine List.map_congr_left fun p hp => ?_
    obtain ⟨hne, hp⟩ := hnodup.mem_erase_iff.mp hp
    exact move.fileAt_eq ((hmem p).mp hp) hne
  refine ⟨(paths.erase move.path).map (fileAt fs directory crate), hpath.map _, ?_⟩
  rw [← hothers]
  exact (hpaths'.trans (hpath.cons move.new)).map _

end MovedModule

variable {fs fs' : FileSystem} {directory : FilePath} {crateName marker : String}

/-- After an inline module has been moved to a file of its own, the tree loads as before: with the
same types and, if the names of its marked types differ, with the same receivers but for locations.
A round then aborts for the same declaration, or generates the same loader. -/
theorem load_movedModule (wf : fs.WellFormed) (wf' : fs'.WellFormed)
    (move : MovedModule fs fs' directory (normalizeCrateName crateName)) {tree : Tree}
    (h : load fs directory crateName marker = .ok tree) :
    ∃ tree', load fs' directory crateName marker = .ok tree' ∧ tree'.types = tree.types ∧
      ((tree.round.declarations.map (·.name)).Nodup →
        (∀ name, (tree'.round.scan name).map unlocated = (tree.round.scan name).map unlocated) ∧
          ∀ {σ : Type} [BuildContext σ] (host : σ) (settings : Settings),
            (processRound host settings tree.round).2.Alike
              (processRound host settings tree'.round).2) := by
  obtain ⟨hpaths, hloads, c, rfl, hround, htypes⟩ := load_eq_ok_iff.mp h
  obtain ⟨paths', hpaths'⟩ :=
    exists_sourceFiles ((move.isSourceFile_iff move.new).mpr (Or.inr rfl))
  have hmem (p : FilePath) : p ∈ tree.files ↔ IsSourceFile fs directory p :=
    mem_sourceFiles wf hpaths
  have hmem' (p : FilePath) : p ∈ paths' ↔ IsSourceFile fs' directory p :=
    mem_sourceFiles wf' hpaths'
  obtain ⟨others, hfiles, hfiles'⟩ := move.perm_files (ascending_sourceFiles wf hpaths).nodup
    (ascending_sourceFiles wf' hpaths').nodup hmem hmem'
  let c' := (Collection.start (normalizeCrateName crateName)).gainFiles marker
    (paths'.map (fileAt fs' directory (normalizeCrateName crateName)))
  have hload : load fs' directory crateName marker =
      .ok ⟨c'.round, c'.types (normalizeCrateName crateName), paths'⟩ := by
    refine load_eq_ok_iff.mpr ⟨hpaths', fun p hp => ?_, c', rfl, rfl, rfl⟩
    exact move.loadsAt (fun p hp => hloads p ((hmem p).mpr hp)) ((hmem' p).mp hp)
  refine ⟨_, hload, ?_, fun hnames => ?_⟩
  · rw [htypes]
    exact move.splitsInto.types_eq hfiles hfiles' _ _
  · have hscan (name : String) :
        (tree.round.scan name).map unlocated = (c'.round.scan name).map unlocated := by
      refine Round.scan_eq_of_perm ?_ hnames name
      rw [hround]
      exact move.splitsInto.declarations_perm hfiles hfiles' _ _
    exact ⟨fun name => (hscan name).symm, fun host settings =>
      processRound_alike host settings (hscan settings.marker)⟩

/-! ### A tree with a module in a module -/

/-- A source tree of one file, which holds a module in a module. -/
def inlineFiles : FileSystem :=
  ⟨[(["src"], .directory),
    (["src", "lib.rs"],
      .file "mod outer \x7b mod a \x7b #[mark] struct S; \x7d \x7d".toUTF8)], []⟩

/-- The source tree with the inner module in a file of its own. -/
def movedFiles : FileSystem :=
  ⟨[(["src"], .directory),
    (["src", "lib.rs"], .file "mod outer \x7b mod a; \x7d".toUTF8),
    (["src", "outer"], .directory),
    (["src", "outer", "a.rs"], .file "#[mark] struct S;".toUTF8)], []⟩

/-- Whether an item is the type in that module, wherever it stands. -/
def isSampleType : Item → Bool
  | .type ⟨[⟨⟨false, ["mark"]⟩, .nothing⟩], "S", _,
      [.leaf _ (.mark '#' false), .group _ _ .bracket [.leaf _ (.word "mark")],
        .leaf _ (.word "struct"), .leaf _ (.word "S"), .leaf _ (.mark ';' false)]⟩ => true
  | _ => false

theorem alike_of_isSampleType {item item' : Item} (h : isSampleType item = true)
    (h' : isSampleType item' = true) : Alike item item' := by
  unfold isSampleType at h h'
  split at h
  · split at h'
    · infer_instance
    · cases h'
  · cases h

/-- Whether an item says nothing to the search. -/
def isOther : Item → Bool
  | .other => true
  | _ => false

theorem eq_other_of_isOther {item : Item} (h : isOther item = true) : item = .other := by
  cases item with
  | other => rfl
  | _ => cases h

/-- The items of a file that holds nothing but modules with these names, each in the one before, and
`item` in the innermost. -/
def nest : List String → Item → List Item
  | [], item => [item]
  | name :: names, item => [.module name (nest names item)]

/-- The item in modules with these names that hold nothing else. -/
def innermost? : List String → List Item → Option Item
  | [], [item] => some item
  | name :: names, [.module name' items] => if name = name' then innermost? names items else none
  | _, _ => none

theorem eq_nest_of_innermost? {names : List String} {items : List Item} {item : Item}
    (h : innermost? names items = some item) : items = nest names item := by
  fun_induction innermost? names items with
  | case1 item => rw [nest, Option.some.inj h]
  | case2 name names items ih => rw [nest, ih h]
  | case3 => cases h
  | case4 => cases h

theorem holds_nest {fs : FileSystem} {p : FilePath} {text : String} {names : List String}
    {test : Item → Bool} (htext : fs.readText p = .ok text)
    (hread : ((readItems text).toOption.bind (innermost? names)).any test = true) :
    ∃ item, test item = true ∧ Holds fs p (nest names item) := by
  obtain ⟨item, hitem, htest⟩ := (Option.any_eq_true _ _).mp hread
  cases hitems : readItems text with
  | error e =>
    rw [hitems] at hitem
    cases hitem
  | ok items =>
    rw [hitems] at hitem
    exact ⟨item, htest, text, htext, eq_nest_of_innermost? hitem ▸ hitems⟩

theorem holds_inlineFiles : ∃ item, isSampleType item = true ∧
    Holds inlineFiles ⟨"src/lib.rs"⟩ [.module "outer" [.module "a" [item]]] := by
  have htext : inlineFiles.readText ⟨"src/lib.rs"⟩ =
      .ok "mod outer \x7b mod a \x7b #[mark] struct S; \x7d \x7d" :=
    FileSystem.readText_of_find rfl
  exact @holds_nest _ _ _ ["outer", "a"] _ htext (by decide +kernel)

theorem holds_movedFiles : Holds movedFiles ⟨"src/lib.rs"⟩ [.module "outer" [.other]] := by
  have htext : movedFiles.readText ⟨"src/lib.rs"⟩ =
      .ok "mod outer \x7b mod a; \x7d" := FileSystem.readText_of_find rfl
  have hread : ((readItems "mod outer \x7b mod a; \x7d").toOption.bind (innermost? ["outer"])).any
      isOther = true := by decide +kernel
  obtain ⟨item, hitem, hholds⟩ := holds_nest htext hread
  rwa [eq_other_of_isOther hitem] at hholds

theorem holds_movedFiles_new :
    ∃ item, isSampleType item = true ∧ Holds movedFiles ⟨"src/outer/a.rs"⟩ [item] := by
  have htext : movedFiles.readText ⟨"src/outer/a.rs"⟩ = .ok "#[mark] struct S;" :=
    FileSystem.readText_of_find rfl
  exact @holds_nest _ _ _ [] _ htext (by decide +kernel)

theorem sourceFiles_inlineFiles : sourceFiles inlineFiles ⟨"src"⟩ = .ok [⟨"src/lib.rs"⟩] :=
  sourceFiles_of_filesBelow rfl rfl (by decide)

theorem sourceFiles_movedFiles :
    sourceFiles movedFiles ⟨"src"⟩ = .ok [⟨"src/lib.rs"⟩, ⟨"src/outer/a.rs"⟩] :=
  sourceFiles_of_filesBelow rfl rfl (by decide)

theorem wellFormed_inlineFiles : inlineFiles.WellFormed := by decide

theorem wellFormed_movedFiles : movedFiles.WellFormed := by decide

/-- The move of the inner module. -/
theorem nonempty_movedModule :
    Nonempty (MovedModule inlineFiles movedFiles ⟨"src"⟩ (normalizeCrateName "c")) := by
  obtain ⟨item, hitem, hholds⟩ := holds_inlineFiles
  obtain ⟨item', hitem', hnew⟩ := holds_movedFiles_new
  have halike : Alike item item' := alike_of_isSampleType hitem hitem'
  have hmembers : Alike [item] [item'] := inferInstance
  have hmem (p : FilePath) : IsSourceFile inlineFiles ⟨"src"⟩ p ↔ p = ⟨"src/lib.rs"⟩ := by
    rw [← mem_sourceFiles wellFormed_inlineFiles sourceFiles_inlineFiles, List.mem_singleton]
  have hmem' (p : FilePath) :
      IsSourceFile movedFiles ⟨"src"⟩ p ↔ p = ⟨"src/lib.rs"⟩ ∨ p = ⟨"src/outer/a.rs"⟩ := by
    rw [← mem_sourceFiles wellFormed_movedFiles sourceFiles_movedFiles, List.mem_cons,
      List.mem_singleton]
  have hinner : SplitsOff "a" [item] [] ([] ++ .module "a" [item] :: []) ([] ++ .other :: []) :=
    .here inferInstance inferInstance
  have houter : SplitsOff "a" [item] ["outer"] ([] ++ .module "outer" _ :: [])
      ([] ++ .module "outer" _ :: []) := .inside "outer" inferInstance inferInstance hinner
  refine ⟨?_⟩
  constructor
  case name => exact "a"
  case path => exact ⟨"src/lib.rs"⟩
  case new => exact ⟨"src/outer/a.rs"⟩
  case isSourceFile_path => exact (hmem _).mpr rfl
  case not_isSourceFile_new => exact fun h => absurd ((hmem _).mp h) (by decide)
  case isSourceFile_iff =>
    intro p
    rw [hmem', hmem]
  case readText_eq => exact fun p hp hne => absurd ((hmem p).mp hp) hne
  case holds => exact hholds
  case splitsOff => exact houter
  case holds' => exact holds_movedFiles
  case modulePath_new => decide
  case alike_newItems => exact hmembers
  case holds_new => exact hnew

theorem load_inlineFiles :
    ∃ tree, load inlineFiles ⟨"src"⟩ "c" "mark" = .ok tree ∧
      tree.round.declarations.map (·.name) = ["c::outer::a::S"] := by
  have hloads : ∀ p ∈ [⟨"src/lib.rs"⟩],
      LoadsAt inlineFiles ⟨"src"⟩ (normalizeCrateName "c") "mark" p := by decide +kernel
  obtain ⟨tree, hload, -, c, rfl, hround, -⟩ := load_of_loadsAt sourceFiles_inlineFiles hloads
  refine ⟨tree, hload, ?_⟩
  rw [hround]
  decide +kernel

theorem load_movedModule_movedFiles :
    ∃ tree tree', load inlineFiles ⟨"src"⟩ "c" "mark" = .ok tree ∧
      load movedFiles ⟨"src"⟩ "c" "mark" = .ok tree' ∧ tree'.types = tree.types ∧
      tree.round.declarations.map (·.name) = ["c::outer::a::S"] ∧
      (tree'.round.scan "mark").map unlocated = (tree.round.scan "mark").map unlocated := by
  obtain ⟨move⟩ := nonempty_movedModule
  obtain ⟨tree, hload, hnames⟩ := load_inlineFiles
  obtain ⟨tree', hload', htypes, halike⟩ :=
    load_movedModule wellFormed_inlineFiles wellFormed_movedFiles move hload
  obtain ⟨hscan, -⟩ := halike (by rw [hnames]; decide)
  exact ⟨tree, tree', hload, hload', htypes, hnames, hscan "mark"⟩

end ReceiverLoader.Source
