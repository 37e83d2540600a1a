import ReceiverLoader.Proofs.Source.Collection

/-!
# The order of files

What is known of a tree does not depend on the order in which its files are added, since paths are
resolved when all modules are known.

* `resolve_congr`: resolution only asks which modules there are.
* `types_gainFiles`: the type table of files, in terms of the modules of all of them.
* `types_gainFiles_congr`: the type table only asks which modules, declared names and
  implementations the files hold.
* `addFiles_perm`: files in another order give the same type table, and the same declarations file
  by file.
-/

namespace ReceiverLoader.Source

open Grammar (Path)

/-! ## Resolution -/

theorem absolute_congr {modules modules' : List (List String)} (h : ∀ m, m ∈ modules ↔ m ∈ modules')
    (crate : String) (module : List String) (path : Path) (localFallback : Bool) :
    absolute crate modules module path localFallback =
      absolute crate modules' module path localFallback := by
  have hcontains : ∀ m, modules.contains m = modules'.contains m := by
    intro m
    rw [Bool.eq_iff_iff, List.contains_iff_mem, List.contains_iff_mem]
    exact h m
  unfold absolute
  simp only [hcontains]

/-- Resolution only asks which modules there are. -/
theorem resolve_congr {modules modules' : List (List String)} (h : ∀ m, m ∈ modules ↔ m ∈ modules')
    (crate : String) (scope : Scope) (path : Path) :
    resolve crate modules scope path = resolve crate modules' scope path := by
  unfold resolve
  simp only [absolute_congr h]

/-! ## The type table of files -/

/-- The modules of a tree: the root of `crate`, and the modules that the files hold with those
around them. -/
def treeModules (crate : String) (files : List SourceFile) : List (List String) :=
  [crate] :: (files.flatMap SourceFile.modules).flatMap Collection.enclosingModules

/-- The type and the trait of an implementation, resolved in a tree with these modules. -/
def Occurrence.implementation? (crate : String) (modules : List (List String)) (o : Occurrence) :
    Option (String × String) :=
  o.pending?.map fun p =>
    (resolve crate modules p.scope p.self, resolve crate modules p.scope p.trait)

theorem Occurrence.implementation?_eq_some {crate type trait : String}
    {modules : List (List String)} {o : Occurrence} :
    o.implementation? crate modules = some (type, trait) ↔
      ∃ t s, o.item = .implementation (some ⟨false, t⟩) (.path s) ∧
        type = resolve crate modules o.scope s.path ∧ trait = resolve crate modules o.scope t := by
  unfold implementation? pending?
  constructor
  · intro h
    split at h
    · rename_i t s hitem
      cases h
      exact ⟨t, s, hitem, rfl, rfl⟩
    · cases h
  · rintro ⟨t, s, hitem, rfl, rfl⟩
    simp only [hitem, Option.map_some]

namespace Collection

variable {crate marker : String}

theorem mem_modules_gainFiles {files : List SourceFile} (m : List String) :
    m ∈ ((start crate).gainFiles marker files).modules ↔ m ∈ treeModules crate files := by
  rw [modules_gainFiles, mem_foldl_withModule, treeModules, List.mem_cons, List.mem_flatMap, start,
    List.mem_singleton]

/-- The type table of files: their declared names, and their implementations, resolved in the tree
of all of them. -/
theorem types_gainFiles (crate marker : String) (files : List SourceFile) :
    ((start crate).gainFiles marker files).types crate =
      (TypeTable.empty.declareAll (files.flatMap SourceFile.declaredNames)).addAll
        (files.flatMap fun f => f.occurrences.filterMap
          (Occurrence.implementation? crate (treeModules crate files))) := by
  rw [types_eq, declared_gainFiles, pending_gainFiles]
  simp only [resolve_congr mem_modules_gainFiles]
  rw [start, List.nil_append, List.map_flatMap]
  simp only [List.map_filterMap]
  rfl

/-- An implementation in a file is recorded under the names that its paths stand for. -/
theorem mem_implementations_gainFiles {files : List SourceFile} {f : SourceFile} (hf : f ∈ files)
    {o : Occurrence} (ho : o ∈ f.occurrences) {p : Pending} (hp : o.pending? = some p) :
    (resolve crate (treeModules crate files) o.scope p.self,
        resolve crate (treeModules crate files) o.scope p.trait) ∈
      (((start crate).gainFiles marker files).types crate).implementations := by
  have hscope : p.scope = o.scope := by
    unfold Occurrence.pending? at hp
    split at hp
    · cases hp
      rfl
    · cases hp
  rw [types_gainFiles, TypeTable.mem_implementations]
  refine List.mem_flatMap.mpr ⟨f, hf, List.mem_filterMap.mpr ⟨o, ho, ?_⟩⟩
  rw [Occurrence.implementation?, hp, Option.map_some, hscope]

end Collection

/-- Files that hold the same modules, declared names and implementations give the same type
table. -/
theorem types_gainFiles_congr {crate marker : String} {files files' : List SourceFile}
    (hmodules : ∀ m, m ∈ files.flatMap SourceFile.modules ↔ m ∈ files'.flatMap SourceFile.modules)
    (hdeclared : ∀ name, name ∈ files.flatMap SourceFile.declaredNames ↔
      name ∈ files'.flatMap SourceFile.declaredNames)
    (himplementations : ∀ modules p,
      p ∈ files.flatMap (fun f =>
          f.occurrences.filterMap (Occurrence.implementation? crate modules)) ↔
        p ∈ files'.flatMap fun f =>
          f.occurrences.filterMap (Occurrence.implementation? crate modules)) :
    ((Collection.start crate).gainFiles marker files).types crate =
      ((Collection.start crate).gainFiles marker files').types crate := by
  have htree (m : List String) : m ∈ treeModules crate files ↔ m ∈ treeModules crate files' := by
    rw [treeModules, treeModules, List.mem_cons, List.mem_cons, List.mem_flatMap, List.mem_flatMap]
    simp only [hmodules]
  have hresolve : Occurrence.implementation? crate (treeModules crate files) =
      Occurrence.implementation? crate (treeModules crate files') := by
    funext o
    simp only [Occurrence.implementation?, resolve_congr htree]
  rw [Collection.types_gainFiles, Collection.types_gainFiles, hresolve]
  have hordered : ∀ names pairs,
      ((TypeTable.empty.declareAll names).addAll pairs).Ordered := fun names pairs =>
    (TypeTable.ordered_empty.declareAll names).addAll pairs
  refine (hordered _ _).eq_of_mem (hordered _ _) (fun name => ?_) fun p => ?_
  · rw [TypeTable.mem_declared, TypeTable.mem_declared]
    exact hdeclared name
  · rw [TypeTable.mem_implementations, TypeTable.mem_implementations]
    exact himplementations _ p

/-- The order of files does not matter for the type table. -/
theorem types_gainFiles_perm {crate marker : String} {files files' : List SourceFile}
    (h : files.Perm files') :
    ((Collection.start crate).gainFiles marker files).types crate =
      ((Collection.start crate).gainFiles marker files').types crate :=
  types_gainFiles_congr (fun _ => (h.flatMap_right _).mem_iff)
    (fun _ => (h.flatMap_right _).mem_iff) fun _ _ => (h.flatMap_right _).mem_iff

/-- Files that can all be read give the same type table in every order, and each of them the same
declarations. The table holds the implementations that are not negated and whose type is a plain
path, resolved in the tree of all files. -/
theorem addFiles_perm {crate marker : String} {files files' : List SourceFile}
    (hfiles : ∀ f ∈ files, f.Readable marker) (hperm : files.Perm files') :
    ∃ c c', (Collection.start crate).addFiles marker files = .ok c ∧
      (Collection.start crate).addFiles marker files' = .ok c' ∧
      c.types crate = c'.types crate ∧
      c.round.declarations = files.flatMap (SourceFile.declarations marker) ∧
      c'.round.declarations = files'.flatMap (SourceFile.declarations marker) ∧
      ∀ type trait, (type, trait) ∈ (c.types crate).implementations ↔
        ∃ f ∈ files, ∃ o ∈ f.occurrences, ∃ t s,
          o.item = .implementation (some ⟨false, t⟩) (.path s) ∧
            type = resolve crate (treeModules crate files) ⟨o.module, imports o.body⟩ s.path ∧
            trait = resolve crate (treeModules crate files) ⟨o.module, imports o.body⟩ t := by
  have hfiles' : ∀ f ∈ files', f.Readable marker := fun f hf => hfiles f (hperm.mem_iff.mpr hf)
  refine ⟨_, _, Collection.addFiles_eq_ok.mpr ⟨hfiles, rfl⟩,
    Collection.addFiles_eq_ok.mpr ⟨hfiles', rfl⟩, types_gainFiles_perm hperm,
    Collection.declarations_gainFiles _ files, Collection.declarations_gainFiles _ files', ?_⟩
  intro type trait
  rw [Collection.types_gainFiles, TypeTable.mem_implementations]
  simp only [List.mem_flatMap, List.mem_filterMap, Occurrence.implementation?_eq_some]
  rfl

/-- A file whose implementation names a module that another file holds. -/
def implementingFile : SourceFile :=
  ⟨⟨"src/lib.rs"⟩, ["c"], "struct S; impl a::T for S \x7b\x7d"⟩

/-- The file of that module. -/
def traitFile : SourceFile := ⟨⟨"src/a.rs"⟩, ["c", "a"], "pub trait T \x7b\x7d"⟩

/-- The trait is resolved as that of the child module, though its file may come later. -/
theorem addFiles_perm_implementingFile :
    ∃ c c', (Collection.start "c").addFiles "mark" [implementingFile, traitFile] = .ok c ∧
      (Collection.start "c").addFiles "mark" [traitFile, implementingFile] = .ok c' ∧
      c.types "c" = c'.types "c" ∧ (c.types "c").implementations = [("c::S", "c::a::T")] := by
  have hfiles : ∀ f ∈ [implementingFile, traitFile], f.Readable "mark" := by decide +kernel
  obtain ⟨c, c', hc, hc', htypes, -⟩ :=
    @addFiles_perm "c" "mark" _ _ hfiles (List.Perm.swap traitFile implementingFile [])
  have hpairs : ((Collection.start "c").addFiles "mark" [implementingFile, traitFile]).toOption.map
      (fun c => (c.types "c").implementations) = some [("c::S", "c::a::T")] := by decide +kernel
  rw [hc] at hpairs
  exact ⟨c, c', hc, hc', htypes, Option.some.inj hpairs⟩

end ReceiverLoader.Source
