import ReceiverLoader.Proofs.FileSystem.Writing
import ReceiverLoader.Proofs.Source.Contributions
import ReceiverLoader.Proofs.Source.Importing

/-!
# Imports are transparent

In the header of an implementation an imported name may be replaced by the path that it was imported
from: the tree loads as before. The exception is a lone name that is imported and stands for no
module. It is taken for the name of another crate, even if the module declares it.

* `Tree.SpelledOut`: a source tree in which imported names are replaced.
* `SpelledOut.filterMap_eq`: what items contribute does not depend on it.
* `load_transparent`: the tree loads as before; and what the exception is recorded as.
* `load_mistakes_aliasText`: a trait that is imported from its own module is mistaken.
-/

namespace ReceiverLoader.Source

open Grammar (Path TypeForm PathForm Item)
open Declaration (unlocated)

/-! ## Headers -/

/-- What may be written for a path in a header where `o` stands: the same, or for its first segment
the path that this was imported from. Of the paths that come of this some only are admitted. -/
inductive PathSpelledOut (admitted : List String → Path → Prop) (o : Occurrence) :
    Path → Path → Prop
  | same (path : Path) : PathSpelledOut admitted o path path
  | imported {name first : String} {path : Path} {rest : List String} :
      SolelyFrom o.body name path → path.segments.head? = some first →
      (path.leadingColon = false → ∀ other, ¬ ImportedFrom o.body first other) →
      admitted o.module (beyond path rest) →
      PathSpelledOut admitted o ⟨false, name :: rest⟩ (beyond path rest)

/-- What may be written for a type in a header. -/
inductive FormSpelledOut (admitted : List String → Path → Prop) (o : Occurrence) :
    TypeForm → TypeForm → Prop
  | same (form : TypeForm) : FormSpelledOut admitted o form form
  | path {form form' : PathForm} : PathSpelledOut admitted o form.path form'.path →
      FormSpelledOut admitted o (.path form) (.path form')

/-- What may be written for an item: the same but for positions, another header, or a module with
other members, which are looked at where they stand. -/
inductive ItemSpelledOut (admitted : List String → Path → Prop) (o : Occurrence) :
    Item → Item → Prop
  | like {item item' : Item} : Item.Like item item' → ItemSpelledOut admitted o item item'
  | inherent {self self' : TypeForm} : FormSpelledOut admitted o self self' →
      ItemSpelledOut admitted o (.implementation none self) (.implementation none self')
  | trait {isNegative : Bool} {trait trait' : Path} {self self' : TypeForm} :
      PathSpelledOut admitted o trait trait' → FormSpelledOut admitted o self self' →
      ItemSpelledOut admitted o (.implementation (some ⟨isNegative, trait⟩) self)
        (.implementation (some ⟨isNegative, trait'⟩) self')
  | module {name : String} {items items' : List Item} :
      ItemSpelledOut admitted o (.module name items) (.module name items')

/-- What may stand in the place of an item: in the same module, with the same imports. -/
structure Occurrence.SpelledOut (admitted : List String → Path → Prop) (o o' : Occurrence) :
    Prop where
  module_eq : o'.module = o.module
  bindings_eq : o'.body.flatMap itemBindings = o.body.flatMap itemBindings
  item : ItemSpelledOut admitted o o.item o'.item

theorem Occurrence.SpelledOut.scope_eq {admitted : List String → Path → Prop} {o o' : Occurrence}
    (h : o.SpelledOut admitted o') : o'.scope = o.scope := by
  rw [scope, scope, h.module_eq, imports_eq, imports_eq, h.bindings_eq]

section Resolve

variable {modules : List (List String)} {o o' : Occurrence}

/-- Settled paths stand for the same. -/
theorem PathSpelledOut.resolve_eq {path path' : Path}
    (h : PathSpelledOut (IsSettled modules) o path path') (root : String) :
    resolve root modules o.scope path' = resolve root modules o.scope path := by
  cases h with
  | same => rfl
  | @imported name first path rest hfrom hfirst hfree hsettled =>
    have hdirect : resolve root modules o.scope (beyond path rest) =
        QualifiedName.ofSegments (absolute root modules o.module (beyond path rest) true) := by
      refine resolve_direct fun hcolon other hother => ?_
      have hhead : (beyond path rest).segments.head? = some first := by
        rw [beyond, List.head?_append, hfirst, Option.some_or]
      obtain rfl : first = other := Option.some.inj (hhead.symm.trans hother)
      exact hfree hcolon
    rw [hdirect, ← absolute_settled hsettled]
    exact (resolve_imported hfrom rest).symm

theorem Occurrence.SpelledOut.implementation?_eq (h : o.SpelledOut (IsSettled modules) o')
    (root : String) : o'.implementation? root modules = o.implementation? root modules := by
  have hscope := h.scope_eq
  obtain ⟨-, -, hitem⟩ := h
  generalize hfrom : o.item = item at hitem
  generalize hto : o'.item = item' at hitem
  cases hitem with
  | like hlike =>
    exact ((placeless_implementation? root modules).alike hscope.symm
      (hfrom.symm ▸ hto.symm ▸ hlike)).symm
  | inherent => simp only [implementation?, pending?, hfrom, hto]
  | module => simp only [implementation?, pending?, hfrom, hto]
  | @trait isNegative trait trait' self self' htrait hself =>
    cases isNegative with
    | true => simp only [implementation?, pending?, hfrom, hto]
    | false =>
      cases hself with
      | same =>
        cases self with
        | path form =>
          simp only [implementation?, pending?, hfrom, hto, Option.map_some, hscope,
            htrait.resolve_eq]
        | soleBound | other => simp only [implementation?, pending?, hfrom, hto]
      | path hself =>
        simp only [implementation?, pending?, hfrom, hto, Option.map_some, hscope,
          htrait.resolve_eq, hself.resolve_eq]

end Resolve

/-! ## Contributions -/

section Contributions

variable {admitted : List String → Path → Prop} {β : Type} {g : Occurrence → Option β}

/-- Besides what it says of implementations, nothing that an item contributes depends on headers. -/
theorem Occurrence.SpelledOut.apply_eq (hg : Placeless g)
    (hheader : ∀ {o : Occurrence} {trait self}, o.item = .implementation trait self → g o = none)
    {o o' : Occurrence} (h : o.SpelledOut admitted o') : g o' = g o := by
  have hscope := h.scope_eq
  obtain ⟨-, -, hitem⟩ := h
  generalize hfrom : o.item = item at hitem
  generalize hto : o'.item = item' at hitem
  cases hitem with
  | like hlike => exact (hg.alike hscope.symm (hfrom.symm ▸ hto.symm ▸ hlike)).symm
  | inherent => rw [hheader hfrom, hheader hto]
  | trait => rw [hheader hfrom, hheader hto]
  | module => exact (hg.module hscope.symm hfrom hto).symm

theorem filterMap_eq_of_forall₂ {R : Occurrence → Occurrence → Prop}
    (hR : ∀ o o', R o o' → g o' = g o) {os os' : List Occurrence} (h : List.Forall₂ R os os') :
    os'.filterMap g = os.filterMap g := by
  induction h with
  | nil => rfl
  | cons ho _ ih => rw [filterMap_cons_eq, filterMap_cons_eq, hR _ _ ho, ih]

end Contributions

/-! ## Trees -/

section Trees

variable {fs fs' : FileSystem} {directory : FilePath} {crateName root marker : String}

/-- The tree of `root` below `directory` in `fs'` is that in `fs`, which has these files, but for
headers in which imported names are replaced. -/
structure SpelledOut (admitted : List String → Path → Prop) (fs fs' : FileSystem)
    (directory : FilePath) (root : String) (paths : List FilePath) : Prop where
  sourceFiles : sourceFiles fs' directory = .ok paths
  holds : ∀ p ∈ paths, ∃ items, Holds fs' p items
  occurrences : ∀ p ∈ paths, List.Forall₂ (Occurrence.SpelledOut admitted)
    (fileAt fs directory root p).occurrences (fileAt fs' directory root p).occurrences

/-- The modules of a source tree with these files. -/
def modulesAt (fs : FileSystem) (directory : FilePath) (root : String) (paths : List FilePath) :
    List (List String) :=
  treeModules root (paths.map (fileAt fs directory root))

namespace SpelledOut

variable {admitted : List String → Path → Prop} {paths : List FilePath}

theorem flatMap_eq {β : Type} {g : Occurrence → Option β}
    (hspelled : SpelledOut admitted fs fs' directory root paths)
    (hg : ∀ o o' : Occurrence, o.SpelledOut admitted o' → g o' = g o) :
    ((paths.map (fileAt fs' directory root)).flatMap fun f => f.occurrences.filterMap g) =
      (paths.map (fileAt fs directory root)).flatMap fun f => f.occurrences.filterMap g := by
  rw [List.flatMap_map, List.flatMap_map]
  exact List.flatMap_congr fun p hp => filterMap_eq_of_forall₂ hg (hspelled.occurrences p hp)

theorem modulesAt_eq (hspelled : SpelledOut admitted fs fs' directory root paths) :
    modulesAt fs' directory root paths = modulesAt fs directory root paths := by
  have hmodules : (paths.map (fileAt fs' directory root)).flatMap SourceFile.modules =
      (paths.map (fileAt fs directory root)).flatMap SourceFile.modules := by
    rw [List.flatMap_map, List.flatMap_map]
    refine List.flatMap_congr fun p hp => congrArg (modulePath root directory p :: ·) ?_
    exact filterMap_eq_of_forall₂ (fun _ _ h => h.apply_eq Occurrence.placeless_nested?
      fun hitem => by rw [Occurrence.nested?, hitem]) (hspelled.occurrences p hp)
  rw [modulesAt, modulesAt, treeModules, treeModules, hmodules]

theorem loadsAt (hspelled : SpelledOut admitted fs fs' directory root paths) {p : FilePath}
    (hp : p ∈ paths) (hloads : LoadsAt fs directory root marker p) :
    LoadsAt fs' directory root marker p := by
  obtain ⟨items, hholds⟩ := hspelled.holds p hp
  refine hholds.loadsAt (Occurrence.forall_wellMarked_iff.mpr ?_)
  rw [← Occurrence.forall_wellMarked_iff.mp hloads.readable.wellMarked]
  exact filterMap_eq_of_forall₂ (fun _ _ h => h.apply_eq (Occurrence.placeless_flaw? marker)
    fun hitem => by rw [Occurrence.flaw?_eq, hitem]) (hspelled.occurrences p hp)

theorem declarations_eq (hspelled : SpelledOut admitted fs fs' directory root paths)
    (crate : String) :
    ((Collection.start crate).gainFiles marker
        (paths.map (fileAt fs' directory root))).declarations.map unlocated =
      ((Collection.start crate).gainFiles marker
        (paths.map (fileAt fs directory root))).declarations.map unlocated := by
  rw [Collection.unlocated_gainFiles, Collection.unlocated_gainFiles]
  exact hspelled.flatMap_eq fun _ _ h => h.apply_eq (Occurrence.placeless_unlocated? marker)
    fun hitem => by rw [Occurrence.unlocated?_eq, hitem]

theorem types_eq
    (hspelled : SpelledOut (IsSettled (modulesAt fs directory root paths)) fs fs' directory root
      paths) :
    ((Collection.start root).gainFiles marker
        (paths.map (fileAt fs' directory root))).types root =
      ((Collection.start root).gainFiles marker
        (paths.map (fileAt fs directory root))).types root := by
  have hmodules := hspelled.modulesAt_eq
  have hdeclared := hspelled.flatMap_eq fun _ _ h => h.apply_eq Occurrence.placeless_declaredName?
    fun hitem => by rw [Occurrence.declaredName?, hitem]
  have himplementations := hspelled.flatMap_eq fun _ _ h => h.implementation?_eq root
  rw [modulesAt, modulesAt] at hmodules
  rw [modulesAt] at himplementations
  rw [Collection.types_gainFiles, Collection.types_gainFiles, hmodules, himplementations]
  exact congrArg (fun names => (TypeTable.empty.declareAll names).addAll _) hdeclared

end SpelledOut

/-- How a tree depends on the way in which headers of implementations refer to imports. -/
structure Tree.IsTransparent (tree : Tree) (fs : FileSystem) (directory : FilePath)
    (crateName marker : String) : Prop where
  /-- With imported names replaced by what they were imported from, the tree loads as before. -/
  spelledOut : ∀ fs', SpelledOut
      (IsSettled (modulesAt fs directory (normalizeCrateName crateName) tree.files)) fs fs'
      directory (normalizeCrateName crateName) tree.files →
    ∃ tree', load fs' directory crateName marker = .ok tree' ∧ tree'.files = tree.files ∧
      tree'.types = tree.types ∧
      tree'.round.declarations.map unlocated = tree.round.declarations.map unlocated
  /-- A lone name that is imported and stands for no module is recorded as it is. -/
  foreign : ∀ p ∈ tree.files,
    ∀ o ∈ (fileAt fs directory (normalizeCrateName crateName) p).occurrences,
    ∀ pending, o.pending? = some pending →
      ∃ type trait, (type, trait) ∈ tree.types.implementations ∧
        ∀ name other, SolelyFrom o.body name ⟨false, [other]⟩ →
          ¬ IsSettled (modulesAt fs directory (normalizeCrateName crateName) tree.files) o.module
            ⟨false, [other]⟩ →
          (pending.self = ⟨false, [name]⟩ → type = other) ∧
            (pending.trait = ⟨false, [name]⟩ → trait = other)

/-- In a tree that has been loaded, imported names may be replaced by settled paths. -/
theorem load_transparent {tree : Tree} (hload : load fs directory crateName marker = .ok tree) :
    tree.IsTransparent fs directory crateName marker := by
  obtain ⟨-, hloads, c, rfl, hround, htypes⟩ := load_eq_ok_iff.mp hload
  generalize hroot : normalizeCrateName crateName = root at *
  refine ⟨fun fs' hspelled => ?_, fun p hp o ho pending hpending => ?_⟩
  · rw [hroot] at hspelled
    have hloads' : ∀ p ∈ tree.files,
        LoadsAt fs' directory (normalizeCrateName crateName) marker p := by
      rw [hroot]
      exact fun p hp => hspelled.loadsAt hp (hloads p hp)
    obtain ⟨tree', hload', hfiles, c', rfl, hround', htypes'⟩ :=
      load_of_loadsAt hspelled.sourceFiles hloads'
    rw [hroot] at hround' htypes'
    refine ⟨tree', hload', hfiles, ?_, ?_⟩
    · rw [htypes', htypes, hspelled.types_eq]
    · rw [hround', hround]
      exact hspelled.declarations_eq root
  · rw [hroot] at ho ⊢
    refine ⟨resolve root (modulesAt fs directory root tree.files) o.scope pending.self,
      resolve root (modulesAt fs directory root tree.files) o.scope pending.trait, ?_,
      fun name other hfrom hforeign => ?_⟩
    · rw [htypes]
      exact Collection.mem_implementations_gainFiles (List.mem_map_of_mem hp) ho hpending
    · have hname : resolve root (modulesAt fs directory root tree.files) o.scope
          ⟨false, [name]⟩ = other := by
        rw [Occurrence.scope, resolve_imported hfrom, beyond, List.append_nil,
          absolute_foreign hforeign]
        rfl
      refine ⟨fun hself => ?_, fun htrait => ?_⟩
      · rw [hself]
        exact hname
      · rw [htrait]
        exact hname

end Trees

/-! ### Trees of one file -/

/-- A source tree of one file. -/
def fileOf (text : String) : FileSystem :=
  ⟨[(["src"], .directory), (["src", "lib.rs"], .file text.toUTF8)], []⟩

theorem sourceFiles_fileOf (text : String) :
    sourceFiles (fileOf text) ⟨"src"⟩ = .ok [⟨"src/lib.rs"⟩] := by
  have hbelow : (fileOf text).filesBelow ⟨"src"⟩ =
      .ok [(⟨"src"⟩ : FilePath).descend ["lib.rs"]] := rfl
  have hpath : (⟨"src"⟩ : FilePath).descend ["lib.rs"] = ⟨"src/lib.rs"⟩ := rfl
  rw [hpath] at hbelow
  exact sourceFiles_of_filesBelow hbelow rfl (by decide)

theorem readText_fileOf (text : String) :
    (fileOf text).readText ⟨"src/lib.rs"⟩ = .ok text :=
  have hfind : (fileOf text).find ⟨"src/lib.rs"⟩ = .ok (["src", "lib.rs"], .file text.toUTF8) := rfl
  FileSystem.readText_of_find hfind

/-- What is collected from such a file with these items. -/
def collected (root marker : String) (items : List Item) : Collection :=
  let module := modulePath root ⟨"src"⟩ ⟨"src/lib.rs"⟩
  ((Collection.start root).addModule module).gain marker
    (occurrences ⟨"src/lib.rs"⟩ module items)

theorem load_fileOf {text crateName marker : String} {items : List Item}
    (hholds : Holds (fileOf text) ⟨"src/lib.rs"⟩ items)
    (hmarked : ∀ o ∈ occurrences ⟨"src/lib.rs"⟩
      (modulePath (normalizeCrateName crateName) ⟨"src"⟩ ⟨"src/lib.rs"⟩) items,
      o.WellMarked marker) :
    ∃ tree, load (fileOf text) ⟨"src"⟩ crateName marker = .ok tree ∧
      tree.files = [⟨"src/lib.rs"⟩] ∧
      tree.types = (collected (normalizeCrateName crateName) marker items).types
        (normalizeCrateName crateName) := by
  generalize hroot : normalizeCrateName crateName = root at *
  have hoccurrences : (fileAt (fileOf text) ⟨"src"⟩ root ⟨"src/lib.rs"⟩).occurrences =
      occurrences ⟨"src/lib.rs"⟩ (modulePath root ⟨"src"⟩ ⟨"src/lib.rs"⟩) items := by
    rw [SourceFile.occurrences, hholds.items_fileAt]
    rfl
  have hloads : ∀ p ∈ [⟨"src/lib.rs"⟩],
      LoadsAt (fileOf text) ⟨"src"⟩ (normalizeCrateName crateName) marker p := by
    rw [hroot]
    exact List.forall_mem_singleton.mpr (hholds.loadsAt (hoccurrences ▸ hmarked))
  obtain ⟨tree, hload, hfiles, c, rfl, -, htypes⟩ :=
    load_of_loadsAt (sourceFiles_fileOf text) hloads
  refine ⟨tree, hload, hfiles, ?_⟩
  rw [htypes, hroot, collected, ← hoccurrences]
  rfl

/-- Two such trees are related as their items are, one by one. -/
theorem spelledOut_fileOf {admitted : List String → Path → Prop} {text text' : String}
    {items items' : List Item} {root : String}
    (hholds : Holds (fileOf text) ⟨"src/lib.rs"⟩ items)
    (hholds' : Holds (fileOf text') ⟨"src/lib.rs"⟩ items')
    (h : List.Forall₂ (Occurrence.SpelledOut admitted)
      (occurrences ⟨"src/lib.rs"⟩ (modulePath root ⟨"src"⟩ ⟨"src/lib.rs"⟩) items)
      (occurrences ⟨"src/lib.rs"⟩ (modulePath root ⟨"src"⟩ ⟨"src/lib.rs"⟩) items')) :
    SpelledOut admitted (fileOf text) (fileOf text') ⟨"src"⟩ root [⟨"src/lib.rs"⟩] where
  sourceFiles := sourceFiles_fileOf text'
  holds := List.forall_mem_singleton.mpr ⟨items', hholds'⟩
  occurrences := by
    refine List.forall_mem_singleton.mpr ?_
    rw [SourceFile.occurrences, SourceFile.occurrences, hholds.items_fileAt, hholds'.items_fileAt]
    exact h

/-! ### A module that is imported -/

/-- A trait in a module of a module, which is imported under another name, and what implements it
for a type `S`. -/
def moduleItems (trait : Path) : List Item :=
  [.use false (.path "a" (.group [.rename "b" "x", .name "c"])),
    .module "a" [.module "b" [.trait "T"]],
    .implementation (some ⟨false, trait⟩) (.path ⟨⟨false, ["S"]⟩, true, true⟩)]

/-- Whether these are such items. -/
def isModuleSample (trait : Path) : List Item → Bool
  | [.use false (.path "a" (.group [.rename "b" "x", .name "c"])),
      .module "a" [.module "b" [.trait "T"]],
      .implementation (some ⟨false, t⟩) (.path ⟨⟨false, ["S"]⟩, true, true⟩)] => t == trait
  | _ => false

theorem eq_moduleItems {trait : Path} {items : List Item} (h : isModuleSample trait items = true) :
    items = moduleItems trait := by
  unfold isModuleSample at h
  split at h
  · rw [beq_iff_eq.mp h, moduleItems]
  · cases h

/-- A file in which the trait of the module is referred to like this. -/
def moduleText (trait : String) : String :=
  "use a::\x7b b as x, c \x7d; mod a \x7b mod b \x7b trait T \x7b\x7d \x7d \x7d impl " ++
    trait ++ " for S \x7b\x7d"

theorem importedFrom_moduleItems {trait path : Path} {name : String} :
    ImportedFrom (moduleItems trait) name path ↔
      name = "x" ∧ path = ⟨false, ["a", "b"]⟩ ∨ name = "c" ∧ path = ⟨false, ["a", "c"]⟩ := by
  have hbindings : (moduleItems trait).flatMap itemBindings =
      [("x", ⟨false, ["a", "b"]⟩), ("c", ⟨false, ["a", "c"]⟩)] := rfl
  rw [importedFrom_iff, hbindings]
  simp

theorem holds_moduleText :
    Holds (fileOf (moduleText "x::T")) ⟨"src/lib.rs"⟩ (moduleItems ⟨false, ["x", "T"]⟩) ∧
      Holds (fileOf (moduleText "a::b::T")) ⟨"src/lib.rs"⟩
        (moduleItems ⟨false, ["a", "b", "T"]⟩) := by
  have hread : (readItems (moduleText "x::T")).toOption.any
      (isModuleSample ⟨false, ["x", "T"]⟩) = true := by decide +kernel
  have hread' : (readItems (moduleText "a::b::T")).toOption.any
      (isModuleSample ⟨false, ["a", "b", "T"]⟩) = true := by decide +kernel
  obtain ⟨items, hitems, hholds⟩ := exists_holds (readText_fileOf _) hread
  obtain ⟨items', hitems', hholds'⟩ := exists_holds (readText_fileOf _) hread'
  exact ⟨eq_moduleItems hitems ▸ hholds, eq_moduleItems hitems' ▸ hholds'⟩

theorem spelledOut_moduleText : SpelledOut
    (IsSettled (modulesAt (fileOf (moduleText "x::T")) ⟨"src"⟩ "app" [⟨"src/lib.rs"⟩]))
    (fileOf (moduleText "x::T")) (fileOf (moduleText "a::b::T")) ⟨"src"⟩ "app"
    [⟨"src/lib.rs"⟩] := by
  obtain ⟨hholds, hholds'⟩ := holds_moduleText
  have hfrom (trait : Path) : SolelyFrom (moduleItems trait) "x" ⟨false, ["a", "b"]⟩ := by
    simp [SolelyFrom, importedFrom_moduleItems]
  have hfree (trait : Path) : ∀ other, ¬ ImportedFrom (moduleItems trait) "a" other := by
    simp [importedFrom_moduleItems]
  refine spelledOut_fileOf hholds hholds' ?_
  refine .cons ⟨rfl, rfl, .like (.use _ _)⟩ <| .cons ⟨rfl, rfl, .module⟩ <|
    .cons ⟨rfl, rfl, .module⟩ <| .cons ⟨rfl, rfl, .like (.trait _)⟩ <|
    .cons ⟨rfl, rfl, ?_⟩ .nil
  have hsettled : (beyond ⟨false, ["a", "b"]⟩ ["T"]).segments.length ≠ 1 := by decide
  exact .trait (@PathSpelledOut.imported _ _ "x" "a" ⟨false, ["a", "b"]⟩ ["T"] (hfrom _) rfl
    (fun _ => hfree _) (Or.inr (Or.inl hsettled))) (.same _)

theorem load_transparent_moduleText :
    ∃ tree, load (fileOf (moduleText "x::T")) ⟨"src"⟩ "app" "mark" = .ok tree ∧
      tree.types.implementations = [("app::S", "app::a::b::T")] ∧
      tree.IsTransparent (fileOf (moduleText "x::T")) ⟨"src"⟩ "app" "mark" ∧
      ∃ tree', load (fileOf (moduleText "a::b::T")) ⟨"src"⟩ "app" "mark" = .ok tree' ∧
        tree'.types = tree.types := by
  have hroot : normalizeCrateName "app" = "app" := by decide
  obtain ⟨tree, hload, hfiles, htypes⟩ := @load_fileOf _ "app" "mark" _ holds_moduleText.1
    (by decide +kernel)
  have htransparent := load_transparent hload
  obtain ⟨tree', hload', -, htypes', -⟩ := htransparent.spelledOut (fileOf (moduleText "a::b::T"))
    (by rw [hfiles, hroot]; exact spelledOut_moduleText)
  refine ⟨tree, hload, ?_, htransparent, tree', hload', htypes'⟩
  rw [htypes]
  decide +kernel

/-! ### A trait that is imported from its own module -/

/-- A trait that is given another name where it stands, and what implements it for a type `S`. -/
def aliasItems (trait : Path) : List Item :=
  [.trait "T", .use false (.rename "T" "F"),
    .implementation (some ⟨false, trait⟩) (.path ⟨⟨false, ["S"]⟩, true, true⟩)]

/-- Whether these are such items. -/
def isAliasSample (trait : Path) : List Item → Bool
  | [.trait "T", .use false (.rename "T" "F"),
      .implementation (some ⟨false, t⟩) (.path ⟨⟨false, ["S"]⟩, true, true⟩)] => t == trait
  | _ => false

theorem eq_aliasItems {trait : Path} {items : List Item} (h : isAliasSample trait items = true) :
    items = aliasItems trait := by
  unfold isAliasSample at h
  split at h
  · rw [beq_iff_eq.mp h, aliasItems]
  · cases h

/-- A file in which the trait is referred to like this. -/
def aliasText (trait : String) : String :=
  "trait T \x7b\x7d use T as F; impl " ++ trait ++ " for S \x7b\x7d"

theorem importedFrom_aliasItems {trait path : Path} {name : String} :
    ImportedFrom (aliasItems trait) name path ↔ name = "F" ∧ path = ⟨false, ["T"]⟩ := by
  have hbindings : (aliasItems trait).flatMap itemBindings = [("F", ⟨false, ["T"]⟩)] := rfl
  rw [importedFrom_iff, hbindings]
  simp

theorem holds_aliasText :
    Holds (fileOf (aliasText "F")) ⟨"src/lib.rs"⟩ (aliasItems ⟨false, ["F"]⟩) ∧
      Holds (fileOf (aliasText "T")) ⟨"src/lib.rs"⟩ (aliasItems ⟨false, ["T"]⟩) := by
  have hread : (readItems (aliasText "F")).toOption.any
      (isAliasSample ⟨false, ["F"]⟩) = true := by decide +kernel
  have hread' : (readItems (aliasText "T")).toOption.any
      (isAliasSample ⟨false, ["T"]⟩) = true := by decide +kernel
  obtain ⟨items, hitems, hholds⟩ := exists_holds (readText_fileOf _) hread
  obtain ⟨items', hitems', hholds'⟩ := exists_holds (readText_fileOf _) hread'
  exact ⟨eq_aliasItems hitems ▸ hholds, eq_aliasItems hitems' ▸ hholds'⟩

theorem spelledOut_aliasText : SpelledOut (fun _ _ => True) (fileOf (aliasText "F"))
    (fileOf (aliasText "T")) ⟨"src"⟩ "app" [⟨"src/lib.rs"⟩] := by
  obtain ⟨hholds, hholds'⟩ := holds_aliasText
  have hfrom (trait : Path) : SolelyFrom (aliasItems trait) "F" ⟨false, ["T"]⟩ := by
    simp [SolelyFrom, importedFrom_aliasItems]
  have hfree (trait : Path) : ∀ other, ¬ ImportedFrom (aliasItems trait) "T" other := by
    simp [importedFrom_aliasItems]
  refine spelledOut_fileOf hholds hholds' ?_
  refine .cons ⟨rfl, rfl, .like (.trait _)⟩ <| .cons ⟨rfl, rfl, .like (.use _ _)⟩ <|
    .cons ⟨rfl, rfl, ?_⟩ .nil
  exact .trait (@PathSpelledOut.imported _ _ "F" "T" ⟨false, ["T"]⟩ [] (hfrom _) rfl
    (fun _ => hfree _) trivial) (.same _)

/-- Not every import is transparent: a trait that is given another name where it stands is recorded
under its own name, as if it were another crate. -/
theorem load_mistakes_aliasText :
    ∃ tree tree', load (fileOf (aliasText "F")) ⟨"src"⟩ "app" "mark" = .ok tree ∧
      load (fileOf (aliasText "T")) ⟨"src"⟩ "app" "mark" = .ok tree' ∧
      SpelledOut (fun _ _ => True) (fileOf (aliasText "F")) (fileOf (aliasText "T")) ⟨"src"⟩ "app"
        tree.files ∧
      tree.types.implementations = [("app::S", "T")] ∧
      tree'.types.implementations = [("app::S", "app::T")] := by
  obtain ⟨tree, hload, hfiles, htypes⟩ := @load_fileOf _ "app" "mark" _ holds_aliasText.1
    (by decide +kernel)
  obtain ⟨tree', hload', -, htypes'⟩ := @load_fileOf _ "app" "mark" _ holds_aliasText.2
    (by decide +kernel)
  refine ⟨tree, tree', hload, hload', hfiles ▸ spelledOut_aliasText, ?_, ?_⟩
  · rw [htypes]
    decide +kernel
  · rw [htypes']
    decide +kernel

end ReceiverLoader.Source
