import ReceiverLoader.Proofs.QualifiedName.Segments
import ReceiverLoader.Proofs.Source.ModuleWords
import ReceiverLoader.Proofs.Source.Transparent
import ReceiverLoader.Proofs.Source.Wording

/-!
# Recorded names are anchored

The types and traits of implementations are recorded under names that begin at the root of a crate.
Words for modules at the front of a path, or of what its first segment was imported from, lead there
and are left out of the name.

* `IsGrammatical.beyond`: imports keep paths grammatical.
* `Occurrence.resolve_means`: a path is resolved as one that it stands for by the imports.
* `load_anchors`: which segments the names have that a tree records.
* `load_leaves_parentText`: behind `self` the word for the parent is left in the name.
-/

namespace ReceiverLoader.Source

open Grammar (Path UseTree Item)
open QualifiedName (IsMadeOf)
open Token (IsIdentifier)

/-! ## Imports -/

section Imports

variable {name : String} {outer target : List String} {tree : UseTree}

/-- What brings in a word for a module is a path that ends in it: no word stands behind `as`. -/
theorem Brings.getLast?_eq (h : Brings outer tree name target) {W : String → Prop}
    (htree : tree.IsWorded W) (hname : name ∈ moduleWords) : target.getLast? = some name := by
  have hnew : ∀ new ∈ moduleWords, ¬ Grammar.IsAlias new := by
    unfold Grammar.IsAlias
    decide
  induction h with
  | inside _ ih =>
    cases htree with
    | path _ htree => exact ih htree hname
  | plain => exact List.getLast?_concat
  | itself hlast => exact hlast
  | renamed | itselfRenamed =>
    cases htree with
    | rename _ _ halias => exact absurd halias (hnew _ hname)
  | grouped hmem _ ih =>
    cases htree with
    | group htrees => exact ih (htrees _ hmem) hname

/-- The path that is brought in is made of the words of the tree. -/
theorem Brings.forall_mem (h : Brings outer tree name target) {W : String → Prop}
    (htree : tree.IsWorded W) (houter : ∀ s ∈ outer, W s) : ∀ s ∈ target, W s := by
  induction h with
  | inside _ ih =>
    cases htree with
    | path hsegment htree =>
      exact ih htree (List.forall_mem_append.mpr ⟨houter, List.forall_mem_singleton.mpr hsegment⟩)
  | plain =>
    cases htree with
    | name hname => exact List.forall_mem_append.mpr ⟨houter, List.forall_mem_singleton.mpr hname⟩
  | itself | itselfRenamed => exact houter
  | renamed =>
    cases htree with
    | rename hname => exact List.forall_mem_append.mpr ⟨houter, List.forall_mem_singleton.mpr hname⟩
  | grouped hmem _ ih =>
    cases htree with
    | group htrees => exact ih (htrees _ hmem) houter

variable {body : List Item} {path : Path}

theorem ImportedFrom.getLast?_eq (h : ImportedFrom body name path) {W : String → Prop}
    (hbody : ∀ item ∈ body, item.IsWorded W) (hname : name ∈ moduleWords) :
    path.segments.getLast? = some name := by
  obtain ⟨tree, hmem, hbrings⟩ := h
  cases hbody _ hmem with
  | use htree => exact hbrings.getLast?_eq htree hname

theorem ImportedFrom.forall_mem (h : ImportedFrom body name path) {W : String → Prop}
    (hbody : ∀ item ∈ body, item.IsWorded W) : ∀ s ∈ path.segments, W s := by
  obtain ⟨tree, hmem, hbrings⟩ := h
  cases hbody _ hmem with
  | use htree => exact hbrings.forall_mem htree nofun

/-- A grammatical path stays grammatical if what its first segment was imported from is put in the
place of that segment. -/
theorem IsGrammatical.beyond (h : IsGrammatical path) {rest : List String}
    (hchain : List.IsChain Follows (name :: rest))
    (hlast : name ∈ moduleWords → path.segments.getLast? = some name) :
    IsGrammatical (beyond path rest) := by
  have hword : ∀ second ∈ rest.head?, second ∈ moduleWords → second = "super" ∧
      (name = "self" ∨ name = "super") ∧ path.segments.getLast? = some name := by
    intro second hsecond hword
    obtain ⟨hsuper, hname⟩ := follows_head? hchain second hsecond hword
    exact ⟨hsuper, hname, hlast (mem_moduleWords.mpr (.inr hname))⟩
  constructor
  · refine h.chain.append hchain.tail fun last hlast second hsecond hmem => ?_
    obtain ⟨hsuper, hname, hend⟩ := hword second hsecond hmem
    cases hend.symm.trans hlast
    exact ⟨hsuper, hname⟩
  · intro hcolon first hfirst
    have hsegments : (Source.beyond path rest).segments.head? =
        path.segments.head?.or rest.head? := List.head?_append
    rw [hsegments] at hfirst
    cases hhead : path.segments.head? with
    | some s =>
      rw [hhead] at hfirst
      exact h.colon hcolon first (hhead.trans hfirst)
    | none =>
      rw [hhead] at hfirst
      intro hmem
      obtain ⟨-, -, hend⟩ := hword first hfirst hmem
      rw [List.head?_eq_none_iff.mp hhead] at hend
      cases hend

end Imports

/-! ## What paths stand for -/

namespace Occurrence

variable {o : Occurrence} {root : String} {path : Path}

/-- By the imports where `o` stands, the first path stands for the second one. -/
inductive Means (o : Occurrence) : Path → Path → Prop
  | direct {path : Path} : (path.leadingColon = false → ∀ first, path.segments.head? = some first →
      ∀ other, ¬ ImportedFrom o.body first other) → Means o path path
  | imported {name : String} {path : Path} {rest : List String} : ImportedFrom o.body name path →
      Means o ⟨false, name :: rest⟩ (beyond path rest)

/-- The paths of an implementation, and those that are imported where it stands, are
grammatical. -/
structure IsGrammatical (o : Occurrence) : Prop where
  header : ∀ p, o.pending? = some p → Source.IsGrammatical p.self ∧ Source.IsGrammatical p.trait
  imports : ∀ name path, ImportedFrom o.body name path → Source.IsGrammatical path

instance (o : Occurrence) : Decidable o.IsGrammatical :=
  decidable_of_iff ((∀ p ∈ o.pending?, Source.IsGrammatical p.self ∧ Source.IsGrammatical p.trait) ∧
      ∀ b ∈ o.body.flatMap itemBindings, Source.IsGrammatical b.2)
    ⟨fun ⟨hheader, himports⟩ => ⟨hheader, fun _ _ h => himports _ (importedFrom_iff.mp h)⟩,
      fun h => ⟨h.header, fun b hb => h.imports b.1 b.2 (importedFrom_iff.mpr hb)⟩⟩

/-- A path is resolved as one that it stands for. -/
theorem resolve_means (o : Occurrence) (root : String) (modules : List (List String))
    (path : Path) : ∃ meant localFallback, o.Means path meant ∧
      resolve root modules o.scope path =
        QualifiedName.ofSegments (absolute root modules o.module meant localFallback) := by
  by_cases hbinds : path.leadingColon = false ∧ ∃ first, path.segments.head? = some first ∧
      Binds o.body first
  · obtain ⟨colon, segments⟩ := path
    obtain ⟨rfl, name, hfirst, hname⟩ := hbinds
    obtain ⟨rest, rfl⟩ := List.head?_eq_some_iff.mp hfirst
    obtain ⟨imported, hfrom, hget⟩ := exists_get?_imports hname
    refine ⟨_, false, .imported hfrom, ?_⟩
    have himport : importOf o.scope ⟨false, name :: rest⟩ = some imported := hget
    rw [resolve, himport]
    rfl
  · have hfree : path.leadingColon = false → ∀ first, path.segments.head? = some first →
        ∀ other, ¬ ImportedFrom o.body first other := fun hcolon first hfirst other hother =>
      hbinds ⟨hcolon, first, hfirst, binds_iff.mpr ⟨other, hother⟩⟩
    exact ⟨path, true, .direct hfree, resolve_direct hfree⟩

/-- What a grammatical path stands for is grammatical. -/
theorem Means.isGrammatical {meant : Path} (h : o.Means path meant)
    (himports : ∀ name path, ImportedFrom o.body name path → Source.IsGrammatical path)
    {W : String → Prop} (hbody : ∀ item ∈ o.body, item.IsWorded W)
    (hpath : Source.IsGrammatical path) : Source.IsGrammatical meant := by
  cases h with
  | direct => exact hpath
  | imported hfrom =>
    exact (himports _ _ hfrom).beyond hpath.chain fun hword => hfrom.getLast?_eq hbody hword

/-- It is made of the same kind of words. -/
theorem Means.forall_mem {meant : Path} (h : o.Means path meant) {W : String → Prop}
    (hbody : ∀ item ∈ o.body, item.IsWorded W) (hpath : ∀ s ∈ path.segments, W s) :
    ∀ s ∈ meant.segments, W s := by
  cases h with
  | direct => exact hpath
  | imported hfrom =>
    exact List.forall_mem_append.mpr ⟨hfrom.forall_mem hbody, (List.forall_mem_cons.mp hpath).2⟩

/-! ## What is recorded -/

/-- `name` is recorded where `o` stands, for a path that stands for `meant`. -/
structure Records (root : String) (o : Occurrence) (meant : Path) (name : String)
    (segments : List String) : Prop where
  eq : name = QualifiedName.ofSegments segments
  anchored : ∃ base rest, segments = base ++ rest ∧ Anchored o.module meant base rest
  /-- They are the segments of the name if those of the file's module have no colons. -/
  isMadeOf : (∀ s ∈ o.fileModule, ':' ∉ s.toList) → segments ≠ [] → IsMadeOf name segments
  /-- The first one is the crate if the path begins with a word for a module. -/
  rooted : BeginsWithWord meant → segments.head? = some root
  /-- None is such a word, unless the file's module is called like one. -/
  wordless : ¬ BeginsWithSelfSuper meant → ∀ s ∈ segments, s ∈ moduleWords → s ∈ o.fileModule

/-- `name` is recorded where `o` stands, for a path that `path` stands for. -/
def Anchors (root : String) (o : Occurrence) (path : Path) (name : String) : Prop :=
  ∃ meant segments, o.Means path meant ∧ o.Records root meant name segments

theorem records_of_anchored {meant : Path} {base rest : List String}
    (h : Anchored o.module meant base rest) (hroot : o.module.head? = some root)
    (hworded : o.Inherits (Item.IsWorded IsIdentifier) IsIdentifier)
    (hnamed : o.Inherits Item.IsNamed Grammar.IsItemName)
    (hmeant : ∀ s ∈ meant.segments, IsIdentifier s) :
    o.Records root meant (QualifiedName.ofSegments (base ++ rest)) (base ++ rest) where
  eq := rfl
  anchored := ⟨base, rest, rfl, h⟩
  isMadeOf hcolons hne := by
    refine ⟨hne, List.forall_mem_append.mpr ⟨fun s hs => ?_, fun s hs => ?_⟩, rfl⟩
    · rcases List.mem_append.mp (h.begins.subset hs) with hfile | hinner
      · exact hcolons s hfile
      · exact (hworded.enclosing s hinner).colon_not_mem
    · exact (hmeant s (h.ends.subset hs)).colon_not_mem
  rooted hword := by
    obtain ⟨first, behind, rfl⟩ := List.exists_cons_of_ne_nil (h.base_ne_nil hword)
    obtain ⟨further, heq⟩ := h.begins
    rw [← heq] at hroot
    exact hroot
  wordless hself s hs hword := by
    rcases List.mem_append.mp hs with hs | hs
    · refine (List.mem_append.mp (h.begins.subset hs)).resolve_right fun hinner => ?_
      have hname : ∀ word ∈ moduleWords, ¬ Grammar.IsItemName word := by
        unfold Grammar.IsItemName
        decide
      exact hname s hword (hnamed.enclosing s hinner)
    · exact absurd hword (h.wordless hself s hs)

/-- A grammatical path of identifiers is resolved to a name that is recorded as it should be. -/
theorem anchors_resolve (hroot : o.module.head? = some root)
    (hworded : o.Inherits (Item.IsWorded IsIdentifier) IsIdentifier)
    (hnamed : o.Inherits Item.IsNamed Grammar.IsItemName)
    (himports : ∀ name path, ImportedFrom o.body name path → Source.IsGrammatical path)
    (hpath : Source.IsGrammatical path) (hidentifiers : ∀ s ∈ path.segments, IsIdentifier s)
    (modules : List (List String)) :
    o.Anchors root path (resolve root modules o.scope path) := by
  obtain ⟨meant, localFallback, hmeans, hresolve⟩ := o.resolve_means root modules path
  have hmeant := hmeans.isGrammatical himports hworded.body hpath
  obtain ⟨base, rest, hsegments, hanchored⟩ :=
    absolute_anchored hmeant hroot modules localFallback
  rw [hresolve, hsegments]
  exact ⟨meant, _, hmeans, records_of_anchored hanchored hroot hworded hnamed
    (hmeans.forall_mem hworded.body hidentifiers)⟩

end Occurrence

/-- What an implementation in a file refers to is resolved to names that are recorded as they should
be. -/
theorem SourceFile.Readable.anchors {root marker : String} {f : SourceFile} {o : Occurrence}
    (hf : f.Readable marker) (hmodule : f.module.head? = some root) (ho : o ∈ f.occurrences)
    (hgrammatical : o.IsGrammatical) {p : Pending} (hp : o.pending? = some p)
    (modules : List (List String)) :
    o.Anchors root p.self (resolve root modules p.scope p.self) ∧
      o.Anchors root p.trait (resolve root modules p.scope p.trait) := by
  obtain ⟨hheader, himports⟩ := hgrammatical
  obtain ⟨hself, htrait⟩ := hheader p hp
  have hworded := hf.isWorded ho
  have hroot : o.module.head? = some root := by
    rw [Occurrence.module, (file_of_mem_occurrences ho).2, List.head?_append, hmodule,
      Option.some_or]
  have hitem := hworded.item
  unfold Occurrence.pending? at hp
  split at hp
  · rename_i heq
    cases hp
    rw [heq] at hitem
    cases hitem with
    | implementation htrait' hself' =>
      exact ⟨Occurrence.anchors_resolve hroot hworded (hf.isNamed ho) himports hself hself' _,
        Occurrence.anchors_resolve hroot hworded (hf.isNamed ho) himports htrait (htrait' _ rfl) _⟩
  · cases hp

/-! ## Trees -/

/-- What the type table of a tree with these files says about the paths in their
implementations. -/
structure Tree.IsAnchored (tree : Tree) (root : String) (files : List SourceFile) : Prop where
  /-- Only what an implementation refers to is recorded, -/
  recorded : ∀ type trait, (type, trait) ∈ tree.types.implementations →
    ∃ f ∈ files, ∃ o ∈ f.occurrences, ∃ p, o.pending? = some p ∧
      o.Anchors root p.self type ∧ o.Anchors root p.trait trait
  /-- and all of it is. -/
  recording : ∀ f ∈ files, ∀ o ∈ f.occurrences, ∀ p, o.pending? = some p →
    ∃ type trait, (type, trait) ∈ tree.types.implementations ∧
      o.Anchors root p.self type ∧ o.Anchors root p.trait trait
  /-- No word for a module is in any name, if no path stands for one that begins with
  `self::super` and no file's module is called like such a word. -/
  wordless : (∀ f ∈ files, ∀ s ∈ f.module, ':' ∉ s.toList ∧ s ∉ moduleWords) →
    (∀ f ∈ files, ∀ o ∈ f.occurrences, ∀ p, o.pending? = some p → ∀ meant,
      o.Means p.self meant ∨ o.Means p.trait meant → ¬ BeginsWithSelfSuper meant) →
    ∀ type trait, (type, trait) ∈ tree.types.implementations →
      ∀ name ∈ [type, trait], ∀ segments, IsMadeOf name segments → ∀ s ∈ segments, s ∉ moduleWords

/-- No segment of a name that is recorded is a word for a module, if the path begins with no
`self::super`. -/
theorem Occurrence.Anchors.not_mem_moduleWords {root name : String} {o : Occurrence} {path : Path}
    (h : o.Anchors root path name) (hfile : ∀ s ∈ o.fileModule, ':' ∉ s.toList ∧ s ∉ moduleWords)
    (hself : ∀ meant, o.Means path meant → ¬ BeginsWithSelfSuper meant) {segments : List String}
    (hsegments : IsMadeOf name segments) : ∀ s ∈ segments, s ∉ moduleWords := by
  obtain ⟨meant, others, hmeans, hrecords⟩ := h
  by_cases hne : others = []
  · -- The path stands for nothing, and the name is empty.
    subst hne
    have hempty : IsMadeOf name [""] := hrecords.eq ▸ IsMadeOf.singleton List.not_mem_nil
    rw [hsegments.unique hempty]
    decide
  · rw [hsegments.unique (hrecords.isMadeOf (fun s hs => (hfile s hs).1) hne)]
    exact fun s hs hword => (hfile s (hrecords.wordless (hself meant hmeans) s hs hword)).2 hword

/-- Where the paths of implementations and imports are grammatical, the names that are recorded for
them are those of paths from the root of the crate or of another one: words for modules that begin a
path are led back to the crate, and none of them is left, but for a `super` behind a `self`. -/
theorem load_anchors {fs : FileSystem} {directory : FilePath} {crateName marker : String}
    {tree : Tree} (h : load fs directory crateName marker = .ok tree)
    (hgrammatical : ∀ p ∈ tree.files,
      ∀ o ∈ (fileAt fs directory (normalizeCrateName crateName) p).occurrences, o.IsGrammatical) :
    tree.IsAnchored (normalizeCrateName crateName)
      (tree.files.map (fileAt fs directory (normalizeCrateName crateName))) := by
  obtain ⟨-, hloads, c, rfl, -, htypes⟩ := load_eq_ok_iff.mp h
  generalize normalizeCrateName crateName = root at *
  have hanchors : ∀ f ∈ tree.files.map (fileAt fs directory root), ∀ o ∈ f.occurrences, ∀ p,
      o.pending? = some p → ∀ modules, o.Anchors root p.self (resolve root modules p.scope p.self) ∧
        o.Anchors root p.trait (resolve root modules p.scope p.trait) := by
    refine List.forall_mem_map.mpr fun p hp o ho pending hpending modules => ?_
    exact (hloads p hp).readable.anchors rfl ho (hgrammatical p hp o ho) hpending modules
  generalize tree.files.map (fileAt fs directory root) = files at *
  have hrecorded : ∀ type trait, (type, trait) ∈ tree.types.implementations ↔
      ∃ f ∈ files, ∃ o ∈ f.occurrences,
        o.implementation? root (treeModules root files) = some (type, trait) := by
    intro type trait
    rw [htypes, Collection.types_gainFiles, TypeTable.mem_implementations]
    simp only [List.mem_flatMap, List.mem_filterMap]
  have hexists : ∀ type trait, (type, trait) ∈ tree.types.implementations →
      ∃ f ∈ files, ∃ o ∈ f.occurrences, ∃ p, o.pending? = some p ∧
        o.Anchors root p.self type ∧ o.Anchors root p.trait trait := by
    intro type trait hmem
    obtain ⟨f, hf, o, ho, himplementation⟩ := (hrecorded type trait).mp hmem
    obtain ⟨p, hp, heq⟩ := Option.map_eq_some_iff.mp himplementation
    cases heq
    exact ⟨f, hf, o, ho, p, hp, hanchors f hf o ho p hp _⟩
  constructor
  case recorded => exact hexists
  case recording =>
    intro f hf o ho p hp
    have himplementation : o.implementation? root (treeModules root files) = some _ :=
      Option.map_eq_some_iff.mpr ⟨p, hp, rfl⟩
    exact ⟨_, _, (hrecorded _ _).mpr ⟨f, hf, o, ho, himplementation⟩, hanchors f hf o ho p hp _⟩
  case wordless =>
    intro hmodules hself type trait hmem name hname segments hsegments
    obtain ⟨f, hf, o, ho, p, hp, htype, htrait⟩ := hexists type trait hmem
    have hfile := hmodules f hf
    rw [← (file_of_mem_occurrences ho).2] at hfile
    have hself := hself f hf o ho p hp
    simp only [List.mem_cons, List.not_mem_nil, or_false] at hname
    rcases hname with rfl | rfl
    · exact htype.not_mem_moduleWords hfile (fun meant h => hself meant (.inl h)) hsegments
    · exact htrait.not_mem_moduleWords hfile (fun meant h => hself meant (.inr h)) hsegments

/-! ### Trees of one file -/

/-- Such a tree loads if its file does, with the implementations that are collected from it. -/
theorem load_fileOf_grammatical {text : String} {implementations : List (String × String)}
    (h : LoadsAt (fileOf text) ⟨"src"⟩ (normalizeCrateName "app") "mark" ⟨"src/lib.rs"⟩ ∧
      (∀ o ∈ (fileAt (fileOf text) ⟨"src"⟩ (normalizeCrateName "app") ⟨"src/lib.rs"⟩).occurrences,
        o.IsGrammatical) ∧
      (((Collection.start (normalizeCrateName "app")).gainFiles "mark"
        [fileAt (fileOf text) ⟨"src"⟩ (normalizeCrateName "app") ⟨"src/lib.rs"⟩]).types
          (normalizeCrateName "app")).implementations = implementations) :
    ∃ tree, load (fileOf text) ⟨"src"⟩ "app" "mark" = .ok tree ∧
      (∀ p ∈ tree.files, ∀ o ∈ (fileAt (fileOf text) ⟨"src"⟩ (normalizeCrateName "app")
        p).occurrences, o.IsGrammatical) ∧
      tree.types.implementations = implementations := by
  obtain ⟨hloads, hgrammatical, rfl⟩ := h
  obtain ⟨tree, hload, hfiles, c, rfl, -, htypes⟩ :=
    load_of_loadsAt (sourceFiles_fileOf text) (List.forall_mem_singleton.mpr hloads)
  refine ⟨tree, hload, ?_, by rw [htypes, List.map_singleton]⟩
  rw [hfiles]
  exact List.forall_mem_singleton.mpr hgrammatical

/-- A file with an implementation for a type of the parent, of a trait in a module that is imported
by a word in a group. -/
def groupText : String :=
  "pub struct S; mod a \x7b pub trait T \x7b\x7d \x7d " ++
    "mod b \x7b use super::a::\x7bself as c\x7d; impl c::T for super::S \x7b\x7d \x7d"

/-- The trait and the type are recorded under their names from the root of the crate. -/
theorem load_anchors_groupText :
    ∃ tree, load (fileOf groupText) ⟨"src"⟩ "app" "mark" = .ok tree ∧
      tree.types.implementations = [("app::S", "app::a::T")] ∧
      (∀ p ∈ tree.files, ∀ o ∈ (fileAt (fileOf groupText) ⟨"src"⟩ (normalizeCrateName "app")
        p).occurrences, o.IsGrammatical) ∧
      tree.IsAnchored (normalizeCrateName "app")
        (tree.files.map (fileAt (fileOf groupText) ⟨"src"⟩ (normalizeCrateName "app"))) := by
  obtain ⟨tree, hload, hgrammatical, himplementations⟩ :=
    @load_fileOf_grammatical groupText [("app::S", "app::a::T")] (by decide +kernel)
  exact ⟨tree, hload, himplementations, hgrammatical, load_anchors hload hgrammatical⟩

/-- A file in which the word for the parent stands behind that for the module itself. -/
def parentText : String :=
  "pub struct S; mod a \x7b pub trait T \x7b\x7d \x7d " ++
    "mod b \x7b impl self::super::a::T for super::S \x7b\x7d \x7d"

/-- Not every word for a module is followed, though all paths are grammatical: behind `self` the
word for the parent is left in the name. -/
theorem load_leaves_parentText :
    ∃ tree, load (fileOf parentText) ⟨"src"⟩ "app" "mark" = .ok tree ∧
      (∀ p ∈ tree.files, ∀ o ∈ (fileAt (fileOf parentText) ⟨"src"⟩ (normalizeCrateName "app")
        p).occurrences, o.IsGrammatical) ∧
      tree.types.implementations = [("app::S", "app::b::super::a::T")] ∧
      IsMadeOf "app::b::super::a::T" ["app", "b", "super", "a", "T"] := by
  obtain ⟨tree, hload, hgrammatical, himplementations⟩ :=
    @load_fileOf_grammatical parentText [("app::S", "app::b::super::a::T")] (by decide +kernel)
  exact ⟨tree, hload, hgrammatical, himplementations, by decide, by decide, by decide⟩

end ReceiverLoader.Source
