import ReceiverLoader.Host
import ReceiverLoader.Proofs.QualifiedName.Resolution
import ReceiverLoader.Proofs.Source.Transparent
import ReceiverLoader.Proofs.Source.Wording

/-!
# Which declared names a host resolves

* `load_resolvable`: the names that a tree declares are made of identifiers, and a host resolves
  those whose identifiers have only underscores, letters and numbers.
* `load_unresolvable`: a trait that is called by a raw identifier is declared, but not resolved.
-/

namespace ReceiverLoader.Source

open QualifiedName (IsMadeOf IsTidy IsWord)
open Token (IsIdentifier)

/-- What is made of identifiers is tidy. -/
theorem isTidy_of_isIdentifier {segments : List String} (hne : segments ≠ [])
    (h : ∀ segment ∈ segments, IsIdentifier segment) :
    IsTidy (QualifiedName.ofSegments segments) segments where
  ne_nil := hne
  colonFree segment hsegment := (h segment hsegment).colon_not_mem
  eq := rfl
  ne_empty segment hsegment := (h segment hsegment).ne_empty
  blankFree segment hsegment _ hc := (h segment hsegment).not_isBlank hc

section Trees

variable {fs : FileSystem} {directory : FilePath} {crateName marker : String} {tree : Tree}

/-- A declared name is that of an item of a file, behind the module of the file and the inline
modules around the item. -/
theorem exists_of_isDeclared (h : load fs directory crateName marker = .ok tree) {name : String}
    (hname : tree.types.isDeclared name) :
    ∃ p ∈ tree.files, ∃ f : SourceFile, f.Readable marker ∧ ∃ o ∈ f.occurrences, ∃ own,
      o.ownName? = some own ∧ name = QualifiedName.ofSegments
        (modulePath (normalizeCrateName crateName) directory p ++ o.enclosing ++ [own]) := by
  obtain ⟨-, files, hpaths, hstands, c, hadd, -, htypes⟩ := load_eq_ok h
  obtain ⟨hreadable, rfl⟩ := Collection.addFiles_eq_ok.mp hadd
  rw [htypes, TypeTable.isDeclared, List.contains_iff_mem, Collection.declared_types,
    Collection.declared_gainFiles, Collection.start, TypeTable.mem_declared_declareAll] at hname
  simp only [List.mem_flatMap, SourceFile.declaredNames, List.mem_filterMap] at hname
  obtain ⟨f, hf, o, ho, hdeclared⟩ := hname
  rw [Occurrence.declaredName?_eq] at hdeclared
  obtain ⟨own, hown, rfl⟩ := Option.map_eq_some_iff.mp hdeclared
  exact ⟨f.path, hpaths ▸ List.mem_map_of_mem hf, f, hreadable f hf, o, ho, own, hown,
    (hstands f hf).qualified ho own⟩

/-- Where the modules of the files have identifiers for names, so do all that the tree declares. A
host resolves a declared name, to itself, iff its identifiers are words without raw prefixes and
without characters that are neither underscores nor letters nor numbers. -/
theorem load_resolvable (h : load fs directory crateName marker = .ok tree)
    (hmodules : ∀ p ∈ tree.files, ∀ segment ∈ modulePath (normalizeCrateName crateName) directory p,
      IsIdentifier segment)
    {name : String} (hname : tree.types.isDeclared name) :
    ∃ segments, IsMadeOf name segments ∧ (∀ segment ∈ segments, IsIdentifier segment) ∧
      ∀ host : Host, host.resolveType name =
        if ∀ segment ∈ segments, IsWord segment then some name else none := by
  obtain ⟨p, hp, f, hf, o, ho, own, hown, rfl⟩ := exists_of_isDeclared h hname
  have hsegments : ∀ segment ∈ modulePath (normalizeCrateName crateName) directory p ++
      o.enclosing ++ [own], IsIdentifier segment := by
    simp only [List.forall_mem_append, List.forall_mem_singleton]
    exact ⟨⟨hmodules p hp, (hf.isWorded ho).enclosing⟩, hf.isIdentifier ho hown⟩
  have htidy := isTidy_of_isIdentifier (List.append_ne_nil_of_right_ne_nil _ (List.cons_ne_nil _ _))
    hsegments
  exact ⟨_, htidy.toIsMadeOf, hsegments, fun host => htidy.resolve_eq⟩

end Trees

/-- Traits with a plain name, with a raw one, and with one that ends in a combining accent. -/
def traitsText : String :=
  "pub trait T \x7b\x7d pub trait r#type \x7b\x7d pub trait cafe\u0301 \x7b\x7d"

/-- Such a file loads. -/
theorem load_traitsText :
    ∃ tree, load (fileOf traitsText) ⟨"src"⟩ "app" "mark" = .ok tree ∧
      (∀ p ∈ tree.files, ∀ segment ∈ modulePath (normalizeCrateName "app") ⟨"src"⟩ p,
        IsIdentifier segment) ∧
      tree.types.declared = ["app::T", "app::cafe\u0301", "app::r#type"] := by
  have hloads : ∀ p ∈ [⟨"src/lib.rs"⟩],
      LoadsAt (fileOf traitsText) ⟨"src"⟩ (normalizeCrateName "app") "mark" p := by
    decide +kernel
  obtain ⟨tree, hload, hfiles, c, rfl, -, htypes⟩ :=
    load_of_loadsAt (sourceFiles_fileOf traitsText) hloads
  refine ⟨tree, hload, fun p hp segment hsegment => ?_, ?_⟩
  · have hmodule : modulePath (normalizeCrateName "app") ⟨"src"⟩ ⟨"src/lib.rs"⟩ = ["app"] := by
      decide +kernel
    rw [hfiles, List.mem_singleton] at hp
    rw [hp, hmodule, List.mem_singleton] at hsegment
    exact hsegment ▸ IsIdentifier.of_isStart rfl (by decide)
  · rw [htypes]
    decide +kernel

theorem load_resolvable_traitsText :
    ∃ tree, load (fileOf traitsText) ⟨"src"⟩ "app" "mark" = .ok tree ∧
      (∀ p ∈ tree.files, ∀ segment ∈ modulePath (normalizeCrateName "app") ⟨"src"⟩ p,
        IsIdentifier segment) ∧
      tree.types.isDeclared "app::T" = true ∧
      ∃ segments, IsMadeOf "app::T" segments ∧ (∀ segment ∈ segments, IsIdentifier segment) ∧
        ∀ host : Host, host.resolveType "app::T" =
          if ∀ segment ∈ segments, IsWord segment then some "app::T" else none := by
  obtain ⟨tree, hload, hmodules, hdeclared⟩ := load_traitsText
  have hname : tree.types.isDeclared "app::T" = true := by
    rw [TypeTable.isDeclared, hdeclared]
    decide
  exact ⟨tree, hload, hmodules, hname, load_resolvable hload hmodules hname⟩

/-- Not all that is declared is resolved, whichever identifiers the modules are called by: neither a
raw name nor one with a combining accent. -/
theorem load_unresolvable :
    ∃ tree, load (fileOf traitsText) ⟨"src"⟩ "app" "mark" = .ok tree ∧
      (∀ p ∈ tree.files, ∀ segment ∈ modulePath (normalizeCrateName "app") ⟨"src"⟩ p,
        IsIdentifier segment) ∧
      ∀ name ∈ ["app::cafe\u0301", "app::r#type"], tree.types.isDeclared name = true ∧
        ∀ host : Host, host.resolveType name = none := by
  obtain ⟨tree, hload, hmodules, hdeclared⟩ := load_traitsText
  refine ⟨tree, hload, hmodules, fun name hname => ⟨?_, fun host => ?_⟩⟩
  · rw [TypeTable.isDeclared, hdeclared]
    exact List.contains_iff_mem.mpr (List.mem_cons_of_mem _ hname)
  · have hnone : ∀ name ∈ ["app::cafe\u0301", "app::r#type"],
        QualifiedName.resolve name = none := by decide +kernel
    exact hnone name hname

end ReceiverLoader.Source
