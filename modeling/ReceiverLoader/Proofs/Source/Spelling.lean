import ReceiverLoader.Proofs.Source.Flattening
import ReceiverLoader.Proofs.Source.Load
import ReceiverLoader.Proofs.Source.Names

/-!
# Names as declared and as referred to

A type or a trait is declared under the segments of its module and its own name. In another module
it can be spelled from the root of the crate, from a parent, or from the module itself, be it with
the word for it or without. Resolution leads each of these spellings back to the declared name.

* `absolute_segments`, `resolve_segments`: a spelling stands for the declared name.
* `load_resolves`: in a tree that has been loaded a spelling resolves to the declared name, and an
  implementation is recorded under the names that its own paths resolve to.
* `load_mistakes_keywordFiles`: this is not so if a file gives a module the name of a word.
-/

namespace ReceiverLoader.Source

open Grammar (Path Item IsItemName)

/-! ## Spellings -/

/-- The words that a path begins with, before the names of modules. -/
inductive Anchor
  /-- The word for the root of the crate. -/
  | crate
  /-- The word for the parent, `k` times. -/
  | super (k : Nat)
  /-- The word for the module that the path stands in. -/
  | self
  /-- No word; the path begins in the module that it stands in. -/
  | here

namespace Anchor

/-- The words themselves. -/
def words : Anchor → List String
  | crate => ["crate"]
  | super k => List.replicate k "super"
  | self => ["self"]
  | here => []

/-- The module that the words stand for, in `module` of the crate `root`. -/
def base (root : String) (module : List String) : Anchor → List String
  | crate => [root]
  | super k => module.take (module.length - k)
  | self | here => module

/-- There are words for the parent, and as many as there are modules around `module` at most. -/
def Fits (module : List String) : Anchor → Prop
  | super k => 0 < k ∧ k < module.length
  | crate | self | here => True

/-- The names behind the words do not begin with one that would be taken for a word. -/
def IsClear : Anchor → List String → Prop
  | crate, _ | self, _ => True
  | super _, names => names.head? ≠ some "super"
  | here, names =>
    names.head? ≠ some "crate" ∧ names.head? ≠ some "self" ∧ names.head? ≠ some "super"

end Anchor

/-- A way to spell, in `module`, what is called `name` in the module `home` of the crate `root`. -/
structure Spelling (root : String) (module home : List String) (name : String) where
  anchor : Anchor
  /-- The modules between the one that the words stand for and `home`, which is the last of them. -/
  inner : List String
  fits : anchor.Fits module
  home_eq : home = anchor.base root module ++ inner

namespace Spelling

variable {root name : String} {module home : List String}

/-- The names behind the words. -/
def names (s : Spelling root module home name) : List String := s.inner ++ [name]

/-- The segments of the path. -/
def segments (s : Spelling root module home name) : List String := s.anchor.words ++ s.names

end Spelling

/-- No name for an item is taken for a word; only the modules behind the words may be. -/
theorem Anchor.IsClear.concat {anchor : Anchor} {inner : List String} (h : anchor.IsClear inner)
    {name : String} (hname : IsItemName name) : anchor.IsClear (inner ++ [name]) := by
  cases inner with
  | nil =>
    have hno : ∀ word ∈ Grammar.keywords, word ≠ "try" → [name].head? ≠ some word := by
      intro word hword htry hhead
      obtain rfl : name = word := Option.some.inj hhead
      exact htry (hname hword)
    cases anchor with
    | crate | self => trivial
    | super k => exact hno _ (by decide) (by decide)
    | here =>
      exact ⟨hno _ (by decide) (by decide), hno _ (by decide) (by decide),
        hno _ (by decide) (by decide)⟩
  | cons first inner => cases anchor <;> exact h

/-- Each word for the parent leads out of one module. -/
theorem followSuper_replicate {module : List String} {k : Nat} (hk : k < module.length)
    {names : List String} (hnames : names.head? ≠ some "super") :
    followSuper module (List.replicate k "super" ++ names) =
      module.take (module.length - k) ++ names := by
  induction k generalizing module with
  | zero =>
    rw [Nat.sub_zero, List.take_length]
    cases names with
    | nil => exact (List.append_nil module).symm
    | cons n names =>
      have hn : n ≠ "super" := fun h => hnames (congrArg some h)
      exact if_neg hn
  | succ k ih =>
    have hparent : parentModule module = module.dropLast := if_pos (by omega)
    have hlength : module.dropLast.length = module.length - 1 := List.length_dropLast
    rw [List.replicate_succ, List.cons_append, followSuper, if_pos rfl, hparent,
      ih (by omega), hlength, List.dropLast_eq_take, List.take_take]
    congr 2
    omega

/-- A path that begins with no word stands for what is below the module, if it has one segment only
or begins with a module that is known. -/
theorem absolute_here {root : String} {modules : List (List String)} {module : List String}
    {first : String} {rest : List String} (hclear : Anchor.here.IsClear (first :: rest))
    (hknown : rest = [] ∨ module ++ [first] ∈ modules) :
    absolute root modules module ⟨false, first :: rest⟩ true = module ++ first :: rest := by
  obtain ⟨hcrate, hself, hsuper⟩ := hclear
  have hcrate : first ≠ "crate" := fun h => hcrate (congrArg some h)
  have hself : first ≠ "self" := fun h => hself (congrArg some h)
  have hsuper : first ≠ "super" := fun h => hsuper (congrArg some h)
  have hlocal : (modules.contains (module ++ [first]) || (true && rest.isEmpty)) = true := by
    rcases hknown with rfl | hmem
    · exact Bool.or_true _
    · rw [List.contains_iff_mem.mpr hmem, Bool.true_or]
  simp only [absolute]
  rw [if_neg Bool.false_ne_true, if_neg hcrate, if_neg hself, if_neg hsuper, if_pos hlocal]

/-- A spelling stands for the segments of the module and the name, if the modules around the
declaration are known. -/
theorem absolute_segments {root name : String} {module home : List String}
    (s : Spelling root module home name) (hclear : s.anchor.IsClear s.names)
    {modules : List (List String)} (hmodules : ∀ m, m ≠ [] → m <+: home → m ∈ modules) :
    absolute root modules module ⟨false, s.segments⟩ true = home ++ [name] := by
  obtain ⟨anchor, inner, hfits, rfl⟩ := s
  rw [List.append_assoc]
  cases anchor with
  | crate => rfl
  | self => rfl
  | super k =>
    obtain ⟨hpos, hlt⟩ := hfits
    obtain ⟨n, rfl⟩ := Nat.exists_eq_add_of_lt hpos
    exact followSuper_replicate hlt hclear
  | here =>
    cases inner with
    | nil => exact absolute_here hclear (Or.inl rfl)
    | cons first inner =>
      refine absolute_here hclear (Or.inr (hmodules _ (by simp) ⟨inner, ?_⟩))
      exact List.append_assoc module [first] inner

/-! ## Imports -/

/-- The items of a body bring `name` into scope. -/
def Binds (body : List Item) (name : String) : Prop :=
  ∃ item ∈ body, ∃ path, (name, path) ∈ itemBindings item

theorem get?_imports_of_not_binds {body : List Item} {name : String} (h : ¬ Binds body name) :
    OrderedList.get? name (imports body) = none := by
  rw [get?_imports, List.lookup_eq_none_iff]
  intro b hb
  refine bne_iff_ne.mpr fun heq => h ?_
  obtain ⟨item, hitem, hmem⟩ := List.mem_flatMap.mp (List.mem_reverse.mp hb)
  exact ⟨item, hitem, b.2, heq ▸ hmem⟩

/-- A spelling whose first segment is not imported stands for the declared name. -/
theorem resolve_segments {root name : String} {home : List String} {module : List String}
    {body : List Item} (s : Spelling root module home name) (hclear : s.anchor.IsClear s.names)
    (hfree : ∀ first, s.segments.head? = some first → ¬ Binds body first)
    {modules : List (List String)} (hmodules : ∀ m, m ≠ [] → m <+: home → m ∈ modules) :
    resolve root modules ⟨module, imports body⟩ ⟨false, s.segments⟩ =
      QualifiedName.ofSegments (home ++ [name]) := by
  have himport : importOf ⟨module, imports body⟩ ⟨false, s.segments⟩ = none := by
    rw [importOf, if_neg Bool.false_ne_true]
    cases hfirst : s.segments.head? with
    | none => rfl
    | some first => exact get?_imports_of_not_binds (hfree first hfirst)
  rw [resolve, himport]
  simp only [absolute_segments s hclear hmodules]

/-! ## Trees -/

/-- Where `o` stands, the path is a spelling of what `d` declares, one that is `admitted`, and its
first segment is not imported. -/
def Occurrence.Spells (root : String) (admitted : Anchor → List String → Prop) (o d : Occurrence)
    (path : Path) : Prop :=
  ∃ name, d.ownName? = some name ∧ ∃ s : Spelling root o.module d.module name,
    admitted s.anchor s.inner ∧ path = ⟨false, s.segments⟩ ∧
      ∀ first, s.segments.head? = some first → ¬ Binds o.body first

/-- The implementations in the files are recorded under the names of their types and traits, where
these are declared in the files and an admitted spelling refers to them. -/
def Tree.Resolves (tree : Tree) (root : String) (files : List SourceFile)
    (admitted : Anchor → List String → Prop) : Prop :=
  ∀ f ∈ files, ∀ o ∈ f.occurrences, ∀ p, o.pending? = some p →
    ∃ type trait, (type, trait) ∈ tree.types.implementations ∧
      ∀ g ∈ files, ∀ d ∈ g.occurrences, ∀ name, d.declaredName? = some name →
        (o.Spells root admitted d p.self → type = name) ∧
          (o.Spells root admitted d p.trait → trait = name)

theorem Occurrence.Spells.resolve_eq {root : String} {files : List SourceFile} {g : SourceFile}
    (hg : g ∈ files) {marker : String} (hreadable : g.Readable marker) {o d : Occurrence}
    (hd : d ∈ g.occurrences) (hne : d.module ≠ []) {path : Path}
    (h : o.Spells root Anchor.IsClear d path) {name : String}
    (hname : d.declaredName? = some name) :
    resolve root (treeModules root files) o.scope path = name := by
  obtain ⟨own, hown, s, hclear, rfl, hfree⟩ := h
  have hmodules : ∀ m, m ≠ [] → m <+: d.module → m ∈ treeModules root files :=
    fun m hm hbegins => mem_treeModules_of_prefix hg hd hm hbegins
  rw [declaredName?_eq, hown] at hname
  cases hname
  rw [qualified, qualify_eq_ofSegments hne]
  exact resolve_segments s (hclear.concat (hreadable.isItemName hd hown)) hfree hmodules

/-- The paths in the files resolve to the declared names that they are admitted spellings of, and
each implementation is recorded under what its own paths resolve to. -/
structure Tree.ResolvesPaths (tree : Tree) (root : String) (files : List SourceFile)
    (admitted : Anchor → List String → Prop) : Prop where
  resolve_eq : ∀ f ∈ files, ∀ o ∈ f.occurrences, ∀ path,
    ∀ g ∈ files, ∀ d ∈ g.occurrences, ∀ name, d.declaredName? = some name →
      o.Spells root admitted d path → resolve root (treeModules root files) o.scope path = name
  recorded : ∀ f ∈ files, ∀ o ∈ f.occurrences, ∀ p, o.pending? = some p →
    (resolve root (treeModules root files) o.scope p.self,
      resolve root (treeModules root files) o.scope p.trait) ∈ tree.types.implementations

theorem Tree.ResolvesPaths.resolves {tree : Tree} {root : String} {files : List SourceFile}
    {admitted : Anchor → List String → Prop} (h : tree.ResolvesPaths root files admitted) :
    tree.Resolves root files admitted := fun f hf o ho p hp =>
  ⟨_, _, h.recorded f hf o ho p hp, fun g hg d hd name hname =>
    ⟨h.resolve_eq f hf o ho p.self g hg d hd name hname,
      h.resolve_eq f hf o ho p.trait g hg d hd name hname⟩⟩

/-- In a tree that has been loaded, a clear spelling of a type or trait resolves to its declared
name, and implementations are recorded under the names that their own paths resolve to. -/
theorem load_resolves {fs : FileSystem} {directory : FilePath} {crateName marker : String}
    {tree : Tree} (h : load fs directory crateName marker = .ok tree) :
    ∃ files : List SourceFile, files.map SourceFile.path = tree.files ∧
      (∀ f ∈ files, f.StandsIn fs directory (normalizeCrateName crateName) ∧ f.Readable marker) ∧
        tree.Resolves (normalizeCrateName crateName) files Anchor.IsClear ∧
          tree.ResolvesPaths (normalizeCrateName crateName) files Anchor.IsClear := by
  obtain ⟨-, files, hpaths, hstands, c, hadd, -, htypes⟩ := load_eq_ok h
  obtain ⟨hreadable, rfl⟩ := Collection.addFiles_eq_ok.mp hadd
  have hmodule : ∀ g ∈ files, ∀ d ∈ g.occurrences, d.module ≠ [] := by
    intro g hg d hd
    rw [Occurrence.module, (file_of_mem_occurrences hd).2, (hstands g hg).module_eq]
    exact List.cons_ne_nil _ _
  have hresolves : tree.ResolvesPaths (normalizeCrateName crateName) files Anchor.IsClear := by
    refine ⟨fun f hf o ho path g hg d hd name hname hs => ?_, fun f hf o ho p hp => ?_⟩
    · exact hs.resolve_eq hg (hreadable g hg) hd (hmodule g hg d hd) hname
    · rw [htypes]
      exact Collection.mem_implementations_gainFiles hf ho hp
  exact ⟨files, hpaths, fun f hf => ⟨hstands f hf, hreadable f hf⟩, hresolves.resolves, hresolves⟩

/-- A crate whose trait stands in a module of a module, and is implemented in it and outside. -/
def nestedFiles : FileSystem :=
  ⟨[(["src"], .directory),
    (["src", "a"], .directory),
    (["src", "a", "mod.rs"],
      .file ("enum V \x7b\x7d " ++
        "mod b \x7b pub trait T \x7b\x7d impl self::T for super::V \x7b\x7d \x7d").toUTF8),
    (["src", "lib.rs"], .file "struct S; impl a::b::T for S \x7b\x7d".toUTF8)], []⟩

theorem sourceFiles_nestedFiles :
    sourceFiles nestedFiles ⟨"src"⟩ = .ok [⟨"src/a/mod.rs"⟩, ⟨"src/lib.rs"⟩] :=
  sourceFiles_of_filesBelow rfl rfl (by decide)

theorem load_resolves_nestedFiles :
    ∃ tree, load nestedFiles ⟨"src"⟩ "app" "mark" = .ok tree ∧
      tree.types.implementations = [("app::S", "app::a::b::T"), ("app::a::V", "app::a::b::T")] ∧
      ∃ files : List SourceFile, files.map SourceFile.path = tree.files ∧
        (∀ f ∈ files, f.StandsIn nestedFiles ⟨"src"⟩ (normalizeCrateName "app") ∧
          f.Readable "mark") ∧
        tree.Resolves (normalizeCrateName "app") files Anchor.IsClear ∧
          tree.ResolvesPaths (normalizeCrateName "app") files Anchor.IsClear := by
  have hloads : ∀ p ∈ [⟨"src/a/mod.rs"⟩, ⟨"src/lib.rs"⟩],
      LoadsAt nestedFiles ⟨"src"⟩ (normalizeCrateName "app") "mark" p := by decide +kernel
  obtain ⟨tree, hload, -, c, rfl, -, htypes⟩ := load_of_loadsAt sourceFiles_nestedFiles hloads
  refine ⟨tree, hload, ?_, load_resolves hload⟩
  rw [htypes]
  decide +kernel

/-! ### A module that is called like a word -/

/-- A crate with a file whose module is called like the word for the root. -/
def keywordFiles : FileSystem :=
  ⟨[(["src"], .directory),
    (["src", "crate.rs"], .file "pub trait T \x7b\x7d".toUTF8),
    (["src", "lib.rs"], .file "struct S; impl crate::T for S \x7b\x7d".toUTF8)], []⟩

theorem sourceFiles_keywordFiles :
    sourceFiles keywordFiles ⟨"src"⟩ = .ok [⟨"src/crate.rs"⟩, ⟨"src/lib.rs"⟩] :=
  sourceFiles_of_filesBelow rfl rfl (by decide)

/-- The implementation spells the trait in the file. -/
theorem spells_keywordFiles :
    ∃ o ∈ (fileAt keywordFiles ⟨"src"⟩ "app" ⟨"src/lib.rs"⟩).occurrences,
      ∃ d ∈ (fileAt keywordFiles ⟨"src"⟩ "app" ⟨"src/crate.rs"⟩).occurrences,
        o.pending? = some ⟨⟨["app"], []⟩, ⟨false, ["crate", "T"]⟩, ⟨false, ["S"]⟩⟩ ∧
          d.declaredName? = some "app::crate::T" ∧
            o.Spells "app" (fun _ _ => True) d ⟨false, ["crate", "T"]⟩ := by
  obtain ⟨o, ho, hpending, hmodule, hbody⟩ :
      ∃ o ∈ (fileAt keywordFiles ⟨"src"⟩ "app" ⟨"src/lib.rs"⟩).occurrences,
        o.pending? = some ⟨⟨["app"], []⟩, ⟨false, ["crate", "T"]⟩, ⟨false, ["S"]⟩⟩ ∧
          o.module = ["app"] ∧ ∀ item ∈ o.body, itemBindings item = [] := by decide +kernel
  obtain ⟨d, hd, hown, hhome⟩ :
      ∃ d ∈ (fileAt keywordFiles ⟨"src"⟩ "app" ⟨"src/crate.rs"⟩).occurrences,
        d.ownName? = some "T" ∧ d.module = ["app", "crate"] := by decide +kernel
  refine ⟨o, ho, d, hd, hpending, ?_, "T", hown, ⟨.here, ["crate"], trivial, ?_⟩, trivial, rfl,
    fun first _ => ?_⟩
  · rw [Occurrence.declaredName?_eq, hown, Option.map_some, Occurrence.qualified, hhome]
    decide +kernel
  · rw [hhome, hmodule]
    rfl
  · rintro ⟨item, hitem, path, hpath⟩
    rw [hbody item hitem] at hpath
    exact absurd hpath List.not_mem_nil

/-- Not every spelling refers to what it spells: that of the trait in the file is taken for one that
begins at the root. -/
theorem load_mistakes_keywordFiles :
    ∃ tree, load keywordFiles ⟨"src"⟩ "app" "mark" = .ok tree ∧
      ¬ ∃ files : List SourceFile, files.map SourceFile.path = tree.files ∧
        (∀ f ∈ files, f.StandsIn keywordFiles ⟨"src"⟩ (normalizeCrateName "app") ∧
          f.Readable "mark") ∧
        tree.Resolves (normalizeCrateName "app") files fun _ _ => True := by
  have hloads : ∀ p ∈ [⟨"src/crate.rs"⟩, ⟨"src/lib.rs"⟩],
      LoadsAt keywordFiles ⟨"src"⟩ (normalizeCrateName "app") "mark" p := by decide +kernel
  obtain ⟨tree, hload, hfiles, c, rfl, -, htypes⟩ := load_of_loadsAt sourceFiles_keywordFiles hloads
  refine ⟨tree, hload, ?_⟩
  rintro ⟨files, hpaths, hstands, hresolves⟩
  obtain rfl := eq_map_fileAt hpaths fun f hf => (hstands f hf).1
  have hroot : normalizeCrateName "app" = "app" := by decide
  rw [hfiles, hroot] at hresolves
  rw [hroot] at htypes
  obtain ⟨o, ho, d, hd, hpending, hdeclared, hspells⟩ := spells_keywordFiles
  obtain ⟨type, trait, hmem, hnames⟩ := hresolves _ (by simp) o ho _ hpending
  have htrait : trait = "app::crate::T" := (hnames _ (by simp) d hd _ hdeclared).2 hspells
  have himplementations : tree.types.implementations = [("app::S", "app::T")] := by
    rw [htypes]
    decide +kernel
  rw [himplementations, List.mem_singleton, htrait] at hmem
  have hwrong : "app::crate::T" = "app::T" := congrArg Prod.snd hmem
  exact absurd hwrong (by decide)

end ReceiverLoader.Source
