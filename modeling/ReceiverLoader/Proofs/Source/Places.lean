import ReceiverLoader.Proofs.FilePath.Stems
import ReceiverLoader.Proofs.Source.Files
import ReceiverLoader.Text.Ident

/-!
# Which files hold the same module

A source file lies at a place below the source directory: behind some directories, under a name of
its own. Where these are made of characters that identifiers have, the place alone says which module
the file holds.

* `IsAt.modulePath_eq`: the module of the file at a place.
* `followsPlaces_modulePath`: a file and the `mod.rs` of the directory called like it hold the same
  module, and so do the files that a crate begins with; no others do.
* `exists_place`: every source file below a directory has its place.
-/

namespace ReceiverLoader.Source

open FilePath (isModuleRoot)
open Text.Ident (isFragment)

/-! ## Places -/

/-- A place for a source file below a directory. -/
structure Place where
  /-- The directories on the way to the file, the outermost first. -/
  directories : List String
  /-- The name of the file before `.rs`. -/
  stem : String
deriving Repr, DecidableEq

namespace Place

/-- The names on the way to the file and its own. -/
def names (a : Place) : List String := a.directories ++ [a.stem ++ ".rs"]

/-- The path below `directory` leads to the place. -/
def IsAt (a : Place) (directory p : FilePath) : Prop :=
  p.components = directory.components ++ a.names.map .name

/-- The names are made of characters that may continue an identifier. -/
structure IsPlain (a : Place) : Prop where
  directories : ∀ name ∈ a.directories, isFragment name = true
  stem : isFragment a.stem = true

/-- A file that the crate itself may stand in. -/
def IsTop (a : Place) : Prop := a.directories = [] ∧ a.stem ∈ ["lib", "main", "mod"]

/-- The path of the file without `.rs`. -/
def path (a : Place) : List String := a.directories ++ [a.stem]

/-- The place of `mod.rs` in the directory that is called like the file. -/
def inDirectory (a : Place) : Place := ⟨a.path, "mod"⟩

/-- The file is called like the module that it holds: it has a name, which is not `mod`, and not one
of those that a crate begins with. -/
structure IsNamesake (a : Place) : Prop where
  ne_empty : a.stem ≠ ""
  ne_mod : a.stem ≠ "mod"
  ne_top : ¬(a.directories = [] ∧ a.stem ∈ ["lib", "main"])

/-- Of two files the first is called like its module, and the second is `mod.rs` in the directory
called like it. -/
def Doubles (a b : Place) : Prop := a.IsNamesake ∧ b = a.inDirectory

end Place

/-- Which modules the files below `directory` hold, and which of them hold the same. -/
structure FollowsPlaces (crate : String) (directory : FilePath)
    (module : FilePath → List String) : Prop where
  /-- Every module is one of the crate. -/
  begins : ∀ p, (module p).head? = some crate
  /-- A file that is called like its module has the names on the way to it, and its own. -/
  namesake : ∀ p a, Place.IsAt a directory p → a.IsPlain → a.IsNamesake → module p = crate :: a.path
  /-- So has the `mod.rs` of a directory, whatever the directory is called. -/
  inDirectory : ∀ p a, (Place.inDirectory a).IsAt directory p → module p = crate :: a.path
  /-- Different files have the same module if they are both for the crate itself, or one called like
  the module and one in the directory called like it. -/
  same_iff : ∀ p q a b, Place.IsAt a directory p → Place.IsAt b directory q → a.IsPlain →
    b.IsPlain → p.components ≠ q.components →
      (module p = module q ↔ a.IsTop ∧ b.IsTop ∨ a.Doubles b ∨ b.Doubles a)

namespace Place

/-! ## The module of a place -/

/-- The name of the file without its extension. A name whose only dot comes first has none. -/
def ownName (a : Place) : String := if a.stem = "" then ".rs" else a.stem

/-- The names of the module of a file at the place. -/
def moduleNames (a : Place) : List String :=
  if isModuleRoot a.directories.isEmpty a.ownName then a.directories
  else a.directories ++ [a.ownName]

variable {a b : Place}

theorem dropExtension_stem (a : Place) (h : a.stem ≠ ".") :
    FilePath.dropExtension false (a.stem ++ ".rs") = a.ownName := by
  rw [ownName]
  split
  · rename_i hempty
    rw [hempty]
    rfl
  · rename_i hempty
    have hrs : a.stem ++ ".rs" = a.stem ++ "." ++ "rs" := by
      rw [String.append_assoc]
      rfl
    rw [hrs, FilePath.dropExtension_append false hempty h (by decide)]

theorem ownName_ne_here (h : a.stem ≠ ".") : a.ownName ≠ "." := by
  rw [ownName]
  split
  · decide
  · exact h

theorem not_isFragment_of_dot {text : String} (h : '.' ∈ text.toList) :
    isFragment text = false := by
  rw [isFragment, List.all_eq_false]
  exact ⟨'.', h, by decide⟩

theorem IsPlain.stem_ne_here (h : a.IsPlain) : a.stem ≠ "." := by
  intro heq
  have hfalse : isFragment "." = false := not_isFragment_of_dot (by decide)
  rw [← heq, h.stem] at hfalse
  cases hfalse

/-- Only the name of a file with nothing before `.rs` has a dot left. -/
theorem IsPlain.isFragment_ownName_iff (h : a.IsPlain) :
    isFragment a.ownName = true ↔ a.stem ≠ "" := by
  rw [ownName]
  split
  · rename_i hempty
    rw [not_isFragment_of_dot (by decide)]
    exact iff_of_false Bool.false_ne_true (fun hne => hne hempty)
  · rename_i hne
    exact iff_of_true h.stem hne

/-- The module of the file at a place. -/
theorem IsAt.modulePath_eq {directory p : FilePath} (hp : a.IsAt directory p) (crate : String)
    (hstem : a.stem ≠ ".") : modulePath crate directory p = crate :: a.moduleNames := by
  rw [modulePath, FilePath.moduleComponents_of_names hp (a.dropExtension_stem hstem)
    (ownName_ne_here hstem), moduleNames]

/-- Which files are not called like their modules. -/
theorem isModuleRoot_iff :
    isModuleRoot a.directories.isEmpty a.ownName = true ↔
      a.stem = "mod" ∨ a.directories = [] ∧ a.stem ∈ ["lib", "main"] := by
  have hown : ∀ word, word ≠ "" → word ≠ ".rs" → (a.ownName = word ↔ a.stem = word) := by
    intro word hword hrs
    rw [ownName]
    split
    · rename_i hempty
      rw [hempty]
      exact ⟨fun h => absurd h.symm hrs, fun h => absurd h.symm hword⟩
    · rfl
  simp only [isModuleRoot, Bool.or_eq_true, Bool.and_eq_true, beq_iff_eq, List.isEmpty_iff,
    List.mem_cons, List.not_mem_nil, or_false]
  rw [hown "mod" (by decide) (by decide), hown "lib" (by decide) (by decide),
    hown "main" (by decide) (by decide)]

theorem isTop_iff :
    a.IsTop ↔ a.directories = [] ∧ isModuleRoot a.directories.isEmpty a.ownName = true := by
  rw [isModuleRoot_iff, IsTop]
  refine and_congr_right fun hnone => ?_
  simp only [hnone, true_and, List.mem_cons, List.not_mem_nil, or_false]
  rw [← or_assoc, or_comm]

theorem moduleNames_of_isTop (h : a.IsTop) : a.moduleNames = [] := by
  obtain ⟨hnone, hroot⟩ := isTop_iff.mp h
  rw [moduleNames, if_pos hroot, hnone]

theorem moduleNames_inDirectory (a : Place) : a.inDirectory.moduleNames = a.path :=
  if_pos (isModuleRoot_iff.mpr (Or.inl rfl))

theorem not_isModuleRoot (h : a.IsNamesake) :
    ¬isModuleRoot a.directories.isEmpty a.ownName = true := by
  rw [isModuleRoot_iff]
  exact fun hroot => hroot.elim h.ne_mod h.ne_top

theorem moduleNames_of_isNamesake (h : a.IsNamesake) : a.moduleNames = a.path := by
  rw [moduleNames, if_neg (not_isModuleRoot h), ownName, if_neg h.ne_empty, path]

/-! ## Places with the same module -/

/-- A file that is not called like its module holds that of one that is: it is `mod.rs` in the
directory called like that one. -/
theorem doubles_of_moduleNames (ha : a.IsPlain) (hb : b.IsPlain)
    (hnot : ¬isModuleRoot a.directories.isEmpty a.ownName = true)
    (hroot : isModuleRoot b.directories.isEmpty b.ownName = true)
    (h : a.moduleNames = b.moduleNames) : a.Doubles b := by
  rw [moduleNames, moduleNames, if_neg hnot, if_pos hroot] at h
  have hmem : a.ownName ∈ b.directories := by
    rw [← h]
    exact List.mem_append_right _ (List.mem_singleton_self _)
  have hne : a.stem ≠ "" := ha.isFragment_ownName_iff.mp (hb.directories _ hmem)
  have hmod : b.stem = "mod" := by
    refine (isModuleRoot_iff.mp hroot).resolve_right fun ⟨hnone, _⟩ => ?_
    rw [hnone] at hmem
    cases hmem
  rw [isModuleRoot_iff, not_or] at hnot
  rw [ownName, if_neg hne] at h
  refine ⟨⟨hne, hnot.1, hnot.2⟩, ?_⟩
  obtain ⟨directories, stem⟩ := b
  exact congrArg₂ Place.mk h.symm hmod

theorem eq_of_ownName (ha : a.IsPlain) (hb : b.IsPlain)
    (hdirectories : a.directories = b.directories) (hown : a.ownName = b.ownName) : a = b := by
  have hempty : a.stem = "" ↔ b.stem = "" := by
    refine not_iff_not.mp ?_
    rw [← ne_eq, ← ne_eq, ← ha.isFragment_ownName_iff, hown, hb.isFragment_ownName_iff]
  have hstem : a.stem = b.stem := by
    by_cases h : a.stem = ""
    · rw [h, hempty.mp h]
    · rwa [ownName, ownName, if_neg h, if_neg (mt hempty.mpr h)] at hown
  obtain ⟨directories, stem⟩ := a
  exact congrArg₂ Place.mk hdirectories hstem

/-- The ways in which two places can have the same module. -/
theorem same_of_moduleNames (ha : a.IsPlain) (hb : b.IsPlain) (h : a.moduleNames = b.moduleNames) :
    a = b ∨ a.IsTop ∧ b.IsTop ∨ a.Doubles b ∨ b.Doubles a := by
  by_cases hroot : isModuleRoot a.directories.isEmpty a.ownName = true
  · by_cases hroot' : isModuleRoot b.directories.isEmpty b.ownName = true
    · rw [moduleNames, moduleNames, if_pos hroot, if_pos hroot'] at h
      by_cases hnone : a.directories = []
      · exact Or.inr (Or.inl ⟨isTop_iff.mpr ⟨hnone, hroot⟩, isTop_iff.mpr ⟨h ▸ hnone, hroot'⟩⟩)
      · -- Inside a directory only `mod.rs` is not called like its module.
        have hmod := (isModuleRoot_iff.mp hroot).resolve_right fun hr => hnone hr.1
        have hmod' := (isModuleRoot_iff.mp hroot').resolve_right fun hr => hnone (h.trans hr.1)
        obtain ⟨directories, stem⟩ := a
        exact Or.inl (congrArg₂ Place.mk h (hmod.trans hmod'.symm))
    · exact Or.inr (Or.inr (Or.inr (doubles_of_moduleNames hb ha hroot' hroot h.symm)))
  · by_cases hroot' : isModuleRoot b.directories.isEmpty b.ownName = true
    · exact Or.inr (Or.inr (Or.inl (doubles_of_moduleNames ha hb hroot hroot' h)))
    · rw [moduleNames, moduleNames, if_neg hroot, if_neg hroot'] at h
      obtain ⟨hdirectories, hown⟩ := List.append_inj' h rfl
      exact Or.inl (eq_of_ownName ha hb hdirectories (List.singleton_inj.mp hown))

theorem Doubles.moduleNames_eq (h : a.Doubles b) : a.moduleNames = b.moduleNames := by
  obtain ⟨hnamesake, rfl⟩ := h
  rw [moduleNames_of_isNamesake hnamesake, moduleNames_inDirectory]

theorem moduleNames_eq_iff (ha : a.IsPlain) (hb : b.IsPlain) (hne : a ≠ b) :
    a.moduleNames = b.moduleNames ↔ a.IsTop ∧ b.IsTop ∨ a.Doubles b ∨ b.Doubles a := by
  refine ⟨fun h => (same_of_moduleNames ha hb h).resolve_left hne, ?_⟩
  rintro (⟨htop, htop'⟩ | h | h)
  · rw [moduleNames_of_isTop htop, moduleNames_of_isTop htop']
  · exact h.moduleNames_eq
  · exact h.moduleNames_eq.symm

end Place

/-- The place of a file says which module it holds, and where else that module may stand. -/
theorem followsPlaces_modulePath (crate : String) (directory : FilePath) :
    FollowsPlaces crate directory (modulePath crate directory) where
  begins p := rfl
  namesake p a hp ha hnamesake := by
    rw [hp.modulePath_eq crate ha.stem_ne_here, Place.moduleNames_of_isNamesake hnamesake]
  inDirectory p a hp := by
    have hmod : "mod" ≠ "." := by decide
    rw [hp.modulePath_eq crate hmod, Place.moduleNames_inDirectory]
  same_iff p q a b hp hq ha hb hne := by
    have hplaces : a ≠ b := fun heq => hne (by rw [hp, hq, heq])
    rw [hp.modulePath_eq crate ha.stem_ne_here, hq.modulePath_eq crate hb.stem_ne_here,
      List.cons_inj_right, Place.moduleNames_eq_iff ha hb hplaces]

/-- The file `mod.rs` stands for its directory, and `lib.rs` for the crate only at the top. -/
example : ["lib.rs", "main.rs", "a.rs", "a/mod.rs", "a/b.rs", "a/lib.rs"].map (fun name =>
    modulePath "app" ⟨"/p/src"⟩ ⟨"/p/src/" ++ name⟩) =
      [["app"], ["app"], ["app", "a"], ["app", "a"], ["app", "a", "b"], ["app", "a", "lib"]] := by
  decide +kernel

/-! ## Files with a place -/

/-- Every source file below a directory has its place there, unless it is what the directory's path
itself leads to. -/
theorem exists_place {fs : FileSystem} {directory p : FilePath} (wf : fs.WellFormed)
    (h : IsSourceFile fs directory p) : p = directory ∨ ∃ a : Place, a.IsAt directory p := by
  obtain ⟨root, node, names, content, hfind, hnode, rfl, hextension⟩ := h
  rcases List.eq_nil_or_concat names with rfl | ⟨directories, last, rfl⟩
  · exact Or.inl rfl
  · rw [List.concat_eq_append] at hnode hextension ⊢
    have hcomponents := FilePath.components_descend (text_ne_empty_of_find hfind)
      (wf.isName_of_node? hnode)
    have hname : (directory.descend (directories ++ [last])).fileName? = some last := by
      rw [FilePath.fileName?, hcomponents]
      simp
    rw [FilePath.extension?, hname] at hextension
    obtain ⟨⟨stem, behind⟩, hsplit, rfl⟩ := Option.map_eq_some_iff.mp hextension
    obtain ⟨rfl, -, -⟩ := FilePath.splitName_eq_some_iff.mp hsplit
    refine Or.inr ⟨⟨directories, stem⟩, ?_⟩
    rw [Place.IsAt, hcomponents, Place.names, String.append_assoc]
    rfl

end ReceiverLoader.Source
