import ReceiverLoader.Proofs.FilePath.Components
import ReceiverLoader.Proofs.Round.Files
import ReceiverLoader.Proofs.Round.Report
import ReceiverLoader.Proofs.Token.Fragment

/-!
# Where a round writes

The name of the module goes into the path of the loader as it is. A name that draws no diagnostic
when the round begins consists of characters of identifiers, so that it adds no component to the
path and leads nowhere else.

* `Loader.isName_fileName`: the name of the loader's file is a single component.
* `Host.components_loaderPath`, `Loader.components_includedPath`: the file stands where the crate
  looks for it.
* `processRound_confined`: a round writes there or nowhere, unless it has drawn a diagnostic.
-/

namespace ReceiverLoader

open Text (Ident.isContinue Ident.isFragment)

/-! ## The path of a loader -/

namespace Loader

/-- The name of the file of a module's loader. -/
def fileName (module : String) : String := typeName module ++ ".rs"

/-- The directory of generated files has a plain name. -/
theorem isName_package : FilePath.IsName package := by decide

theorem toList_fileName (module : String) :
    (fileName module).toList = typePrefix.toList ++ module.toList ++ ".rs".toList := by
  rw [fileName, typeName, String.toList_append, String.toList_append]

variable {module : String} (hmodule : Ident.isFragment module = true)

include hmodule

/-- A character that continues no identifier stands in a loader's file name only if it stands in
what all such names begin or end with. -/
theorem not_mem_fileName {c : Char} (hc : Ident.isContinue c = false)
    (hfront : c ∉ typePrefix.toList) (hback : c ∉ ".rs".toList) :
    c ∉ (fileName module).toList := by
  rw [toList_fileName, List.mem_append, List.mem_append]
  rintro ((hmem | hmem) | hmem)
  · exact hfront hmem
  · have hcontinue := List.all_eq_true.mp hmodule c hmem
    rw [hc] at hcontinue
    cases hcontinue
  · exact hback hmem

/-- The name of the file of a loader is a single component. -/
theorem isName_fileName : FilePath.IsName (fileName module) := by
  have hlength : 3 ≤ (fileName module).length := by
    have hback : ".rs".length = 3 := by decide
    rw [fileName, String.length_append, hback]
    exact Nat.le_add_left 3 _
  refine ⟨?_, ?_, ?_, not_mem_fileName hmodule (by decide) (by decide) (by decide)⟩
  all_goals
    intro heq
    rw [heq] at hlength
    exact absurd hlength (by decide)

/-- A crate looks for the loader in the directory of generated files. -/
theorem components_includedPath {out : FilePath} (hout : out.text ≠ "") :
    (includedPath out module).components =
      out.components ++ [.name package, .name (fileName module)] := by
  have hpath : includedPath out module =
      ⟨(⟨out.text ++ "/" ++ package⟩ : FilePath).text ++ "/" ++ fileName module⟩ := by
    have hbetween : "/modev_generated/ModuleDataLoader_" =
        "/" ++ package ++ "/" ++ typePrefix := by decide
    rw [includedPath, hbetween, fileName, typeName]
    simp only [String.append_assoc]
  have hne : (⟨out.text ++ "/" ++ package⟩ : FilePath).text ≠ "" := by
    simp [package]
  rw [hpath, FilePath.components_slash hne (isName_fileName hmodule),
    FilePath.components_slash hout isName_package, List.append_assoc]
  rfl

end Loader

/-- The file of the loader is two names below the directory that generated files are written below:
the name of their module and its own. -/
theorem Host.components_loaderPath (h : Host)
    (hmodule : Ident.isFragment (moduleNameOf h) = true) :
    h.loaderPath.components = h.outDirectory.components ++
      [.name Loader.package, .name (Loader.fileName (moduleNameOf h))] := by
  have hpath : h.loaderPath =
      (h.outDirectory.join ⟨Loader.package⟩).join ⟨Loader.fileName (moduleNameOf h)⟩ := rfl
  rw [hpath, FilePath.components_join _ (Loader.isName_fileName hmodule),
    FilePath.components_join _ Loader.isName_package, List.append_assoc]
  rfl

/-! ## Rounds -/

/-- The module that a round on the host `h` is for has this name, which can be a part of the name of
a type: with the beginning of an identifier before it, it is read as one word. -/
structure NamesModule (h : Host) (module : String) : Prop where
  option : h.option? Loader.moduleOption = some module
  ne_empty : module ≠ ""
  read : Token.soleWord? ("M_" ++ module) = some ("M_" ++ module)

theorem NamesModule.moduleNameOf_eq {h : Host} {module : String} (hn : NamesModule h module) :
    moduleNameOf h = module := congrArg (·.getD "") hn.option

theorem NamesModule.isFragment {h : Host} {module : String} (hn : NamesModule h module) :
    Ident.isFragment module = true := (Token.soleWord?_eq_self_iff module).mp hn.read

theorem NamesModule.isContinue {h : Host} {module : String} (hn : NamesModule h module) {c : Char}
    (hc : c ∈ module.toList) : Ident.isContinue c = true := List.all_eq_true.mp hn.isFragment c hc

/-- What a round for `module` on the host `h` may do to the files; `files` are those behind it. -/
structure Confined (h : Host) (module : String) (files : FileSystem) (outcome : Outcome) :
    Prop where
  /-- The loader has a plain name below the directory of generated files. -/
  components : h.loaderPath.components =
    h.outDirectory.components ++ [.name Loader.package, .name (Loader.fileName module)]
  isName : FilePath.IsName (Loader.fileName module)
  not_nul : '\x00' ∉ (Loader.fileName module).toList
  /-- There the crate looks for it. -/
  included : h.outDirectory.text ≠ "" →
    (Loader.includedPath h.outDirectory module).components = h.loaderPath.components
  /-- No other file changes, and this one only if it is generated. -/
  files : FilesBehind h.loaderPath h.files files outcome

theorem NamesModule.confined {h : Host} {module : String} (hn : NamesModule h module)
    (settings : Settings) (round : Round) :
    Confined h module (processRound h settings round).1.files
      (processRound h settings round).2 := by
  have hfragment := hn.isFragment
  have hpath := h.components_loaderPath
  rw [hn.moduleNameOf_eq] at hpath
  exact {
    components := hpath hfragment
    isName := Loader.isName_fileName hfragment
    not_nul := Loader.not_mem_fileName hfragment (by decide) (by decide) (by decide)
    included := fun hout =>
      (Loader.components_includedPath hfragment hout).trans (hpath hfragment).symm
    files := processRound_files h settings round }

/-- A round draws no diagnostic when it begins iff the name of its module is given and can be a part
of the name of a type. -/
theorem start_diagnostics_eq_iff (h : Host) (settings : Settings) :
    (Context.start h settings).1.diagnostics = h.diagnostics ↔ ∃ module, NamesModule h module := by
  obtain ⟨reported, hreported, hname⟩ := Context.start_reports h settings
  rw [hreported, List.append_right_eq_self, hname.eq_nil_iff]
  constructor
  · rintro ⟨module, hoption, hne, hread⟩
    exact ⟨module, hoption, hne, hread⟩
  · rintro ⟨module, hn⟩
    exact ⟨module, hn.option, hn.ne_empty, hn.read⟩

/-- How a round keeps the files of its host safe from the name of its module. -/
structure Guarded (h : Host) (settings : Settings) (round : Round) : Prop where
  /-- Without a diagnostic when it begins, the round is confined. -/
  quiet : (Context.start h settings).1.diagnostics = h.diagnostics →
    ∃ module, NamesModule h module ∧
      Confined h module (processRound h settings round).1.files (processRound h settings round).2
  /-- Else it has drawn an error or a warning, which stands before all others of the round, and it
  was drawn before anything was written. -/
  loud : (Context.start h settings).1.diagnostics ≠ h.diagnostics → ∃ d later,
    (d.severity = .error ∨ d.severity = .warning) ∧
      (Context.start h settings).1.diagnostics = h.diagnostics ++ [d] ∧
      (Context.start h settings).1.files = h.files ∧
      (processRound h settings round).1.diagnostics = h.diagnostics ++ d :: later
  /-- Each character that continues no identifier draws one. -/
  unfit : ∀ module, h.option? Loader.moduleOption = some module →
    ∀ c ∈ module.toList, Ident.isContinue c = false →
      (Context.start h settings).1.diagnostics ≠ h.diagnostics

/-- A round whose module's name draws no diagnostic changes the file of its loader at most, below
the directory of generated files; each other name draws a diagnostic first. -/
theorem processRound_confined (h : Host) (settings : Settings) (round : Round) :
    Guarded h settings round := by
  have hquiet := start_diagnostics_eq_iff h settings
  refine ⟨fun hsame => ?_, fun hdiffers => ?_, fun module hoption c hmem hc hsame => ?_⟩
  · obtain ⟨module, hn⟩ := hquiet.mp hsame
    exact ⟨module, hn, hn.confined settings round⟩
  · obtain ⟨named, hnamed, hname⟩ := Context.start_reports h settings
    obtain ⟨later, hlater, -⟩ := Context.process_reports (Context.start h settings).2
      (Context.start h settings).1 round
    have hfiles := (Host.sameStore_of_told (Context.start_told h settings)).files
    have hall : (processRound h settings round).1.diagnostics =
        (Context.start h settings).1.diagnostics ++ later := hlater
    rw [hnamed, List.append_assoc] at hall
    generalize h.option? Loader.moduleOption = name? at hname
    cases hname with
    | missing => exact ⟨_, later, Or.inl rfl, hnamed, hfiles, hall⟩
    | unfit => exact ⟨_, later, Or.inr rfl, hnamed, hfiles, hall⟩
    | fit => exact absurd (hnamed.trans (List.append_nil _)) hdiffers
  · obtain ⟨module', hn⟩ := hquiet.mp hsame
    obtain rfl : module' = module := Option.some.inj (hn.option.symm.trans hoption)
    exact Bool.eq_false_iff.mp hc (hn.isContinue hmem)

/-- A host that begins below another directory than the top, with one receiver's type. Its directory
of generated files has no text. -/
def nowhereHost : Host :=
  (Host.start ⟨""⟩ ⟨["game::Door"], [("game::Door", Loader.listenerTrait)]⟩ .log
    ⟨[(["work"], .directory)], ["work"]⟩).setOption Loader.moduleOption "game"

/-- A round with one receiver. -/
def doorRound : Round :=
  ⟨[⟨"game::Door", "game::Door", none, [(Loader.markerName, ⟨"g", 1, 0⟩)]⟩]⟩

/-- Without a text for the directory the loader is written below the directory at hand, and looked
for below the top. -/
theorem processRound_misplaced :
    (Context.start nowhereHost .standard).1.diagnostics = nowhereHost.diagnostics ∧
      (∃ a, (processRound nowhereHost .standard doorRound).2 = .generated a ∧
        (processRound nowhereHost .standard doorRound).1.files.readText nowhereHost.loaderPath =
          .ok a.content) ∧
      nowhereHost.loaderPath.components =
        [.name "modev_generated", .name "ModuleDataLoader_game.rs"] ∧
      (Loader.includedPath nowhereHost.outDirectory "game").components =
        [.root, .name "modev_generated", .name "ModuleDataLoader_game.rs"] ∧
      (processRound nowhereHost .standard doorRound).1.files.readText
        (Loader.includedPath nowhereHost.outDirectory "game") = .error .notFound := by
  have hsome : (processRound nowhereHost .standard doorRound).2.artifact?.isSome := by
    decide +kernel
  refine ⟨rfl, ?_, by decide +kernel, by decide +kernel, by decide +kernel⟩
  obtain ⟨a, ha⟩ := Option.isSome_iff_exists.mp hsome
  have hgenerated := Outcome.artifact?_eq_some ha
  exact ⟨a, hgenerated, ((processRound_files _ _ _).generated a hgenerated).readText⟩

end ReceiverLoader
