import ReceiverLoader.Proofs.BuildScript.Agreement
import ReceiverLoader.Proofs.CommandLine.Completion
import ReceiverLoader.Proofs.Host.Announcing
import ReceiverLoader.Proofs.Round.Unmarked
import ReceiverLoader.Proofs.Source.Load

/-!
# Sources without receivers

Where no declaration is marked nothing is generated. Only the name of the module decides how the
command `generate` and a build script end: without one they fail, though there is nothing to load.

* `CommandLine.generate_unmarked`: how the command ends.
* `BuildScript.run_unmarked`: how a build script ends, and what it prints.
* `unmarked_skipped`: these, and any round without receivers on any host.
* `unmarked_unnamed_fails`: a round without receivers can report an error.
-/

namespace ReceiverLoader

/-! ## The command -/

namespace CommandLine

/-- The command has `done` without a loader: nothing is printed, no file has changed, and it has
ended well iff the last name that the options give to the module is not empty. -/
structure EndsIdle (options : List (String × String)) (files : FileSystem) (done : Completion) :
    Prop where
  exitCode : done.exitCode = 0 ↔ ∃ name, lastValue? Loader.moduleOption options = some name ∧
    name ≠ ""
  output : done.output = []
  files : ∀ route, FileSystem.SameFile files done.files route

theorem generate_unmarked (verbose : Bool) (source : SourceChoice) (out : FilePath)
    (options : List (String × String)) (lineEnding : LineEnding) {files : FileSystem}
    {tree : Source.Tree}
    (hload : Source.load files source.directory source.crateName Loader.markerName = .ok tree)
    (hround : tree.round.IsUnmarked Loader.markerName) :
    EndsIdle options files (generate verbose source out options lineEnding files) := by
  have hskipped := (processRound_unmarked (generatingHost source out options files tree)
    (settingsFor lineEnding) hround).outcome
  have hcompletes : Completes source out options lineEnding files _ :=
    completes_of_ok verbose hload
  generalize hprocess : processRound (generatingHost source out options files tree)
    (settingsFor lineEnding) tree.round = ended at hskipped
  obtain ⟨after, outcome⟩ := ended
  obtain rfl : outcome = .skipped := hskipped
  obtain ⟨hgeneration, -⟩ := generate_ok verbose hload hprocess
  have hidle := hcompletes.idle fun h a ha => by cases hgeneration.symm.trans ha
  refine ⟨hcompletes.exitCode.trans ⟨?_, ?_⟩, hidle.1, hidle.2⟩
  · rintro ⟨-, -, -, name, -, -, hname, hne, -⟩
    exact ⟨name, hname, hne⟩
  · rintro ⟨name, hname, hne⟩
    exact ⟨tree, after, .skipped, name, hload, hgeneration, hname, hne, Or.inl rfl⟩

end CommandLine

/-! ## A build script -/

/-- What is reported to a host that tells it to the build tool is printed, and nothing else. -/
theorem Host.printed_reported {h h' : Host} {ds : List Diagnostic} (hstyle : h.style = .directives)
    (hreported : Reported h ds h') :
    h'.style = .directives ∧ ∃ blocks, List.Forall₂ Announces ds blocks ∧
      h'.printed = h.printed ++ blocks.flatten := by
  induction hreported with
  | refl => exact ⟨hstyle, [], .nil, (List.append_nil _).symm⟩
  | note entry _ ih => exact ih
  | @report told ds d _ ih =>
    obtain ⟨hstyle, blocks, hblocks, hprinted⟩ := ih
    obtain ⟨log, block, hblock, hreport⟩ := report_announces hstyle d
    have hreport : BuildContext.report told d = _ := hreport
    rw [hreport]
    refine ⟨hstyle, blocks ++ [block], List.rel_append hblocks (.cons hblock .nil), ?_⟩
    change told.printed ++ block = _
    rw [hprinted, List.flatten_append, List.flatten_singleton, List.append_assoc]

namespace BuildScript

/-- A build script ends behind a round that was skipped: no file has changed, it prints what there
is to say about the module's name, besides the lines on which its result depends, and an error is
among this iff the name is missing. -/
structure EndsIdle (b : BuildScript) (files : FileSystem) (environment : Environment)
    (tree : Source.Tree) : Prop where
  ends : ∃ after, (b.run files environment).2 = .ok (after, .skipped) ∧ after.files = files ∧
    (after.hasErrors ↔ settled? b.options environment = none ∨
      settled? b.options environment = some "")
  printed : ∃ reported blocks,
    NameReport b.settings.separator (settled? b.options environment) reported ∧
      List.Forall₂ Host.Announces reported blocks ∧
      (b.run files environment).1 = (b.runningHost files tree).printed ++ blocks.flatten

theorem printed_run {b : BuildScript} {files : FileSystem} {environment : Environment}
    {tree : Source.Tree}
    (hload : Source.load files b.sourceDirectory b.crateName b.settings.marker = .ok tree) :
    (b.run files environment).1 =
      (processRound ((b.runningHost files tree).setOptions (b.resolveOptions environment))
        b.settings tree.round).1.printed := by
  rw [run, hload]
  rfl

theorem run_unmarked {b : BuildScript} {files : FileSystem} (environment : Environment)
    {tree : Source.Tree}
    (hload : Source.load files b.sourceDirectory b.crateName b.settings.marker = .ok tree)
    (hround : tree.round.IsUnmarked b.settings.marker) : b.EndsIdle files environment tree := by
  generalize hhost :
    (b.runningHost files tree).setOptions (b.resolveOptions environment) = h
  have hname : h.option? Loader.moduleOption = settled? b.options environment := by
    rw [← hhost, Host.option?_setOptions, lastValue?_resolved, if_pos rfl,
      (runningHost_agrees b files tree).option?]
    exact Option.or_none
  have hkept : h.style = .directives ∧ h.printed = (b.runningHost files tree).printed ∧
      h.diagnostics = [] ∧ h.files = files := by
    rw [← hhost, Host.setOptions_eq, runningHost, Host.foldl_print]
    exact ⟨rfl, rfl, rfl, rfl⟩
  obtain ⟨hstyle, hprinted, hdiagnostics, hfiles⟩ := hkept
  obtain ⟨hskipped, -, reported, hreported, hnamed⟩ := processRound_unmarked h _ hround
  have hresult := @run_ok b files environment tree hload
  have hlines := @printed_run b files environment tree hload
  have herrors := hasErrors_processRound_iff h b.settings tree.round
  rw [hhost] at hresult hlines
  generalize processRound h b.settings tree.round = ended at *
  obtain ⟨after, outcome⟩ := ended
  obtain rfl : outcome = .skipped := hskipped
  have hnone : h.hasErrors = false := by
    rw [Host.hasErrors, hdiagnostics]
    rfl
  refine ⟨⟨after, hresult, ?_, ?_⟩, ?_⟩
  · exact (Host.sameStore_of_told hreported.told).files.trans hfiles
  · rw [herrors, hnone, hname]
    simp
  · obtain ⟨-, blocks, hblocks, hafter⟩ := Host.printed_reported hstyle hreported
    refine ⟨reported, blocks, hname ▸ hnamed, hblocks, ?_⟩
    rw [hlines, hafter, hprinted]

end BuildScript

/-! ## Both, and rounds -/

/-- A round without receivers is skipped, writes nothing and reports nothing but what there is to
say about the name of the module. So on sources without receivers the command `generate` and a build
script generate nothing, and they end well iff the module has a name. -/
theorem unmarked_skipped :
    (∀ {σ : Type} [BuildContext σ] (h : σ) (settings : Settings) (round : Round),
      round.IsUnmarked settings.marker → IsSkipped h settings round) ∧
    (∀ (verbose : Bool) (source : CommandLine.SourceChoice) (out : FilePath)
      (options : List (String × String)) (lineEnding : CommandLine.LineEnding)
      (files : FileSystem) (tree : Source.Tree),
      Source.load files source.directory source.crateName Loader.markerName = .ok tree →
      tree.round.IsUnmarked Loader.markerName →
      CommandLine.EndsIdle options files
        (CommandLine.generate verbose source out options lineEnding files)) ∧
    ∀ (b : BuildScript) (files : FileSystem) (environment : Environment) (tree : Source.Tree),
      Source.load files b.sourceDirectory b.crateName b.settings.marker = .ok tree →
      tree.round.IsUnmarked b.settings.marker → b.EndsIdle files environment tree :=
  ⟨fun h _ _ hround => processRound_unmarked h _ hround,
    fun verbose source out options lineEnding _ _ hload hround =>
      CommandLine.generate_unmarked verbose source out options lineEnding hload hround,
    fun _ _ environment _ hload hround => BuildScript.run_unmarked environment hload hround⟩

/-! ### A tree in which nothing is marked -/

/-- A source tree of one type, which is not marked. -/
def plainFiles : FileSystem :=
  ⟨[(["src"], .directory), (["src", "lib.rs"], .file "pub struct Plain;".toUTF8)], []⟩

theorem sourceFiles_plainFiles :
    Source.sourceFiles plainFiles ⟨"src"⟩ = .ok [⟨"src/lib.rs"⟩] :=
  Source.sourceFiles_of_filesBelow rfl rfl (by decide)

theorem load_plainFiles : ∃ tree,
    Source.load plainFiles ⟨"src"⟩ "app" Loader.markerName = .ok tree ∧
      tree.round.declarations = [] ∧ tree.types.declared = ["app::Plain"] := by
  have hloads : ∀ p ∈ [⟨"src/lib.rs"⟩], Source.LoadsAt plainFiles ⟨"src"⟩
      (Source.normalizeCrateName "app") Loader.markerName p := by decide +kernel
  obtain ⟨tree, hload, -, c, rfl, hround, htypes⟩ :=
    Source.load_of_loadsAt sourceFiles_plainFiles hloads
  refine ⟨tree, hload, ?_, ?_⟩
  · rw [hround]
    decide +kernel
  · rw [htypes]
    decide +kernel

theorem isUnmarked_of_declarations {round : Round} (h : round.declarations = []) (marker : String) :
    round.IsUnmarked marker := by
  intro d hd
  rw [h] at hd
  cases hd

/-- The build script of the tree, where the name of the module is given and empty. -/
def unnamedScript : BuildScript :=
  ⟨⟨"."⟩, ⟨"out"⟩, "app", ⟨"src"⟩, [(Loader.moduleOption, "")], Settings.standard⟩

/-- On this tree the command ends well with a name that is not part of an identifier, and fails
where the last name is empty; the build script reports an error though the environment has a
name. -/
theorem unmarked_skipped_plainFiles :
    ∃ tree, Source.load plainFiles ⟨"src"⟩ "app" Loader.markerName = .ok tree ∧
      tree.types.declared = ["app::Plain"] ∧ tree.round.IsUnmarked Loader.markerName ∧
      IsSkipped (Host.start ⟨"out"⟩ tree.types .log plainFiles) Settings.standard tree.round ∧
      (CommandLine.generate false ⟨⟨"src"⟩, "app"⟩ ⟨"out"⟩ [("MODULE_NAME", "a b")] .native
        plainFiles).exitCode = 0 ∧
      (CommandLine.generate false ⟨⟨"src"⟩, "app"⟩ ⟨"out"⟩
        [("MODULE_NAME", "auth"), ("MODULE_NAME", "")] .native plainFiles).exitCode ≠ 0 ∧
      ∃ after, (unnamedScript.run plainFiles [("MODEV_MODULE_NAME", "auth")]).2 =
        .ok (after, .skipped) ∧ after.hasErrors := by
  obtain ⟨tree, hload, hnone, htypes⟩ := load_plainFiles
  have hround := isUnmarked_of_declarations hnone Loader.markerName
  obtain ⟨hrounds, hcommand, hscript⟩ := unmarked_skipped
  obtain ⟨after, hresult, -, herrors⟩ :=
    (hscript unnamedScript plainFiles [("MODEV_MODULE_NAME", "auth")] tree hload hround).ends
  refine ⟨tree, hload, htypes, hround, hrounds _ _ _ hround, ?_, ?_, after, hresult, ?_⟩
  · exact (hcommand false ⟨⟨"src"⟩, "app"⟩ ⟨"out"⟩ _ .native _ _ hload hround).exitCode.mpr
      ⟨"a b", by decide +kernel, by decide⟩
  · rw [Ne, (hcommand false ⟨⟨"src"⟩, "app"⟩ ⟨"out"⟩ _ .native _ _ hload hround).exitCode]
    rintro ⟨name, hname, hne⟩
    have hlast : lastValue? Loader.moduleOption [("MODULE_NAME", "auth"), ("MODULE_NAME", "")] =
        some "" := by decide +kernel
    exact hne (Option.some.inj (hname.symm.trans hlast))
  · exact herrors.mpr (Or.inr (by decide +kernel))

/-- A round without receivers is not always quiet: without a name of the module it reports an error,
and the command fails on a tree in which nothing is marked. -/
theorem unmarked_unnamed_fails :
    Round.empty.IsUnmarked Settings.standard.marker ∧
      (processRound (Host.start ⟨"out"⟩ TypeTable.empty .log plainFiles) Settings.standard
        Round.empty).1.diagnostics = [⟨.error, Context.missingModule "\n", none, none⟩] ∧
      ∃ tree, Source.load plainFiles ⟨"src"⟩ "app" Loader.markerName = .ok tree ∧
        tree.round.IsUnmarked Loader.markerName ∧
        (CommandLine.generate false ⟨⟨"src"⟩, "app"⟩ ⟨"out"⟩ [] .native plainFiles).exitCode ≠
          0 := by
  obtain ⟨tree, hload, hnone, -⟩ := load_plainFiles
  have hround := isUnmarked_of_declarations hnone Loader.markerName
  have hidle := CommandLine.generate_unmarked false ⟨⟨"src"⟩, "app"⟩ ⟨"out"⟩ [] .native
    hload hround
  refine ⟨isUnmarked_of_declarations rfl _, rfl, tree, hload, hround, ?_⟩
  rw [Ne, hidle.exitCode]
  rintro ⟨name, hname, -⟩
  cases hname

end ReceiverLoader
