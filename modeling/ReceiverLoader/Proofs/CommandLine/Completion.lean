import ReceiverLoader.Proofs.CommandLine.Generation
import ReceiverLoader.Proofs.CommandLine.Invocation
import ReceiverLoader.Proofs.Host.Style
import ReceiverLoader.Proofs.Round.Files
import ReceiverLoader.Proofs.Round.Report

/-!
# How the command `generate` ends

The exit code, what is printed and the files come from different parts of the command: the
diagnostics, the outcome of the round, and the host. `Completes` says how they go together.

* `succeeded_tell_iff`: when a round has ended well.
* `run_generate`: each accepted command line of the command ends as `Completes` says.
-/

namespace ReceiverLoader.CommandLine

variable {source : SourceChoice} {out : FilePath} {options : List (String × String)}
  {lineEnding : LineEnding} {files : FileSystem}

/-! ## The end of a round -/

/-- What is told about an outcome is printed only if a loader has been generated. -/
theorem printed_tell (h : Host) (outcome : Outcome) :
    (tell h outcome).printed = h.printed ++ (outcome.artifact?.toList.flatMap fun a =>
      Text.split '\n' (h.artifactPath a.package a.typeName).text) := by
  cases outcome <;> simp [tell, Outcome.artifact?, Host.note, Host.print]

theorem hasErrors_tell (h : Host) (outcome : Outcome) :
    (tell h outcome).hasErrors = h.hasErrors := by
  cases outcome <;> rfl

/-- The host tells to the log, and nothing has happened on it. -/
structure IsFresh (h : Host) : Prop where
  style : h.style = .log
  printed : h.printed = []
  diagnostics : h.diagnostics = []

/-- A round without earlier diagnostics has ended well iff its module has a name and it was skipped
or has generated the loader. -/
theorem succeeded_tell_iff {h : Host} (hnew : h.diagnostics = []) (settings : Settings)
    (round : Round) {after : Host} {outcome : Outcome}
    (hround : processRound h settings round = (after, outcome)) :
    succeeded (tell after outcome) outcome = true ↔
      (∃ name, h.option? Loader.moduleOption = some name ∧ name ≠ "") ∧
        (outcome = .skipped ∨ ∃ a, outcome = .generated a) := by
  have herrors := hasErrors_processRound_iff h settings round
  rw [hround] at herrors
  have hnone : h.hasErrors = false := by
    rw [Host.hasErrors, hnew]
    rfl
  have hname : (∃ name, h.option? Loader.moduleOption = some name ∧ name ≠ "") ↔
      ¬ (h.option? Loader.moduleOption = none ∨ h.option? Loader.moduleOption = some "") := by
    cases h.option? Loader.moduleOption <;> simp
  simp only [hnone, Bool.false_eq_true, false_or] at herrors
  rw [hname]
  cases outcome with
  | writeFailed _ _ => simp [succeeded]
  | skipped | generated _ | aborted _ =>
    simp only [succeeded, hasErrors_tell, Bool.not_eq_true', ← Bool.not_eq_true, herrors]
    simp

/-- How a round ends that begins on a fresh host. -/
theorem IsFresh.ends {h : Host} (hfresh : IsFresh h) (verbose : Bool) {settings : Settings}
    {round : Round} {after : Host} {outcome : Outcome}
    (hround : processRound h settings round = (after, outcome)) :
    ((ended verbose after outcome).exitCode = 0 ↔
      (∃ name, h.option? Loader.moduleOption = some name ∧ name ≠ "") ∧
        (outcome = .skipped ∨ ∃ a, outcome = .generated a)) ∧
    (ended verbose after outcome).output =
      (outcome.artifact?.toList.flatMap fun _ => Text.split '\n' h.loaderPath.text) ∧
    FilesBehind h.loaderPath h.files (ended verbose after outcome).files outcome := by
  have hfiles := processRound_files h settings round
  have hgenerated := @processRound_generated h settings round
  have hout := processRound_outDirectory h settings round
  have hprinted := Host.printed_processRound hfresh.style settings round
  rw [hround] at hfiles hgenerated hout hprinted
  refine ⟨?_, ?_, ?_⟩
  · rw [ended, exitCode_finished, succeeded_tell_iff hfresh.diagnostics settings round hround]
  · change (tell after outcome).printed = _
    rw [printed_tell, hprinted, hfresh.printed, List.nil_append]
    cases outcome with
    | generated a =>
      have hpath : after.artifactPath a.package a.typeName = h.loaderPath := by
        rw [hgenerated rfl]
        unfold Host.loaderPath Host.artifactPath
        rw [hout]
        rfl
      simp only [Outcome.artifact?, Option.toList_some, List.flatMap_cons, List.flatMap_nil, hpath]
    | skipped | aborted _ | writeFailed _ _ =>
      simp only [Outcome.artifact?, Option.toList_none, List.flatMap_nil]
  · change FilesBehind h.loaderPath h.files (tell after outcome).files outcome
    rw [files_tell]
    exact hfiles

/-! ## The end of the command -/

/-- How the command `generate` has `done`: its exit code, what it has printed, and the files. -/
structure Completes (source : SourceChoice) (out : FilePath) (options : List (String × String))
    (lineEnding : LineEnding) (files : FileSystem) (done : Completion) : Prop where
  /-- The command ends well iff the sources can be read, the last value of the module's name is not
  empty, and the round is skipped or generates the loader. -/
  exitCode : done.exitCode = 0 ↔ ∃ tree h outcome name,
    Source.load files source.directory source.crateName Loader.markerName = .ok tree ∧
    generation source out options lineEnding files = .ok (h, outcome) ∧
    lastValue? Loader.moduleOption options = some name ∧ name ≠ "" ∧
    (outcome = .skipped ∨ ∃ a, outcome = .generated a)
  /-- The path of a generated loader is printed. No other file has changed, and this one holds the
  loader of the receivers, with the line ends that were asked for. -/
  generated : ∀ h a, generation source out options lineEnding files = .ok (h, .generated a) →
    done.output = Text.split '\n' (loaderPathIn out (moduleOf options)).text ∧
      FileSystem.Replaces (loaderPathIn out (moduleOf options)) a.content files done.files ∧
      ∃ tree, Source.load files source.directory source.crateName Loader.markerName = .ok tree ∧
        a.content = Text.joinWith lineEnding.separator (Loader.lines (moduleOf options)
          ((tree.round.scan Loader.markerName).map
            (Receiver.ofDeclaration · Loader.markerName (moduleOf options))))
  /-- Without one nothing is printed, and no file has changed. -/
  idle : (∀ h a, generation source out options lineEnding files ≠ .ok (h, .generated a)) →
    done.output = [] ∧ ∀ route, FileSystem.SameFile files done.files route

theorem completes_of_error (verbose : Bool) {e : Source.Error}
    (hload : Source.load files source.directory source.crateName Loader.markerName = .error e) :
    Completes source out options lineEnding files
      (generate verbose source out options lineEnding files) := by
  have hgeneration : generation source out options lineEnding files = .error e :=
    generation_error hload
  rw [generate_error verbose hload]
  refine ⟨iff_of_false Nat.one_ne_zero ?_, fun h a ha => ?_, fun _ => ⟨rfl, fun route => ?_⟩⟩
  · rintro ⟨tree, -, -, -, hok, -⟩
    cases hload.symm.trans hok
  · cases hgeneration.symm.trans ha
  · exact FileSystem.SameFile.refl files route

theorem completes_of_ok (verbose : Bool) {tree : Source.Tree}
    (hload : Source.load files source.directory source.crateName Loader.markerName = .ok tree) :
    Completes source out options lineEnding files
      (generate verbose source out options lineEnding files) := by
  obtain ⟨table, log, hhost⟩ := generatingHost_eq source out options files tree
  have hmodule := moduleNameOf_generatingHost source out options files tree
  have hoption := option?_module_generatingHost source out options files tree
  have hfresh : IsFresh (generatingHost source out options files tree) := by
    rw [hhost]
    exact ⟨rfl, rfl, rfl⟩
  have hpath : (generatingHost source out options files tree).loaderPath =
      loaderPathIn out (moduleOf options) := by
    rw [Host.loaderPath, hmodule, hhost]
    rfl
  have hfiles : (generatingHost source out options files tree).files = files := by
    rw [hhost]
    rfl
  generalize hround : processRound (generatingHost source out options files tree)
    (settingsFor lineEnding) tree.round = ended
  obtain ⟨after, outcome⟩ := ended
  obtain ⟨hgeneration, hgenerate⟩ := generate_ok verbose hload hround
  obtain ⟨hexit, houtput, hbehind⟩ := hfresh.ends verbose hround
  rw [← hgenerate, hoption] at hexit
  rw [← hgenerate, hpath] at houtput
  rw [← hgenerate, hpath, hfiles] at hbehind
  refine ⟨hexit.trans ⟨?_, ?_⟩, fun h a ha => ?_, fun hnone => ?_⟩
  · rintro ⟨⟨name, hname, hne⟩, hor⟩
    exact ⟨tree, after, outcome, name, hload, hgeneration, hname, hne, hor⟩
  · rintro ⟨_, h, outcome', name, -, hok, hname, hne, hor⟩
    cases hgeneration.symm.trans hok
    exact ⟨⟨name, hname, hne⟩, hor⟩
  · cases hgeneration.symm.trans ha
    have hloader : a = loaderOf (settingsFor lineEnding) (moduleOf options)
        (tree.round.scan Loader.markerName) := by
      rw [← hmodule]
      exact processRound_generated _ _ _ (congrArg Prod.snd hround)
    refine ⟨?_, hbehind.generated a rfl, tree, hload, ?_⟩
    · rw [houtput]
      exact List.append_nil _
    · rw [hloader, content_loaderOf]
  · have hartifact : ∀ a, outcome ≠ .generated a := by
      rintro a rfl
      exact hnone after a hgeneration
    refine ⟨?_, hbehind.idle hartifact⟩
    cases outcome with
    | generated a => exact absurd rfl (hartifact a)
    | skipped | aborted _ | writeFailed _ _ => exact houtput

/-- Each accepted command line of the command `generate` says what is to be done by the switches
behind the command's name, and the command ends as `Completes` says, whatever the files are. -/
theorem run_generate {arguments : List String} {verbose : Bool}
    (hread : read arguments = .run verbose (.generate source out options lineEnding))
    (files : FileSystem) :
    (∃ front rest given, arguments = front ++ "generate" :: rest ∧
      readSwitches rest = some given ∧ Asks given source out options lineEnding) ∧
    Completes source out options lineEnding files
      (run verbose files (.generate source out options lineEnding)) := by
  refine ⟨asks_of_read hread, ?_⟩
  change Completes source out options lineEnding files
    (generate verbose source out options lineEnding files)
  cases hload : Source.load files source.directory source.crateName Loader.markerName with
  | error e => exact completes_of_error verbose hload
  | ok tree => exact completes_of_ok verbose hload

/-- A command line that gives the module's name twice, and an option that no processor reads. -/
def repeatedArguments : List String :=
  ["-v", "generate", "-cgame", "--option", "MODULE_NAME=wall", "-o", "out", "-OEXTRA=1", "-O",
    "MODULE_NAME=door=1", "--line-ending=crlf"]

/-- What that command line gives as options. -/
def repeatedOptions : List (String × String) :=
  [("MODULE_NAME", "wall"), ("EXTRA", "1"), ("MODULE_NAME", "door=1")]

theorem run_generate_repeatedArguments :
    read repeatedArguments =
        .run true (.generate ⟨⟨"src"⟩, "game"⟩ ⟨"out"⟩ repeatedOptions .carriageReturn) ∧
      moduleOf repeatedOptions = "door=1" ∧
      ∀ files, Completes ⟨⟨"src"⟩, "game"⟩ ⟨"out"⟩ repeatedOptions .carriageReturn files
        (run true files (.generate ⟨⟨"src"⟩, "game"⟩ ⟨"out"⟩ repeatedOptions .carriageReturn)) := by
  have hread : read repeatedArguments =
      .run true (.generate ⟨⟨"src"⟩, "game"⟩ ⟨"out"⟩ repeatedOptions .carriageReturn) := by
    decide +kernel
  exact ⟨hread, by decide +kernel, fun files => (run_generate hread files).2⟩

end ReceiverLoader.CommandLine
