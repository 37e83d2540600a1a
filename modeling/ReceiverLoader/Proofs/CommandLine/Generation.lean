import ReceiverLoader.CommandLine.Run
import ReceiverLoader.Proofs.Host.Options
import ReceiverLoader.Proofs.Round.Course

/-!
# The work of the command `generate`

* `generatingHost`: the host on which the round of a tree is processed.
* `generation_error`, `generation_ok`: the work fails as the reading of the sources does, and else
  it is the round on that host.
-/

namespace ReceiverLoader.CommandLine

/-- The name of the module that the options give. -/
def moduleOf (options : List (String × String)) : String :=
  (lastValue? Loader.moduleOption options).getD ""

/-- The path that the loader of a module is written to. -/
def loaderPathIn (out : FilePath) (module : String) : FilePath :=
  (out.join ⟨Loader.package⟩).join ⟨Loader.typeName module ++ ".rs"⟩

theorem exitCode_finished (verbose succeeded : Bool) (h : Host) :
    (finished verbose succeeded h).exitCode = 0 ↔ succeeded = true := by
  cases succeeded <;> simp [finished]

/-- The loader of a module has the line ends that were asked for. -/
theorem content_loaderOf (lineEnding : LineEnding) (module : String) (ds : List Declaration) :
    (loaderOf (settingsFor lineEnding) module ds).content =
      Text.joinWith lineEnding.separator
        (Loader.lines module (ds.map (Receiver.ofDeclaration · Loader.markerName module))) := by
  have hseparator : (settingsFor lineEnding).separator = lineEnding.separator := rfl
  have hmarker : (settingsFor lineEnding).marker = Loader.markerName := rfl
  rw [loaderOf, Loader.render, hseparator, hmarker]

/-- The host of the command `generate` when the sources have been read. -/
def generatingHost (source : SourceChoice) (out : FilePath) (options : List (String × String))
    (files : FileSystem) (tree : Source.Tree) : Host :=
  let begun : Host :=
    { Host.start out tree.types .log files with
      log := ignoredEntries options ++ [tree.logEntry source.directory] }
  begun.setOptions (options.filter fun o => Settings.supports o.1)

/-- But for its options and its log this host has just begun. -/
theorem generatingHost_eq (source : SourceChoice) (out : FilePath)
    (options : List (String × String)) (files : FileSystem) (tree : Source.Tree) :
    ∃ table log, generatingHost source out options files tree =
      { Host.start out tree.types .log files with options := table, log } :=
  ⟨_, _, Host.setOptions_eq _ _⟩

variable {source : SourceChoice} {out : FilePath} {options : List (String × String)}
  {lineEnding : LineEnding} {files : FileSystem}

theorem generation_error {e : Source.Error}
    (h : Source.load files source.directory source.crateName Loader.markerName = .error e) :
    generation source out options lineEnding files = .error e := by
  have hload : Source.load files source.directory source.crateName (settingsFor lineEnding).marker =
      .error e := h
  unfold generation
  dsimp only
  rw [hload]

theorem generation_ok {tree : Source.Tree}
    (h : Source.load files source.directory source.crateName Loader.markerName = .ok tree) :
    generation source out options lineEnding files =
      .ok (processRound (generatingHost source out options files tree) (settingsFor lineEnding)
        tree.round) := by
  have hload : Source.load files source.directory source.crateName (settingsFor lineEnding).marker =
      .ok tree := h
  unfold generation
  dsimp only
  rw [hload]
  rfl

/-- The end of the command behind a round: with a word about its outcome. -/
def ended (verbose : Bool) (after : Host) (outcome : Outcome) : Completion :=
  finished verbose (succeeded (tell after outcome) outcome) (tell after outcome)

theorem files_tell (h : Host) (outcome : Outcome) : (tell h outcome).files = h.files := by
  cases outcome <;> rfl

/-- The command fails if the sources cannot be read. -/
theorem generate_error (verbose : Bool) {e : Source.Error}
    (h : Source.load files source.directory source.crateName Loader.markerName = .error e) :
    generate verbose source out options lineEnding files =
      failed verbose source (ignoredEntries options) files e := by
  rw [generate, generation_error h]

/-- Else it ends as the round of the tree does. -/
theorem generate_ok (verbose : Bool) {tree : Source.Tree} {after : Host} {outcome : Outcome}
    (h : Source.load files source.directory source.crateName Loader.markerName = .ok tree)
    (hround : processRound (generatingHost source out options files tree) (settingsFor lineEnding)
      tree.round = (after, outcome)) :
    generation source out options lineEnding files = .ok (after, outcome) ∧
      generate verbose source out options lineEnding files = ended verbose after outcome := by
  have hgeneration : generation source out options lineEnding files = .ok (after, outcome) := by
    rw [generation_ok h, hround]
  refine ⟨hgeneration, ?_⟩
  rw [generate, hgeneration]
  rfl

/-- Options that no processor reads do not reach the host; of each other one the last value
counts. -/
theorem option?_generatingHost (source : SourceChoice) (out : FilePath)
    (options : List (String × String)) (files : FileSystem) (tree : Source.Tree) (key : String) :
    (generatingHost source out options files tree).option? key =
      if Settings.supports key then lastValue? key options else none := by
  rw [generatingHost, Host.option?_setOptions, lastValue?_filter]
  exact Option.or_none

theorem option?_module_generatingHost (source : SourceChoice) (out : FilePath)
    (options : List (String × String)) (files : FileSystem) (tree : Source.Tree) :
    (generatingHost source out options files tree).option? Loader.moduleOption =
      lastValue? Loader.moduleOption options := by
  have hsupports : Settings.supports Loader.moduleOption = true := by decide
  rw [option?_generatingHost, if_pos hsupports]

theorem moduleNameOf_generatingHost (source : SourceChoice) (out : FilePath)
    (options : List (String × String)) (files : FileSystem) (tree : Source.Tree) :
    moduleNameOf (generatingHost source out options files tree) = moduleOf options :=
  congrArg (·.getD "") (option?_module_generatingHost source out options files tree)

end ReceiverLoader.CommandLine
