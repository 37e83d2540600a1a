import ReceiverLoader.BuildScript
import ReceiverLoader.Proofs.CommandLine.Generation
import ReceiverLoader.Proofs.CommandLine.Invocation
import ReceiverLoader.Proofs.Host.Style

/-!
# A build script and the command `generate`

Both read a source tree and process it as one round. A build script takes its options from a table
and from the environment, and tells diagnostics to the build tool; the command takes its options
from a list, and tells diagnostics to the log.

* `settled?`: the name of the module, as the options and the environment settle it.
* `BuildScript.run_alike`, `CommandLine.generation_alike`: each ends as the round on a host with
  nothing but this name.
* `run_agrees`: so both end alike.
-/

namespace ReceiverLoader

open CommandLine (SourceChoice generation)

/-- The name of the module: the last one that is given, or else that of the environment. -/
def settled? (given : List (String × String)) (environment : Environment) : Option String :=
  (lastValue? Loader.moduleOption given).or
    (environment.get? (BuildScript.variableOf Loader.moduleOption))

/-- The round of a source tree on a host on which nothing is known but the name of the module. -/
def settledRound (source : SourceChoice) (out : FilePath) (name? : Option String)
    (files : FileSystem) : Except Source.Error (Host × Outcome) :=
  match Source.load files source.directory source.crateName Loader.markerName with
  | .error e => .error e
  | .ok tree =>
    let blank := Host.start out tree.types .log files
    let h := blank.setOptions (name?.toList.map fun name => (Loader.moduleOption, name))
    .ok (processRound h Settings.standard tree.round)

/-- Both fail with the same error, or both have the same outcome, diagnostics and files, and have
written the same paths. -/
inductive EndAlike :
    Except Source.Error (Host × Outcome) → Except Source.Error (Host × Outcome) → Prop
  | failed (e : Source.Error) : EndAlike (.error e) (.error e)
  | done {s t : Host} (outcome : Outcome) : s.Agrees t →
      EndAlike (.ok (s, outcome)) (.ok (t, outcome))

/-- A round on a host like the one of the settled name ends as the settled round. -/
theorem endAlike_settledRound (source : SourceChoice) {out : FilePath} {name? : Option String}
    {files : FileSystem} {tree : Source.Tree}
    (hload : Source.load files source.directory source.crateName Loader.markerName = .ok tree)
    {h : Host} (hh : h.Agrees ((Host.start out tree.types .log files).setOptions
      (name?.toList.map fun name => (Loader.moduleOption, name)))) :
    EndAlike (.ok (processRound h Settings.standard tree.round))
      (settledRound source out name? files) := by
  obtain ⟨hafter, houtcome⟩ :=
    Host.agrees_simulation.processRound hh Settings.standard tree.round
  rw [settledRound, hload]
  dsimp only
  generalize processRound h Settings.standard tree.round = p at hafter houtcome ⊢
  generalize processRound (Host.setOptions _ _) Settings.standard tree.round = q
    at hafter houtcome ⊢
  obtain ⟨s, outcome⟩ := p
  obtain ⟨t, outcome'⟩ := q
  obtain rfl : outcome = outcome' := houtcome
  exact .done outcome hafter

/-! ## Options -/

theorem supports_iff (key : String) : Settings.supports key = true ↔ key = Loader.moduleOption := by
  simp [Settings.supports, Settings.supportedOptions]

theorem lastValue?_settled (key : String) (name? : Option String) :
    lastValue? key (name?.toList.map fun name => (Loader.moduleOption, name)) =
      if Loader.moduleOption = key then name? else none := by
  cases name? with
  | none => simp [lastValue?]
  | some name =>
    rw [Option.toList_some, List.map_singleton, lastValue?_cons]
    rfl

/-- Hosts alike are so with options whose last values are the same. -/
theorem Host.Agrees.setOptions {s t : Host} (h : s.Agrees t) {os os' : List (String × String)}
    (hos : ∀ key, lastValue? key os = lastValue? key os') :
    (s.setOptions os).Agrees (t.setOptions os') := by
  have hoption (key : String) : (s.setOptions os).option? key = (t.setOptions os').option? key := by
    rw [option?_setOptions, option?_setOptions, hos, h.option?]
  rw [setOptions_eq, setOptions_eq] at hoption ⊢
  exact ⟨h.outDirectory, hoption, h.types, h.written, h.files, h.diagnostics⟩

/-! ## Build scripts -/

namespace BuildScript

/-- The build script of a package with sources below `directory`, with options set from left to
right. -/
def configured (manifest out directory : FilePath) (crateName : String)
    (given : List (String × String)) : BuildScript :=
  given.foldl (fun b o => b.setOption o.1 o.2) ((new manifest out crateName).setSource directory)

theorem configured_eq (manifest out directory : FilePath) (crateName : String)
    (given : List (String × String)) :
    configured manifest out directory crateName given =
      { manifestDirectory := manifest
        outDirectory := out
        crateName
        sourceDirectory := manifest.join directory
        options := given.foldl (fun table o => OrderedList.put o.1 o.2 table) []
        settings := Settings.standard } := by
  have hfold (b : BuildScript) (os : List (String × String)) :
      os.foldl (fun b o => b.setOption o.1 o.2) b =
        { b with
          options := os.foldl (fun table o => OrderedList.put o.1 o.2 table) b.options } := by
    induction os generalizing b with
    | nil => rfl
    | cons o os ih =>
      rw [List.foldl_cons, ih]
      rfl
  exact hfold _ given

theorem run_error {b : BuildScript} {files : FileSystem} {environment : Environment}
    {e : Source.Error}
    (hload : Source.load files b.sourceDirectory b.crateName b.settings.marker = .error e) :
    (b.run files environment).2 = .error e := by
  rw [run, hload]

/-- The host of a build script when the sources have been read: it has printed what the result
depends on. -/
def runningHost (b : BuildScript) (files : FileSystem) (tree : Source.Tree) : Host :=
  let begun := (Host.start b.outDirectory TypeTable.empty .directives files).print
    (dependencyLine b.sourceDirectory)
  (tree.files.map dependencyLine ++
    Settings.supportedOptions.map fun key => variableLine (variableOf key)).foldl Host.print
      { begun with types := tree.types }

theorem runningHost_agrees (b : BuildScript) (files : FileSystem) (tree : Source.Tree) :
    (b.runningHost files tree).Agrees (Host.start b.outDirectory tree.types .log files) := by
  rw [runningHost, Host.foldl_print]
  exact ⟨rfl, fun _ => rfl, rfl, rfl, rfl, rfl⟩

theorem run_ok {b : BuildScript} {files : FileSystem} {environment : Environment}
    {tree : Source.Tree}
    (hload : Source.load files b.sourceDirectory b.crateName b.settings.marker = .ok tree) :
    (b.run files environment).2 =
      .ok (processRound ((b.runningHost files tree).setOptions (b.resolveOptions environment))
        b.settings tree.round) := by
  rw [run, hload]
  rfl

/-- Of the options of a build script only the settled name counts. -/
theorem lastValue?_resolved (b : BuildScript) (environment : Environment) (key : String) :
    lastValue? key (b.resolveOptions environment) =
      if Loader.moduleOption = key then settled? b.options environment else none := by
  have hvariables : (Settings.supportedOptions.filterMap fun key =>
      (environment.get? (variableOf key)).map fun value => (key, value)) =
      (environment.get? (variableOf Loader.moduleOption)).toList.map
        fun name => (Loader.moduleOption, name) := by
    rw [Settings.supportedOptions, List.filterMap_cons]
    cases environment.get? (variableOf Loader.moduleOption) <;> rfl
  rw [resolveOptions, hvariables, OrderedList.lastValue?_foldl_put, lastValue?_append,
    lastValue?_filter, lastValue?_settled]
  by_cases hkey : Loader.moduleOption = key
  · subst hkey
    rw [if_pos ((supports_iff _).mpr rfl), if_pos rfl, if_pos rfl, settled?]
  · rw [if_neg (fun h => hkey ((supports_iff _).mp h).symm), if_neg hkey, if_neg hkey,
      Option.none_or]

/-- Options that are set from left to right settle the name as their list does. -/
theorem lastValue?_resolveOptions (manifest out directory : FilePath) (crateName : String)
    (given : List (String × String)) (environment : Environment) (key : String) :
    lastValue? key
        ((configured manifest out directory crateName given).resolveOptions environment) =
      if Loader.moduleOption = key then settled? given environment else none := by
  rw [lastValue?_resolved, configured_eq, settled?, settled?, OrderedList.lastValue?_foldl_put]

/-- A build script ends as the round whose module has the settled name. -/
theorem run_alike (manifest out directory : FilePath) (crateName : String)
    (given : List (String × String)) (files : FileSystem) (environment : Environment) :
    EndAlike ((configured manifest out directory crateName given).run files environment).2
      (settledRound ⟨manifest.join directory, crateName⟩ out (settled? given environment)
        files) := by
  have hoptions := lastValue?_resolveOptions manifest out directory crateName given environment
  have hb := configured_eq manifest out directory crateName given
  have hdirectory := congrArg sourceDirectory hb
  have hcrate := congrArg BuildScript.crateName hb
  have hout := congrArg outDirectory hb
  have hsettings := congrArg settings hb
  generalize configured manifest out directory crateName given = b at *
  have hagain : Source.load files b.sourceDirectory b.crateName b.settings.marker =
      Source.load files (manifest.join directory) crateName Loader.markerName := by
    rw [hdirectory, hcrate, hsettings]
    rfl
  cases hload : Source.load files (manifest.join directory) crateName Loader.markerName with
  | error e =>
    rw [run_error (hagain.trans hload), settledRound, hload]
    exact .failed e
  | ok tree =>
    have hagrees := runningHost_agrees b files tree
    rw [hout] at hagrees
    rw [run_ok (hagain.trans hload), hsettings]
    refine endAlike_settledRound ⟨manifest.join directory, crateName⟩ hload
      (hagrees.setOptions fun key => ?_)
    rw [hoptions, lastValue?_settled]

end BuildScript

/-! ## The command -/

namespace CommandLine

/-- The options of the command that stand for those of a build script: the name of the environment,
if it has one, and then those that are given. -/
def optionsFor (given : List (String × String)) (environment : Environment) :
    List (String × String) :=
  ((environment.get? (BuildScript.variableOf Loader.moduleOption)).toList.map
    fun name => (Loader.moduleOption, name)) ++ given

/-- Of the options of the command only the settled name counts. -/
theorem lastValue?_optionsFor (given : List (String × String)) (environment : Environment)
    (key : String) :
    lastValue? key ((optionsFor given environment).filter fun o => Settings.supports o.1) =
      if Loader.moduleOption = key then settled? given environment else none := by
  rw [lastValue?_filter, optionsFor, lastValue?_append, lastValue?_settled]
  by_cases hkey : Loader.moduleOption = key
  · subst hkey
    rw [if_pos ((supports_iff _).mpr rfl), if_pos rfl, if_pos rfl, settled?]
  · rw [if_neg (fun h => hkey ((supports_iff _).mp h).symm), if_neg hkey]

/-- The command with line feeds ends as the round whose module has the settled name. -/
theorem generation_alike (source : SourceChoice) (out : FilePath) (given : List (String × String))
    (files : FileSystem) (environment : Environment) :
    EndAlike (generation source out (optionsFor given environment) .lineFeed files)
      (settledRound source out (settled? given environment) files) := by
  have hsettings : settingsFor .lineFeed = Settings.standard := rfl
  cases hload : Source.load files source.directory source.crateName Loader.markerName with
  | error e =>
    rw [generation_error hload, settledRound, hload]
    exact .failed e
  | ok tree =>
    rw [generation_ok hload, hsettings]
    refine endAlike_settledRound source hload (Host.Agrees.setOptions ?_ fun key => ?_)
    · exact ⟨rfl, fun _ => rfl, rfl, rfl, rfl, rfl⟩
    · rw [lastValue?_optionsFor, lastValue?_settled]

end CommandLine

/-! ## Both -/

/-- Ends that are like a third one are alike. -/
theorem EndAlike.of_common {r r' r'' : Except Source.Error (Host × Outcome)} (h : EndAlike r r'')
    (h' : EndAlike r' r'') : EndAlike r r' := by
  cases h with
  | failed e =>
    cases h' with
    | failed => exact .failed e
  | done outcome hs =>
    cases h' with
    | done _ ht => exact .done outcome (hs.trans ht.symm)

section

variable (manifest out directory : FilePath) (crateName : String) (given : List (String × String))
  (environment : Environment) (files : FileSystem)

/-- How a build script and the command `generate` go together that are for the same sources, with
the same options. -/
structure DriversAgree : Prop where
  /-- Both end alike. -/
  alike : EndAlike
    ((BuildScript.configured manifest out directory crateName given).run files environment).2
    (generation ⟨manifest.join directory, crateName⟩ out
      (CommandLine.optionsFor given environment) .lineFeed files)
  /-- Of the options nothing counts but the name of the module: the last one that is given, even if
  it is empty, and that of the environment if none is given. -/
  settled : EndAlike
    ((BuildScript.configured manifest out directory crateName given).run files environment).2
    (settledRound ⟨manifest.join directory, crateName⟩ out (settled? given environment) files)
  /-- The command leaves the files of its host. -/
  stored : ∀ verbose h outcome,
    generation ⟨manifest.join directory, crateName⟩ out
      (CommandLine.optionsFor given environment) .lineFeed files = .ok (h, outcome) →
    (CommandLine.generate verbose ⟨manifest.join directory, crateName⟩ out
      (CommandLine.optionsFor given environment) .lineFeed files).files = h.files
  /-- A command line asks for it, unless a path has no text or a key is no key of an option. -/
  asked : (manifest.join directory).text ≠ "" → out.text ≠ "" →
    (∀ o ∈ given, o.1 ≠ "" ∧ '=' ∉ o.1.toList) →
    CommandLine.read (CommandLine.argumentsFor ⟨manifest.join directory, crateName⟩ out
      (CommandLine.optionsFor given environment) "lf") =
    .run false (.generate ⟨manifest.join directory, crateName⟩ out
      (CommandLine.optionsFor given environment) .lineFeed)

/-- A build script and the command `generate` that are for the same sources agree: the options of
the command are the name of the environment, and behind it those of the build script. -/
theorem run_agrees :
    DriversAgree manifest out directory crateName given environment files := by
  have hscript := BuildScript.run_alike manifest out directory crateName given files environment
  have hcommand := CommandLine.generation_alike ⟨manifest.join directory, crateName⟩ out given files
    environment
  have hmodule : Loader.moduleOption ≠ "" ∧ '=' ∉ Loader.moduleOption.toList := by decide
  refine ⟨hscript.of_common hcommand, hscript, fun verbose h outcome hok => ?_,
    fun hdirectory hout hkeys => ?_⟩
  · rw [CommandLine.generate, hok]
    exact CommandLine.files_tell h outcome
  · refine CommandLine.read_argumentsFor hdirectory hout (fun o ho => ?_) rfl
    rcases List.mem_append.mp ho with ho | ho
    · obtain ⟨name, -, rfl⟩ := List.mem_map.mp ho
      exact hmodule
    · exact hkeys o ho

end

end ReceiverLoader
