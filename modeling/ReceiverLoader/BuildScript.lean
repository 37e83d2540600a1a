import ReceiverLoader.Host
import ReceiverLoader.Process
import ReceiverLoader.Source.Tree

/-!
# Build scripts

A build script runs the processor over the sources of a package. It tells the build tool, line by
line, what its result depends on, and takes options from the environment where none are given.
-/

namespace ReceiverLoader

/-- A build script with its settings. -/
structure BuildScript where
  manifestDirectory : FilePath
  outDirectory : FilePath
  crateName : String
  sourceDirectory : FilePath
  /-- The options given, in ascending order of keys. -/
  options : List (String × String)
  settings : Settings
deriving Repr, DecidableEq

/-- Why a build script does not run. -/
inductive BuildError
  | missingVariable (name : String)
  | source (error : Source.Error)
deriving Repr, DecidableEq

namespace BuildError

/-- The message of an error. -/
def message : BuildError → String
  | missingVariable name =>
    s!"environment variable {name} is not set; run from a Cargo build script"
  | source e => e.message

end BuildError

/-- The variables of the environment. A later value of a name counts. -/
abbrev Environment := List (String × String)

namespace Environment

/-- The value of a variable. -/
def get? (environment : Environment) (name : String) : Option String :=
  (environment.reverse.find? fun v => v.1 == name).map (·.2)

/-- The value of a variable that has to be set. -/
def require (environment : Environment) (name : String) : Except BuildError String :=
  match environment.get? name with
  | some value => .ok value
  | none => .error (.missingVariable name)

end Environment

namespace BuildScript

/-- What the variables that set options begin with. -/
def variablePrefix : String := "MODEV_"

/-- The build script of a package with its usual settings. -/
def new (manifestDirectory outDirectory : FilePath) (crateName : String) : BuildScript :=
  { manifestDirectory
    outDirectory
    crateName
    sourceDirectory := manifestDirectory.join ⟨"src"⟩
    options := []
    settings := Settings.standard }

/-- The build script of the package that the environment describes. -/
def ofEnvironment (environment : Environment) : Except BuildError BuildScript := do
  let manifest ← environment.require "CARGO_MANIFEST_DIR"
  let out ← environment.require "OUT_DIR"
  let crateName ← environment.require "CARGO_PKG_NAME"
  return new ⟨manifest⟩ ⟨out⟩ crateName

/-- Sets an option. -/
def setOption (b : BuildScript) (key value : String) : BuildScript :=
  { b with options := OrderedList.put key value b.options }

/-- Sets the directory of the sources, seen from the package. -/
def setSource (b : BuildScript) (directory : FilePath) : BuildScript :=
  { b with sourceDirectory := b.manifestDirectory.join directory }

/-- The variable that sets an option. -/
def variableOf (key : String) : String := variablePrefix ++ key

/-- The options that count: those given, and for the others the variables of the environment. -/
def resolveOptions (b : BuildScript) (environment : Environment) : List (String × String) :=
  let fromEnvironment := Settings.supportedOptions.filterMap fun key =>
    (environment.get? (variableOf key)).map fun value => (key, value)
  let given := b.options.filter fun o => Settings.supports o.1
  (fromEnvironment ++ given).foldl (fun table o => OrderedList.put o.1 o.2 table) []

/-- The line that says that the result depends on a file or directory. -/
def dependencyLine (path : FilePath) : String := s!"cargo:rerun-if-changed={path.text}"

/-- The line that says that the result depends on a variable. -/
def variableLine (name : String) : String := s!"cargo:rerun-if-env-changed={name}"

/-- Runs the build script. Gives the lines printed besides its result. -/
def run (b : BuildScript) (files : FileSystem) (environment : Environment) :
    List String × Except Source.Error (Host × Outcome) :=
  let blank := Host.start b.outDirectory TypeTable.empty .directives files
  let begun := blank.print (dependencyLine b.sourceDirectory)
  match Source.load files b.sourceDirectory b.crateName b.settings.marker with
  | .error e => (begun.printed, .error e)
  | .ok tree =>
    let lines := tree.files.map dependencyLine ++
      Settings.supportedOptions.map fun key => variableLine (variableOf key)
    let h := lines.foldl Host.print { begun with types := tree.types }
    let (h, outcome) :=
      processRound (h.setOptions (b.resolveOptions environment)) b.settings tree.round
    (h.printed, .ok (h, outcome))

end BuildScript

end ReceiverLoader
