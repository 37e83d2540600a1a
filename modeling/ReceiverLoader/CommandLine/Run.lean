import ReceiverLoader.CommandLine.Invocation
import ReceiverLoader.Host
import ReceiverLoader.Process
import ReceiverLoader.Source.Tree

/-!
# Running a command

What the commands print, what they write and how they end.
-/

namespace ReceiverLoader.CommandLine

/-- How a command has ended. -/
structure Completion where
  exitCode : Nat
  output : List String
  /-- What was logged, and why the command failed. -/
  errorOutput : List String
  files : FileSystem

/-- The least level that is logged. -/
def leastLevel (verbose : Bool) : Log.Level := if verbose then .debug else .warn

/-- The text of a failure to read the sources: its message and those of all causes. -/
def failureText (source : SourceChoice) (e : Source.Error) : String :=
  Text.joinWith ": "
    (s!"error: failed to load sources from {source.directory.text}" :: e.message :: e.causes)

/-- The end of a command whose sources could not be read. -/
def failed (verbose : Bool) (source : SourceChoice) (log : List Log.Entry) (files : FileSystem)
    (e : Source.Error) : Completion :=
  { exitCode := 1
    output := []
    errorOutput := Log.lines (leastLevel verbose) log ++ Text.split '\n' (failureText source e)
    files }

/-- The end of a command in the session of a host. -/
def finished (verbose succeeded : Bool) (h : Host) : Completion :=
  { exitCode := if succeeded then 0 else 1
    output := h.printed
    errorOutput := Log.lines (leastLevel verbose) h.log
    files := h.files }

/-- What is told about an outcome: where the loader is, or that there is nothing to load. -/
def tell (h : Host) : Outcome → Host
  | .skipped => h.note ⟨.info, "no module event receivers found", []⟩
  | .generated a => h.print (h.artifactPath a.package a.typeName).text
  | .aborted _ => h
  | .writeFailed _ _ => h

/-- Whether a round has ended well. -/
def succeeded (h : Host) : Outcome → Bool
  | .writeFailed _ _ => false
  | _ => !h.hasErrors

/-- What the log tells about the options that no processor reads. -/
def ignoredEntries (options : List (String × String)) : List Log.Entry :=
  (options.filter fun o => !Settings.supports o.1).map fun o => Settings.unsupportedEntry o.1

/-- The settings of the command `generate`. -/
def settingsFor (lineEnding : LineEnding) : Settings :=
  { Settings.standard with separator := lineEnding.separator }

/-- The work of the command `generate`: reads the sources and processes them as one round. Gives the
host behind the round and the outcome. -/
def generation (source : SourceChoice) (out : FilePath) (options : List (String × String))
    (lineEnding : LineEnding) (files : FileSystem) : Except Source.Error (Host × Outcome) :=
  let settings := settingsFor lineEnding
  match Source.load files source.directory source.crateName settings.marker with
  | .error e => .error e
  | .ok tree =>
    let blank := Host.start out tree.types .log files
    let begun :=
      { blank with log := ignoredEntries options ++ [tree.logEntry source.directory] }
    let supported := options.filter fun o => Settings.supports o.1
    .ok (processRound (begun.setOptions supported) settings tree.round)

/-- Runs the command `generate`. -/
def generate (verbose : Bool) (source : SourceChoice) (out : FilePath)
    (options : List (String × String)) (lineEnding : LineEnding) (files : FileSystem) :
    Completion :=
  match generation source out options lineEnding files with
  | .error e => failed verbose source (ignoredEntries options) files e
  | .ok (h, outcome) =>
    let h := tell h outcome
    finished verbose (succeeded h outcome) h

/-- The line that lists a marked declaration. -/
def listing (d : Declaration) (marker : String) (capable : Bool) : String :=
  let arguments := (d.marker? marker).getD Marker.Arguments.standard
  let verdict := if capable then "ok" else "missing capability"
  Text.joinWith "\t"
    [d.name, "group=" ++ Text.quoted arguments.group, s!"priority={arguments.priority.toInt}",
     s!"flag={arguments.flag.toInt}", verdict]

/-- Runs the command `scan`. -/
def scan (verbose : Bool) (source : SourceChoice) (files : FileSystem) : Completion :=
  let settings := Settings.standard
  match Source.load files source.directory source.crateName settings.marker with
  | .error e => failed verbose source [] files e
  | .ok tree =>
    let blank := Host.start ⟨"."⟩ tree.types .log files
    let ds := tree.round.scan settings.marker
    let h := (blank.note (tree.logEntry source.directory)).note
      (Round.scanEntry settings.marker ds.length)
    let capability := (h.resolveType settings.capability).getD settings.capability
    let capable := fun d : Declaration => h.isSubtype d.type capability
    let h := ds.foldl (fun h d => h.print (listing d settings.marker (capable d))) h
    finished verbose (ds.all capable) h

/-- Runs a command. -/
def run (verbose : Bool) (files : FileSystem) : Command → Completion
  | .generate source out options lineEnding => generate verbose source out options lineEnding files
  | .scan source => scan verbose source files

end ReceiverLoader.CommandLine
