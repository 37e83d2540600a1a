import ReceiverLoader.BuildContext
import ReceiverLoader.TypeTable

/-!
# Hosts

A host serves the rounds of one session: it knows the options and the types, collects diagnostics
and writes generated files. It refuses to write a path that it has already written.
-/

namespace ReceiverLoader

/-- Where diagnostics go besides the list of those that were reported. -/
inductive DiagnosticStyle
  /-- To the build tool, as directives on the output. -/
  | directives
  /-- To the log only. -/
  | log
deriving Repr, DecidableEq

/-- The state of a session. -/
structure Host where
  /-- The directory that generated files are written below. -/
  outDirectory : FilePath
  /-- The options, in ascending order of keys. -/
  options : List (String × String)
  types : TypeTable
  style : DiagnosticStyle
  /-- The diagnostics, in the order in which they were reported. -/
  diagnostics : List Diagnostic
  /-- The paths written so far, in ascending order. -/
  written : List FilePath
  files : FileSystem
  /-- The lines printed so far. -/
  printed : List String
  /-- The log entries so far. -/
  log : List Log.Entry

namespace Host

/-- A host at the beginning of a session. -/
def start (outDirectory : FilePath) (types : TypeTable) (style : DiagnosticStyle)
    (files : FileSystem) : Host :=
  ⟨outDirectory, [], types, style, [], [], files, [], []⟩

/-- Sets an option; an earlier value of its key is replaced. -/
def setOption (h : Host) (key value : String) : Host :=
  { h with options := OrderedList.put key value h.options }

/-- Sets options from left to right. -/
def setOptions (h : Host) (options : List (String × String)) : Host :=
  options.foldl (fun h o => h.setOption o.1 o.2) h

/-- The value of an option. -/
def option? (h : Host) (key : String) : Option String := OrderedList.get? key h.options

/-- The type that a qualified name stands for. -/
def resolveType (_ : Host) (name : String) : Option String := QualifiedName.resolve name

/-- Whether a type is another or implements it. -/
def isSubtype (h : Host) (type of : String) : Bool := h.types.isSubtype type of

/-- Whether an error has been reported. -/
def hasErrors (h : Host) : Bool := h.diagnostics.any Diagnostic.isError

/-- Adds an entry to the log. -/
def note (h : Host) (entry : Log.Entry) : Host := { h with log := h.log ++ [entry] }

/-- Prints a text and ends the line. -/
def print (h : Host) (text : String) : Host :=
  { h with printed := h.printed ++ Text.split '\n' text }

/-- The level at which a diagnostic is logged. -/
def levelOf : Severity → Log.Level
  | .note => .info
  | .warning => .warn
  | .error => .error

/-- The directive that carries a diagnostic to the build tool. -/
def directiveOf : Severity → String
  | .error => "cargo::error"
  | _ => "cargo::warning"

/-- The lines that carry a diagnostic to the build tool. Each line of its text has a directive of
its own. -/
def directiveLines (d : Diagnostic) : List String :=
  (Text.lines d.text).map fun line => s!"{directiveOf d.severity}={line}"

/-- Reports a diagnostic. -/
def report (h : Host) (d : Diagnostic) : Host :=
  let logged := h.note ⟨levelOf d.severity, d.detail, []⟩
  let shown := match h.style with
    | .directives => (directiveLines d).foldl print logged
    | .log => logged
  { shown with diagnostics := shown.diagnostics ++ [d] }

/-- The path that a generated file is written to. -/
def artifactPath (h : Host) (package typeName : String) : FilePath :=
  (h.outDirectory.join ⟨package⟩).join ⟨typeName ++ ".rs"⟩

/-- Whether a path has been written. -/
def hasWritten (h : Host) (path : FilePath) : Bool :=
  h.written.any fun p => p.components == path.components

/-- Writes a generated file, and makes the directories on the way to it. -/
def write (h : Host) (package typeName content : String) : Host × Except WriteError FilePath :=
  let path := h.artifactPath package typeName
  if h.hasWritten path then (h, .error (.alreadyWritten package typeName))
  else
    match h.files.makeDirectories path.components.dropLast with
    | (files, .error e) => ({ h with files }, .error (.io path e))
    | (files, .ok ()) =>
      match files.writeFile path content with
      | .error e => ({ h with files }, .error (.io path e))
      | .ok files =>
        let h := { h with
          files
          written := OrderedList.insertBy FilePath.order path h.written }
        (h.note ⟨.debug, "wrote artifact", [("path", .plain path.text)]⟩, .ok path)

/-- The services of a host. -/
instance : BuildContext Host where
  option? := option?
  resolveType := resolveType
  isSubtype := isSubtype
  note := note
  report := report
  write := write

/-- Writes a rendered loader. -/
def emit (h : Host) (a : Artifact) : Host × Except WriteError FilePath := BuildContext.emit h a

end Host

end ReceiverLoader
