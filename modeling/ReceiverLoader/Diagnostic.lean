import ReceiverLoader.FilePath

/-!
# Diagnostics

Messages to the user with a severity, and with the declaration and the place that they are about.
-/

namespace ReceiverLoader

/-- How much a diagnostic matters. An error fails the build. -/
inductive Severity
  | note
  | warning
  | error
deriving Repr, DecidableEq

namespace Severity

/-- The severity in a word. -/
def text : Severity → String
  | note => "note"
  | warning => "warning"
  | error => "error"

end Severity

/-- A place in a file: the line counted from one, the column from zero and in characters. -/
structure Location where
  file : FilePath
  line : Nat
  column : Nat
deriving Repr, DecidableEq

namespace Location

/-- The place as shown: here columns count from one. -/
def text (l : Location) : String := s!"{l.file.text}:{l.line}:{l.column + 1}"

end Location

/-- A message to the user. -/
structure Diagnostic where
  severity : Severity
  message : String
  declaration : Option String
  location : Option Location
deriving Repr, DecidableEq

namespace Diagnostic

/-- The message and what it is about. -/
def detail (d : Diagnostic) : String :=
  match d.declaration, d.location with
  | some name, some place => s!"{d.message} (`{name}` at {place.text})"
  | some name, none => s!"{d.message} (`{name}`)"
  | none, some place => s!"{d.message} (at {place.text})"
  | none, none => d.message

/-- The diagnostic as shown, with its severity in front. -/
def text (d : Diagnostic) : String := s!"{d.severity.text}: {d.detail}"

/-- Whether the diagnostic fails the build. -/
def isError (d : Diagnostic) : Bool := d.severity == .error

end Diagnostic

end ReceiverLoader
