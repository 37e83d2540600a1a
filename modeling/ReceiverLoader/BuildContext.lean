import ReceiverLoader.Diagnostic
import ReceiverLoader.FileSystem
import ReceiverLoader.Loader
import ReceiverLoader.Log

/-!
# Build contexts

What a toolchain offers to the rounds that run in it: options, its types, a build log and a place
for generated files. A round reaches its host through these services only.
-/

namespace ReceiverLoader

/-- Why a generated file is not written. -/
inductive WriteError
  | io (path : FilePath) (reason : FileError)
  | alreadyWritten (package typeName : String)
deriving Repr, DecidableEq

namespace WriteError

/-- The message of an error. -/
def message : WriteError → String
  | io path reason => s!"failed to write {path.text}: {reason.message}"
  | alreadyWritten package typeName =>
    s!"{package}::{typeName} was already generated in this session"

end WriteError

/-- The services of a toolchain whose state is a `σ`. -/
class BuildContext (σ : Type) where
  /-- The value of an option. -/
  option? : σ → String → Option String
  /-- The type that a qualified name stands for. -/
  resolveType : σ → String → Option String
  /-- Whether a type is another or implements it. -/
  isSubtype : σ → String → String → Bool
  /-- Adds an entry to the log. -/
  note : σ → Log.Entry → σ
  /-- Reports a diagnostic. -/
  report : σ → Diagnostic → σ
  /-- Writes a generated file: its package, its type's name and its content. -/
  write : σ → String → String → String → σ × Except WriteError FilePath

namespace BuildContext

variable {σ : Type} [BuildContext σ]

/-- Writes a rendered loader. -/
def emit (h : σ) (a : Artifact) : σ × Except WriteError FilePath :=
  write h a.package a.typeName a.content

end BuildContext

end ReceiverLoader
