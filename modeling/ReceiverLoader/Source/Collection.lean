import ReceiverLoader.FileSystem
import ReceiverLoader.Round
import ReceiverLoader.Source.Content
import ReceiverLoader.Source.Finding
import ReceiverLoader.TypeTable

/-!
# Collecting a source tree

The findings of the files of a source tree, put together: the marked declarations in the order of
the files, the declared names and the implementations. The latter are resolved at the end, when all
modules of the tree are known.
-/

namespace ReceiverLoader.Source

open Grammar (Path TypeDeclaration)

/-- Why a source tree cannot be read. -/
inductive Error
  /-- The tree below `root` cannot be listed. -/
  | walk (root : FilePath) (reason : FileError)
  | read (path : FilePath) (reason : FileError)
  | parse (path : FilePath) (reason : ContentError)
  | marker (path : FilePath) (marker : String) (reason : Marker.Error)
deriving Repr, DecidableEq

namespace Error

/-- Why the tree below `root` cannot be listed. -/
def walkReason (root : FilePath) (reason : FileError) : String :=
  s!"IO error for operation on {root.text}: {reason.message}"

/-- The message of an error. -/
def message : Error → String
  | walk root reason => s!"failed to walk {root.text}: {walkReason root reason}"
  | read path reason => s!"failed to read {path.text}: {reason.message}"
  | parse path reason => s!"{path.text}:{reason.line}: {reason.message}"
  | marker path name reason =>
    s!"{path.text}:{reason.position.line}: invalid #[{name}] arguments: {reason.message}"

/-- The messages of the errors behind an error, the nearest first. -/
def causes : Error → List String
  | walk root reason => [walkReason root reason, reason.message]
  | read _ reason => [reason.message]
  | parse _ _ => []
  | marker _ _ _ => []

end Error

/-- An implementation that is still to be resolved. -/
structure Pending where
  scope : Scope
  trait : Path
  self : Path
deriving Repr, DecidableEq

/-- What has been found in the files so far. -/
structure Collection where
  declarations : List Declaration
  declared : TypeTable
  modules : List (List String)
  pending : List Pending

namespace Collection

/-- The root module of `crate` is known from the beginning. -/
def start (crate : String) : Collection := ⟨[], TypeTable.empty, [[crate]], []⟩

/-- The non-empty beginnings of a module's path: the module and those around it. -/
def enclosingModules (module : List String) : List (List String) :=
  (List.range module.length).map fun n => module.take (n + 1)

/-- The modules with a further one and those around it. -/
def withModule (modules : List (List String)) (module : List String) : List (List String) :=
  modules ++ (enclosingModules module).filter fun m => !modules.contains m

/-- Records a module and those around it. -/
def addModule (c : Collection) (module : List String) : Collection :=
  { c with modules := withModule c.modules module }

/-- The marked declaration that stands for a type of `path`; none if it does not carry `marker`. -/
def declarationOf (path : FilePath) (marker name : String) (d : TypeDeclaration) :
    Except Error (Option Declaration) :=
  match d.attributes.find? (Marker.isMarker marker) with
  | none => .ok none
  | some a =>
    match Marker.Arguments.ofAttribute a with
    | .error e => .error (.marker path marker e)
    | .ok arguments =>
      .ok <| some
        { name
          type := name
          location := some ⟨path, d.position.line, d.position.column⟩
          markers := [(marker, arguments)] }

/-- Records a finding in the file at `path`. -/
def addFinding (path : FilePath) (marker : String) (c : Collection) :
    Finding → Except Error Collection
  | .module m => .ok (c.addModule m)
  | .trait name => .ok { c with declared := c.declared.declare name }
  | .implementation scope trait self =>
    .ok { c with pending := c.pending ++ [⟨scope, trait, self⟩] }
  | .type name d =>
    match declarationOf path marker name d with
    | .error e => .error e
    | .ok marked =>
      .ok { c with
        declared := c.declared.declare name
        declarations := c.declarations ++ marked.toList }

/-- Records findings in the file at `path`, up to the first ill-formed marker. -/
def addFindings (path : FilePath) (marker : String) (c : Collection) :
    List Finding → Except Error Collection
  | [] => .ok c
  | f :: fs =>
    match c.addFinding path marker f with
    | .error e => .error e
    | .ok c => c.addFindings path marker fs

/-- Records the file at `path`, which holds `module`. -/
def addFile (path : FilePath) (marker : String) (module : List String) (content : String)
    (c : Collection) : Except Error Collection :=
  match readItems content with
  | .error e => .error (.parse path e)
  | .ok items => (c.addModule module).addFindings path marker (findings module items)

/-- The round of the marked declarations. -/
def round (c : Collection) : Round := ⟨c.declarations⟩

/-- The declared names with the implementations, which are resolved with the modules of the whole
tree. -/
def types (crate : String) (c : Collection) : TypeTable :=
  c.pending.foldl (fun table p =>
    table.addImplementation (resolve crate c.modules p.scope p.self)
      (resolve crate c.modules p.scope p.trait)) c.declared

end Collection

end ReceiverLoader.Source
