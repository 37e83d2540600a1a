import ReceiverLoader.Log
import ReceiverLoader.Source.Collection

/-!
# Loading a source tree

All source files below a directory are read as one crate. A file's place in the directory gives the
module that it holds.
-/

namespace ReceiverLoader.Source

/-- What is known of a source tree once it has been read. -/
structure Tree where
  round : Round
  types : TypeTable
  /-- The files, in ascending order. -/
  files : List FilePath

/-- The name of a crate in paths: there a hyphen becomes an underscore. -/
def normalizeCrateName (name : String) : String :=
  String.ofList (name.toList.map fun c => if c = '-' then '_' else c)

/-- The path of the module that the file at `path` holds in the tree of `crate` below
`directory`. -/
def modulePath (crate : String) (directory path : FilePath) : List String :=
  crate :: path.moduleComponents directory

/-- The source files below a directory, in ascending order. -/
def sourceFiles (fs : FileSystem) (directory : FilePath) : Except Error (List FilePath) :=
  match fs.filesBelow directory with
  | .error e => .error (.walk directory e)
  | .ok paths =>
    .ok ((paths.filter fun p => p.extension? == some "rs").mergeSort fun p q => (p.order q).isLE)

/-- Collects the files at these paths. -/
def collect (fs : FileSystem) (crate marker : String) (directory : FilePath) (c : Collection) :
    List FilePath → Except Error Collection
  | [] => .ok c
  | path :: paths =>
    match fs.readText path with
    | .error e => .error (.read path e)
    | .ok content =>
      match c.addFile path marker (modulePath crate directory path) content with
      | .error e => .error e
      | .ok c => collect fs crate marker directory c paths

/-- Reads the source files below a directory as the crate `crateName`, looking for `marker`. -/
def load (fs : FileSystem) (directory : FilePath) (crateName marker : String) :
    Except Error Tree :=
  let crate := normalizeCrateName crateName
  match sourceFiles fs directory with
  | .error e => .error e
  | .ok files =>
    match collect fs crate marker directory (Collection.start crate) files with
    | .error e => .error e
    | .ok c => .ok ⟨c.round, c.types crate, files⟩

/-- What the log tells about a tree that has been read. -/
def Tree.logEntry (directory : FilePath) (tree : Tree) : Log.Entry :=
  ⟨.debug, "loaded source tree",
    [("src", .plain directory.text), ("files", .plain (toString tree.files.length)),
      ("declarations", .plain (toString tree.round.declarations.length))]⟩

end ReceiverLoader.Source
