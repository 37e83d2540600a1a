import ReceiverLoader.FilePath

/-!
# File systems

A tree of directories and files, without links. A path is followed name by name from the top or from
the working directory; on the way each name has to stand for a directory. `FileSystem.writeFile` and
`FileSystem.makeDirectories` change the tree, or say why they cannot. `FileSystem.node?_put_self`
and `FileSystem.node?_put_of_ne` say what a single change does.
-/

namespace ReceiverLoader

/-- Why a path cannot be followed, read or written. -/
inductive FileError
  | notFound
  | alreadyExists
  | notDirectory
  | isDirectory
  | nameTooLong
  | nulInName
  | notText
deriving Repr, DecidableEq

namespace FileError

/-- The message of an error. -/
def message : FileError → String
  | notFound => "No such file or directory (os error 2)"
  | alreadyExists => "File exists (os error 17)"
  | notDirectory => "Not a directory (os error 20)"
  | isDirectory => "Is a directory (os error 21)"
  | nameTooLong => "File name too long (os error 36)"
  | nulInName => "file name contained an unexpected NUL byte"
  | notText => "stream did not contain valid UTF-8"

end FileError

/-- The names on the way from the top of the file system. -/
abbrev Route := List String

namespace Route

/-- The route that a component leads to from the end of `route`, whatever stands on the way. -/
def step (route : Route) : Component → Route
  | .root => []
  | .here => route
  | .parent => route.dropLast
  | .name n => route ++ [n]

/-- The route that components spell from the end of `route`, whatever stands on the way. -/
def spelled (route : Route) (cs : List Component) : Route := cs.foldl step route

/-- The absolute path of a route. -/
def path (route : Route) : FilePath := ⟨"/" ++ Text.joinWith "/" route⟩

end Route

/-- What stands at the end of a route. -/
inductive Node
  | directory
  | file (content : ByteArray)

namespace Node

/-- Whether the node is a directory. -/
def isDirectory : Node → Bool
  | directory => true
  | file _ => false

end Node

/-- The nodes of a tree with the routes to them, and where relative paths begin. The top is always
a directory. -/
structure FileSystem where
  nodes : List (Route × Node)
  workingDirectory : Route

namespace FileSystem

/-- What stands at the end of a route. -/
def node? (fs : FileSystem) (route : Route) : Option Node :=
  if route.isEmpty then some .directory
  else (fs.nodes.find? fun n => n.1 == route).map (·.2)

/-- The nodes with `node` at the end of `route`. -/
def putNode (route : Route) (node : Node) :
    List (Route × Node) → List (Route × Node)
  | [] => [(route, node)]
  | n :: ns => if n.1 = route then (route, node) :: ns else n :: putNode route node ns

/-- The file system with `node` at the end of `route`. -/
def put (fs : FileSystem) (route : Route) (node : Node) : FileSystem :=
  { fs with nodes := putNode route node fs.nodes }

theorem find?_putNode_self (route : Route) (node : Node) (ns : List (Route × Node)) :
    (putNode route node ns).find? (fun n => n.1 == route) = some (route, node) := by
  induction ns with
  | nil => simp [putNode]
  | cons n ns ih =>
    unfold putNode
    split
    · simp
    · rename_i h
      simp [h, ih]

theorem find?_putNode_of_ne {route other : Route} (h : other ≠ route) (node : Node)
    (ns : List (Route × Node)) :
    (putNode route node ns).find? (fun n => n.1 == other) = ns.find? fun n => n.1 == other := by
  induction ns with
  | nil => simp [putNode, h.symm]
  | cons n ns ih =>
    unfold putNode
    split
    · rename_i hn
      simp [hn, h.symm]
    · simp [List.find?_cons, ih]

/-- What was put at a route stands there; the top stays a directory. -/
theorem node?_put_self {route : Route} (h : route ≠ []) (fs : FileSystem) (node : Node) :
    (fs.put route node).node? route = some node := by
  simp [node?, put, h, find?_putNode_self]

/-- What stands at other routes stays. -/
theorem node?_put_of_ne {route other : Route} (h : other ≠ route) (fs : FileSystem)
    (node : Node) : (fs.put route node).node? other = fs.node? other := by
  simp [node?, put, find?_putNode_of_ne h]

/-- The longest name, in bytes of its UTF-8 form. -/
def nameLimit : Nat := 255

/-- The shortest path that is too long, in bytes of its UTF-8 form. -/
def pathLimit : Nat := 4096

/-- Follows components from the end of `route`. Each but the last has to lead to a directory; the
last may lead to nothing. -/
def follow (fs : FileSystem) (route : Route) : List Component → Except FileError Route
  | [] => .ok route
  | c :: cs =>
    match fs.node? route with
    | none => .error .notFound
    | some (.file _) => .error .notDirectory
    | some .directory =>
      match c with
      | .root => fs.follow [] cs
      | .here => fs.follow route cs
      | .parent => fs.follow route.dropLast cs
      | .name n =>
        if nameLimit < n.utf8ByteSize then .error .nameTooLong
        else fs.follow (route ++ [n]) cs

/-- Whether only a directory can stand at the path: it ends with a slash or a dot. -/
def wantsDirectory (p : FilePath) : Bool :=
  match (Text.split '/' p.text).getLast? with
  | some piece => piece = "" || piece = "."
  | none => false

/-- The route that a path leads to, where a node may stand or not. -/
def locate (fs : FileSystem) (p : FilePath) : Except FileError Route :=
  if p.text.toList.contains '\x00' then .error .nulInName
  else if p.text = "" then .error .notFound
  else if pathLimit ≤ p.text.utf8ByteSize then .error .nameTooLong
  else
    match fs.follow fs.workingDirectory p.components with
    | .error e => .error e
    | .ok route =>
      match fs.node? route with
      | some (.file _) => if wantsDirectory p then .error .notDirectory else .ok route
      | _ => .ok route

/-- What stands at a path, with its route. -/
def find (fs : FileSystem) (p : FilePath) : Except FileError (Route × Node) :=
  match fs.locate p with
  | .error e => .error e
  | .ok route =>
    match fs.node? route with
    | none => .error .notFound
    | some node => .ok (route, node)

/-- Whether a directory stands at a path. -/
def isDirectory (fs : FileSystem) (p : FilePath) : Bool :=
  match fs.find p with
  | .ok (_, node) => node.isDirectory
  | .error _ => false

/-- The text of the file at a path. -/
def readText (fs : FileSystem) (p : FilePath) : Except FileError String :=
  match fs.find p with
  | .error e => .error e
  | .ok (_, .directory) => .error .isDirectory
  | .ok (_, .file content) =>
    match String.fromUTF8? content with
    | some text => .ok text
    | none => .error .notText

/-- Makes one directory. -/
def makeDirectory (fs : FileSystem) (p : FilePath) : Except FileError FileSystem :=
  match fs.locate p with
  | .error e => .error e
  | .ok route =>
    match fs.node? route with
    | some _ => .error .alreadyExists
    | none => .ok (fs.put route .directory)

/-- The path of components. -/
def pathOf : List Component → FilePath
  | [] => ⟨""⟩
  | .root :: cs => ⟨"/" ++ Text.joinWith "/" (cs.map Component.text)⟩
  | cs => ⟨Text.joinWith "/" (cs.map Component.text)⟩

/-- Makes the directories of `missing`, innermost last, each on the way to the next. -/
def makeEach (fs : FileSystem) : List FilePath → FileSystem × Except FileError Unit
  | [] => (fs, .ok ())
  | p :: ps =>
    match fs.makeDirectory p with
    | .ok fs => fs.makeEach ps
    | .error e => if e = .alreadyExists && fs.isDirectory p then fs.makeEach ps else (fs, .error e)

/-- Makes the directory at the front of `ancestors`, which lists a path and what encloses it, and
first, where it is missing, the one that encloses it; `missing` are those found missing so far. -/
def makeMissing (fs : FileSystem) (missing : List FilePath) :
    List FilePath → FileSystem × Except FileError Unit
  | [] => fs.makeEach missing
  | p :: ps =>
    match fs.makeDirectory p with
    | .ok fs => fs.makeEach missing
    | .error .notFound => fs.makeMissing (p :: missing) ps
    | .error e =>
      if e = .alreadyExists && fs.isDirectory p then fs.makeEach missing else (fs, .error e)

/-- The paths of the non-empty beginnings of components, longest first, without the top. -/
def ancestors (cs : List Component) : List FilePath :=
  ((List.range cs.length).map fun n => cs.take (n + 1)).filter (· != [.root])
    |>.reverse.map pathOf

/-- Makes a directory and those that enclose it, as far as they are missing. Those that were made
stay also after a failure. -/
def makeDirectories (fs : FileSystem) (cs : List Component) : FileSystem × Except FileError Unit :=
  fs.makeMissing [] (ancestors cs)

/-- Writes a file, which may exist, into a directory that exists. -/
def writeFile (fs : FileSystem) (p : FilePath) (content : String) : Except FileError FileSystem :=
  match fs.locate p with
  | .error e => .error e
  | .ok route =>
    match fs.node? route with
    | some .directory => .error .isDirectory
    | some (.file _) => .ok (fs.put route (.file content.toUTF8))
    | none =>
      if wantsDirectory p then .error .isDirectory
      else .ok (fs.put route (.file content.toUTF8))

/-- The names that lead from `route` to a file below it. -/
def namesBelow (route : Route) (n : Route × Node) : Option (List String) :=
  match n.2 with
  | .directory => none
  | .file _ => if route.isPrefixOf n.1 then some (n.1.drop route.length) else none

/-- The paths of all files at and below a path, in no particular order. -/
def filesBelow (fs : FileSystem) (p : FilePath) : Except FileError (List FilePath) :=
  match fs.find p with
  | .error e => .error e
  | .ok (route, _) =>
    .ok ((fs.nodes.filterMap (namesBelow route)).map p.descend)

/-- The file system with the directories on the way to `route`. -/
def putParents (fs : FileSystem) (route : Route) : FileSystem :=
  ((List.range route.length).drop 1).foldl (fun fs n =>
    let enclosing := route.take n
    if (fs.node? enclosing).isSome then fs else fs.put enclosing .directory) fs

end FileSystem

end ReceiverLoader
