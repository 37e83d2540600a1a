import ReceiverLoader.CommandLine.Run

/-!
# The program

Takes a picture of the files that a command can meet, runs the command on it, and carries what it
has changed back to the disk.
-/

namespace ReceiverLoader.Disk

/-- The route of the working directory. -/
def workingDirectory : IO Route := do
  let path ← IO.currentDir
  return Route.spelled [] (FilePath.components ⟨path.toString⟩)

/-- The picture with what stands at the end of `route`. The content of a file is taken only if it
is wanted. -/
def take (withContent : Bool) (files : FileSystem) (route : Route) : IO FileSystem := do
  let path := (← IO.currentDir) / route.path.text
  if ← path.isDir then return files.put route .directory
  else if ← path.pathExists then
    if withContent then return files.put route (.file (← IO.FS.readBinFile path))
    else return files.put route (.file ByteArray.empty)
  else return files

/-- The picture with what stands on the way to a path. What it holds already stays. -/
def takeWay (files : FileSystem) (path : FilePath) : IO FileSystem := do
  let cs := path.components
  let ways := (List.range (cs.length + 1)).map fun n =>
    Route.spelled files.workingDirectory (cs.take n)
  ways.foldlM (fun files route =>
    if (files.node? route).isSome then return files else take false files route) files

/-- The picture with all that stands at and below `route`, at most `depth` names deep. -/
def takeBelow : Nat → FileSystem → Route → IO FileSystem
  | 0, files, _ => return files
  | depth + 1, files, route => do
    let isSource := route.path.extension? == some "rs"
    let files ← take isSource files route
    let path := (← IO.currentDir) / route.path.text
    if ← path.isDir then
      let entries ← path.readDir
      entries.toList.foldlM (fun files e => takeBelow depth files (route ++ [e.fileName])) files
    else return files

/-- The picture with the tree of sources below `directory`. A path cannot have more names than
characters. -/
def takeSources (files : FileSystem) (directory : FilePath) : IO FileSystem := do
  let files ← takeWay files directory
  takeBelow FileSystem.pathLimit files
    (Route.spelled files.workingDirectory directory.components)

/-- The picture of the files that a command can meet. -/
def picture (command : CommandLine.Command) : IO FileSystem := do
  let route ← workingDirectory
  let blank : FileSystem := ⟨[], route⟩
  let files := (blank.putParents route).put route .directory
  match command with
  | .scan source => takeSources files source.directory
  | .generate source out options _ =>
    let files ← takeSources files source.directory
    let modules := (options.filter fun o => o.1 == Loader.moduleOption).map (·.2)
    ("" :: modules).foldlM (fun files m =>
      takeWay files ((out.join ⟨Loader.package⟩).join ⟨Loader.typeName m ++ ".rs"⟩)) files

/-- Whether a file of this content stands at the end of `route`. -/
def holds (files : FileSystem) (route : Route) (content : ByteArray) : Bool :=
  match files.node? route with
  | some (.file old) => old == content
  | _ => false

/-- Carries what has changed to the disk. -/
def carryOver (before after : FileSystem) : IO Unit := do
  for (route, node) in after.nodes do
    let path := (← IO.currentDir) / route.path.text
    match node with
    | .directory => unless (before.node? route).isSome do IO.FS.createDirAll path
    | .file content => unless holds before route content do IO.FS.writeBinFile path content

/-- Runs the program with these arguments. -/
def runProgram (arguments : List String) : IO UInt32 := do
  match CommandLine.read arguments with
  | .help =>
    CommandLine.usage.forM fun line => IO.println line
    return 0
  | .refused =>
    CommandLine.usage.forM fun line => IO.eprintln line
    return 2
  | .run verbose command =>
    let before ← picture command
    let c := CommandLine.run verbose before command
    carryOver before c.files
    c.output.forM fun line => IO.println line
    c.errorOutput.forM fun line => IO.eprintln line
    return c.exitCode.toUInt32

end ReceiverLoader.Disk

/-- The command line. -/
def main (arguments : List String) : IO UInt32 := ReceiverLoader.Disk.runProgram arguments
