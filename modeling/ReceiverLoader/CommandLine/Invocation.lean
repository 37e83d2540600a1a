import ReceiverLoader.FilePath

/-!
# The command line

How the arguments of the command are read, from left to right. The command `generate` writes a
loader, the command `scan` lists marked declarations. A switch may have a value: behind `=`,
directly behind its letter, or in the next argument.

Help is a switch of each command and a command of its own. An argument that is the value of the
switch before it asks for no help, whatever it says.
-/

namespace ReceiverLoader.CommandLine

/-- The line ends of a generated file. -/
inductive LineEnding
  | native
  | lineFeed
  | carriageReturn
deriving Repr, DecidableEq

namespace LineEnding

/-- The line ending that a word names. -/
def ofName? : String → Option LineEnding
  | "native" => some native
  | "lf" => some lineFeed
  | "crlf" => some carriageReturn
  | _ => none

/-- What separates lines. -/
def separator : LineEnding → String
  | native => "\n"
  | lineFeed => "\n"
  | carriageReturn => "\r\n"

end LineEnding

/-- What the commands need to know of the sources. -/
structure SourceChoice where
  directory : FilePath
  crateName : String
deriving Repr, DecidableEq

/-- A command. -/
inductive Command
  | generate (source : SourceChoice) (out : FilePath) (options : List (String × String))
      (lineEnding : LineEnding)
  | scan (source : SourceChoice)
deriving Repr, DecidableEq

/-- What the arguments ask for. -/
inductive Invocation
  | run (verbose : Bool) (command : Command)
  | help
  /-- The arguments are ill-formed. -/
  | refused
deriving Repr, DecidableEq

/-- The switches. -/
inductive Switch
  | verbose
  | source
  | crateName
  | out
  | option
  | lineEnding
  | help
deriving Repr, DecidableEq

namespace Switch

/-- The switch with this name. -/
def ofName? : String → Option Switch
  | "verbose" => some verbose
  | "src" => some source
  | "crate-name" => some crateName
  | "out" => some out
  | "option" => some option
  | "line-ending" => some lineEnding
  | "help" => some help
  | _ => none

/-- The switch with this letter. -/
def ofLetter? : Char → Option Switch
  | 'v' => some verbose
  | 's' => some source
  | 'c' => some crateName
  | 'o' => some out
  | 'O' => some option
  | 'h' => some help
  | _ => none

/-- Whether the switch may be given several times. -/
def repeats (s : Switch) : Bool := s == option

/-- Whether the switch has a value. -/
def takesValue (s : Switch) : Bool := s != verbose && s != help

end Switch

/-- An occurrence of a switch with its value. -/
abbrev Occurrence := Switch × Option String

/-- What one argument says. -/
structure Reading where
  complete : List Occurrence
  /-- The switch whose value is the next argument. -/
  awaits : Option Switch

/-- A text before and behind its first `=`, if it has one. -/
def splitEquals (cs : List Char) : List Char × Option (List Char) :=
  let before := cs.takeWhile (· != '=')
  match cs.drop before.length with
  | [] => (before, none)
  | _ :: behind => (before, some behind)

/-- Reads an argument behind its two hyphens. -/
def readLong (cs : List Char) : Option Reading :=
  let (name, value?) := splitEquals cs
  match Switch.ofName? (String.ofList name) with
  | none => none
  | some s =>
    match s.takesValue, value? with
    | false, none => some ⟨[(s, none)], none⟩
    | false, some _ => none
    | true, some value => some ⟨[(s, some (String.ofList value))], none⟩
    | true, none => some ⟨[], some s⟩

/-- Reads the letters of an argument behind its hyphen. What follows the letter of a switch with a
value is that value. What follows the letter of help is not read. -/
def readShort : List Char → Option Reading
  | [] => some ⟨[], none⟩
  | c :: cs =>
    match Switch.ofLetter? c with
    | none => none
    | some .help => some ⟨[(.help, none)], none⟩
    | some .verbose =>
      (readShort cs).map fun r => { r with complete := (.verbose, none) :: r.complete }
    | some s =>
      match cs with
      | [] => some ⟨[], some s⟩
      | '=' :: value => some ⟨[(s, some (String.ofList value))], none⟩
      | value => some ⟨[(s, some (String.ofList value))], none⟩

/-- Reads an argument that is a switch. -/
def readArgument (argument : String) : Option Reading :=
  match argument.toList with
  | '-' :: '-' :: cs => readLong cs
  | '-' :: c :: cs => readShort (c :: cs)
  | _ => none

/-- Whether an argument can be the value of the switch before it. -/
def canBeValue (argument : String) : Bool :=
  argument == "-" || argument.toList.head? != some '-'

/-- Whether help is among these switches. -/
def asksForHelp (given : List Occurrence) : Bool := given.any fun o => o.1 == .help

/-- Reads the arguments of a command. Two hyphens may end them, and what follows a switch that asks
for help is not read. -/
def readSwitches : List String → Option (List Occurrence)
  | [] => some []
  | argument :: rest =>
    if argument = "--" then if rest.isEmpty then some [] else none
    else
      match readArgument argument with
      | none => none
      | some ⟨complete, none⟩ =>
        if asksForHelp complete then some complete
        else (readSwitches rest).map (complete ++ ·)
      | some ⟨complete, some s⟩ =>
        match rest with
        | value :: rest =>
          if canBeValue value then
            (readSwitches rest).map (complete ++ (s, some value) :: ·)
          else none
        | [] => none

/-- The values of a switch. -/
def valuesOf (s : Switch) (given : List Occurrence) : List String :=
  (given.filter fun o => o.1 == s).filterMap (·.2)

/-- Whether a switch is given too often. -/
def isRepeated (given : List Occurrence) (s : Switch) : Bool :=
  !s.repeats && 1 < (given.filter fun o => o.1 == s).length

/-- Whether only these switches are given, and none too often. -/
def admits (switches : List Switch) (given : List Occurrence) : Bool :=
  given.all fun o => switches.contains o.1 && !isRepeated given o.1

/-- The path that a value names. -/
def pathOf (value : String) : Option FilePath := if value = "" then none else some ⟨value⟩

/-- The option that a value sets: a key, which cannot be empty, and behind `=` its value. -/
def optionOf (value : String) : Option (String × String) :=
  match splitEquals value.toList with
  | ([], _) => none
  | (_, none) => none
  | (key, some text) => some (String.ofList key, String.ofList text)

/-- All results, if there are none missing. -/
def traverse {α β : Type} (f : α → Option β) : List α → Option (List β)
  | [] => some []
  | a :: as =>
    match f a, traverse f as with
    | some b, some bs => some (b :: bs)
    | _, _ => none

/-- What is said about the sources. -/
def sourceChoice (given : List Occurrence) : Option SourceChoice := do
  let directory ← pathOf ((valuesOf .source given).head?.getD "src")
  let crateName ← (valuesOf .crateName given).head?
  return ⟨directory, crateName⟩

/-- The command `generate` with these switches. -/
def generateCommand (given : List Occurrence) : Option Command := do
  let source ← sourceChoice given
  let out ← pathOf (← (valuesOf .out given).head?)
  let options ← traverse optionOf (valuesOf .option given)
  let lineEnding ← LineEnding.ofName? ((valuesOf .lineEnding given).head?.getD "native")
  return .generate source out options lineEnding

/-- The switches that a command has beside help. -/
def switchesOf? (name : String) : Option (List Switch) :=
  if name = "generate" then some [.verbose, .source, .crateName, .out, .option, .lineEnding]
  else if name = "scan" then some [.verbose, .source, .crateName]
  else none

/-- The command of this name with these switches. -/
def commandOf (name : String) (given : List Occurrence) : Option Command :=
  if name = "generate" then generateCommand given
  else if name = "scan" then (sourceChoice given).map .scan
  else none

/-- Whether the value of a switch can be read. -/
def hasValidValue : Occurrence → Bool
  | (.source, some value) => (pathOf value).isSome
  | (.out, some value) => (pathOf value).isSome
  | (.option, some value) => (optionOf value).isSome
  | (.lineEnding, some value) => (LineEnding.ofName? value).isSome
  | _ => true

/-- What switches ask for that end with help. Help is given unless one of those before it is
refused; a switch that the command needs may be missing. -/
def helpBehind (switches : List Switch) (given : List Occurrence) : Invocation :=
  let before := given.takeWhile fun o => o.1 != .help
  if admits switches before && before.all hasValidValue then .help else .refused

/-- Reads the arguments from the command's name on; those before it are `given`. -/
def readCommand (given : List Occurrence) (name : String) (rest : List String) : Invocation :=
  match switchesOf? name, readSwitches rest with
  | some switches, some behind =>
    if asksForHelp behind then helpBehind switches behind
    else if admits switches behind then
      match commandOf name behind with
      | none => .refused
      | some command => .run ((given ++ behind).any fun o => o.1 == .verbose) command
    else .refused
  | _, _ => .refused

/-- Reads the arguments behind the command `help`: at most one, the name of a command. -/
def readHelp : List String → Invocation
  | [] => .help
  | [name] => if name = "help" || (switchesOf? name).isSome then .help else .refused
  | _ => .refused

/-- Reads the arguments before the command's name, with those `given` so far. -/
def readBeforeCommand (given : List Occurrence) : List String → Invocation
  | [] => .refused
  | argument :: rest =>
    match readArgument argument with
    | some ⟨complete, none⟩ =>
      if asksForHelp complete then helpBehind [.verbose] (given ++ complete)
      else if admits [.verbose] (given ++ complete) then readBeforeCommand (given ++ complete) rest
      else .refused
    | some ⟨_, some _⟩ => .refused
    | none => if argument = "help" then readHelp rest else readCommand given argument rest

/-- Reads the arguments of the program. -/
def read (arguments : List String) : Invocation := readBeforeCommand [] arguments

/-- How the program is called. -/
def usage : List String :=
  ["Usage: modev generate [-v] [-s DIR] -c NAME -o DIR [-O KEY=VALUE]... [--line-ending ENDING]",
   "       modev scan [-v] [-s DIR] -c NAME",
   "",
   "generate  write the loader of the module event receivers of a crate",
   "scan      list marked declarations and whether they have the capability of a receiver",
   "",
   "-s, --src DIR           the directory of the sources; `src` if none is given",
   "-c, --crate-name NAME   the name of the crate",
   "-o, --out DIR           the directory that the loader is written below",
   "-O, --option KEY=VALUE  an option of the processor; MODULE_NAME names the module",
   "    --line-ending       `native`, `lf` or `crlf`",
   "-v, --verbose           tell more about the work",
   "-h, --help              show this text"]

end ReceiverLoader.CommandLine
