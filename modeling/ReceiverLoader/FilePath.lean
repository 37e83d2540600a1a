import ReceiverLoader.OrderedList
import ReceiverLoader.Text.Split

/-!
# Paths of files

A path is a text whose names are separated by `/`. It is shown as it was written; it is compared,
taken apart and followed by its components. `FilePath.moduleComponents` gives the names that a
source file's module has.
-/

namespace ReceiverLoader

/-- A component of a path. -/
inductive Component
  /-- The top of the file system. -/
  | root
  /-- The directory where a path begins that starts with a single dot. -/
  | here
  | parent
  | name (text : String)
deriving Repr, DecidableEq

namespace Component

/-- The component as written. -/
def text : Component → String
  | root => "/"
  | here => "."
  | parent => ".."
  | name t => t

/-- The rank of a component's kind. -/
def rank : Component → Nat
  | root => 0
  | here => 1
  | parent => 2
  | name _ => 3

/-- The order of components: by kind, names by their characters. -/
def order : Component → Component → Ordering
  | name a, name b => compare a b
  | a, b => compare a.rank b.rank

end Component

/-- The text of a path. -/
structure FilePath where
  text : String
deriving Repr, DecidableEq, Inhabited

namespace FilePath

/-- The component that a piece between slashes stands for. An empty piece is none, and neither is a
single dot behind the first piece. -/
def componentOf (isFirst : Bool) (piece : String) : Option Component :=
  if piece = "" then none
  else if piece = "." then if isFirst then some .here else none
  else if piece = ".." then some .parent
  else some (.name piece)

/-- The components of the pieces of a path. -/
def componentsOf : List String → List Component
  | [] => []
  | [piece] => (componentOf true piece).toList
  | first :: rest =>
    (if first = "" then some Component.root else componentOf true first).toList ++
      rest.filterMap (componentOf false)

/-- The components of a path. -/
def components (p : FilePath) : List Component := componentsOf (Text.split '/' p.text)

/-- The order of lists of components. -/
def compareComponents : List Component → List Component → Ordering
  | [], [] => .eq
  | [], _ :: _ => .lt
  | _ :: _, [] => .gt
  | a :: as, b :: bs => (a.order b).then (compareComponents as bs)

/-- The order of paths, component by component. -/
def order (p q : FilePath) : Ordering := compareComponents p.components q.components

/-- Whether a path begins at the top of the file system. -/
def isAbsolute (p : FilePath) : Bool := p.text.toList.head? == some '/'

/-- The path `q` seen from `p`. An absolute path is the same from everywhere. -/
def join (p q : FilePath) : FilePath :=
  if q.isAbsolute then q
  else if p.text = "" || p.text.toList.getLast? == some '/' then ⟨p.text ++ q.text⟩
  else ⟨p.text ++ "/" ++ q.text⟩

/-- The path that names lead to from `p`, one inside the other. -/
def descend (p : FilePath) (names : List String) : FilePath :=
  names.foldl (fun path name => path.join ⟨name⟩) p

/-- A name before its last dot and behind it. A name whose only dot comes first has none. -/
def splitName (name : String) : Option (String × String) :=
  let cs := name.toList.reverse
  let behind := cs.takeWhile (· != '.')
  match cs.drop behind.length with
  | [] => none
  | _ :: before =>
    if before.isEmpty then none
    else some (String.ofList before.reverse, String.ofList behind.reverse)

/-- The last component, if it is a name. -/
def fileName? (p : FilePath) : Option String :=
  match p.components.getLast? with
  | some (.name n) => some n
  | _ => none

/-- What follows the last dot of the last name. -/
def extension? (p : FilePath) : Option String :=
  (p.fileName?.bind splitName).map (·.2)

/-- Whether slashes or dots stand behind the last name. -/
def isFollowed (p : FilePath) : Bool := (Text.split '/' p.text).getLast? != p.fileName?

/-- A name without its last dot and what follows it. The single dot that may remain is a name only
if text follows it in the path; with its own dot it is the parent. -/
def dropExtension (followed : Bool) (name : String) : String :=
  match splitName name with
  | none => name
  | some (before, _) => if before = "." && !followed then ".." else before

/-- Whether the components of a path begin with those of `base`. -/
def isBelow (p base : FilePath) : Bool := base.components.isPrefixOf p.components

/-- The components behind those of `base`; all if the path is not below it. -/
def relativeComponents (p base : FilePath) : List Component :=
  if p.isBelow base then p.components.drop base.components.length else p.components

/-- The texts of components, the last name without its extension. A single dot that remains of the
name is no component, unless it is the only one. -/
def stemTexts (followed : Bool) : List Component → List String
  | [] => []
  | [.name n] => [dropExtension followed n]
  | [c, .name n] =>
    let stem := dropExtension followed n
    if stem = "." then [c.text] else [c.text, stem]
  | c :: cs => c.text :: stemTexts followed cs

/-- Whether the last of several components names no module of its own: it is `mod`, or it is the
only one and one of the files that a crate begins with. -/
def isModuleRoot (only : Bool) (text : String) : Bool :=
  text == "mod" || (only && (text == "lib" || text == "main"))

/-- The names of the module that the file `p` below `base` holds. What follows the last name counts
only if the path is not below `base`. -/
def moduleComponents (p base : FilePath) : List String :=
  let texts := stemTexts (!p.isBelow base && p.isFollowed) (p.relativeComponents base)
  match texts.getLast? with
  | some last => if isModuleRoot (texts.length == 1) last then texts.dropLast else texts
  | none => []

end FilePath

end ReceiverLoader
