import ReceiverLoader.Grammar.Form
import ReceiverLoader.OrderedList
import ReceiverLoader.QualifiedName

/-!
# Scopes

What the names in a module stand for. A path is resolved against the imports of its module and
against the modules of the whole tree: it may begin with a word for a module, with an imported name,
with a child module or with another crate. A single name that is none of these is local.
-/

namespace ReceiverLoader.Source

open Grammar (Path UseTree Item)

/-- A module and the names that its `use` items bring into scope. -/
structure Scope where
  module : List String
  imports : List (String × Path)
deriving Repr, DecidableEq

/-- The path with `name` behind it. -/
def extend (path : Path) (name : String) : Path :=
  { path with segments := path.segments ++ [name] }

/-- Where the flattening of `use` trees stands. -/
structure Flattening where
  /-- The path that leads to the tree; the members of a group have it in common. -/
  outer : Path
  /-- What has been brought into scope so far. -/
  imports : List (String × Path)
deriving Repr, DecidableEq

namespace Flattening

/-- Puts a segment behind the path. -/
def enter (s : Flattening) (segment : String) : Flattening :=
  { s with outer := extend s.outer segment }

/-- Takes the last segment off the path. -/
def leave (s : Flattening) : Flattening :=
  { s with outer := { s.outer with segments := s.outer.segments.dropLast } }

/-- Brings `name` into scope, in the stead of what it has stood for. -/
def bind (s : Flattening) (name : String) (path : Path) : Flattening :=
  { s with imports := OrderedList.put name path s.imports }

end Flattening

mutual

/-- Brings the names of a `use` tree into scope, from left to right. -/
def flatten (s : Flattening) : UseTree → Flattening
  | .path segment tree => (flatten (s.enter segment) tree).leave
  | .name name =>
    if name = "self" then
      match s.outer.segments.getLast? with
      | some last => s.bind last s.outer
      | none => s
    else s.bind name (extend s.outer name)
  | .rename name newName => s.bind newName (if name = "self" then s.outer else extend s.outer name)
  | .glob => s
  | .group trees => flattenAll s trees

/-- Brings the names of the members of a group into scope. -/
def flattenAll (s : Flattening) : List UseTree → Flattening
  | [] => s
  | tree :: trees => flattenAll (flatten s tree) trees

end

/-- Brings the names of an item into scope. Each `use` item begins with an empty path. -/
def importItem (table : List (String × Path)) : Item → List (String × Path)
  | .use leadingColon tree => (flatten ⟨⟨leadingColon, []⟩, table⟩ tree).imports
  | _ => table

/-- The imports of a module with these items. A later binding of a name replaces an earlier one. -/
def imports (items : List Item) : List (String × Path) := items.foldl importItem []

/-- A module without its last segment, but never without the crate. -/
def parentModule (module : List String) : List String :=
  if 1 < module.length then module.dropLast else module

/-- Follows `segments` from `module`: each `super` at their front leads to the parent. -/
def followSuper (module : List String) : List String → List String
  | [] => module
  | s :: rest => if s = "super" then followSuper (parentModule module) rest else module ++ s :: rest

/-- The segments of the name that a path in `module` stands for, without regard to imports. A single
name that is no child module is local if `localFallback`. -/
def absolute (crate : String) (modules : List (List String)) (module : List String) (path : Path)
    (localFallback : Bool) : List String :=
  match path.segments with
  | [] => []
  | first :: rest =>
    if path.leadingColon then first :: rest
    else if first = "crate" then crate :: rest
    else if first = "self" then module ++ rest
    else if first = "super" then followSuper module (first :: rest)
    else if modules.contains (module ++ [first]) || (localFallback && rest.isEmpty) then
      module ++ first :: rest
    else first :: rest

/-- The import that the first segment of a path names. -/
def importOf (scope : Scope) (path : Path) : Option Path :=
  if path.leadingColon then none
  else path.segments.head?.bind fun first => OrderedList.get? first scope.imports

/-- The qualified name that a path in a scope stands for, in the tree of `crate` with these
`modules`. -/
def resolve (crate : String) (modules : List (List String)) (scope : Scope) (path : Path) :
    String :=
  QualifiedName.ofSegments <|
    match importOf scope path with
    | some imported =>
      absolute crate modules scope.module
        { imported with segments := imported.segments ++ path.segments.drop 1 } false
    | none => absolute crate modules scope.module path true

end ReceiverLoader.Source
