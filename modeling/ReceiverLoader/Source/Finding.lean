import ReceiverLoader.Source.Scope

/-!
# Findings

What the items of a module declare, in the order in which they stand, with the items of the modules
nested in them.
-/

namespace ReceiverLoader.Source

open Grammar (Path Item TypeDeclaration)

/-- Something that an item declares. -/
inductive Finding
  /-- A module that is nested in another. -/
  | module (path : List String)
  | type (name : String) (declaration : TypeDeclaration)
  | trait (name : String)
  /-- An implementation, with the scope in which its paths are to be resolved. -/
  | implementation (scope : Scope) (trait self : Path)
deriving Repr

/-- The qualified name of what is called `name` in `module`. -/
def qualify (module : List String) (name : String) : String :=
  QualifiedName.ofSegments module ++ "::" ++ name

mutual

/-- The findings in an item of the module of `scope`. -/
def itemFindings (scope : Scope) : Item → List Finding
  | .type d => [.type (qualify scope.module d.name) d]
  | .trait name => [.trait (qualify scope.module name)]
  -- A negated trait adds nothing, nor does a type that no plain path names.
  | .implementation (some ⟨false, trait⟩) (.path self) =>
    [.implementation scope trait self.path]
  | .implementation _ _ => []
  | .module name items =>
    let child := scope.module ++ [name]
    .module child :: itemsFindings ⟨child, imports items⟩ items
  | .use _ _ => []
  | .other => []

/-- The findings in items of the module of `scope`. -/
def itemsFindings (scope : Scope) : List Item → List Finding
  | [] => []
  | item :: items => itemFindings scope item ++ itemsFindings scope items

end

/-- The findings in the items of `module`. -/
def findings (module : List String) (items : List Item) : List Finding :=
  itemsFindings ⟨module, imports items⟩ items

end ReceiverLoader.Source
