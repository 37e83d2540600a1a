import ReceiverLoader.Token.Basic

/-!
# Forms of constructs

What reading a construct of the source language leaves behind. A path, an attribute, a `use` tree
and an item are kept as far as the search for declarations needs them; of a type, a pattern and an
expression only the outermost form is kept.
-/

namespace ReceiverLoader.Grammar

open Token (Position Tree)

/-- A path as written, without its generic arguments. -/
structure Path where
  /-- Whether `::` stands in front of it. -/
  leadingColon : Bool
  segments : List String
deriving Repr, DecidableEq

namespace Path

/-- The path as written. -/
def written (p : Path) : String :=
  (if p.leadingColon then "::" else "") ++ String.intercalate "::" p.segments

end Path

/-- A path with the places of its generic arguments. -/
structure PathForm where
  path : Path
  /-- No segment has brackets for arguments. -/
  bare : Bool
  /-- The last segment has no arguments, be it that its brackets are empty. -/
  lastBare : Bool
deriving Repr, DecidableEq

/-- The forms of a type. -/
inductive TypeForm
  /-- A path that no type qualifies. -/
  | path (form : PathForm)
  /-- One trait bound that stands for the type of all its implementors. -/
  | soleBound
  | other
deriving Repr, DecidableEq

/-- The forms of a pattern. -/
inductive PatternForm
  /-- The rest pattern `..`. -/
  | rest
  /-- A range without one of its ends; its dots stand at `position`. -/
  | openRange (position : Position)
  | other
deriving Repr, DecidableEq

/-- The forms of an expression. -/
inductive ExpressionForm
  | integer (position : Position) (value : Nat)
  | negation (operand : ExpressionForm)
  | comparison
  /-- A range; its dots stand at `position`. -/
  | range (position : Position)
  /-- A block, a conditional, a loop or a selection. -/
  | block
  /-- A macro call with braces. -/
  | bracedCall
  /-- An expression without a normal form. -/
  | verbatim
  | other
deriving Repr, DecidableEq

namespace ExpressionForm

/-- Whether the expression is a range. -/
def isRange : ExpressionForm → Bool
  | range _ => true
  | _ => false

/-- Whether a selection's arm with this body has to end with a comma. -/
def needsComma (form : ExpressionForm) : Bool := form != .block

/-- Whether a statement of this expression has to end with a semicolon. -/
def needsSemicolon (form : ExpressionForm) : Bool := form != .block && form != .bracedCall

end ExpressionForm

/-- What an attribute says about its path. -/
inductive AttributeContent
  | nothing
  /-- Arguments between delimiters, of which the closing one stands at `closes`. -/
  | arguments (closes : Position) (body : List Tree)
  /-- A value behind the `=` at `equals`. -/
  | value (equals : Position)
deriving Repr

/-- An attribute. -/
structure Attribute where
  path : Path
  content : AttributeContent
deriving Repr

/-- The names that a `use` item brings into scope. -/
inductive UseTree
  | path (name : String) (tree : UseTree)
  | name (name : String)
  | rename (name newName : String)
  | glob
  | group (trees : List UseTree)
deriving Repr

/-- The declaration of a struct, an enum or a union. -/
structure TypeDeclaration where
  attributes : List Attribute
  name : String
  position : Position
  /-- The normal form of the declaration. -/
  trees : List Tree
deriving Repr

/-- The trait that an implementation names. -/
structure ImplementedTrait where
  /-- A `!` stands in front of it: the type does not have the trait. -/
  isNegative : Bool
  path : Path
deriving Repr, DecidableEq

/-- An item of a module. -/
inductive Item
  | type (declaration : TypeDeclaration)
  | trait (name : String)
  /-- An implementation for a type, of a trait or of methods of its own. -/
  | implementation (trait : Option ImplementedTrait) (self : TypeForm)
  /-- A module with its items; one whose content is in another file is no such item. -/
  | module (name : String) (items : List Item)
  | use (leadingColon : Bool) (tree : UseTree)
  | other
deriving Repr

end ReceiverLoader.Grammar
