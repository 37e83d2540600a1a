import ReceiverLoader.Marker.Arguments
import ReceiverLoader.Token.Trees

/-!
# The marker as an attribute macro

Put on an item, the marker checks its arguments and gives the item back. It can mark structs, enums
and unions.
-/

namespace ReceiverLoader.Marker

open Grammar (Item)

/-- Why a marked item is refused. -/
inductive ExpansionError
  /-- One of the texts is not made of tokens. -/
  | lexical
  | arguments (error : Error)
  /-- The text is not one item. -/
  | noItem
  /-- The item declares no struct, enum or union. -/
  | noType
deriving Repr, DecidableEq

namespace ExpansionError

/-- What is said about arguments and items that are refused. -/
def message : ExpansionError → String
  | lexical => "lex error"
  | arguments error => error.message
  | noItem => "not an item"
  | noType => "#[module_event_receiver] can only be applied to structs, enums or unions"

end ExpansionError

/-- The tokens that a marker with these arguments leaves of an item. -/
def expand (arguments item : String) : Except ExpansionError (List String) := do
  let argumentTrees ← (Token.trees arguments).mapError fun _ => .lexical
  let itemTrees ← (Token.trees item).mapError fun _ => .lexical
  let _ ← (Arguments.ofTrees argumentTrees).mapError .arguments
  match ← (Grammar.readItem itemTrees).mapError fun _ => .noItem with
  | .type declaration => return Token.Tree.writtenAll declaration.trees
  | _ => throw .noType

/-- Why a text is not one attribute with marker arguments. -/
inductive AttributeError
  /-- The text is not exactly one outer attribute. -/
  | noAttribute
  | arguments (carrier : Grammar.Attribute) (error : Error)
deriving Repr

/-- The attribute that a text spells, and the marker arguments it carries. -/
def readAttribute (text : String) : Except AttributeError (Grammar.Attribute × Arguments) := do
  let trees ← (Token.trees text).mapError fun _ => .noAttribute
  match ← (Grammar.readAttributes trees).mapError fun _ => .noAttribute with
  | [a] =>
    let arguments ← (Arguments.ofAttribute a).mapError (.arguments a)
    return (a, arguments)
  | _ => throw .noAttribute

/-- The arguments that a text spells; `none` if it is not made of tokens. -/
def readArguments (text : String) : Option (Except Error Arguments) :=
  match Token.trees text with
  | .ok trees => some (Arguments.ofTrees trees)
  | .error _ => none

end ReceiverLoader.Marker
