import ReceiverLoader.Round

/-!
# Receivers

The records that a loader registers: one for each marked declaration.
-/

namespace ReceiverLoader

/-- What is registered of a module event receiver. -/
structure Receiver where
  /-- The module that the receiver is declared in. -/
  module : String
  /-- The qualified name of the receiver's type. -/
  name : String
  group : String
  priority : Int32
  flag : Int32
deriving Repr, DecidableEq

namespace Receiver

/-- The record of a declaration, with the arguments of `marker` or, without it, the standard
ones. -/
def ofDeclaration (d : Declaration) (marker module : String) : Receiver :=
  let arguments := (d.marker? marker).getD Marker.Arguments.standard
  { module
    name := d.name
    group := arguments.group
    priority := arguments.priority
    flag := arguments.flag }

end Receiver

end ReceiverLoader
