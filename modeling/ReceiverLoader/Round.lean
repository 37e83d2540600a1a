import ReceiverLoader.Diagnostic
import ReceiverLoader.Marker.Arguments
import ReceiverLoader.QualifiedName

/-!
# Rounds

The declarations that are processed together, each with the markers it carries. `Round.scan` selects
those with a given marker, in the order of their names.
-/

namespace ReceiverLoader

/-- A declaration of a type. -/
structure Declaration where
  name : String
  /-- The type that is declared. -/
  type : String
  location : Option Location
  /-- The markers with their arguments, in ascending order of names. -/
  markers : List (String × Marker.Arguments)
deriving Repr, DecidableEq

namespace Declaration

/-- The arguments of the marker `name`, if the declaration carries it. -/
def marker? (d : Declaration) (name : String) : Option Marker.Arguments :=
  OrderedList.get? name d.markers

/-- Whether the declaration carries the marker `name`. -/
def carries (d : Declaration) (name : String) : Bool := (d.marker? name).isSome

/-- The last segment of the type's name. -/
def simpleName (d : Declaration) : String := QualifiedName.lastSegment d.type

end Declaration

/-- Declarations in the order in which they were found. -/
structure Round where
  declarations : List Declaration
deriving Repr, DecidableEq

namespace Round

/-- No declarations. -/
def empty : Round := ⟨[]⟩

/-- The round with `d` at its end. -/
def push (round : Round) (d : Declaration) : Round := ⟨round.declarations ++ [d]⟩

/-- The declarations that carry the marker `name`, in the order of the round. -/
def annotatedWith (round : Round) (name : String) : List Declaration :=
  round.declarations.filter fun d => d.carries name

/-- The names of all markers of the round, in ascending order. -/
def markers (round : Round) : List String :=
  OrderedList.ofList (round.declarations.flatMap fun d => d.markers.map (·.1))

/-- The order of declarations by their names. -/
def compareNames (a b : Declaration) : Ordering := compare a.name b.name

/-- The declarations that carry the marker `name`, in ascending order of names. Of several with one
name the first is selected. -/
def scan (round : Round) (name : String) : List Declaration :=
  (round.annotatedWith name).foldl (fun found d => OrderedList.insertBy compareNames d found) []

end Round

end ReceiverLoader
