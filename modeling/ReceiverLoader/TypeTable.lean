import ReceiverLoader.OrderedList
import ReceiverLoader.QualifiedName

/-!
# Type tables

The types and traits that a source tree declares, and which type implements which trait.
`TypeTable.isSubtype` answers whether a type has a capability: it is the capability, or implements
it by its name, or implements a trait of that simple name which the tree does not declare.
-/

namespace ReceiverLoader

/-- The declared names, and the pairs of a type and a trait that it implements, both in ascending
order. -/
structure TypeTable where
  declared : List String
  implementations : List (String × String)
deriving Repr, DecidableEq

namespace TypeTable

/-- Nothing is declared. -/
def empty : TypeTable := ⟨[], []⟩

/-- The order of pairs of texts. -/
def comparePairs (a b : String × String) : Ordering :=
  (compare a.1 b.1).then (compare a.2 b.2)

/-- Records a declared type or trait. -/
def declare (name : String) (table : TypeTable) : TypeTable :=
  { table with declared := OrderedList.insert name table.declared }

/-- Records that `type` implements `trait`. -/
def addImplementation (type trait : String) (table : TypeTable) : TypeTable :=
  { table with
    implementations := OrderedList.insertBy comparePairs (type, trait) table.implementations }

/-- Whether the tree declares `name`. -/
def isDeclared (table : TypeTable) (name : String) : Bool := table.declared.contains name

/-- The traits that `type` implements, in ascending order. -/
def traitsOf (table : TypeTable) (type : String) : List String :=
  (table.implementations.filter fun p => p.1 == type).map (·.2)

/-- Whether a trait gives the capability `of`. -/
def provides (table : TypeTable) (of trait : String) : Bool :=
  trait == of ||
    (!table.isDeclared trait && QualifiedName.lastSegment trait == QualifiedName.lastSegment of)

/-- Whether `type` is `of` or implements it. -/
def isSubtype (table : TypeTable) (type of : String) : Bool :=
  type == of || (table.traitsOf type).any (table.provides of)

end TypeTable

end ReceiverLoader
