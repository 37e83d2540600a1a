import ReceiverLoader.Text.Split
import ReceiverLoader.Text.Word

/-!
# Qualified names

The name of a type: segments with `::` between them. `QualifiedName.resolve` says which texts name a
type, and brings them to a normal form without surrounding blanks and leading `::`.
-/

namespace ReceiverLoader.QualifiedName

/-- The name of these segments. -/
def ofSegments (segments : List String) : String := Text.joinWith "::" segments

/-- The pieces of a text between occurrences of `::`, found from left to right. -/
def segmentsOf : List Char → List (List Char)
  | [] => [[]]
  | ':' :: ':' :: cs => [] :: segmentsOf cs
  | c :: cs =>
    match segmentsOf cs with
    | [] => [[c]]
    | segment :: segments => (c :: segment) :: segments

/-- The characters of a reversed text before the first two colons in a row. -/
def untilColons : List Char → List Char
  | [] => []
  | ':' :: ':' :: _ => []
  | c :: cs => c :: untilColons cs

/-- What follows the last `::` of a name; the whole name if it has none. -/
def lastSegment (name : String) : String :=
  String.ofList (untilColons name.toList.reverse).reverse

/-- A text without the `::` at its front, however many there are. -/
def dropColons : List Char → List Char
  | ':' :: ':' :: cs => dropColons cs
  | cs => cs

/-- Whether a segment names something. -/
def isSegment (segment : List Char) : Bool :=
  !segment.isEmpty && segment.all fun c => c == '_' || Text.isAlphanumeric c

/-- The normal form of a text that names a type. -/
def resolve (text : String) : Option String :=
  let name := dropColons (Text.trimBlanks text.toList)
  if !name.isEmpty && (segmentsOf name).all isSegment then some (String.ofList name) else none

end ReceiverLoader.QualifiedName
