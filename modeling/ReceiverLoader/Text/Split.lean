/-!
# Splitting text

Text is cut at a single character (`splitAtChar`), at line feeds (`lines`, which also drops the
carriage return before one), and put together again with a separator (`joinWith`).
-/

namespace ReceiverLoader.Text

/-- The pieces of `text` between occurrences of `separator`: one more than there are of these. -/
def splitAtChar (separator : Char) : List Char → List (List Char)
  | [] => [[]]
  | c :: rest =>
    if c = separator then [] :: splitAtChar separator rest
    else
      match splitAtChar separator rest with
      | [] => [[c]]
      | piece :: pieces => (c :: piece) :: pieces

theorem splitAtChar_ne_nil (separator : Char) (text : List Char) :
    splitAtChar separator text ≠ [] := by
  cases text with
  | nil => simp [splitAtChar]
  | cons c rest =>
    simp only [splitAtChar]
    split
    · simp
    · split <;> simp

/-- The pieces of `text` between occurrences of `separator`, as strings. -/
def split (separator : Char) (text : String) : List String :=
  (splitAtChar separator text.toList).map String.ofList

/-- Drops one carriage return at the end. -/
def dropFinalReturn (line : List Char) : List Char :=
  match line.reverse with
  | '\r' :: rest => rest.reverse
  | _ => line

/-- The lines of a text: a line ends at a line feed, the last one also at the end of the text, and
a carriage return directly before the line feed belongs to neither. A final line feed starts no
further line. -/
def linesOf (text : List Char) : List (List Char) :=
  let pieces := splitAtChar '\n' text
  pieces.dropLast.map dropFinalReturn ++ pieces.getLast?.toList.filter (fun piece => !piece.isEmpty)

/-- The lines of `text`, as strings. -/
def lines (text : String) : List String := (linesOf text.toList).map String.ofList

/-- `pieces` one after the other with `separator` between neighbours. -/
def joinWith (separator : String) (pieces : List String) : String :=
  String.intercalate separator pieces

end ReceiverLoader.Text
