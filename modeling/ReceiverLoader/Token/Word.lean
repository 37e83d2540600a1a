import ReceiverLoader.Text.Ident

/-!
# Words

Identifiers and keywords. `r#` in front makes a keyword an identifier. Each function says how many
characters it matches at the front of its argument.
-/

namespace ReceiverLoader.Token

open Text

/-- The length of a word without `r#`. -/
def plainWord : List Char → Option Nat
  | [] => none
  | c :: cs =>
    if Ident.isStart c then some ((cs.takeWhile Ident.isContinue).length + 1) else none

/-- The words that `r#` cannot be put in front of. -/
def unescapable : List String := ["_", "super", "self", "Self", "crate"]

/-- The length of a word, with or without `r#`. -/
def anyWord : List Char → Option Nat
  | 'r' :: '#' :: cs =>
    match plainWord cs with
    | some n => if (String.ofList (cs.take n)) ∈ unescapable then none else some (n + 2)
    | none => none
  | cs => plainWord cs

/-- Beginnings that belong to a quoted literal and are no word, even where the literal is broken. -/
def literalBeginnings : List String :=
  ["r\"", "r#\"", "r##", "b\"", "b'", "br\"", "br#", "c\"", "cr\"", "cr#"]

/-- The length of a word that is not the beginning of a quoted literal. -/
def word (cs : List Char) : Option Nat :=
  if literalBeginnings.any fun b => b.toList.isPrefixOf cs then none else anyWord cs

/-- The length of the suffix that a literal may have: a word directly behind it. -/
def suffix (cs : List Char) : Nat := (plainWord cs).getD 0

/-- The length of a number's suffix. A character that can only continue a word cannot follow. -/
def numberSuffix (cs : List Char) : Option Nat :=
  match plainWord cs with
  | some n => some n
  | none =>
    match cs with
    | [] => some 0
    | c :: _ => if Ident.isContinue c then none else some 0

end ReceiverLoader.Token
