import ReceiverLoader.Token.Lexeme

/-!
# From lexemes to token trees

The groups of a text are found by matching each closing character with the last opening one that is
still open. The reading fails at a closing character that does not match, at a character that begins
no lexeme, and at the end of the text for an opening character that is still open; the first of
these is reported.
-/

namespace ReceiverLoader.Token

/-- A group that is still open, with the trees before it, last first. -/
structure OpenGroup where
  opens : Position
  delimiter : Delimiter
  before : List Tree

/-- The trees of a list of lexemes, given the open groups, innermost first, and the trees read
since the innermost opening, last first. A failure is the position it is reported at. -/
def assemble : List OpenGroup → List Tree → List (Position × Lexeme) → Except Position (List Tree)
  | [], done, [] => .ok done.reverse
  | g :: _, _, [] => .error g.opens
  | gs, done, (p, .leaf leaf) :: ls => assemble gs (.leaf p leaf :: done) ls
  | gs, done, (p, .opening d) :: ls => assemble (⟨p, d, done⟩ :: gs) [] ls
  | [], _, (p, .closing _) :: _ => .error p
  | g :: gs, done, (p, .closing d) :: ls =>
    if g.delimiter = d then assemble gs (.group g.opens p d done.reverse :: g.before) ls
    else .error p
  | _, _, (p, .stuck) :: _ => .error p

/-- The token trees of a text, or the position at which it cannot be read. -/
def treesOf (text : List Char) : Except Position (List Tree) := assemble [] [] (lexemes text)

/-- The token trees of a text, or the position at which it cannot be read. -/
def trees (text : String) : Except Position (List Tree) := treesOf text.toList

end ReceiverLoader.Token
