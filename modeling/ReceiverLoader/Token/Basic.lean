/-!
# Tokens and token trees

A source text is read as a list of token trees: words, punctuation marks and literals, and groups
of trees between matching delimiters. Each carries the position it has in the text.
-/

namespace ReceiverLoader.Token

/-- A place in a text: the line counted from one, the column from zero and in characters. -/
structure Position where
  line : Nat
  column : Nat
deriving Repr, DecidableEq, Inhabited

namespace Position

/-- Where a text begins. -/
def start : Position := ⟨1, 0⟩

/-- The place after the character `c` that stands at `p`. -/
def after (p : Position) (c : Char) : Position :=
  if c = '\n' then ⟨p.line + 1, 0⟩ else ⟨p.line, p.column + 1⟩

end Position

/-- The pairs of characters that enclose a group. -/
inductive Delimiter
  | parenthesis
  | brace
  | bracket
deriving Repr, DecidableEq

namespace Delimiter

/-- The character that opens a group. -/
def opening : Delimiter → Char
  | parenthesis => '('
  | brace => '\x7b'
  | bracket => '['

/-- The character that closes a group. -/
def closing : Delimiter → Char
  | parenthesis => ')'
  | brace => '\x7d'
  | bracket => ']'

/-- The delimiter that `c` opens. -/
def ofOpening? : Char → Option Delimiter
  | '(' => some parenthesis
  | '\x7b' => some brace
  | '[' => some bracket
  | _ => none

/-- The delimiter that `c` closes. -/
def ofClosing? : Char → Option Delimiter
  | ')' => some parenthesis
  | '\x7d' => some brace
  | ']' => some bracket
  | _ => none

theorem ofOpening?_opening (d : Delimiter) : ofOpening? d.opening = some d := by cases d <;> rfl

theorem ofClosing?_closing (d : Delimiter) : ofClosing? d.closing = some d := by cases d <;> rfl

end Delimiter

/-- A token that is no group. A word is kept as written, with the `r#` that makes a keyword a plain
identifier. A mark is one punctuation character; it is joint if another mark follows it directly.
A literal is kept as written. -/
inductive Leaf
  | word (text : String)
  | mark (char : Char) (joint : Bool)
  | literal (text : String)
deriving Repr, DecidableEq

/-- A token tree. -/
inductive Tree
  | leaf (position : Position) (leaf : Leaf)
  | group (opens closes : Position) (delimiter : Delimiter) (body : List Tree)
deriving Repr

namespace Tree

/-- Where a tree begins. -/
def position : Tree → Position
  | leaf p _ => p
  | group p _ _ _ => p

mutual

/-- The number of leaves and groups in a tree. -/
def size : Tree → Nat
  | leaf _ _ => 1
  | group _ _ _ body => sizeAll body + 1

/-- The number of leaves and groups in a list of trees. -/
def sizeAll : List Tree → Nat
  | [] => 0
  | t :: ts => size t + sizeAll ts

end

mutual

/-- The tokens of a tree as written: a mark and a delimiter are tokens of their own. -/
def written : Tree → List String
  | leaf _ (.word text) => [text]
  | leaf _ (.mark c _) => [c.toString]
  | leaf _ (.literal text) => [text]
  | group _ _ d body => d.opening.toString :: (writtenAll body ++ [d.closing.toString])

/-- The tokens of a list of trees as written. -/
def writtenAll : List Tree → List String
  | [] => []
  | t :: ts => written t ++ writtenAll ts

end

end Tree

end ReceiverLoader.Token
