import ReceiverLoader.Token.Basic
import ReceiverLoader.Token.Literal

/-!
# Looking ahead

Tests on the trees that are still to be read. A mark of several characters consists of joint
punctuation tokens; its last token may be joint with what follows, so that `=` is also found in
front of `==`.
-/

namespace ReceiverLoader.Grammar

open Token (Position Leaf Tree Delimiter Literal)

/-- A test on the trees that are still to be read. -/
abbrev Ahead := List Tree → Bool

/-- The keywords, which are no identifiers. -/
def keywords : List String :=
  ["_", "abstract", "as", "async", "await", "become", "box", "break", "const", "continue", "crate",
   "do", "dyn", "else", "enum", "extern", "false", "final", "fn", "for", "if", "impl", "in", "let",
   "loop", "macro", "match", "mod", "move", "mut", "override", "priv", "pub", "ref", "return",
   "Self", "self", "static", "struct", "super", "trait", "true", "try", "type", "typeof", "unsafe",
   "unsized", "use", "virtual", "where", "while", "yield"]

namespace Ahead

/-- The trees behind the next one. A lifetime, which is a mark and a word, counts as one. -/
def skip : List Tree → List Tree
  | .leaf _ (.mark '\'' true) :: .leaf _ (.word _) :: ts => ts
  | _ :: ts => ts
  | [] => []

/-- The test on the trees behind the next one. -/
def second (test : Ahead) : Ahead := fun ts => test (skip ts)

/-- The test on the trees behind the next two. -/
def third (test : Ahead) : Ahead := fun ts => test (skip (skip ts))

/-- Whether the mark of the characters `cs` comes next. -/
def markOf : List Char → Ahead
  | [c], .leaf _ (.mark d _) :: _ => c == d && c != '\''
  | c :: cs, .leaf _ (.mark d true) :: ts => c == d && markOf cs ts
  | _, _ => false

/-- Whether the mark `text` comes next. Each of its characters is a tree. -/
def mark (text : String) : Ahead := markOf text.toList

/-- Whether the word `text` comes next. -/
def keyword (text : String) : Ahead
  | .leaf _ (.word w) :: _ => w == text
  | _ => false

/-- Whether one of the words comes next. -/
def anyKeyword (texts : List String) : Ahead
  | .leaf _ (.word w) :: _ => texts.contains w
  | _ => false

/-- Whether a word comes next. -/
def word : Ahead
  | .leaf _ (.word _) :: _ => true
  | _ => false

/-- Whether an identifier comes next. -/
def identifier : Ahead
  | .leaf _ (.word w) :: _ => !keywords.contains w
  | _ => false

/-- Whether a lifetime comes next. -/
def lifetime : Ahead
  | .leaf _ (.mark '\'' true) :: .leaf _ (.word _) :: _ => true
  | _ => false

/-- Whether a group between `d` comes next. -/
def group (d : Delimiter) : Ahead
  | .group _ _ d' _ :: _ => d == d'
  | _ => false

/-- Whether a group comes next. -/
def anyGroup : Ahead
  | .group .. :: _ => true
  | _ => false

/-- Whether nothing comes next. -/
def nothing : Ahead := List.isEmpty

/-- The literal that comes next, its position and the number of its trees. The truth values are
literals, and so is a number with a minus in front. -/
def literal? : List Tree → Option (Position × Literal × Nat)
  | .leaf p (.literal w) :: _ => some (p, Literal.ofWritten w, 1)
  | .leaf p (.word w) :: _ => if w == "true" || w == "false" then some (p, .other, 1) else none
  | .leaf p (.mark '-' _) :: .leaf _ (.literal w) :: _ =>
    match Literal.ofWritten w with
    | .integer _ _ => some (p, .other, 2)
    | .fraction => some (p, .fraction, 2)
    | _ => none
  | _ => none

/-- Whether a literal comes next. -/
def literal : Ahead := fun ts => (literal? ts).isSome

/-- Whether a text literal comes next. -/
def textLiteral : Ahead := fun ts =>
  match literal? ts with
  | some (_, .text _, _) => true
  | _ => false

/-- Whether a word comes next with which a path begins besides an identifier. -/
def pathKeyword : Ahead := anyKeyword ["super", "self", "Self", "crate"]

/-- Whether a word comes next with which a module's path begins besides an identifier. -/
def moduleKeyword : Ahead := anyKeyword ["super", "self", "crate"]

/-- Whether either test holds. -/
def or (a b : Ahead) : Ahead := fun ts => a ts || b ts

/-- Whether both tests hold. -/
def and (a b : Ahead) : Ahead := fun ts => a ts && b ts

/-- Whether the test fails. -/
def not (a : Ahead) : Ahead := fun ts => !a ts

/-- Whether the mark `text` comes next and none of the longer marks does. -/
def markBut (text : String) (longer : List String) : Ahead := fun ts =>
  mark text ts && !longer.any fun m => mark m ts

/-- Whether one of the tests holds. -/
def any (tests : List Ahead) : Ahead := fun ts => tests.any fun t => t ts

end Ahead

end ReceiverLoader.Grammar
