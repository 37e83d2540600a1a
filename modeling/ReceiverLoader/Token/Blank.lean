import ReceiverLoader.Text.Word

/-!
# Blanks and comments

What separates tokens: white space and comments. A comment that documents something is no blank,
since it stands for tokens of its own. Each function says how many characters it matches at the
front of its argument.
-/

namespace ReceiverLoader.Token

/-- White space between tokens. The two direction marks count as such. -/
def isSpace (c : Char) : Bool :=
  Text.isBlank c || c.toNat == 0x200e || c.toNat == 0x200f

/-- The characters before the end of the line, and those up to the line feed: the latter include a
carriage return before it. -/
def lineLengths : List Char → Nat × Nat
  | [] => (0, 0)
  | '\n' :: _ => (0, 0)
  | '\r' :: '\n' :: _ => (0, 1)
  | _ :: cs => let (text, all) := lineLengths cs; (text + 1, all + 1)

/-- The length of a block comment whose `depth` openings still have to be closed. Comments nest. -/
def blockTail : Nat → List Char → Option Nat
  | _, [] => none
  | depth, '/' :: '*' :: cs => (blockTail (depth + 1) cs).map (· + 2)
  | depth, '*' :: '/' :: cs =>
    if depth ≤ 1 then some 2 else (blockTail (depth - 1) cs).map (· + 2)
  | depth, _ :: cs => (blockTail depth cs).map (· + 1)

/-- The length of a block comment, closed by as many `*/` as it holds `/*`. -/
def blockComment : List Char → Option Nat
  | '/' :: '*' :: cs => (blockTail 1 cs).map (· + 2)
  | _ => none

/-- The length of a comment that documents nothing. -/
def comment : List Char → Option Nat
  | '/' :: '/' :: '/' :: '/' :: cs => some ((lineLengths cs).2 + 4)
  | '/' :: '/' :: '/' :: _ => none
  | '/' :: '/' :: '!' :: _ => none
  | '/' :: '/' :: cs => some ((lineLengths cs).2 + 2)
  | '/' :: '*' :: '*' :: '/' :: _ => some 4
  | '/' :: '*' :: '*' :: '*' :: cs => blockComment ('/' :: '*' :: '*' :: '*' :: cs)
  | '/' :: '*' :: '*' :: _ => none
  | '/' :: '*' :: '!' :: _ => none
  | cs => blockComment cs

/-- The length of one blank: a white space character or a comment. -/
def blank : List Char → Option Nat
  | [] => none
  | c :: cs => if isSpace c then some 1 else comment (c :: cs)

/-- A comment that documents something. -/
structure Documentation where
  /-- It documents what encloses it, and not what follows it. -/
  inner : Bool
  text : List Char
  length : Nat

/-- Whether each carriage return in `text` stands before a line feed. -/
def returnsPaired : List Char → Bool
  | [] => true
  | '\r' :: '\n' :: cs => returnsPaired cs
  | '\r' :: _ => false
  | _ :: cs => returnsPaired cs

/-- A documenting comment up to the end of its line, behind the three characters that begin it. -/
def lineDocumentation (inner : Bool) (cs : List Char) : Documentation :=
  let (text, all) := lineLengths cs
  ⟨inner, cs.take text, all + 3⟩

private def blockDocumentation (inner : Bool) (cs : List Char) : Option Documentation :=
  (blockComment cs).map fun n => ⟨inner, (cs.take (n - 2)).drop 3, n⟩

/-- The comment that documents something, whatever carriage returns it holds. -/
def documentationComment : List Char → Option Documentation
  | '/' :: '/' :: '!' :: cs => some (lineDocumentation true cs)
  | '/' :: '*' :: '!' :: cs => blockDocumentation true ('/' :: '*' :: '!' :: cs)
  | '/' :: '/' :: '/' :: '/' :: _ => none
  | '/' :: '/' :: '/' :: cs => some (lineDocumentation false cs)
  | '/' :: '*' :: '*' :: '*' :: _ => none
  | '/' :: '*' :: '*' :: cs => blockDocumentation false ('/' :: '*' :: '*' :: cs)
  | _ => none

/-- The documenting comment at the front. A carriage return of its own makes it ill-formed. -/
def documentation (cs : List Char) : Option Documentation :=
  (documentationComment cs).filter fun d => returnsPaired d.text

end ReceiverLoader.Token
