import ReceiverLoader.Grammar.Reading
import ReceiverLoader.Token.Trees

/-!
# The content of a source file

A source file holds the items of a module. A byte order mark in front of it means nothing, and
neither does a first line that names an interpreter.
-/

namespace ReceiverLoader.Source

open Token (Position)

/-- Why the content of a source file cannot be read. -/
inductive ContentError
  /-- It is not made of tokens. -/
  | lexical (position : Position)
  | grammar (error : Grammar.SyntaxError)
deriving Repr, DecidableEq

namespace ContentError

/-- The line that an error is reported at. -/
def line : ContentError → Nat
  | lexical p => p.line
  | grammar e => e.position.line

/-- The message of an error. -/
def message : ContentError → String
  | lexical _ => "cannot parse string into token stream"
  | grammar e => e.cause.message

end ContentError

/-- A text without the blanks at its front; the next `skip` characters belong to one. -/
def dropBlanks (skip : Nat) : List Char → List Char
  | [] => []
  | c :: cs =>
    if 0 < skip then dropBlanks (skip - 1) cs
    else
      match Token.blank (c :: cs) with
      | some n => dropBlanks (n - 1) cs
      | none => c :: cs

/-- A text without its first line if this names an interpreter: it begins with `#!`, and what
follows is not the bracket of an attribute. The end of the line is kept. -/
def dropInterpreter (text : List Char) : List Char :=
  match text with
  | '#' :: '!' :: rest =>
    if (dropBlanks 0 rest).head? == some '[' then text else text.dropWhile (· != '\n')
  | _ => text

/-- A text without the byte order mark at its front. -/
def dropByteOrderMark : List Char → List Char
  | c :: cs => if c = Token.byteOrderMark then cs else c :: cs
  | [] => []

/-- The items that the content of a source file holds. -/
def readItems (text : String) : Except ContentError (List Grammar.Item) :=
  match Token.treesOf (dropInterpreter (dropByteOrderMark text.toList)) with
  | .error p => .error (.lexical p)
  | .ok trees =>
    match Grammar.readModule trees with
    | .error e => .error (.grammar e)
    | .ok items => .ok items

end ReceiverLoader.Source
