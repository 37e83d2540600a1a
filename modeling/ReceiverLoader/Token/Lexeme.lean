import ReceiverLoader.Text.Quoted
import ReceiverLoader.Token.Basic
import ReceiverLoader.Token.Blank
import ReceiverLoader.Token.Quotation

/-!
# Lexemes

A text is cut into lexemes: leaves, and the opening and closing characters of groups. Where no
lexeme begins, the list ends with one that says so. A documenting comment stands for the lexemes of
an attribute that holds its text.
-/

namespace ReceiverLoader.Token

/-- A lexeme. -/
inductive Lexeme
  | leaf (leaf : Leaf)
  | opening (delimiter : Delimiter)
  | closing (delimiter : Delimiter)
  /-- Here begins neither a lexeme nor a blank. -/
  | stuck
deriving Repr, DecidableEq

/-- The punctuation characters. -/
def marks : List Char := "~!@#$%^&*-=+|;:,<.>/?'".toList

/-- Whether a mark stands at the front. The beginning of a comment is none. -/
def isMarkAhead : List Char → Bool
  | '/' :: '/' :: _ => false
  | '/' :: '*' :: _ => false
  | c :: _ => marks.contains c
  | [] => false

/-- Whether the quote in front of `cs` begins a lifetime: a word follows it, and that word is not
the inside of a broken character literal. -/
def isLifetimeAhead (cs : List Char) : Bool :=
  match anyWord cs with
  | none => false
  | some n =>
    match cs.drop n with
    | '\'' :: _ => false
    | '#' :: _ => ['r', '#'].isPrefixOf cs
    | _ => true

/-- The mark at the front. The quote of a lifetime is joint with its word. -/
def markAhead (cs : List Char) : Option Leaf :=
  if isMarkAhead cs then
    match cs with
    | '\'' :: rest => if isLifetimeAhead rest then some (.mark '\'' true) else none
    | c :: rest => some (.mark c (isMarkAhead rest))
    | [] => none
  else none

/-- What stands for a literal that could not be read before. -/
def brokenLiteral : List Char := "(/*ERROR*/)".toList

/-- The leaf at the front and its length. A literal comes before a mark, a mark before a word. -/
def leafAhead (cs : List Char) : Option (Leaf × Nat) :=
  match (quotation cs).or (number cs) with
  | some n => some (.literal (String.ofList (cs.take n)), n)
  | none =>
    match markAhead cs with
    | some leaf => some (leaf, 1)
    | none => (word cs).map fun n => (.word (String.ofList (cs.take n)), n)

/-- The literal that holds `text`, the content of a documenting comment. -/
def documentationLiteral (text : List Char) : List Char :=
  '"' :: go text ++ ['"']
where
  /-- NUL is written in hexadecimal where its short escape and an octal digit would read as one. -/
  go : List Char → List Char
    | [] => []
    | '\x00' :: c :: cs =>
      (if '0' ≤ c ∧ c ≤ '7' then "\\x00".toList else ['\\', '0']) ++ go (c :: cs)
    | '\'' :: cs => '\'' :: go cs
    | c :: cs => Text.Quoted.encodeChar c ++ go cs

/-- The lexemes that a documenting comment stands for. -/
def Documentation.lexemes (d : Documentation) : List Lexeme :=
  ([.leaf (.mark '#' false)] : List Lexeme) ++
  (if d.inner then ([.leaf (.mark '!' false)] : List Lexeme) else []) ++
  ([.opening .bracket, .leaf (.word "doc"), .leaf (.mark '=' false),
   .leaf (.literal (String.ofList (documentationLiteral d.text))), .closing .bracket] : List Lexeme)

/-- The lexemes at the front, which a blank has none of, and the number of characters they take. -/
def pieceAhead (cs : List Char) : Option (List Lexeme × Nat) :=
  match blank cs with
  | some n => some ([], n)
  | none =>
    match documentation cs with
    | some d => some (d.lexemes, d.length)
    | none =>
      match cs with
      | [] => none
      | c :: _ =>
        if brokenLiteral.isPrefixOf cs then
          some ([.leaf (.literal (String.ofList brokenLiteral))], brokenLiteral.length)
        else
          match Delimiter.ofOpening? c, Delimiter.ofClosing? c with
          | some d, _ => some ([.opening d], 1)
          | none, some d => some ([.closing d], 1)
          | none, none => (leafAhead cs).map fun (leaf, n) => ([.leaf leaf], n)

/-- The lexemes of a text that begins at `p`, each with its position. The next `skip` characters
belong to the lexeme before them. -/
def lexemesFrom (skip : Nat) (p : Position) : List Char → List (Position × Lexeme)
  | [] => []
  | c :: cs =>
    if 0 < skip then lexemesFrom (skip - 1) (p.after c) cs
    else
      match pieceAhead (c :: cs) with
      | some (ls, n) => ls.map (p, ·) ++ lexemesFrom (n - 1) (p.after c) cs
      | none => [(p, .stuck)]

/-- A byte order mark. -/
def byteOrderMark : Char := '\ufeff'

/-- The lexemes of a text, each with its position. A byte order mark at the front is no lexeme. -/
def lexemes : List Char → List (Position × Lexeme)
  | [] => []
  | c :: cs =>
    if c = byteOrderMark then lexemesFrom 0 (Position.start.after c) cs
    else lexemesFrom 0 Position.start (c :: cs)

end ReceiverLoader.Token
