import ReceiverLoader.Token.Quotation

/-!
# Values of literals

What a literal token means: its kind, the number an integer names and the text a quoted text holds.
-/

namespace ReceiverLoader.Token

open Text

/-- The kinds of literals, with the values that matter. -/
inductive Literal
  | text (value : String)
  | integer (value : Nat) (suffix : String)
  | fraction
  | other
deriving Repr, DecidableEq

namespace Literal

/-- Whether `cs` is one word without `r#`. -/
def isWord (cs : List Char) : Bool := plainWord cs == some cs.length

/-- Whether an `e` with `cs` behind it is the mark of an exponent: a sign follows, or digits do and
behind them nothing or a word. Underscores do not count. Where a character that can only continue a
word stands behind the digits, the `e` begins the number's suffix instead. -/
def isExponent (cs : List Char) : Bool :=
  match cs.dropWhile isDigitOrGap with
  | [] => cs.any isAsciiDigit
  | c :: behind =>
    c == '+' || c == '-' ||
      (cs.takeWhile isDigitOrGap).any isAsciiDigit && isWord (c :: behind)

/-- The digits of an integer and what follows them, given the value of the digits before. `none` if
the number turns out to be no integer: a digit outside the base, a point, or an exponent. -/
def integerValue (base value : Nat) (found : Bool) : List Char → Option (Nat × List Char)
  | [] => if found then some (value, []) else none
  | c :: cs =>
    if c == '_' then integerValue base value found cs
    else if base == 10 && c == '.' then none
    else if base == 10 && (c == 'e' || c == 'E') then
      if isExponent cs then none else if found then some (value, c :: cs) else none
    else
      match digitValue c with
      | some d =>
        if d < base then integerValue base (value * base + d) true cs
        else if !isAsciiDigit c && found then some (value, c :: cs)
        else none
      | none => if found then some (value, c :: cs) else none

/-- The value of an integer literal and its suffix. -/
def integer? (cs : List Char) : Option (Nat × List Char) := do
  let (base, lead) := numberBase cs
  let (value, rest) ← integerValue base 0 false (cs.drop lead)
  if rest.isEmpty || isWord rest then some (value, rest) else none

/-- The text that the inside of an escaped text stands for, up to its closing quote. The next `skip`
characters belong to an escape; `folding` says that blanks after an escaped line end are left
out. -/
def unescape (skip : Nat) (folding : Bool) : List Char → List Char
  | [] => []
  | c :: cs =>
    if 0 < skip then unescape (skip - 1) false cs
    else if folding && (c == ' ' || c == '\t' || c == '\n' || c == '\r') then unescape 0 true cs
    else if c == '"' then []
    else if c == '\r' then unescape 0 false cs
    else if c == '\\' then
      match cs with
      | 'n' :: _ => '\n' :: unescape 1 false cs
      | 'r' :: _ => '\r' :: unescape 1 false cs
      | 't' :: _ => '\t' :: unescape 1 false cs
      | '0' :: _ => '\x00' :: unescape 1 false cs
      | '\n' :: _ => unescape 0 true cs
      | '\r' :: _ => unescape 0 true cs
      | 'x' :: a :: b :: _ =>
        Char.ofNat ((digitValue a).getD 0 * 16 + (digitValue b).getD 0) :: unescape 3 false cs
      | 'u' :: rest =>
        match bracedChar rest with
        | some (u, n) => u :: unescape (n + 1) false cs
        | none => unescape 1 false cs
      | e :: _ => e :: unescape 1 false cs
      | [] => []
    else c :: unescape 0 false cs

/-- The inside of a raw text without its `r`. -/
def rawInside (cs : List Char) : List Char :=
  let hashes := (cs.takeWhile (· == '#')).length
  let inside := cs.drop (hashes + 1)
  match rawTail .text hashes inside with
  | some n => inside.take (n - hashes - 1)
  | none => []

/-- The text a literal holds, if it is a text. -/
def text? : List Char → Option String
  | '"' :: cs => some (String.ofList (unescape 0 false cs))
  | 'r' :: cs => some (String.ofList (rawInside cs))
  | _ => none

/-- The meaning of a literal as written. -/
def ofWritten (written : String) : Literal :=
  let cs := written.toList
  match text? cs with
  | some value => text value
  | none =>
    match cs with
    | [] => other
    | c :: _ =>
      if isAsciiDigit c then
        match integer? cs with
        | some (value, suffix) => integer value (String.ofList suffix)
        | none => fraction
      else other

end Literal

end ReceiverLoader.Token
