import ReceiverLoader.Token.Number

/-!
# Quoted literals

Texts, byte texts and zero-terminated texts, each with escapes or in the raw form whose end is
marked by a number of `#`, and single characters and bytes. Each function says how many characters
it matches at the front of its argument.
-/

namespace ReceiverLoader.Token

/-- What a quoted literal holds: characters, ASCII bytes, or characters before a final zero. -/
inductive Content
  | text
  | bytes
  | terminated
deriving DecidableEq

/-- Whether `c` is a hexadecimal digit. -/
def isHexDigit (c : Char) : Bool := (digitValue c).isSome

/-- The character of number `n`, if there is one. -/
def charOf? (n : Nat) : Option Char :=
  if n < 0xd800 ∨ (0xdfff < n ∧ n < 0x110000) then some (Char.ofNat n) else none

/-- The number in braces from its first digit on, given the digits read so far and their value, and
the length up to and with the closing brace. -/
def bracedDigits (value count : Nat) : List Char → Option (Nat × Nat)
  | [] => none
  | c :: cs =>
    if c == '_' && 0 < count then (bracedDigits value count cs).map fun (v, n) => (v, n + 1)
    else if c == '\x7d' && 0 < count then some (value, 1)
    else
      match digitValue c with
      | some d =>
        if count < 6 then
          (bracedDigits (value * 16 + d) (count + 1) cs).map fun (v, n) => (v, n + 1)
        else none
      | none => none

/-- The character that one to six hexadecimal digits in braces name, and their length. -/
def bracedChar : List Char → Option (Char × Nat)
  | '\x7b' :: cs => do
    let (value, n) ← bracedDigits 0 0 cs
    let c ← charOf? value
    return (c, n + 1)
  | _ => none

namespace Content

/-- Whether `c` may stand for itself. -/
def admits : Content → Char → Bool
  | text, _ => true
  | bytes, c => c.toNat < 0x80
  | terminated, c => c != '\x00'

/-- Whether `\x` may be followed by the two characters. -/
def admitsPair : Content → Char → Char → Bool
  | text, a, b => '0' ≤ a && a ≤ '7' && isHexDigit b
  | bytes, a, b => isHexDigit a && isHexDigit b
  | terminated, a, b => isHexDigit a && isHexDigit b && !(a == '0' && b == '0')

/-- Whether `\u` may be followed by `c` in braces. -/
def admitsBraced : Content → Char → Bool
  | text, _ => true
  | bytes, _ => false
  | terminated, c => c != '\x00'

/-- Whether a backslash and `c` are a complete escape. -/
def admitsShort (content : Content) (c : Char) : Bool :=
  "nrt\\'\"".toList.contains c || (c == '0' && content != terminated)

/-- The length of an escape behind its backslash. -/
def escape (content : Content) : List Char → Option Nat
  | [] => none
  | 'x' :: a :: b :: _ => if content.admitsPair a b then some 3 else none
  | 'u' :: cs =>
    match bracedChar cs with
    | some (c, n) => if content.admitsBraced c then some (n + 1) else none
    | none => none
  | c :: _ => if content.admitsShort c then some 1 else none

end Content

/-- The blanks that an escaped line end swallows, from that line end on. Something has to follow
them, and a carriage return has to stand before a line feed. -/
def continuation : List Char → Option Nat
  | [] => none
  | '\r' :: '\n' :: cs => (continuation cs).map (· + 2)
  | '\r' :: _ => none
  | c :: cs =>
    if c == ' ' || c == '\t' || c == '\n' then (continuation cs).map (· + 1) else some 0

/-- The length of an escape or an escaped line end, behind its backslash. -/
def escapeOrContinuation (content : Content) : List Char → Option Nat
  | '\n' :: cs => continuation ('\n' :: cs)
  | '\r' :: cs => continuation ('\r' :: cs)
  | cs => content.escape cs

/-- The length of a text with escapes, up to and with the closing quote. The next `skip` characters
belong to an escape. -/
def escapedTail (content : Content) (skip : Nat) : List Char → Option Nat
  | [] => none
  | c :: cs =>
    if 0 < skip then (escapedTail content (skip - 1) cs).map (· + 1)
    else if c == '"' then some 1
    else if c == '\\' then
      match escapeOrContinuation content cs with
      | some n => (escapedTail content n cs).map (· + 1)
      | none => none
    else if c == '\r' && cs.head? != some '\n' then none
    else if content.admits c then (escapedTail content 0 cs).map (· + 1)
    else none

/-- The length of a raw text up to and with the closing quote and its `hashes`. -/
def rawTail (content : Content) (hashes : Nat) : List Char → Option Nat
  | [] => none
  | c :: cs =>
    if c == '"' && (List.replicate hashes '#').isPrefixOf cs then some (hashes + 1)
    else if c == '\r' && cs.head? != some '\n' then none
    else if content.admits c then (rawTail content hashes cs).map (· + 1)
    else none

/-- The length of a raw text behind its `r`. It has at most 255 `#` at either end. -/
def rawText (content : Content) (cs : List Char) : Option Nat :=
  let hashes := (cs.takeWhile (· == '#')).length
  match cs.drop hashes with
  | '"' :: rest => if hashes ≤ 255 then (rawTail content hashes rest).map (hashes + 1 + ·) else none
  | _ => none

/-- The length of a single character or byte behind its opening quote. Here a line end needs no
escape and can have none, and a quote stands for itself. -/
def single (content : Content) : List Char → Option Nat
  | [] => none
  | '\\' :: cs =>
    match content.escape cs with
    | some n => if (cs.drop n).head? == some '\'' then some (n + 2) else none
    | none => none
  | c :: '\'' :: _ => if content.admits c then some 2 else none
  | _ => none

/-- The length of a quoted literal without its suffix. -/
def quotationBody : List Char → Option Nat
  | '"' :: cs => (escapedTail .text 0 cs).map (· + 1)
  | 'b' :: '"' :: cs => (escapedTail .bytes 0 cs).map (· + 2)
  | 'c' :: '"' :: cs => (escapedTail .terminated 0 cs).map (· + 2)
  | 'b' :: 'r' :: cs => (rawText .bytes cs).map (· + 2)
  | 'c' :: 'r' :: cs => (rawText .terminated cs).map (· + 2)
  | 'r' :: cs => (rawText .text cs).map (· + 1)
  | 'b' :: '\'' :: cs => (single .bytes cs).map (· + 2)
  | '\'' :: cs => (single .text cs).map (· + 1)
  | _ => none

/-- The length of a quoted literal. -/
def quotation (cs : List Char) : Option Nat :=
  (quotationBody cs).map fun n => n + suffix (cs.drop n)

end ReceiverLoader.Token
