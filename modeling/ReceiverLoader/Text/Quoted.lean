import ReceiverLoader.Text.Quoted.Table

/-!
# Quoted text

The written form of a text as a string literal. Quote, backslash, tab, carriage return, line feed
and NUL have short escapes; a character without a visible form of its own, and one that extends the
character before it, is written by its code point in hexadecimal. All else stands for itself.
-/

namespace ReceiverLoader.Text

namespace Quoted

/-- Whether `c` has no visible form of its own. -/
def isInvisible (c : Char) : Bool :=
  if c.toNat < 0x20 then true
  else if c.toNat < 0x7f then false
  else if c.toNat < 0x80 then true
  else CodeRange.holds c.toNat invisibleRanges

/-- Whether `c` extends the character before it. -/
def isExtender (c : Char) : Bool := CodeRange.holds c.toNat extenderRanges

/-- Lower-case hexadecimal digits of `n`, without leading zeros. -/
def hexDigits (n : Nat) : List Char := Nat.toDigits 16 n

/-- How `c` is written inside a quoted text. -/
def encodeChar (c : Char) : List Char :=
  if c = '\x00' then ['\\', '0']
  else if c = '\t' then ['\\', 't']
  else if c = '\r' then ['\\', 'r']
  else if c = '\n' then ['\\', 'n']
  else if c = '\\' then ['\\', '\\']
  else if c = '"' then ['\\', '"']
  else if isExtender c || isInvisible c then
    ['\\', 'u', '\x7b'] ++ hexDigits c.toNat ++ ['\x7d']
  else [c]

/-- The inside of the quoted form of `text`. -/
def encode (text : List Char) : List Char := text.flatMap encodeChar

end Quoted

/-- `text` as a string literal. -/
def quoted (text : String) : String :=
  String.ofList ('"' :: Quoted.encode text.toList ++ ['"'])

end ReceiverLoader.Text
