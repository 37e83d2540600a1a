import ReceiverLoader.Token.Word

/-!
# Written numbers

Integers in four bases and decimal fractions, each with an optional suffix. Each function says how
many characters it matches at the front of its argument.
-/

namespace ReceiverLoader.Token

open Text

/-- The value of a hexadecimal digit. -/
def digitValue (c : Char) : Option Nat :=
  if '0' ≤ c && c ≤ '9' then some (c.toNat - '0'.toNat)
  else if 'a' ≤ c && c ≤ 'f' then some (c.toNat - 'a'.toNat + 10)
  else if 'A' ≤ c && c ≤ 'F' then some (c.toNat - 'A'.toNat + 10)
  else none

/-- The base that a number's beginning names, and the length of that beginning. -/
def numberBase : List Char → Nat × Nat
  | '0' :: 'x' :: _ => (16, 2)
  | '0' :: 'o' :: _ => (8, 2)
  | '0' :: 'b' :: _ => (2, 2)
  | _ => (10, 0)

/-- The length of the digits of an integer, underscores included. A decimal digit outside the base
makes the number ill-formed; a letter outside it ends the digits. `found` says that a digit came
before; there has to be one, and without a base's name the first character is one. -/
def integerDigits (base : Nat) (found : Bool) : List Char → Option Nat
  | [] => if found then some 0 else none
  | c :: cs =>
    if c == '_' then
      if !found && base == 10 then none else (integerDigits base found cs).map (· + 1)
    else
      match digitValue c with
      | some d =>
        if d < base then (integerDigits base true cs).map (· + 1)
        else if isAsciiDigit c then none
        else if found then some 0 else none
      | none => if found then some 0 else none

/-- The length of an integer. -/
def integer (cs : List Char) : Option Nat := do
  let (base, lead) := numberBase cs
  let digits ← integerDigits base false (cs.drop lead)
  let tail ← numberSuffix (cs.drop (lead + digits))
  return lead + digits + tail

/-- Whether `c` may stand among the digits of a number. -/
def isDigitOrGap (c : Char) : Bool := isAsciiDigit c || c == '_'

private def gapLength (cs : List Char) : Nat := (cs.takeWhile (· == '_')).length

private def signLength : List Char → Nat
  | '+' :: _ => 1
  | '-' :: _ => 1
  | _ => 0

/-- The length of an exponent behind its `e`: an optional sign and at least one digit, with
underscores in any place. -/
def exponent (cs : List Char) : Option Nat :=
  let a := gapLength cs
  let b := a + signLength (cs.drop a)
  let c := b + gapLength (cs.drop b)
  let digits := (cs.drop c).takeWhile isDigitOrGap
  if digits.isEmpty then none else some (c + digits.length)

/-- Whether an exponent begins here. -/
def isExponentMark : List Char → Bool
  | 'e' :: _ => true
  | 'E' :: _ => true
  | _ => false

/-- The length of a decimal fraction without its suffix. It has a point, which neither another
point nor a word may follow, or an exponent. An ill-formed exponent behind a point is left to the
suffix. -/
def fractionDigits (cs : List Char) : Option Nat :=
  match cs with
  | [] => none
  | c :: _ =>
    if !isAsciiDigit c then none
    else
      let whole := (cs.takeWhile isDigitOrGap).length
      match cs.drop whole with
      | '.' :: rest =>
        if rest.head?.any fun n => n == '.' || Ident.isStart n then none
        else
          let fraction := (rest.takeWhile isDigitOrGap).length
          let pointed := whole + 1 + fraction
          let tail := rest.drop fraction
          if isExponentMark tail then
            match exponent (tail.drop 1) with
            | some n => some (pointed + 1 + n)
            | none => some pointed
          else some pointed
      | rest =>
        if isExponentMark rest then (exponent (rest.drop 1)).map (whole + 1 + ·) else none

/-- The length of a decimal fraction. -/
def fraction (cs : List Char) : Option Nat := do
  let digits ← fractionDigits cs
  let tail ← numberSuffix (cs.drop digits)
  return digits + tail

/-- The length of a number. -/
def number (cs : List Char) : Option Nat :=
  match fraction cs with
  | some n => some n
  | none => integer cs

end ReceiverLoader.Token
