import ReceiverLoader.Text.Quoted
import ReceiverLoader.Text.Split

/-!
# The log

What the program tells about its work. An entry has a level, a message and fields; it is shown as
one line, as long as its message has one.
-/

namespace ReceiverLoader.Log

/-- How much an entry matters. -/
inductive Level
  | debug
  | info
  | warn
  | error
deriving Repr, DecidableEq

namespace Level

/-- The level as shown. -/
def text : Level → String
  | debug => "DEBUG"
  | info => "INFO"
  | warn => "WARN"
  | error => "ERROR"

/-- The place in the order. -/
def rank : Level → Nat
  | debug => 0
  | info => 1
  | warn => 2
  | error => 3

end Level

/-- The value of a field, shown as it is or as a quoted text. -/
inductive Value
  | plain (text : String)
  | quoted (text : String)
deriving Repr, DecidableEq

namespace Value

/-- The value as shown. -/
def text : Value → String
  | plain t => t
  | quoted t => Text.quoted t

end Value

/-- An entry. -/
structure Entry where
  level : Level
  message : String
  fields : List (String × Value)
deriving Repr, DecidableEq

/-- How a character of a message is shown. Those that command a terminal are written out. -/
def shownChar (c : Char) : List Char :=
  let n := c.toNat
  if n = 0x1b ∨ n = 0x07 ∨ n = 0x08 ∨ n = 0x0c ∨ n = 0x7f then
    let digits := Text.Quoted.hexDigits n
    ['\\', 'x'] ++ (if n < 0x10 then '0' :: digits else digits)
  else if 0x80 ≤ n ∧ n ≤ 0x9f then ['\\', 'u', '\x7b'] ++ Text.Quoted.hexDigits n ++ ['\x7d']
  else [c]

namespace Entry

/-- The entry as shown. -/
def text (e : Entry) : String :=
  let message := String.ofList (e.message.toList.flatMap shownChar)
  let fields := e.fields.map fun (name, value) => s!" {name}={value.text}"
  e.level.text ++ " " ++ message ++ String.join fields

end Entry

/-- The lines of the entries that matter at least as much as `least`. -/
def lines (least : Level) (entries : List Entry) : List String :=
  (entries.filter fun e => least.rank ≤ e.level.rank).flatMap fun e => Text.split '\n' e.text

end ReceiverLoader.Log
