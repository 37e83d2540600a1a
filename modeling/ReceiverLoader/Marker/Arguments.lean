import ReceiverLoader.Grammar.Reading

/-!
# Marker arguments

A marker attribute carries a group, a priority and a flag, each of them optional: a text literal and
two integer literals, which a minus may precede. The first problem from left to right is reported.
-/

namespace ReceiverLoader.Marker

open Token (Position Tree)
open Grammar (Parser Progress Ahead ExpressionForm Attribute Rules)

/-- The values that a marker carries. -/
structure Arguments where
  group : String
  priority : Int32
  flag : Int32
deriving Repr, DecidableEq

namespace Arguments

/-- What a marker without arguments carries. -/
def standard : Arguments := ⟨"", 0, 0⟩

end Arguments

/-- The names of the arguments. -/
inductive Field
  | group
  | priority
  | flag
deriving Repr, DecidableEq

namespace Field

/-- The name as written. -/
def name : Field → String
  | group => "group"
  | priority => "priority"
  | flag => "flag"

/-- The field of a name. -/
def ofName? (name : String) : Option Field :=
  [group, priority, flag].find? fun f => f.name == name

theorem ofName?_name (f : Field) : ofName? f.name = some f := by cases f <;> decide

end Field

/-- Why the arguments of a marker are refused. -/
inductive Cause
  | grammar (cause : Grammar.Cause)
  /-- A name is wanted behind `::`. -/
  | nameAtEnd
  | literalForName
  | tokenForName
  | unknown
  | duplicate (field : Field)
  | noInteger
  | tooLarge
  | tooSmall
  /-- The attribute of this path has a value instead of arguments. -/
  | noParentheses (path : Grammar.Path)
deriving Repr, DecidableEq

namespace Cause

/-- The message of a cause. -/
def message : Cause → String
  | grammar cause => cause.message
  | nameAtEnd => "unexpected end of input, expected nested attribute"
  | literalForName => "unexpected literal in nested attribute, expected ident"
  | tokenForName => "unexpected token in nested attribute, expected ident"
  | unknown =>
    "unknown module_event_receiver argument; expected `group`, `priority` or `flag`"
  | duplicate field => s!"duplicate `{field.name}` argument"
  | noInteger => "expected an integer literal"
  | tooLarge => "number too large to fit in target type"
  | tooSmall => "number too small to fit in target type"
  | noParentheses path => s!"expected parentheses: #[{path.written}(...)]"

end Cause

/-- A cause and the position it is reported at. -/
structure Error where
  position : Position
  cause : Cause
deriving Repr, DecidableEq

namespace Error

/-- The message of an error. -/
def message (e : Error) : String := e.cause.message

end Error

/-! ## Reading -/

/-- The arguments read so far. -/
structure Taken where
  group : Option String
  priority : Option Int32
  flag : Option Int32

namespace Taken

/-- Nothing has been read. -/
def none : Taken := ⟨.none, .none, .none⟩

/-- Whether a field has been read. -/
def has (taken : Taken) : Field → Bool
  | .group => taken.group.isSome
  | .priority => taken.priority.isSome
  | .flag => taken.flag.isSome

/-- The arguments, with the standard values for those that are missing. -/
def finish (taken : Taken) : Arguments :=
  ⟨taken.group.getD Arguments.standard.group, taken.priority.getD Arguments.standard.priority,
    taken.flag.getD Arguments.standard.flag⟩

end Taken

/-- A parser of arguments: a parser of the grammar with failures of its own. -/
abbrev Reader := ReaderT Position (StateT Progress (Except Error))

namespace Reader

/-- Reads by a parser of the grammar. -/
def grammar {α : Type} (p : Parser α) : Reader α := fun scopeEnd s =>
  match p scopeEnd s with
  | .ok r => .ok r
  | .error e => .error ⟨e.position, .grammar e.cause⟩

/-- Fails at `position`. -/
def fail {α : Type} (position : Position) (cause : Cause) : Reader α := throw ⟨position, cause⟩

/-- Whether the test holds of the trees that are still to be read. -/
def ahead (test : Ahead) : Reader Bool := grammar (Parser.ahead test)

end Reader

open Reader

/-- Reads the segments of a name behind the first one. -/
def furtherSegments : Parser (List String) :=
  Parser.loop (fun done => do
    if ← Parser.mark? "::" then return .again ((← Parser.word) :: done)
    else return .done done.reverse)
    List.reverse []

/-- Reads the name of an argument: a path of any words. Gives the position of its first word and, if
the path is a single word, that word. -/
def argumentName : Reader (Position × Option String) := do
  let leadingColon ← grammar (Parser.mark? "::")
  let position ← grammar Parser.here
  if ← ahead Ahead.word then
    let first ← grammar Parser.word
    let further ← grammar furtherSegments
    return (position, if leadingColon || !further.isEmpty then none else some first)
  else if ← ahead Ahead.nothing then fail position .nameAtEnd
  else if ← ahead Ahead.literal then fail position .literalForName
  else fail position .tokenForName

/-- The integer of 32 bits with this value, if there is one. -/
def int32? (value : Int) : Option Int32 :=
  if Int32.minValue.toInt ≤ value ∧ value ≤ Int32.maxValue.toInt then some (Int32.ofInt value)
  else none

/-- The integer that an expression at `position` stands for. -/
def integerOf (position : Position) : ExpressionForm → Except Error Int32
  | .integer literal value =>
    match int32? value with
    | some n => .ok n
    | none => .error ⟨literal, .tooLarge⟩
  | .negation (.integer _ value) =>
    match int32? (-value) with
    | some n => .ok n
    | none => .error ⟨position, .tooSmall⟩
  | _ => .error ⟨position, .noInteger⟩

/-- Reads `=` and an integer. -/
def integerValue (g : Rules) : Reader Int32 := do
  grammar (Parser.mark "=")
  let position ← grammar Parser.here
  let form ← grammar (g.expression true)
  match integerOf position form with
  | .ok n => return n
  | .error e => throw e

/-- Reads `=` and a text. -/
def textValue : Reader String := do
  grammar (Parser.mark "=")
  grammar Parser.textLiteral

/-- Reads one argument. -/
def argument (g : Rules) (taken : Taken) : Reader Taken := do
  let (position, name?) ← argumentName
  match name?.bind Field.ofName? with
  | none => fail position .unknown
  | some field =>
    if taken.has field then fail position (.duplicate field)
    match field with
    | .group => return { taken with group := some (← textValue) }
    | .priority => return { taken with priority := some (← integerValue g) }
    | .flag => return { taken with flag := some (← integerValue g) }

/-- Reads arguments to the end of the group, at most `bound` of them. -/
def argumentList (g : Rules) : Nat → Taken → Reader Taken
  | 0, taken => return taken
  | bound + 1, taken => do
    if ← ahead Ahead.nothing then return taken
    let taken ← argument g taken
    if ← ahead Ahead.nothing then return taken
    grammar (Parser.mark ",")
    argumentList g bound taken

namespace Arguments

/-- Reads the arguments that the trees up to `scopeEnd` spell. -/
def read (scopeEnd : Position) (ts : List Tree) : Except Error Arguments :=
  match argumentList (Grammar.rules (Grammar.depthOf ts)) (ts.length + 1) .none scopeEnd
      (.start ts) with
  | .ok (taken, reached) =>
    match reached.stray with
    | none => .ok taken.finish
    | some stray => .error ⟨stray.position, .grammar (.leftOver stray.inside)⟩
  | .error e => .error e

/-- The arguments of a marker's attribute. -/
def ofAttribute (a : Attribute) : Except Error Arguments :=
  match a.content with
  | .nothing => .ok standard
  | .arguments closes body => read closes body
  | .value equals => .error ⟨equals, .noParentheses a.path⟩

/-- The arguments that the trees of a whole text spell. -/
def ofTrees (ts : List Tree) : Except Error Arguments := read Grammar.textEnd ts

end Arguments

/-- Whether an attribute is the marker `name`, by itself or at the end of a path. -/
def isMarker (name : String) (a : Attribute) : Bool := a.path.segments.getLast? == some name

end ReceiverLoader.Marker
