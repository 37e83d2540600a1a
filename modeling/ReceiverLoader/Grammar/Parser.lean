import ReceiverLoader.Grammar.Ahead
import ReceiverLoader.Grammar.Error
import ReceiverLoader.Grammar.Form

/-!
# Parsers

A parser reads trees from the front of a list: those of one group, or of the whole text. It knows
where the group ends, since that is where a missing token is reported. A group that is left with
trees unread does not stop it; the first such tree is kept, and refused when all else went well.

A parser also writes out what it reads, in a normal form: most trees are their own, and the rules of
the grammar say which are left out, added or put in another order.
-/

namespace ReceiverLoader.Grammar

open Token (Position Leaf Tree Delimiter Literal)

/-- A tree that was left unread in a group, and the delimiter of the group. -/
structure Stray where
  position : Position
  inside : Option Delimiter
deriving Repr, DecidableEq

/-- How far a parser has come. -/
structure Progress where
  /-- What is still to be read. -/
  trees : List Tree
  /-- The first tree that was left unread in a group. -/
  stray : Option Stray
  /-- The normal form of what has been read, last tree first. -/
  written : List Tree

namespace Progress

/-- Nothing of `ts` has been read. -/
def start (ts : List Tree) : Progress := ⟨ts, none, []⟩

end Progress

/-- A parser: it knows the end of the group it reads. -/
abbrev Parser := ReaderT Position (StateT Progress (Except SyntaxError))

namespace Parser

/-- The trees that are still to be read. -/
def trees : Parser (List Tree) := return (← get).trees

/-- Writes `ts` out. -/
def emit (ts : List Tree) : Parser Unit :=
  modify fun s => { s with written := ts.reverse ++ s.written }

/-- Goes past the next `n` trees and writes none of them out. -/
def leaveOut (n : Nat) : Parser Unit := modify fun s => { s with trees := s.trees.drop n }

/-- Goes past the next `n` trees and writes them out as they are. -/
def advance (n : Nat) : Parser Unit := do
  emit ((← trees).take n)
  leaveOut n

/-- Whether the test holds of the trees that are still to be read. -/
def ahead (test : Ahead) : Parser Bool := return test (← trees)

/-- Where the next tree stands; at the end of a group its closing delimiter. -/
def here : Parser Position := do
  match ← trees with
  | [] => read
  | t :: _ => return t.position

/-- Fails since `what` is wanted here. -/
def want {α : Type} (what : Wanted) : Parser α := do
  throw ⟨← here, .wanted what (← ahead Ahead.nothing)⟩

/-- Fails at `position`, since `what` is forbidden. -/
def forbid {α : Type} (position : Position) (what : Forbidden) : Parser α :=
  throw ⟨position, .forbidden what⟩

/-- Reads the mark `text`. -/
def mark (text : String) : Parser Unit := do
  if ← ahead (Ahead.mark text) then advance text.length else want (.mark text)

/-- Reads the mark `text` if it comes next. -/
def mark? (text : String) : Parser Bool := do
  if ← ahead (Ahead.mark text) then
    advance text.length
    return true
  else return false

/-- Reads the mark `text` if it comes next and is `allowed`. -/
def markIf? (allowed : Bool) (text : String) : Parser Bool :=
  if allowed then mark? text else return false

/-- Reads the word `text`. -/
def keyword (text : String) : Parser Unit := do
  if ← ahead (Ahead.keyword text) then advance 1 else want (.keyword text)

/-- Reads the word `text` if it comes next. -/
def keyword? (text : String) : Parser Bool := do
  if ← ahead (Ahead.keyword text) then
    advance 1
    return true
  else return false

/-- Reads any word. -/
def word : Parser String := do
  match ← trees with
  | .leaf _ (.word w) :: _ =>
    advance 1
    return w
  | _ => want .word

/-- Reads an identifier. -/
def identifier : Parser String := do
  if ← ahead Ahead.identifier then word else want .identifier

/-- Reads a word if the test holds, else an identifier. -/
def wordIf (test : Ahead) : Parser String := do
  if ← ahead test then word else identifier

/-- Reads a lifetime. -/
def lifetime : Parser Unit := do
  if ← ahead Ahead.lifetime then advance 2 else want .lifetime

/-- Reads a lifetime if one comes next. -/
def lifetime? : Parser Bool := do
  if ← ahead Ahead.lifetime then
    lifetime
    return true
  else return false

/-- Reads a literal. -/
def literal : Parser (Position × Literal) := do
  match Ahead.literal? (← trees) with
  | some (position, value, count) =>
    advance count
    return (position, value)
  | none => want .literal

/-- Reads a text literal. -/
def textLiteral : Parser String := do
  match Ahead.literal? (← trees) with
  | some (_, .text value, count) =>
    advance count
    return value
  | _ => want .stringLiteral

/-- The first tree that is left unread. -/
def leftOver (d : Delimiter) (ts : List Tree) : Option Stray :=
  ts.head?.map fun t => ⟨t.position, some d⟩

/-- Reads a group between `d`, and its inside by `p`. Gives also the first tree that `p` leaves
unread, which is still to be recorded. -/
def openGroup {α : Type} (d : Delimiter) (p : Parser α) : Parser (α × Option Stray) :=
  fun scopeEnd s =>
    match s.trees with
    | .group opens closes d' body :: ts =>
      if d = d' then
        match p closes ⟨body, s.stray, []⟩ with
        | .ok (a, inner) =>
          let written := .group opens closes d inner.written.reverse :: s.written
          .ok ((a, leftOver d inner.trees), ⟨ts, inner.stray, written⟩)
        | .error e => .error e
      else .error ⟨opens, .wanted (.group d) false⟩
    | t :: _ => .error ⟨t.position, .wanted (.group d) false⟩
    | [] => .error ⟨scopeEnd, .wanted (.group d) true⟩

/-- Records a tree that was left unread, unless there was one before it. -/
def record (stray : Option Stray) : Parser Unit :=
  modify fun s => { s with stray := s.stray.or stray }

/-- Reads a group between `d`, and its inside by `p`. What `p` leaves unread is stray. -/
def group {α : Type} (d : Delimiter) (p : Parser α) : Parser α := do
  let (a, stray) ← openGroup d p
  record stray
  return a

/-- Reads a group without looking into it, and gives its closing position and its inside. -/
def anyGroup : Parser (Delimiter × Position × List Tree) := do
  match ← trees with
  | .group _ closes d body :: _ =>
    advance 1
    return (d, closes, body)
  | _ => want .anyGroup

/-- Reads the rest of the group, whatever it is. -/
def skipRest : Parser Unit := do advance (← trees).length

/-- Reads by `p` if it succeeds, and nothing else. That the grammar's depth is used up is no failure
of `p`, but one of the whole. -/
def attempt {α : Type} (p : Parser α) : Parser (Option α) := fun e s =>
  match p e s with
  | .ok (a, s') => .ok (some a, s')
  | .error ⟨position, .tooDeep⟩ => .error ⟨position, .tooDeep⟩
  | .error _ => .ok (none, s)

/-- The result of `p`, if it has one, without reading anything. -/
def peek {α : Type} (p : Parser α) : Parser (Option α) := fun e s =>
  match attempt p e s with
  | .ok (a?, _) => .ok (a?, s)
  | .error error => .error error

/-- Reads by `p` and gives the normal form of what it reads, which is not written out. -/
def capture {α : Type} (p : Parser α) : Parser (α × List Tree) := fun e s =>
  match p e { s with written := [] } with
  | .ok (a, s') => .ok ((a, s'.written.reverse), { s' with written := s.written })
  | .error error => .error error

/-- Reads by `p` and writes nothing out. -/
def silently {α : Type} (p : Parser α) : Parser α := return (← capture p).1

/-- The trees that have been read since `before` were still to be read. -/
def readSince (before : List Tree) : Parser (List Tree) :=
  return before.take (before.length - (← trees).length)

/-- Reads by `p` what has no normal form: it is written out as it is spelled. -/
def asSpelled {α : Type} (p : Parser α) : Parser α := do
  let before ← trees
  let a ← silently p
  emit (← readSince before)
  return a

/-- Reads by `p`, which says whether what it reads has a normal form; if it has none, it is written
out as it is spelled. -/
def normalized (p : Parser Bool) : Parser Unit := do
  let before ← trees
  let (isNormal, normal) ← capture p
  if isNormal then emit normal else emit (← readSince before)

/-- Whether a group in braces has been read last. -/
def endsInBrace : Parser Bool := do
  match (← get).written with
  | .group _ _ .brace _ :: _ => return true
  | _ => return false

/-- Reads by `p` if the test holds. -/
def when {α : Type} (test : Ahead) (p : Parser α) : Parser (Option α) := do
  if ← ahead test then return some (← p) else return none

/-- What a round of a loop decides: to end with a result or to go on. -/
inductive Turn (σ α : Type)
  | done (result : α)
  | again (state : σ)

/-- Runs `turn` until it is done, at most once for each member of `bound` and once more; then `rest`
gives the result. -/
def loopFor {σ α : Type} (turn : σ → Parser (Turn σ α)) (rest : σ → α) (bound : List Tree) (s : σ) :
    Parser α := do
  match ← turn s with
  | .done a => return a
  | .again s' =>
    match bound with
    | [] => return rest s'
    | _ :: bound => loopFor turn rest bound s'

/-- Runs `turn` until it is done. Each round that is not the last reads something, so that the trees
still to be read bound the rounds. -/
def loop {σ α : Type} (turn : σ → Parser (Turn σ α)) (rest : σ → α) (s : σ) : Parser α := do
  loopFor turn rest (← trees) s

/-- Reads by `p` as long as the test holds. -/
def manyWhile {α : Type} (test : Ahead) (p : Parser α) : Parser (List α) :=
  loop (fun done => do
    if ← ahead test then return .again ((← p) :: done) else return .done done.reverse)
    List.reverse []

/-- Reads by `p` to the end of the group. -/
def manyToEnd {α : Type} (p : Parser α) : Parser (List α) := manyWhile Ahead.nothing.not p

/-- Reads by `p` with the mark `separator` between the readings, until the test holds. A separator
before the end is admitted. -/
def separated {α : Type} (separator : String) (stop : Ahead) (p : Parser α) : Parser (List α) :=
  loop (fun done => do
    if ← ahead stop then return .done done.reverse
    let a ← p
    if ← ahead stop then return .done (a :: done).reverse
    mark separator
    return .again (a :: done))
    List.reverse []

/-- Reads by `p` with the mark `separator` between the readings, until the test holds or no
separator follows. -/
def joined {α : Type} (separator : String) (stop : Ahead) (p : Parser α) : Parser (List α) :=
  loop (fun done => do
    if ← ahead stop then return .done done.reverse
    let a ← p
    if ← mark? separator then return .again (a :: done)
    else return .done (a :: done).reverse)
    List.reverse []

/-- Reads a list to the end of the group, its members separated by commas. -/
def commaList {α : Type} (p : Parser α) : Parser (List α) := separated "," Ahead.nothing p

end Parser

end ReceiverLoader.Grammar
