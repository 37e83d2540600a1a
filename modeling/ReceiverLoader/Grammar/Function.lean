import ReceiverLoader.Grammar.Statement

/-!
# Functions

The signature of a function and the body behind it.
-/

namespace ReceiverLoader.Grammar

open Grammar.Parser
open Token (Position)

namespace Rules

/-- Reads the words before the `fn` of a function; `safe` is one of them only if `safeAllowed`. Says
whether it is there. -/
def functionQualifiers (safeAllowed : Bool) : Parser Bool := do
  let _ ← keyword? "const"
  let _ ← keyword? "async"
  let isUnsafe ← keyword? "unsafe"
  let isSafe ← if safeAllowed && !isUnsafe then keyword? "safe" else pure false
  optionalLinkage
  return isSafe

/-- Whether the signature of a function comes next. -/
def signatureAhead (safeAllowed : Bool) : Parser Bool := do
  let found ← peek do
    let _ ← functionQualifiers safeAllowed
    ahead (Ahead.keyword "fn")
  return found == some true

/-- Reads the receiver of a method, and gives its position. A path that begins with `self` is no
receiver. -/
def receiver (g : Rules) : Parser Position := do
  let borrowed ← mark? "&"
  if borrowed then
    let _ ← lifetime?
  let _ ← keyword? "mut"
  let position ← here
  keyword "self"
  if ← ahead (Ahead.mark "::") then want .continuation
  if !borrowed then
    if ← mark? ":" then
      let _ ← g.type true
  return position

/-- The kinds of arguments. -/
inductive ArgumentKind
  | receiver (position : Position)
  | typed
  /-- The dots of a variadic function. -/
  | variadic

/-- Reads an argument behind its attributes. An argument may be a type without a pattern where that
cannot be mistaken; its normal form has the pattern `_`. -/
def argument (g : Rules) : Parser ArgumentKind := do
  if ← mark? "..." then return .variadic
  match ← attempt g.receiver with
  | some position => return .receiver position
  | none =>
    if ← ahead (Ahead.identifier.and (Ahead.second (Ahead.mark "<"))) then
      let position ← here
      emit [.leaf position (.word "_"), .leaf position (.mark ':' false)]
      let _ ← g.type true
      return .typed
    else
      let _ ← g.pattern
      mark ":"
      if ← mark? "..." then return .variadic
      else
        let _ ← g.type true
        return .typed

/-- What the arguments before the next one were. -/
inductive ArgumentsBefore
  | none
  | receiver
  | typed

/-- Reads the arguments of a function. A receiver can only be the first one, and dots only the
last. -/
def functionArguments (g : Rules) : Parser Unit :=
  loop (fun before => do
    if ← ahead Ahead.nothing then return .done ()
    let _ ← g.outerAttributes
    let kind ← g.argument
    let after ← match kind, before with
      | .receiver position, .receiver => forbid position .secondReceiver
      | .receiver position, .typed => forbid position .misplacedReceiver
      | .receiver _, .none => pure ArgumentsBefore.receiver
      | _, .receiver => pure ArgumentsBefore.receiver
      | _, _ => pure ArgumentsBefore.typed
    if ← ahead Ahead.nothing then return .done ()
    mark ","
    match kind with
    | .variadic => return .done ()
    | _ => return .again after)
    (fun _ => ()) ArgumentsBefore.none

/-- Reads the signature of a function, and says whether the function is marked as safe. What the
parentheses hold too much is recorded behind it. -/
def signature (g : Rules) (safeAllowed : Bool) : Parser Bool := do
  let isSafe ← functionQualifiers safeAllowed
  keyword "fn"
  let _ ← identifier
  let _ ← g.generics
  let (_, stray) ← openGroup .parenthesis g.functionArguments
  g.resultType true
  let _ ← g.whereClause
  record stray
  return isSafe

end Rules

end ReceiverLoader.Grammar
