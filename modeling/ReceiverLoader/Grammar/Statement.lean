import ReceiverLoader.Grammar.Expression

/-!
# Statements

The statements of a block: bindings, items, macro calls and expressions. A statement that is no
block and does not end the enclosing one needs a semicolon.
-/

namespace ReceiverLoader.Grammar

open Grammar.Parser

namespace Rules

/-- The trees behind the path of a macro call, if a path and `!` come next. -/
def macroBang : Parser (Option (List Token.Tree)) := do
  let path? ← peek do
    let _ ← modulePath
    trees
  return path?.filter (Ahead.mark "!")

/-- Whether a macro call that defines an item comes next, given the trees from its `!` on. -/
def definesItem : Ahead := Ahead.second (Ahead.identifier.or (Ahead.keyword "try"))

/-- Whether a macro call that is a statement of its own comes next, given the trees from its `!`
on. -/
def isMacroStatement : Ahead :=
  (Ahead.second (Ahead.group .brace)).and
    (Ahead.third ((Ahead.markBut "." [".."]).or (Ahead.mark "?"))).not

/-- Whether an item comes next that a word introduces. -/
def itemAhead : Ahead :=
  let second := fun (words : List String) => Ahead.second (Ahead.anyKeyword words)
  Ahead.any
    [Ahead.anyKeyword ["pub", "extern", "use", "fn", "mod", "type", "struct", "enum", "trait",
       "impl", "macro"],
     (Ahead.keyword "crate").and (Ahead.second (Ahead.mark "::")).not,
     (Ahead.keyword "static").and <| (second ["mut"]).or <|
       (Ahead.second Ahead.identifier).and <|
         ((second ["async"]).and
           (Ahead.third ((Ahead.keyword "move").or (Ahead.mark "|")))).not,
     (Ahead.keyword "const").and <| Ahead.not <| Ahead.any
       [Ahead.second (Ahead.group .brace), second ["static", "move"],
        (second ["async"]).and (Ahead.third (Ahead.anyKeyword ["unsafe", "extern", "fn"])).not,
        Ahead.second (Ahead.mark "|")],
     (Ahead.keyword "unsafe").and (Ahead.second (Ahead.group .brace)).not,
     (Ahead.keyword "async").and (second ["unsafe", "extern", "fn"]),
     (Ahead.keyword "union").and (Ahead.second Ahead.identifier),
     (Ahead.keyword "auto").and (second ["trait"]),
     (Ahead.keyword "default").and (second ["unsafe", "impl"])]

/-- Reads a binding. -/
def binding (g : Rules) : Parser Unit := do
  keyword "let"
  let _ ← g.pattern
  if ← mark? ":" then
    let _ ← g.type true
  if ← mark? "=" then
    let _ ← g.expression true
    if !(← endsInBrace) then
      if ← keyword? "else" then g.block
  mark ";"

/-- Reads a macro call that is a statement of its own. -/
def macroStatement : Parser Unit := do
  let _ ← modulePath
  mark "!"
  let _ ← anyGroup
  let _ ← mark? ";"

/-- Reads a statement, and says whether a semicolon is missing behind it. Attributes belong to its
normal form unless it is an expression that has none. -/
def statement (g : Rules) : Parser Bool := do
  let before ← trees
  let (attributes, attributeTrees) ← capture g.outerAttributes
  let bang? ← macroBang
  if bang?.any isMacroStatement then
    emit attributeTrees
    macroStatement
    return false
  else if ← ahead (Ahead.keyword "let") then
    emit attributeTrees
    g.binding
    return false
  else if bang?.any definesItem || (← ahead itemAhead) then
    let (item?, normal) ← capture (g.itemBehind attributes)
    if item?.isSome then emit (attributeTrees ++ normal) else emit (← readSince before)
    return false
  else
    let (form, normal) ← capture g.statementExpression
    emit (if form == .verbatim then normal else attributeTrees ++ normal)
    if ← mark? ";" then return false else return form.needsSemicolon

/-- Reads statements to the end of the group. -/
def statementsRule (g : Rules) : Parser Unit :=
  loop (fun _ => do
    let _ ← manyWhile (Ahead.mark ";") (mark ";")
    if ← ahead Ahead.nothing then return .done ()
    let isOpen ← g.statement
    if ← ahead Ahead.nothing then return .done ()
    if isOpen then want .semicolon
    return .again ())
    id ()

end Rules

end ReceiverLoader.Grammar
