import ReceiverLoader.Grammar.Parser

/-!
# Lists with lifetimes first

Generic parameters, generic arguments and captured names may be spelled in any order. They are
written out with the lifetimes in front of all others, and each part keeps its own order. A comma
is added where the two parts meet, if the last lifetime was spelled at the end and without one.
-/

namespace ReceiverLoader.Grammar

open Grammar.Parser
open Token (Position Tree)

/-- A member of a list in angle brackets. -/
structure AngleMember where
  isLifetime : Bool
  trees : List Tree
  /-- The comma behind it, if there is one. -/
  comma : List Tree

namespace AngleMember

/-- A member with its comma. -/
def whole (m : AngleMember) : List Tree := m.trees ++ m.comma

/-- The lifetimes among `members`. -/
def lifetimes (members : List AngleMember) : List AngleMember := members.filter (·.isLifetime)

/-- The other ones among `members`. -/
def others (members : List AngleMember) : List AngleMember := members.filter (!·.isLifetime)

/-- The comma that is missing between the lifetimes and the others. It is put at `position`. -/
def missingComma (position : Position) (members : List AngleMember) : List Tree :=
  match (lifetimes members).getLast? with
  | some last =>
    if last.comma.isEmpty && !(others members).isEmpty then [.leaf position (.mark ',' false)]
    else []
  | none => []

/-- The trees of `members`, lifetimes first. -/
def arrange (position : Position) (members : List AngleMember) : List Tree :=
  (lifetimes members).flatMap whole ++ missingComma position members ++
    (others members).flatMap whole

end AngleMember

/-- Reads the members of a list up to the closing angle bracket. `member` says whether it has read
a lifetime. -/
def angleMembers (member : Parser Bool) : Parser (List AngleMember) :=
  loop (fun done => do
    if ← ahead (Ahead.mark ">") then return .done done.reverse
    let (isLifetime, trees) ← capture member
    if ← ahead (Ahead.mark ">") then return .done (⟨isLifetime, trees, []⟩ :: done).reverse
    let (_, comma) ← capture (mark ",")
    return .again (⟨isLifetime, trees, comma⟩ :: done))
    List.reverse []

/-- Reads a list between angle brackets, which is written out with its lifetimes first, and gives
the number of its members. -/
def lifetimesFirst (member : Parser Bool) : Parser Nat := do
  let position ← here
  mark "<"
  let members ← angleMembers member
  emit (AngleMember.arrange position members)
  mark ">"
  return members.length

end ReceiverLoader.Grammar
