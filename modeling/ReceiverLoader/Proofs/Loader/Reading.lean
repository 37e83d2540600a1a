import ReceiverLoader.Loader
import ReceiverLoader.Proofs.Token.Shape
import ReceiverLoader.Token.Literal

/-!
# What a loader says

A loader read without a word on how it is written: its tokens, the body of its `load` function, the
statements in there with the values of their literals, and what the statements do to a list.

* `readLoader`: the statements of a loader; none if it says anything else.
* `run`: what statements make of a list of records.
-/

namespace ReceiverLoader.Loader

open Token (Shape Literal Leaf)

/-- A statement of a loader. -/
inductive Statement
  /-- `data_list.push(::modev_data::ModuleEventReceiverData::new(..));` -/
  | push (r : Receiver)
  /-- `let _ = data_list;` -/
  | leave
deriving DecidableEq

/-- What statements make of a list of records, one after the other. -/
def run : List Statement → List Receiver → List Receiver
  | [], records => records
  | .push r :: statements, records => run statements (records ++ [r])
  | .leave :: statements, records => run statements records

/-! ## Values -/

/-- The value of a text literal. -/
def readText : List Shape → Option String
  | [.leaf (.literal written)] =>
    match Literal.ofWritten written with
    | .text value => some value
    | _ => none
  | _ => none

/-- The value of an integer without a suffix. -/
def readNatural (written : String) : Option Nat :=
  match Literal.ofWritten written with
  | .integer value "" => some value
  | _ => none

/-- The value of an integer that a minus may stand in front of. -/
def readInteger : List Shape → Option Int
  | [.leaf (.literal written)] => (readNatural written).map Int.ofNat
  | [.leaf (.mark '-' _), .leaf (.literal written)] => (readNatural written).map Int.negOfNat
  | _ => none

/-- The value of an integer of 32 bits; none if it does not fit. -/
def readInt32 (ss : List Shape) : Option Int32 :=
  (readInteger ss).bind fun value =>
    if Int32.minValue.toInt ≤ value ∧ value ≤ Int32.maxValue.toInt then some (Int32.ofInt value)
    else none

/-! ## Statements -/

/-- What stands between the commas. -/
def betweenCommas : List Shape → List (List Shape)
  | [] => [[]]
  | .leaf (.mark ',' _) :: ss => [] :: betweenCommas ss
  | s :: ss =>
    match betweenCommas ss with
    | [] => [[s]]
    | first :: others => (s :: first) :: others

/-- The record that is made of these arguments. -/
def readRecord (arguments : List Shape) : Option Receiver :=
  match betweenCommas arguments with
  | [module, name, group, priority, flag] => do
    return ⟨← readText module, ← readText name, ← readText group, ← readInt32 priority,
      ← readInt32 flag⟩
  | _ => none

/-- The record in `::modev_data::ModuleEventReceiverData::new(..)`. -/
def readNew : List Shape → Option Receiver
  | [.leaf (.mark ':' true), .leaf (.mark ':' _), .leaf (.word "modev_data"),
      .leaf (.mark ':' true), .leaf (.mark ':' _), .leaf (.word "ModuleEventReceiverData"),
      .leaf (.mark ':' true), .leaf (.mark ':' _), .leaf (.word "new"),
      .group .parenthesis arguments] => readRecord arguments
  | _ => none

/-- The statements of a body. -/
def readStatements : List Shape → Option (List Statement)
  | [] => some []
  | .leaf (.word "data_list") :: .leaf (.mark '.' _) :: .leaf (.word "push") ::
      .group .parenthesis record :: .leaf (.mark ';' _) :: ss =>
    (readNew record).bind fun r => (readStatements ss).map (.push r :: ·)
  | .leaf (.word "let") :: .leaf (.word "_") :: .leaf (.mark '=' _) ::
      .leaf (.word "data_list") :: .leaf (.mark ';' _) :: ss =>
    (readStatements ss).map (.leave :: ·)
  | _ => none

/-! ## Functions -/

/-- What stands in the first braces. -/
def firstBraces : List Shape → Option (List Shape)
  | .group .brace body :: _ => some body
  | _ :: ss => firstBraces ss
  | [] => none

/-- What stands in the braces of the first implementation. -/
def implementationBody : List Shape → Option (List Shape)
  | .leaf (.word "impl") :: ss => firstBraces ss
  | _ :: ss => implementationBody ss
  | [] => none

/-- The body of the function `name`, which has arguments and no result. -/
def functionBody (name : String) : List Shape → Option (List Shape)
  | .leaf (.word "fn") :: .leaf (.word n) :: .group .parenthesis _ :: .group .brace body :: ss =>
    if n = name then some body else functionBody name ss
  | _ :: ss => functionBody name ss
  | [] => none

/-- The statements in the `load` function of a loader. -/
def readLoader (content : String) : Option (List Statement) :=
  match Token.trees content with
  | .error _ => none
  | .ok ts =>
    (implementationBody (Token.Tree.shapes ts)).bind fun body =>
      (functionBody "load" body).bind readStatements

/-! ## Running -/

theorem run_push (receivers records : List Receiver) :
    run (receivers.map .push) records = records ++ receivers := by
  induction receivers generalizing records with
  | nil => rw [List.map_nil, run, List.append_nil]
  | cons r receivers ih => rw [List.map_cons, run, ih, List.append_assoc, List.singleton_append]

end ReceiverLoader.Loader
