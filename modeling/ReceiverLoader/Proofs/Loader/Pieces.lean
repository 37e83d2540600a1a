import ReceiverLoader.Loader
import ReceiverLoader.Proofs.Token.Piece
import ReceiverLoader.Proofs.Token.Shape

/-!
# The lines of a loader as pieces

Each line of a loader that holds code is put together from pieces, and their lexemes are those of a
few trees.

* `toList_receiverLine`, `lexemesOf_receiverPieces`: the line of a receiver is made of its pieces,
  and they are the lexemes of its statement.
* `map_toList_codeLines`: the same of all lines behind the comments.
-/

namespace ReceiverLoader.Loader

open Token (Piece Shape Leaf Lexeme AreDigits)
open Token.Piece (spell apart lexemesOf)

/-! ## Integers -/

/-- The pieces of an integer in decimal. -/
def integerPieces (value : Int) : List Piece :=
  if 0 ≤ value then [.literal (String.ofList (Nat.toDigits 10 value.toNat))]
  else [.mark '-', .literal (String.ofList (Nat.toDigits 10 (-value).toNat))]

/-- The trees of an integer in decimal. -/
def integerShapes (value : Int) : List Shape :=
  if 0 ≤ value then [.leaf (.literal (String.ofList (Nat.toDigits 10 value.toNat)))]
  else [.leaf (.mark '-' false), .leaf (.literal (String.ofList (Nat.toDigits 10 (-value).toNat)))]

theorem toList_toString_int (value : Int) :
    (toString value).toList = spell (integerPieces value) := by
  rw [Int.toString_eq_repr, Int.repr_eq_if, integerPieces]
  split
  · rw [Nat.repr_eq_ofList_toDigits]
    simp [spell, Piece.text]
  · rw [Nat.repr_eq_ofList_toDigits, String.toList_append]
    simp [spell, Piece.text]

theorem valid_integerPieces (value : Int) : ∀ p ∈ integerPieces value, p.Valid := by
  have hdecimal : ∀ n, Piece.Valid (.literal (String.ofList (Nat.toDigits 10 n))) := fun n =>
    .decimal (Token.areDigits_toDigits (by omega) n) Nat.toDigits_ne_nil
  unfold integerPieces
  split
  · exact List.forall_mem_singleton.mpr (hdecimal _)
  · exact List.forall_mem_cons.mpr ⟨.mark (by decide), List.forall_mem_singleton.mpr (hdecimal _)⟩

/-! ## Receivers -/

/-- The piece of a quoted text. -/
def textPieces (text : String) : List Piece := [.literal (Text.quoted text)]

/-- The pieces between two arguments. -/
def commaPieces : List Piece := [.mark ',', .space ' ']

/-- The pieces of the arguments that a receiver's record is made of. -/
def argumentPieces (r : Receiver) : List Piece :=
  textPieces r.module ++ (commaPieces ++ (textPieces r.name ++ (commaPieces ++
    (textPieces r.group ++ (commaPieces ++ (integerPieces r.priority.toInt ++ (commaPieces ++
      integerPieces r.flag.toInt)))))))

/-- The pieces in front of the arguments. -/
def pushPieces : List Piece :=
  [.space '\t', .space '\t', .word "data_list", .mark '.', .word "push", .opening .parenthesis,
    .mark ':', .mark ':', .word "modev_data", .mark ':', .mark ':', .word "ModuleEventReceiverData",
    .mark ':', .mark ':', .word "new", .opening .parenthesis]

/-- The pieces behind the arguments. -/
def pushedPieces : List Piece := [.closing .parenthesis, .closing .parenthesis, .mark ';']

/-- The pieces of the line that registers a receiver. -/
def receiverPieces (r : Receiver) : List Piece :=
  pushPieces ++ (argumentPieces r ++ pushedPieces)

/-- The tree of a quoted text. -/
def textShapes (text : String) : List Shape := [.leaf (.literal (Text.quoted text))]

/-- The tree between two arguments. -/
def commaShapes : List Shape := [.leaf (.mark ',' false)]

/-- The trees of the arguments that a receiver's record is made of. -/
def argumentShapes (r : Receiver) : List Shape :=
  textShapes r.module ++ (commaShapes ++ (textShapes r.name ++ (commaShapes ++
    (textShapes r.group ++ (commaShapes ++ (integerShapes r.priority.toInt ++ (commaShapes ++
      integerShapes r.flag.toInt)))))))

/-- The trees of the statement that registers a receiver. -/
def receiverShapes (r : Receiver) : List Shape :=
  [.leaf (.word "data_list"), .leaf (.mark '.' false), .leaf (.word "push"),
    .group .parenthesis
      [.leaf (.mark ':' true), .leaf (.mark ':' false), .leaf (.word "modev_data"),
        .leaf (.mark ':' true), .leaf (.mark ':' false), .leaf (.word "ModuleEventReceiverData"),
        .leaf (.mark ':' true), .leaf (.mark ':' false), .leaf (.word "new"),
        .group .parenthesis (argumentShapes r)],
    .leaf (.mark ';' false)]

theorem toList_receiverLine (r : Receiver) :
    (receiverLine r).toList = spell (receiverPieces r) := by
  have hline : receiverLine r = "\t\tdata_list.push(::modev_data::ModuleEventReceiverData::new(" ++
      Text.joinWith ", " [Text.quoted r.module, Text.quoted r.name, Text.quoted r.group,
        toString r.priority.toInt, toString r.flag.toInt] ++ "));" := rfl
  rw [hline, Text.joinWith, String.intercalate_cons_cons, String.intercalate_cons_cons,
    String.intercalate_cons_cons, String.intercalate_cons_cons, String.intercalate_singleton]
  simp only [String.toList_append, toList_toString_int, List.append_assoc]
  simp only [receiverPieces, argumentPieces, Piece.spell_append]
  generalize spell (integerPieces r.priority.toInt) = priority
  generalize spell (integerPieces r.flag.toInt) = flag
  simp [spell, Piece.text, textPieces, commaPieces, pushPieces, pushedPieces,
    Token.Delimiter.opening, Token.Delimiter.closing]

theorem valid_receiverPieces (r : Receiver) : ∀ p ∈ receiverPieces r, p.Valid := by
  have htext : ∀ text, ∀ p ∈ textPieces text, p.Valid := fun text =>
    List.forall_mem_singleton.mpr (.quoted text)
  have hcomma : ∀ p ∈ commaPieces, p.Valid := Piece.valid_of_all rfl
  simp only [receiverPieces, argumentPieces, List.forall_mem_append]
  exact ⟨Piece.valid_of_all rfl, ⟨htext _, hcomma, htext _, hcomma, htext _, hcomma,
    valid_integerPieces _, hcomma, valid_integerPieces _⟩, Piece.valid_of_all rfl⟩

theorem apart_receiverPieces (r : Receiver) : apart (receiverPieces r) := by
  unfold receiverPieces argumentPieces integerPieces
  split <;> split <;> rfl

theorem lexemesOf_receiverPieces (r : Receiver) :
    lexemesOf (receiverPieces r) = Shape.lexemesAll (receiverShapes r) := by
  unfold receiverPieces argumentPieces receiverShapes argumentShapes integerPieces integerShapes
  split <;> split <;> rfl

/-! ## All lines -/

/-- The name of the loader's type. -/
def typePiece (module : String) : Piece := .word (typeName module)

/-- The pieces of an attribute that lets the type have its name. -/
def allowPieces : List Piece :=
  [.mark '#', .opening .bracket, .word "allow", .opening .parenthesis,
    .word "non_camel_case_types", .closing .parenthesis, .closing .bracket]

/-- The pieces in front of the type's name where it is declared. -/
def structPieces : List Piece := [.word "pub", .space ' ', .word "struct", .space ' ']

/-- The pieces in front of the type's name where its trait is implemented. -/
def implPieces : List Piece :=
  [.word "impl", .space ' ', .mark ':', .mark ':', .word "modev_data", .mark ':', .mark ':',
    .word "ModuleEventDataLoader", .space ' ', .word "for", .space ' ']

/-- The pieces of the line that begins the function. -/
def functionPieces : List Piece :=
  [.space '\t', .word "fn", .space ' ', .word "load", .opening .parenthesis, .mark '&',
    .word "self", .mark ',', .space ' ', .word "data_list", .mark ':', .space ' ', .mark '&',
    .word "mut", .space ' ', .mark ':', .mark ':', .word "std", .mark ':', .mark ':', .word "vec",
    .mark ':', .mark ':', .word "Vec", .mark '<', .mark ':', .mark ':', .word "modev_data",
    .mark ':', .mark ':', .word "ModuleEventReceiverData", .mark '>', .closing .parenthesis,
    .space ' ', .opening .brace]

/-- The pieces of the lines before the first receiver that are no comments. -/
def openingPieces (module : String) : List (List Piece) :=
  [allowPieces, structPieces ++ typePiece module :: ([.mark ';'] : List Piece), [],
    implPieces ++ typePiece module :: ([.space ' ', .opening .brace] : List Piece), functionPieces]

/-- The pieces of the line that leaves the list alone. -/
def leavePieces : List Piece :=
  [.space '\t', .space '\t', .word "let", .space ' ', .word "_", .space ' ', .mark '=', .space ' ',
    .word "data_list", .mark ';']

/-- The pieces of the lines that register receivers. -/
def bodyPieces (receivers : List Receiver) : List (List Piece) :=
  if receivers = [] then [leavePieces] else receivers.map receiverPieces

/-- The pieces of the lines behind the last receiver. -/
def closingPieces : List (List Piece) := [[.space '\t', .closing .brace], [.closing .brace]]

/-- The pieces of the lines behind the comments. -/
def codePieces (module : String) (receivers : List Receiver) : List (List Piece) :=
  openingPieces module ++ bodyPieces receivers ++ closingPieces

/-- The lines behind the comments. -/
def codeLines (module : String) (receivers : List Receiver) : List String :=
  (headerLines module).drop 3 ++ bodyLines receivers ++ ["\t\x7d", "\x7d"]

theorem map_toList_codeLines (module : String) (receivers : List Receiver) :
    (codeLines module receivers).map String.toList =
      (codePieces module receivers).map spell := by
  have hopening : ((headerLines module).drop 3).map String.toList =
      (openingPieces module).map spell := by
    have hlines : (headerLines module).drop 3 =
        ["#[allow(non_camel_case_types)]", "pub struct " ++ typeName module ++ ";", "",
          "impl ::modev_data::ModuleEventDataLoader for " ++ typeName module ++ " \x7b",
          "\tfn load(&self, data_list: &mut ::std::vec::Vec<::" ++ recordType ++ ">) \x7b"] := rfl
    rw [hlines]
    simp [openingPieces, typePiece, allowPieces, structPieces, implPieces, functionPieces, spell,
      Piece.text, Token.Delimiter.opening, Token.Delimiter.closing, recordType]
  have hbody : (bodyLines receivers).map String.toList = (bodyPieces receivers).map spell := by
    cases receivers with
    | nil => rfl
    | cons r receivers =>
      have hline : String.toList ∘ receiverLine = spell ∘ receiverPieces :=
        funext toList_receiverLine
      rw [bodyLines, bodyPieces, if_neg (List.cons_ne_nil r receivers), List.map_map, ← hline,
        ← List.map_map]
      rfl
  have hclosing : ["\t\x7d", "\x7d"].map String.toList = closingPieces.map spell := rfl
  rw [codeLines, codePieces, List.map_append, List.map_append, List.map_append, List.map_append,
    hopening, hbody, hclosing]

theorem valid_typePiece {module : String} (h : Text.Ident.isFragment module) :
    (typePiece module).Valid := by
  have hname : (typeName module).toList =
      'M' :: ("oduleDataLoader_".toList ++ module.toList) := by
    rw [typeName, String.toList_append]
    rfl
  have hbefore : ∀ c ∈ "oduleDataLoader_".toList, Text.Ident.isContinue c :=
    Text.forall_mem_of_all (by decide)
  exact .word hname (by decide) (List.forall_mem_append.mpr ⟨hbefore, List.all_eq_true.mp h⟩)

theorem valid_codePieces {module : String} (h : Text.Ident.isFragment module)
    (receivers : List Receiver) : ∀ ps ∈ codePieces module receivers, ∀ p ∈ ps, p.Valid := by
  have haround : ∀ {ps qs : List Piece}, ps.all Piece.isValid → qs.all Piece.isValid →
      ∀ p ∈ ps ++ typePiece module :: qs, p.Valid := by
    intro ps qs hps hqs
    rw [List.forall_mem_append, List.forall_mem_cons]
    exact ⟨Piece.valid_of_all hps, valid_typePiece h, Piece.valid_of_all hqs⟩
  have hopening : ∀ ps ∈ openingPieces module, ∀ p ∈ ps, p.Valid := by
    intro ps hps
    simp only [openingPieces, List.mem_cons, List.not_mem_nil, or_false] at hps
    rcases hps with rfl | rfl | rfl | rfl | rfl
    · exact Piece.valid_of_all rfl
    · exact haround rfl rfl
    · exact Piece.valid_of_all rfl
    · exact haround rfl rfl
    · exact Piece.valid_of_all rfl
  have hbody : ∀ ps ∈ bodyPieces receivers, ∀ p ∈ ps, p.Valid := by
    unfold bodyPieces
    split
    · exact List.forall_mem_singleton.mpr (Piece.valid_of_all rfl)
    · exact List.forall_mem_map.mpr fun r _ => valid_receiverPieces r
  have hclosing : ∀ ps ∈ closingPieces, ∀ p ∈ ps, p.Valid := by
    exact List.forall_mem_cons.mpr ⟨Piece.valid_of_all rfl,
      List.forall_mem_singleton.mpr (Piece.valid_of_all rfl)⟩
  exact List.forall_mem_append.mpr ⟨List.forall_mem_append.mpr ⟨hopening, hbody⟩, hclosing⟩

theorem apart_codePieces (module : String) (receivers : List Receiver) :
    ∀ ps ∈ codePieces module receivers, apart ps := by
  have hopening : ∀ ps ∈ openingPieces module, apart ps := by
    simp [openingPieces, typePiece, allowPieces, structPieces, implPieces, functionPieces, apart,
      Piece.admits, Piece.isTight]
  have hbody : ∀ ps ∈ bodyPieces receivers, apart ps := by
    unfold bodyPieces
    split
    · exact List.forall_mem_singleton.mpr rfl
    · exact List.forall_mem_map.mpr fun r _ => apart_receiverPieces r
  have hclosing : ∀ ps ∈ closingPieces, apart ps := by decide
  exact List.forall_mem_append.mpr ⟨List.forall_mem_append.mpr ⟨hopening, hbody⟩, hclosing⟩

theorem staysOnLine_codePieces (module : String) (receivers : List Receiver) :
    ∀ ps ∈ codePieces module receivers, ps.all Piece.staysOnLine := by
  have hopening : ∀ ps ∈ openingPieces module, ps.all Piece.staysOnLine := by
    simp [openingPieces, typePiece, allowPieces, structPieces, implPieces, functionPieces,
      Piece.staysOnLine]
  have hreceiver : ∀ r : Receiver, (receiverPieces r).all Piece.staysOnLine := by
    intro r
    unfold receiverPieces argumentPieces integerPieces
    split <;> split <;> rfl
  have hbody : ∀ ps ∈ bodyPieces receivers, ps.all Piece.staysOnLine := by
    unfold bodyPieces
    split
    · exact List.forall_mem_singleton.mpr rfl
    · exact List.forall_mem_map.mpr fun r _ => hreceiver r
  have hclosing : ∀ ps ∈ closingPieces, ps.all Piece.staysOnLine := by decide
  exact List.forall_mem_append.mpr ⟨List.forall_mem_append.mpr ⟨hopening, hbody⟩, hclosing⟩

end ReceiverLoader.Loader
