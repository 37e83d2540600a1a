import ReceiverLoader.Proofs.CommandLine.Prediction
import ReceiverLoader.Proofs.Grammar.Reading
import ReceiverLoader.Proofs.Loader.Pieces
import ReceiverLoader.Proofs.Marker.Settling

/-!
# Marker arguments as they are printed

Arguments are printed in three places: as they would stand in an attribute, as the columns of a
listing and as the literals of a loader. In each of them they are read back unchanged.

* `Spells`: the arguments that a text is read as.
* `printedPieces`, `printedTrees`: what is printed of the arguments, as pieces and as trees.
* `spells_printed`: the arguments are read back.
* `printed_readsBack`: the same of the places where they are printed.
-/

namespace ReceiverLoader.Marker

open Grammar (Alike IsExpression SignedLiteral)
open Loader (textPieces integerPieces commaPieces)
open Token (Leaf Piece Position Shape Tree)
open Token.Piece (apart beginsWithMark lexemesOf spell)

/-- The text is cut into tokens, and they are read as the arguments. -/
def Spells (text : String) (a : Arguments) : Prop :=
  ∃ ts, Token.trees text = .ok ts ∧ Arguments.ofTrees ts = .ok a

/-- Which arguments are read does not depend on positions. -/
theorem ofTrees_of_shapes {ts us : List Tree} (hshapes : Tree.shapes ts = Tree.shapes us)
    {a : Arguments} (h : Arguments.ofTrees us = .ok a) : Arguments.ofTrees ts = .ok a := by
  have hsame := Arguments.read_alike Grammar.textEnd Grammar.textEnd
    (⟨Grammar.like_trees_iff.mpr hshapes⟩ : Alike ts us)
  change (Arguments.ofTrees ts).mapError _ = (Arguments.ofTrees us).mapError _ at hsame
  rw [h] at hsame
  cases hread : Arguments.ofTrees ts with
  | error e =>
    rw [hread] at hsame
    cases hsame
  | ok a' =>
    rw [hread] at hsame
    cases hsame
    rfl

/-- A text that is made of pieces spells the arguments that their trees are read as. -/
theorem spells_of_pieces {text : String} {ps : List Piece} {us : List Tree} {a : Arguments}
    (htext : text.toList = spell ps) (hmark : (spell ps).head? ≠ some Token.byteOrderMark)
    (hvalid : ∀ p ∈ ps, p.Valid) (hapart : apart ps)
    (hlexemes : lexemesOf ps = Shape.lexemesAll (Tree.shapes us))
    (h : Arguments.ofTrees us = .ok a) : Spells text a := by
  have hcut : Token.lexemes (spell ps) = Token.lexemesFrom 0 Position.start (spell ps) := by
    cases hspell : spell ps with
    | nil => rfl
    | cons c cs =>
      rw [hspell] at hmark
      exact if_neg fun hc => hmark (congrArg some hc)
  obtain ⟨ts, hts, hshapes⟩ :=
    Token.assemble_eq_ok ((Token.map_lexemesFrom_spell hvalid hapart Position.start).trans hlexemes)
  refine ⟨ts, ?_, ofTrees_of_shapes hshapes h⟩
  rw [Token.trees, Token.treesOf, htext, hcut, hts]

/-! ## A value and its name -/

/-- The tree of a literal. -/
def literalTree (written : String) : Tree := .leaf Position.start (.literal written)

/-- The trees of an integer in decimal. -/
def integerTrees (value : Int) : List Tree :=
  if 0 ≤ value then [literalTree (String.ofList (Nat.toDigits 10 value.toNat))]
  else [.leaf Position.start (.mark '-' false),
    literalTree (String.ofList (Nat.toDigits 10 (-value).toNat))]

/-- The pieces of a field's value. -/
def valuePieces : (f : Field) → f.Value → List Piece
  | .group, text => textPieces text
  | .priority, n => integerPieces n.toInt
  | .flag, n => integerPieces n.toInt

/-- The trees of a field's value. -/
def valueTrees : (f : Field) → f.Value → List Tree
  | .group, text => [literalTree (Text.quoted text)]
  | .priority, n => integerTrees n.toInt
  | .flag, n => integerTrees n.toInt

theorem isExpression_integerTrees (value : Int) : IsExpression (integerTrees value) := by
  unfold integerTrees
  split
  · exact Grammar.isExpression_literal _ _
  · exact Grammar.isExpression_minus _ _ _ _

theorem isExpression_valueTrees : ∀ (f : Field) (v : f.Value), IsExpression (valueTrees f v)
  | .group, _ => Grammar.isExpression_literal _ _
  | .priority, n => isExpression_integerTrees n.toInt
  | .flag, n => isExpression_integerTrees n.toInt

theorem integer?_integerTrees (n : Int32) : integer? (integerTrees n.toInt) = some n := by
  have hunsigned (m : Nat) :
      SignedLiteral.unsigned? [literalTree (String.ofList (Nat.toDigits 10 m))] =
        some (Position.start, m) :=
    SignedLiteral.unsigned?_eq_some.mpr ⟨_, rfl,
      Grammar.ExpressionForm.ofLiteral_eq_integer.mpr ⟨rfl, "", Token.ofWritten_toDigits m⟩⟩
  rw [integer?_eq_some]
  unfold integerTrees
  split
  · rename_i hsign
    exact ⟨⟨false, Position.start, n.toInt.toNat⟩,
      SignedLiteral.ofTrees?_eq_some.mpr (.inl ⟨rfl, hunsigned _⟩), Int.toNat_of_nonneg hsign⟩
  · rename_i hsign
    refine ⟨⟨true, Position.start, (-n.toInt).toNat⟩,
      SignedLiteral.ofTrees?_eq_some.mpr (.inr ⟨rfl, _, _, _, rfl, hunsigned _⟩), ?_⟩
    change -((-n.toInt).toNat : Int) = n.toInt
    omega

/-- An argument as it is printed, with a space on either side of `=` or none. -/
def printedArgument (spaced : Bool) (f : Field) (v : f.Value) : WrittenArgument :=
  ⟨⟨none, Position.start, f.name, []⟩, Position.start, !spaced && beginsWithMark (valuePieces f v),
    valueTrees f v⟩

/-- The space on either side of `=`, if there is one. -/
def gapPieces (spaced : Bool) : List Piece := if spaced then [.space ' '] else []

/-- The pieces of an argument. -/
def argumentPieces (spaced : Bool) (f : Field) (v : f.Value) : List Piece :=
  .word f.name :: (gapPieces spaced ++ .mark '=' :: (gapPieces spaced ++ valuePieces f v))

theorem value?_printedArgument (spaced : Bool) (f : Field) (v : f.Value) :
    (printedArgument spaced f v).value? f = some v := by
  cases f with
  | group => exact text?_eq_some.mpr ⟨Position.start, _, rfl, Token.ofWritten_quoted v⟩
  | priority => exact integer?_integerTrees v
  | flag => exact integer?_integerTrees v

theorem names_printedArgument (spaced : Bool) {f f' : Field} {v : f.Value} :
    (printedArgument spaced f v).Names f' ↔ f' = f := by
  constructor
  · intro h
    have hname : f.name = f'.name := h.first
    exact Option.some.inj ((Field.ofName?_name f').symm.trans (hname ▸ Field.ofName?_name f))
  · rintro rfl
    exact ⟨rfl, rfl, rfl⟩

/-! ## All three arguments -/

/-- The arguments as they are printed. -/
def printedArguments (spaced : Bool) (a : Arguments) : List WrittenArgument :=
  [Field.group, Field.priority, Field.flag].map fun f => printedArgument spaced f (a.value f)

/-- The pieces of the arguments, with a comma and a space between them. -/
def printedPieces (spaced : Bool) (a : Arguments) : List Piece :=
  argumentPieces spaced .group a.group ++ (commaPieces ++
    (argumentPieces spaced .priority a.priority ++ (commaPieces ++
      argumentPieces spaced .flag a.flag)))

/-- The trees of the arguments. -/
def printedTrees (spaced : Bool) (a : Arguments) : List Tree :=
  (printedArgument spaced .group a.group).trees ++ .leaf Position.start (.mark ',' false) ::
    ((printedArgument spaced .priority a.priority).trees ++
      .leaf Position.start (.mark ',' false) :: (printedArgument spaced .flag a.flag).trees)

theorem ofTrees_printedTrees (spaced : Bool) (a : Arguments) :
    Arguments.ofTrees (printedTrees spaced a) = .ok a := by
  have hlist : IsList (printedArguments spaced a) (printedTrees spaced a) :=
    .cons _ _ _ (.cons _ _ _ (.last _))
  have hvalues : ∀ w ∈ printedArguments spaced a, IsExpression w.value :=
    List.forall_mem_map.mpr fun f _ => isExpression_valueTrees f (a.value f)
  have hcarries : Carries a (printedArguments spaced a) := by
    refine ⟨List.forall_mem_map.mpr fun f _ f' hname => ?_, fun f hno => ?_⟩
    · obtain rfl := (names_printedArgument spaced).mp hname
      exact value?_printedArgument spaced f' (a.value f')
    · refine absurd ((names_printedArgument spaced).mpr rfl)
        (hno (printedArgument spaced f (a.value f)) (List.mem_map_of_mem ?_))
      cases f <;> simp
  have hacceptable : Acceptable (printedArguments spaced a) := by
    constructor
    · exact List.forall_mem_map.mpr fun f _ =>
        ⟨f, (names_printedArgument spaced).mpr rfl, by rw [value?_printedArgument]; rfl⟩
    · have hfields : [Field.group, Field.priority, Field.flag].Pairwise (· ≠ ·) := by decide
      refine List.pairwise_map.mpr (hfields.imp fun {f f'} hne g hf hf' => hne ?_)
      exact ((names_printedArgument spaced).mp hf).symm.trans
        ((names_printedArgument spaced).mp hf')
  obtain ⟨a', hread, hcarries'⟩ := ofTrees_of_acceptable hlist hvalues hacceptable
  rw [hread, hcarries'.unique hcarries fun _ => Iff.rfl]

theorem valid_argumentPieces (spaced : Bool) (f : Field) (v : f.Value) :
    ∀ p ∈ argumentPieces spaced f v, p.Valid := by
  have hgap : ∀ p ∈ gapPieces spaced, p.Valid :=
    Piece.valid_of_all (by cases spaced <;> rfl)
  have hname : ∀ p ∈ [Piece.word f.name], p.Valid := Piece.valid_of_all (by cases f <;> rfl)
  have hvalue : ∀ p ∈ valuePieces f v, p.Valid := by
    cases f with
    | group => exact List.forall_mem_singleton.mpr (.quoted v)
    | priority => exact Loader.valid_integerPieces _
    | flag => exact Loader.valid_integerPieces _
  rw [argumentPieces, List.forall_mem_cons, List.forall_mem_append, List.forall_mem_cons,
    List.forall_mem_append]
  exact ⟨List.forall_mem_singleton.mp hname, hgap, .mark (by decide), hgap, hvalue⟩

theorem valid_printedPieces (spaced : Bool) (a : Arguments) :
    ∀ p ∈ printedPieces spaced a, p.Valid := by
  have hcomma : ∀ p ∈ commaPieces, p.Valid := Piece.valid_of_all rfl
  simp only [printedPieces, List.forall_mem_append]
  exact ⟨valid_argumentPieces _ _ _, hcomma, valid_argumentPieces _ _ _, hcomma,
    valid_argumentPieces _ _ _⟩

theorem apart_printedPieces (spaced : Bool) (a : Arguments) : apart (printedPieces spaced a) := by
  unfold printedPieces argumentPieces valuePieces integerPieces
  cases spaced <;> dsimp only <;> split <;> split <;> rfl

theorem lexemesOf_integerPieces (value : Int) (qs : List Piece) :
    lexemesOf (integerPieces value ++ qs) =
      Shape.lexemesAll (Tree.shapes (integerTrees value)) ++ lexemesOf qs := by
  unfold integerPieces integerTrees
  split <;> simp [literalTree, lexemesOf, Piece.lexemes, beginsWithMark, Tree.shapes, Tree.shape,
    Shape.lexemesAll, Shape.lexemes]

theorem lexemesOf_valuePieces (f : Field) (v : f.Value) (qs : List Piece) :
    lexemesOf (valuePieces f v ++ qs) =
      Shape.lexemesAll (Tree.shapes (valueTrees f v)) ++ lexemesOf qs := by
  cases f with
  | group =>
    simp [valuePieces, valueTrees, textPieces, literalTree, lexemesOf, Piece.lexemes, Tree.shapes,
      Tree.shape, Shape.lexemesAll, Shape.lexemes]
  | priority => exact lexemesOf_integerPieces v.toInt qs
  | flag => exact lexemesOf_integerPieces v.toInt qs

theorem beginsWithMark_valuePieces (f : Field) (v : f.Value) (qs : List Piece) :
    beginsWithMark (valuePieces f v ++ qs) = beginsWithMark (valuePieces f v) := by
  have hinteger (value : Int) :
      beginsWithMark (integerPieces value ++ qs) = beginsWithMark (integerPieces value) := by
    unfold integerPieces
    split <;> rfl
  cases f with
  | group => rfl
  | priority => exact hinteger v.toInt
  | flag => exact hinteger v.toInt

theorem lexemesOf_argumentPieces (spaced : Bool) (f : Field) (v : f.Value) (qs : List Piece) :
    lexemesOf (argumentPieces spaced f v ++ qs) =
      Shape.lexemesAll (Tree.shapes (printedArgument spaced f v).trees) ++ lexemesOf qs := by
  have hvalue := lexemesOf_valuePieces f v qs
  have hmark := beginsWithMark_valuePieces f v qs
  have hspace (ps : List Piece) : beginsWithMark (.space ' ' :: ps) = false := rfl
  cases spaced <;>
  simp [argumentPieces, gapPieces, printedArgument, WrittenArgument.trees, WrittenPath.trees,
    WrittenPath.furtherTrees, lexemesOf, Piece.lexemes, Tree.shapes, Tree.shape,
    Shape.lexemesAll, Shape.lexemes, hvalue, hmark, hspace]

theorem lexemesOf_printedPieces (spaced : Bool) (a : Arguments) :
    lexemesOf (printedPieces spaced a) =
      Shape.lexemesAll (Tree.shapes (printedTrees spaced a)) := by
  have hflag := lexemesOf_argumentPieces spaced .flag a.flag []
  rw [List.append_nil] at hflag
  have hcomma (ps : List Piece) :
      lexemesOf (commaPieces ++ ps) = .leaf (.mark ',' false) :: lexemesOf ps := rfl
  have hshapes (ts us : List Tree) : Tree.shapes (ts ++ .leaf Position.start (.mark ',' false) ::
      us) = Tree.shapes ts ++ .leaf (.mark ',' false) :: Tree.shapes us := by
    simp [Grammar.shapes_eq, Tree.shape]
  have hlexemes (ss more : List Shape) :
      Shape.lexemesAll (ss ++ .leaf (.mark ',' false) :: more) =
        Shape.lexemesAll ss ++ .leaf (.mark ',' false) :: Shape.lexemesAll more :=
    Shape.lexemesAll_append _ _
  rw [printedPieces, lexemesOf_argumentPieces, hcomma, lexemesOf_argumentPieces, hcomma, hflag,
    lexemesOf, List.append_nil, printedTrees, hshapes, hlexemes, hshapes, hlexemes]

/-- What is printed of the arguments is read as these arguments. -/
theorem spells_of_toList {text : String} {a : Arguments} (spaced : Bool)
    (h : text.toList = spell (printedPieces spaced a)) : Spells text a := by
  have hhead : ∃ cs, spell (printedPieces spaced a) = 'g' :: cs := ⟨_, List.flatMap_cons⟩
  refine spells_of_pieces h ?_ (valid_printedPieces spaced a) (apart_printedPieces spaced a)
    (lexemesOf_printedPieces spaced a) (ofTrees_printedTrees spaced a)
  obtain ⟨cs, hcs⟩ := hhead
  rw [hcs]
  exact fun hmark => absurd (Option.some.inj hmark) (by decide)

/-! ## The printed text -/

/-- A field's value as it is printed. -/
def valueText : (f : Field) → f.Value → String
  | .group, text => Text.quoted text
  | .priority, n => toString n.toInt
  | .flag, n => toString n.toInt

/-- An argument as it is printed. -/
def argumentText (spaced : Bool) (f : Field) (v : f.Value) : String :=
  f.name ++ (if spaced then " = " else "=") ++ valueText f v

theorem toList_valueText (f : Field) (v : f.Value) :
    (valueText f v).toList = spell (valuePieces f v) := by
  cases f with
  | group => exact (List.append_nil _).symm
  | priority => exact Loader.toList_toString_int v.toInt
  | flag => exact Loader.toList_toString_int v.toInt

theorem toList_argumentText (spaced : Bool) (f : Field) (v : f.Value) :
    (argumentText spaced f v).toList = spell (argumentPieces spaced f v) := by
  have hcons (p : Piece) (ps : List Piece) : spell (p :: ps) = p.text ++ spell ps :=
    List.flatMap_cons
  rw [argumentText, String.toList_append, String.toList_append, toList_valueText, argumentPieces,
    hcons, Token.Piece.spell_append, hcons, Token.Piece.spell_append, List.append_assoc]
  cases spaced <;> rfl

/-- The arguments are read back from a text that shows them as it does. -/
theorem spells_printed (spaced : Bool) (a : Arguments) :
    Spells (argumentText spaced .group a.group ++ ", " ++
      argumentText spaced .priority a.priority ++ ", " ++ argumentText spaced .flag a.flag) a := by
  refine spells_of_toList spaced ?_
  have hcomma : spell commaPieces = ", ".toList := rfl
  simp only [String.toList_append, toList_argumentText, printedPieces, Token.Piece.spell_append,
    hcomma, List.append_assoc]

/-! ## Where arguments are printed -/

theorem tab_not_mem_digits {base : Nat} (h : 1 < base) (hle : base ≤ 16) (n : Nat) :
    '\t' ∉ Nat.toDigits base n := by
  have hdigit : ∀ d : Fin 16, '\t' ≠ Nat.digitChar d.val := by decide
  intro hmem
  obtain ⟨d, hd, heq⟩ := Token.areDigits_toDigits h n _ hmem
  exact hdigit ⟨d, by omega⟩ heq

theorem tab_not_mem_quoted (text : String) : '\t' ∉ (Text.quoted text).toList := by
  have hchar (c : Char) : '\t' ∉ Text.Quoted.encodeChar c := by
    unfold Text.Quoted.encodeChar
    split
    · decide
    split
    · decide
    rename_i htab
    repeat (split; · decide)
    split
    · simp [Text.Quoted.hexDigits, tab_not_mem_digits]
    · exact fun h => htab (List.mem_singleton.mp h).symm
  rw [Token.toList_quoted]
  simp [Text.Quoted.encode, hchar]

theorem tab_not_mem_valueText (f : Field) (v : f.Value) : '\t' ∉ (valueText f v).toList := by
  have hinteger (value : Int) : '\t' ∉ (toString value).toList := by
    rw [Loader.toList_toString_int]
    unfold integerPieces
    split <;> simp [spell, Piece.text, tab_not_mem_digits]
  cases f with
  | group => exact tab_not_mem_quoted v
  | priority => exact hinteger v.toInt
  | flag => exact hinteger v.toInt

/-- An argument is in one column. -/
theorem tab_not_mem_argumentText (f : Field) (v : f.Value) :
    '\t' ∉ (argumentText false f v).toList := by
  have hname : '\t' ∉ (f.name ++ "=").toList := by cases f <;> decide
  have hvalue := tab_not_mem_valueText f v
  rw [argumentText, String.toList_append, List.mem_append]
  exact not_or.mpr ⟨hname, hvalue⟩

theorem facts_eq (r : CommandLine.Row) :
    r.facts = [argumentText false .group r.group, argumentText false .priority r.priority,
      argumentText false .flag r.flag, if r.capable then "ok" else "missing capability"] := rfl

/-- The last line of a row ends with its columns. -/
theorem columns_of_row (r : CommandLine.Row) :
    ∃ before line front, Text.split '\n' r.text = before ++ [line] ∧
      Text.split '\t' line = front ++ r.facts := by
  have hne : r.facts ≠ [] := List.cons_ne_nil _ _
  have htext : r.text = r.name ++ ("\t" ++ Text.joinWith "\t" r.facts) :=
    Text.joinWith_cons_of_ne_nil "\t" r.name hne
  have htab : ∀ fact ∈ r.facts, '\t' ∉ fact.toList := by
    rw [facts_eq]
    refine List.forall_mem_cons.mpr ⟨tab_not_mem_argumentText _ _, ?_⟩
    refine List.forall_mem_cons.mpr ⟨tab_not_mem_argumentText _ _, ?_⟩
    refine List.forall_mem_cons.mpr ⟨tab_not_mem_argumentText _ _, ?_⟩
    refine List.forall_mem_singleton.mpr ?_
    split <;> decide
  have hfeed : '\n' ∉ ("\t" ++ Text.joinWith "\t" r.facts).toList := by
    rw [String.toList_append, List.mem_append]
    exact not_or.mpr ⟨by decide, Text.not_mem_joinWith (by decide) fun fact hfact hc =>
      (r.onOneLine_facts fact hfact '\n' hc).1 rfl⟩
  obtain ⟨before, last, -, hlines⟩ := Text.split_append_of_not_mem r.name hfeed
  refine ⟨before, _, Text.split '\t' last, htext ▸ hlines, ?_⟩
  rw [Text.split_append_append rfl, Text.split_joinWith rfl hne htab]

/-- Arguments with these values as they would stand in an attribute. -/
def attributeText (group priority flag : String) : String :=
  s!"group = {group}, priority = {priority}, flag = {flag}"

/-- What is printed of the arguments is read back wherever it is printed. -/
structure ReadsBack (a : Arguments) : Prop where
  /-- As they would stand in an attribute. -/
  inAttribute : Spells (attributeText (Text.quoted a.group) (toString a.priority.toInt)
    (toString a.flag.toInt)) a
  /-- As columns of a listing: the last line of each declaration that has the arguments ends with
  them and a verdict, whatever the name of the declaration is. -/
  inListing : ∀ (d : Declaration) (marker : String) (capable : Bool),
    (d.marker? marker).getD Arguments.standard = a →
      ∃ before line front group priority flag verdict,
        Text.split '\n' (CommandLine.listing d marker capable) = before ++ [line] ∧
        Text.split '\t' line = front ++ [group, priority, flag, verdict] ∧
        Spells (group ++ ", " ++ priority ++ ", " ++ flag) a
  /-- As the last three literals of the statement that registers a receiver with the arguments. -/
  inLoader : ∀ r : Receiver, (⟨r.group, r.priority, r.flag⟩ : Arguments) = a →
    ∃ group priority flag,
      Loader.receiverLine r = "\t\tdata_list.push(::" ++ Loader.recordType ++ "::new(" ++
        Text.joinWith ", " [Text.quoted r.module, Text.quoted r.name, group, priority, flag] ++
        "));" ∧
      Spells (attributeText group priority flag) a

theorem spells_attributeText (a : Arguments) :
    Spells (attributeText (Text.quoted a.group) (toString a.priority.toInt)
      (toString a.flag.toInt)) a := by
  have hstring (s : String) : toString s = s := rfl
  have htext : attributeText (Text.quoted a.group) (toString a.priority.toInt)
        (toString a.flag.toInt) =
      argumentText true .group a.group ++ ", " ++ argumentText true .priority a.priority ++ ", " ++
        argumentText true .flag a.flag := by
    refine String.toList_injective ?_
    simp [attributeText, argumentText, Field.name, valueText, hstring]
  rw [htext]
  exact spells_printed true a

/-- Printing the arguments of a marker and reading them is the identity, for all texts and all
integers of 32 bits. -/
theorem readsBack_printed (a : Arguments) : ReadsBack a where
  inAttribute := spells_attributeText a
  inListing := by
    rintro d marker capable rfl
    let r : CommandLine.Row :=
      let a := (d.marker? marker).getD Arguments.standard
      ⟨d.name, a.group, a.priority, a.flag, capable⟩
    obtain ⟨before, line, front, hlines, hcolumns⟩ := columns_of_row r
    exact ⟨before, line, front, _, _, _, _, hlines, hcolumns, spells_printed false _⟩
  inLoader := by
    rintro r rfl
    exact ⟨_, _, _, rfl, spells_attributeText ⟨r.group, r.priority, r.flag⟩⟩

example :
    attributeText (Text.quoted "\x007\u0301\\\"") (toString Int32.minValue.toInt) (toString 7) =
      "group = \"\\07\\u\x7b301\x7d\\\\\\\"\", priority = -2147483648, flag = 7" := by
  decide +kernel

end ReceiverLoader.Marker
