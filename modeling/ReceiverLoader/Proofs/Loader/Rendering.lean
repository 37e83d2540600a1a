import ReceiverLoader.Proofs.Loader.Pieces
import ReceiverLoader.Proofs.Loader.Reading
import ReceiverLoader.Proofs.Token.Comment

/-!
# Reading a rendered loader

A loader says what it was rendered for: whatever the texts of its receivers hold, none of them ends
its literal or its line.

* `trees_content`: the token trees of a loader.
* `readLoader_content`: the statements of a loader are those that register its receivers, in order.
* `splitAtText_content`: its lines are a header, one line for each receiver and a footer.
* `render_reads`: all of this, and what running the statements does.
-/

namespace ReceiverLoader.Loader

open Token (Piece Shape Leaf Lexeme Position IsReturn lexemesFrom)
open Token.Piece (spell apart lexemesOf)

/-! ## Line ends -/

/-- The pieces of a line end. -/
def endPieces (ret : List Char) : List Piece := (ret ++ ['\n']).map .space

theorem spell_endPieces (ret : List Char) : spell (endPieces ret) = ret ++ ['\n'] := by
  rw [endPieces, spell, List.flatMap_map]
  exact List.flatMap_singleton' (ret ++ ['\n'])

section LineEnds

variable {ret : List Char} (hret : IsReturn ret)

include hret

theorem valid_endPieces : ∀ p ∈ endPieces ret, p.Valid := by
  rcases hret with rfl | rfl
  · exact Piece.valid_of_all rfl
  · exact Piece.valid_of_all rfl

theorem apart_append_endPieces (ps qs : List Piece) :
    apart (ps ++ (endPieces ret ++ qs)) = (apart ps && apart qs) := by
  rcases hret with rfl | rfl
  · exact Piece.apart_append_space ps '\n' qs
  · exact (Piece.apart_append_space ps '\r' (.space '\n' :: qs)).trans
      (by rw [Piece.apart_space])

theorem lexemesOf_append_endPieces (ps qs : List Piece) :
    lexemesOf (ps ++ (endPieces ret ++ qs)) = lexemesOf ps ++ lexemesOf qs := by
  rcases hret with rfl | rfl
  · exact Piece.lexemesOf_append_space ps '\n' qs
  · exact Piece.lexemesOf_append_space ps '\r' (.space '\n' :: qs)

theorem apart_lines {pss : List (List Piece)} (h : ∀ ps ∈ pss, apart ps) :
    apart (pss.flatMap (· ++ endPieces ret)) := by
  induction pss with
  | nil => rfl
  | cons ps pss ih =>
    obtain ⟨hps, hpss⟩ := List.forall_mem_cons.mp h
    rw [List.flatMap_cons, List.append_assoc, apart_append_endPieces hret, hps, ih hpss]
    rfl

theorem lexemesOf_lines (pss : List (List Piece)) :
    lexemesOf (pss.flatMap (· ++ endPieces ret)) = pss.flatMap lexemesOf := by
  induction pss with
  | nil => rfl
  | cons ps pss ih =>
    rw [List.flatMap_cons, List.append_assoc, lexemesOf_append_endPieces hret, ih,
      List.flatMap_cons]

theorem valid_lines {pss : List (List Piece)} (h : ∀ ps ∈ pss, ∀ p ∈ ps, p.Valid) :
    ∀ p ∈ pss.flatMap (· ++ endPieces ret), p.Valid := by
  intro p hp
  obtain ⟨ps, hps, hp⟩ := List.mem_flatMap.mp hp
  rcases List.mem_append.mp hp with hp | hp
  · exact h ps hps p hp
  · exact valid_endPieces hret p hp

end LineEnds

/-! ## Trees -/

/-- The trees of the attribute that documents the loader's type. -/
def documentationShapes (text : List Char) : List Shape :=
  [.leaf (.mark '#' false), .group .bracket
    [.leaf (.word "doc"), .leaf (.mark '=' false),
      .leaf (.literal (String.ofList (Token.documentationLiteral text)))]]

/-- The trees of the statements in a loader. -/
def bodyShapes (receivers : List Receiver) : List Shape :=
  if receivers = [] then
    [.leaf (.word "let"), .leaf (.word "_"), .leaf (.mark '=' false), .leaf (.word "data_list"),
      .leaf (.mark ';' false)]
  else receivers.flatMap receiverShapes

/-- The trees of the function that registers receivers. -/
def functionShapes (receivers : List Receiver) : List Shape :=
  [.leaf (.word "fn"), .leaf (.word "load"), .group .parenthesis
      [.leaf (.mark '&' false), .leaf (.word "self"), .leaf (.mark ',' false),
        .leaf (.word "data_list"), .leaf (.mark ':' false), .leaf (.mark '&' false),
        .leaf (.word "mut"), .leaf (.mark ':' true), .leaf (.mark ':' false), .leaf (.word "std"),
        .leaf (.mark ':' true), .leaf (.mark ':' false), .leaf (.word "vec"),
        .leaf (.mark ':' true), .leaf (.mark ':' false), .leaf (.word "Vec"),
        .leaf (.mark '<' true), .leaf (.mark ':' true), .leaf (.mark ':' false),
        .leaf (.word "modev_data"), .leaf (.mark ':' true), .leaf (.mark ':' false),
        .leaf (.word "ModuleEventReceiverData"), .leaf (.mark '>' false)],
    .group .brace (bodyShapes receivers)]

/-- The trees behind the comments of a loader. -/
def codeShapes (module : String) (receivers : List Receiver) : List Shape :=
  [.leaf (.mark '#' false), .group .bracket
      [.leaf (.word "allow"), .group .parenthesis [.leaf (.word "non_camel_case_types")]],
    .leaf (.word "pub"), .leaf (.word "struct"), .leaf (.word (typeName module)),
    .leaf (.mark ';' false), .leaf (.word "impl"), .leaf (.mark ':' true), .leaf (.mark ':' false),
    .leaf (.word "modev_data"), .leaf (.mark ':' true), .leaf (.mark ':' false),
    .leaf (.word "ModuleEventDataLoader"), .leaf (.word "for"), .leaf (.word (typeName module)),
    .group .brace (functionShapes receivers)]

theorem lexemesOf_bodyPieces (receivers : List Receiver) :
    (bodyPieces receivers).flatMap lexemesOf = Shape.lexemesAll (bodyShapes receivers) := by
  have hall : ∀ rs : List Receiver, (rs.map receiverPieces).flatMap lexemesOf =
      Shape.lexemesAll (rs.flatMap receiverShapes) := by
    intro rs
    induction rs with
    | nil => rfl
    | cons r rs ih =>
      rw [List.map_cons, List.flatMap_cons, List.flatMap_cons, ih, lexemesOf_receiverPieces,
        Shape.lexemesAll_append]
  unfold bodyPieces bodyShapes
  split
  · rfl
  · exact hall receivers

theorem lexemesOf_codePieces (module : String) (receivers : List Receiver) :
    (codePieces module receivers).flatMap lexemesOf =
      Shape.lexemesAll (codeShapes module receivers) := by
  rw [codePieces, List.flatMap_append, List.flatMap_append, lexemesOf_bodyPieces]
  simp [codeShapes, functionShapes, Shape.lexemesAll, Shape.lexemes, openingPieces, closingPieces,
    typePiece, allowPieces, structPieces, implPieces, functionPieces, lexemesOf, Piece.lexemes,
    Piece.beginsWithMark]

/-! ## The text of a loader -/

/-- What the first line says. -/
def generatedText : List Char := "@generated by modev-processor. Do not edit.".toList

/-- What the documentation of the loader's type says. -/
def documentationText (module : String) : List Char :=
  "Loads the module event receivers declared in module `".toList ++ (module.toList ++ "`.".toList)

theorem toList_documentation (module : String) :
    ("/// Loads the module event receivers declared in module `" ++ module ++ "`.").toList =
      '/' :: '/' :: '/' :: ' ' :: documentationText module := by
  rw [String.toList_append, String.toList_append, List.append_assoc]
  rfl

theorem lines_eq (module : String) (receivers : List Receiver) :
    lines module receivers =
      ["// @generated by modev-processor. Do not edit.", "",
        "/// Loads the module event receivers declared in module `" ++ module ++ "`."] ++
      codeLines module receivers ++ [""] := by
  have hheader : headerLines module =
      ["// @generated by modev-processor. Do not edit.", "",
        "/// Loads the module event receivers declared in module `" ++ module ++ "`."] ++
      (headerLines module).drop 3 := rfl
  have hfooter : footerLines = ["\t\x7d", "\x7d"] ++ [""] := rfl
  rw [lines, codeLines, hfooter]
  rw [hheader]
  simp only [List.append_assoc]
  rfl

theorem content_render (module : String) (receivers : List Receiver) (separator : String) :
    (render module receivers separator).content =
      Text.joinWith separator (lines module receivers) := by
  rw [render]

theorem toList_content {separator : String} {ret : List Char}
    (hseparator : separator.toList = ret ++ ['\n']) (module : String) (receivers : List Receiver) :
    (render module receivers separator).content.toList =
      '/' :: '/' :: ' ' :: (generatedText ++ (ret ++ '\n' :: (ret ++ '\n' ::
        '/' :: '/' :: '/' :: ' ' :: (documentationText module ++ (ret ++ '\n' ::
          spell ((codePieces module receivers).flatMap (· ++ endPieces ret))))))) := by
  have hcode : ((codeLines module receivers).flatMap fun line => line.toList ++ separator.toList) =
      spell ((codePieces module receivers).flatMap (· ++ endPieces ret)) := by
    have hspell : spell ((codePieces module receivers).flatMap (· ++ endPieces ret)) =
        ((codePieces module receivers).map spell).flatMap (· ++ spell (endPieces ret)) := by
      rw [spell, List.flatMap_assoc, List.flatMap_map]
      simp only [List.flatMap_append]
      rfl
    rw [hspell, ← map_toList_codeLines, List.flatMap_map, spell_endPieces, hseparator]
  have hgenerated : "// @generated by modev-processor. Do not edit.".toList =
      '/' :: '/' :: ' ' :: generatedText := rfl
  rw [content_render, lines_eq, Text.toList_joinWith, List.flatMap_append, hcode]
  simp only [List.flatMap_cons, List.flatMap_nil, hgenerated, toList_documentation, hseparator,
    String.toList_empty, List.nil_append, List.append_nil, List.cons_append, List.append_assoc]

/-! ## The trees of a loader -/

theorem onOneLine_documentationText {module : String} (h : Text.Ident.isFragment module) :
    Text.OnOneLine (documentationText module) := by
  have hmodule : Text.OnOneLine module.toList :=
    Token.onOneLine_of_isContinue (List.all_eq_true.mp h)
  exact Text.onOneLine_append (by decide) (Text.onOneLine_append hmodule (by decide))

/-- The trees of a loader. -/
def loaderShapes (module : String) (receivers : List Receiver) : List Shape :=
  documentationShapes (' ' :: documentationText module) ++ codeShapes module receivers

theorem map_lexemes_content {module : String} (hmodule : Text.Ident.isFragment module)
    {separator : String} {ret : List Char} (hret : IsReturn ret)
    (hseparator : separator.toList = ret ++ ['\n']) (receivers : List Receiver) :
    (Token.lexemes (render module receivers separator).content.toList).map (·.2) =
      Shape.lexemesAll (loaderShapes module receivers) := by
  rw [toList_content hseparator]
  have hspaces : ∀ c ∈ '\n' :: (ret ++ ['\n']), c ∈ Token.spaces := by
    rcases hret with rfl | rfl <;> exact Text.forall_mem_of_all (by decide)
  have hblank : ∀ p rest, (lexemesFrom 0 p ('\n' :: (ret ++ '\n' :: rest))).map (·.2) =
      (lexemesFrom 0 p rest).map (·.2) := by
    intro p rest
    have hrest := Token.map_lexemesFrom_spaces hspaces p rest
    rw [List.cons_append, List.append_assoc, List.singleton_append] at hrest
    exact hrest
  have hfeed : ∀ p rest, (lexemesFrom 0 p ('\n' :: rest)).map (·.2) =
      (lexemesFrom 0 p rest).map (·.2) := by
    intro p rest
    exact Token.map_lexemesFrom_spaces (List.forall_mem_singleton.mpr (by decide)) p rest
  have hcode : ∀ p, (lexemesFrom 0 p
      (spell ((codePieces module receivers).flatMap (· ++ endPieces ret)))).map (·.2) =
        Shape.lexemesAll (codeShapes module receivers) := by
    intro p
    rw [Token.map_lexemesFrom_spell (valid_lines hret (valid_codePieces hmodule receivers))
      (apart_lines hret (apart_codePieces module receivers)), lexemesOf_lines hret,
      lexemesOf_codePieces]
  have hdocumentation : ∀ n,
      Token.Documentation.lexemes ⟨false, ' ' :: documentationText module, n⟩ =
        Shape.lexemesAll (documentationShapes (' ' :: documentationText module)) := fun n => rfl
  rw [Token.lexemes, if_neg (by decide), Token.map_lexemesFrom_comment (by decide) hret, hblank,
    Token.map_lexemesFrom_documentation (onOneLine_documentationText hmodule) hret, hfeed, hcode,
    hdocumentation, loaderShapes, Shape.lexemesAll_append]

/-- The token trees of a loader. -/
theorem trees_content {module : String} (hmodule : Text.Ident.isFragment module)
    {separator : String} {ret : List Char} (hret : IsReturn ret)
    (hseparator : separator.toList = ret ++ ['\n']) (receivers : List Receiver) :
    ∃ ts, Token.trees (render module receivers separator).content = .ok ts ∧
      Token.Tree.shapes ts = loaderShapes module receivers :=
  Token.assemble_eq_ok (map_lexemes_content hmodule hret hseparator receivers)

/-! ## What the trees of a loader say -/

theorem readNatural_digits (n : Nat) :
    readNatural (String.ofList (Nat.toDigits 10 n)) = some n := by
  rw [readNatural, Token.ofWritten_toDigits]
  rfl

theorem readInteger_integerShapes (value : Int) :
    readInteger (integerShapes value) = some value := by
  unfold integerShapes
  split
  · have hvalue : Int.ofNat value.toNat = value := Int.toNat_of_nonneg ‹_›
    rw [readInteger, readNatural_digits, Option.map_some, hvalue]
  · have hvalue : Int.negOfNat (-value).toNat = value := by
      rw [Int.negOfNat_eq, Int.ofNat_eq_natCast]
      omega
    rw [readInteger, readNatural_digits, Option.map_some, hvalue]

theorem readInt32_integerShapes (value : Int32) :
    readInt32 (integerShapes value.toInt) = some value := by
  have hrange : Int32.minValue.toInt ≤ value.toInt ∧ value.toInt ≤ Int32.maxValue.toInt :=
    ⟨value.minValue_le_toInt, value.toInt_le⟩
  rw [readInt32, readInteger_integerShapes, Option.bind_some, if_pos hrange, Int32.ofInt_toInt]

theorem readText_textShapes (text : String) : readText (textShapes text) = some text := by
  rw [textShapes, readText, Token.ofWritten_quoted]

theorem betweenCommas_argumentShapes (r : Receiver) :
    betweenCommas (argumentShapes r) =
      [textShapes r.module, textShapes r.name, textShapes r.group, integerShapes r.priority.toInt,
        integerShapes r.flag.toInt] := by
  unfold argumentShapes integerShapes
  split <;> split <;> rfl

theorem readRecord_argumentShapes (r : Receiver) : readRecord (argumentShapes r) = some r := by
  rw [readRecord, betweenCommas_argumentShapes]
  simp only [readText_textShapes, readInt32_integerShapes]
  rfl

theorem readStatements_receiverShapes (r : Receiver) (ss : List Shape) :
    readStatements (receiverShapes r ++ ss) = (readStatements ss).map (.push r :: ·) := by
  have hread : readStatements (receiverShapes r ++ ss) =
      (readRecord (argumentShapes r)).bind fun r => (readStatements ss).map (.push r :: ·) := rfl
  rw [hread, readRecord_argumentShapes, Option.bind_some]

/-- The statements of a loader: one for each receiver, or one that leaves the list alone. -/
def statements (receivers : List Receiver) : List Statement :=
  if receivers = [] then [.leave] else receivers.map .push

theorem readStatements_bodyShapes (receivers : List Receiver) :
    readStatements (bodyShapes receivers) = some (statements receivers) := by
  have hall : ∀ rs : List Receiver,
      readStatements (rs.flatMap receiverShapes) = some (rs.map .push) := by
    intro rs
    induction rs with
    | nil => rfl
    | cons r rs ih =>
      rw [List.flatMap_cons, readStatements_receiverShapes, ih, Option.map_some, List.map_cons]
  unfold bodyShapes statements
  split
  · rfl
  · exact hall receivers

theorem typeName_ne (module : String) : typeName module ≠ "impl" := by
  intro h
  have hlist := congrArg String.toList h
  rw [typeName, String.toList_append] at hlist
  cases hlist

theorem implementationBody_loaderShapes (module : String) (receivers : List Receiver) :
    implementationBody (loaderShapes module receivers) = some (functionShapes receivers) := by
  simp [loaderShapes, documentationShapes, codeShapes, implementationBody, firstBraces, typeName_ne]

/-- The statements of a loader are those that register its receivers, in order. -/
theorem readLoader_content {module : String} (hmodule : Text.Ident.isFragment module)
    {separator : String} {ret : List Char} (hret : IsReturn ret)
    (hseparator : separator.toList = ret ++ ['\n']) (receivers : List Receiver) :
    readLoader (render module receivers separator).content = some (statements receivers) := by
  obtain ⟨ts, hts, hshapes⟩ := trees_content hmodule hret hseparator receivers
  have hfunction : functionBody "load" (functionShapes receivers) =
      some (bodyShapes receivers) := rfl
  rw [readLoader, hts]
  simp only [hshapes, implementationBody_loaderShapes, Option.bind_some, hfunction,
    readStatements_bodyShapes]

theorem run_statements (receivers records : List Receiver) :
    run (statements receivers) records = records ++ receivers := by
  unfold statements
  split
  · rename_i h
    rw [h, List.append_nil]
    rfl
  · exact run_push receivers records

/-! ## The lines of a loader -/

theorem onOneLine_lines {module : String} (h : Text.Ident.isFragment module)
    (receivers : List Receiver) : ∀ line ∈ lines module receivers, Text.OnOneLine line.toList := by
  have hdocumentation : Text.OnOneLine
      ("/// Loads the module event receivers declared in module `" ++ module ++ "`.").toList := by
    have hmark : Text.OnOneLine ['/', '/', '/', ' '] := by decide
    rw [toList_documentation]
    exact Text.onOneLine_append hmark (onOneLine_documentationText h)
  have hcode : ∀ line ∈ codeLines module receivers, Text.OnOneLine line.toList := by
    intro line hline
    have hmem : line.toList ∈ (codePieces module receivers).map spell := by
      rw [← map_toList_codeLines]
      exact List.mem_map_of_mem hline
    obtain ⟨ps, hps, hspell⟩ := List.mem_map.mp hmem
    rw [← hspell]
    exact Piece.onOneLine_spell (valid_codePieces h receivers ps hps)
      (staysOnLine_codePieces module receivers ps hps)
  have hfront : ∀ line ∈ ["// @generated by modev-processor. Do not edit.", "",
      "/// Loads the module event receivers declared in module `" ++ module ++ "`."],
      Text.OnOneLine line.toList := by
    refine List.forall_mem_cons.mpr ⟨by decide, List.forall_mem_cons.mpr ⟨by decide, ?_⟩⟩
    exact List.forall_mem_singleton.mpr hdocumentation
  rw [lines_eq]
  refine List.forall_mem_append.mpr ⟨List.forall_mem_append.mpr ⟨hfront, hcode⟩, ?_⟩
  exact List.forall_mem_singleton.mpr (by decide)

/-- The lines of a loader are what it was put together from. -/
theorem splitAtText_content {module : String} (hmodule : Text.Ident.isFragment module)
    {separator : String} {ret : List Char} (hret : IsReturn ret)
    (hseparator : separator.toList = ret ++ ['\n']) (receivers : List Receiver) :
    Text.splitAtText separator (render module receivers separator).content =
      lines module receivers := by
  have hline := onOneLine_lines hmodule receivers
  have hne : lines module receivers ≠ [] := by
    rw [lines_eq]
    exact List.cons_ne_nil _ _
  have hfeed : ∀ line ∈ lines module receivers, '\n' ∉ line.toList := fun line hmem hc =>
    (hline line hmem '\n' hc).1 rfl
  have hreturn : ∀ line ∈ lines module receivers, '\r' ∉ line.toList := fun line hmem hc =>
    (hline line hmem '\r' hc).2 rfl
  rw [content_render]
  rcases hret with rfl | rfl
  · exact Text.splitAtText_joinWith hseparator hne hfeed
  · exact Text.splitAtText_joinWith hseparator hne hreturn

/-! ## A loader and its receivers -/

theorem bodyLines_eq (receivers : List Receiver) :
    bodyLines receivers =
      if receivers = [] then ["\t\tlet _ = data_list;"] else receivers.map receiverLine := by
  cases receivers <;> rfl

/-- A loader has a line for each receiver, and its statements append the receivers to any list,
whatever their texts hold: two loaders of a module are the same only if their receivers are. -/
theorem render_reads {module : String} (hmodule : Text.Ident.isFragment module)
    {separator : String} (hseparator : separator = "\n" ∨ separator = "\r\n")
    (receivers : List Receiver) :
    Text.splitAtText separator (render module receivers separator).content =
        headerLines module ++
          (if receivers = [] then ["\t\tlet _ = data_list;"] else receivers.map receiverLine) ++
          footerLines ∧
      readLoader (render module receivers separator).content =
        some (if receivers = [] then [.leave] else receivers.map .push) ∧
      (∀ records, (readLoader (render module receivers separator).content).map (run · records) =
        some (records ++ receivers)) ∧
      ∀ others, (render module others separator).content =
        (render module receivers separator).content → others = receivers := by
  have hends : ∃ ret, IsReturn ret ∧ separator.toList = ret ++ ['\n'] := by
    rcases hseparator with rfl | rfl
    · exact ⟨[], .inl rfl, rfl⟩
    · exact ⟨['\r'], .inr rfl, rfl⟩
  obtain ⟨ret, hret, hends⟩ := hends
  have hread := readLoader_content hmodule hret hends
  refine ⟨?_, hread receivers, ?_, ?_⟩
  · rw [splitAtText_content hmodule hret hends, lines, bodyLines_eq]
  · intro records
    rw [hread, Option.map_some, run_statements]
  · intro others hcontent
    have hstatements : some (statements others) = some (statements receivers) := by
      rw [← hread others, ← hread receivers, hcontent]
    have hrun := run_statements others []
    rw [Option.some.inj hstatements, run_statements] at hrun
    exact hrun.symm

/-- A receiver with texts at which a literal or a line could end, and with the least priority. -/
def awkwardReceiver : Receiver :=
  ⟨"line\r\nline", "quote\" // \\", "\x007\u0301", Int32.minValue, -1⟩

theorem render_reads_awkwardReceiver :
    Text.Ident.isFragment "demo" ∧
      Text.splitAtText "\r\n" (render "demo" [awkwardReceiver] "\r\n").content =
        headerLines "demo" ++ [receiverLine awkwardReceiver] ++ footerLines ∧
      readLoader (render "demo" [awkwardReceiver] "\r\n").content = some [.push awkwardReceiver] ∧
      (readLoader (render "demo" [awkwardReceiver] "\r\n").content).map
          (run · [awkwardReceiver]) = some [awkwardReceiver, awkwardReceiver] ∧
      (render "demo" [] "\r\n").content ≠ (render "demo" [awkwardReceiver] "\r\n").content := by
  obtain ⟨hlines, hstatements, hrun, hinjective⟩ :=
    @render_reads "demo" (by decide) "\r\n" (.inr rfl) [awkwardReceiver]
  refine ⟨by decide, hlines, hstatements, hrun [awkwardReceiver], fun h => ?_⟩
  cases hinjective [] h

end ReceiverLoader.Loader
