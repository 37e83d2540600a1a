import ReceiverLoader.Loader
import ReceiverLoader.Marker.Expansion
import ReceiverLoader.Proofs.FileSystem.Writing
import ReceiverLoader.Proofs.Grammar.Attributed
import ReceiverLoader.Proofs.Source.Files

/-!
# The attribute macro and the search agree on markers

A marker is read twice, by the attribute macro when the marked item is compiled and by the search
through the source tree. Both read the arguments alike.

* `ofAttribute_of`: the arguments of an attribute are those that its tokens spell.
* `load_marked`: what loading a single marked declaration comes to.
* `expand_agrees`: one accepts a marker iff the other does, with the same arguments or the same
  message.
-/

namespace ReceiverLoader.Marker

open Grammar (Alike Attribute AttributeContent Path TypeDeclaration attributeTrees)
open Token (Delimiter Position)

/-! ## Arguments -/

theorem Arguments.ofTrees_nil : ofTrees [] = .ok standard := rfl

/-- An attribute carries the arguments that its tokens spell; without any, the standard ones. -/
theorem Arguments.ofAttribute_of (path : Path) {ts : List Token.Tree}
    {delimiter? : Option Delimiter} (hbare : delimiter? = none → ts = []) :
    ofAttribute ⟨path, .of ts delimiter?⟩ = ofTrees ts := by
  cases delimiter? with
  | none => rw [hbare rfl, ofTrees_nil]; rfl
  | some d => rfl

end ReceiverLoader.Marker

namespace ReceiverLoader.Source

open Grammar (TypeDeclaration Attribute)

variable {fs : FileSystem} {directory file : FilePath} {content crateName marker : String}
  {d : TypeDeclaration} {a : Attribute}

/-- Loading a tree of one file with one marked declaration comes to reading the marker. -/
theorem load_marked (hfiles : sourceFiles fs directory = .ok [file])
    (hcontent : fs.readText file = .ok content) (hitems : readItems content = .ok [.type d])
    (ha : d.attributes.find? (Marker.isMarker marker) = some a) :
    ∃ name location types, load fs directory crateName marker =
      match Marker.Arguments.ofAttribute a with
      | .ok arguments =>
        .ok ⟨⟨[{ name, type := name, location, markers := [(marker, arguments)] }]⟩, types, [file]⟩
      | .error e => .error (.marker file marker e) := by
  unfold load
  rw [hfiles]
  simp only [collect, hcontent, Collection.addFile, hitems, findings, itemsFindings, itemFindings,
    List.append_nil, Collection.addFindings, Collection.addFinding, Collection.declarationOf, ha]
  cases Marker.Arguments.ofAttribute a with
  | error e => exact ⟨d.name, none, TypeTable.empty, rfl⟩
  | ok arguments => exact ⟨_, _, _, rfl⟩

end ReceiverLoader.Source

namespace ReceiverLoader.Marker

open Grammar (Alike Attribute AttributeContent Path TypeDeclaration attributeTrees)
open Token (Delimiter Position)

theorem expand_eq {arguments item : String} {ts is : List Token.Tree} {d : TypeDeclaration}
    (harguments : Token.trees arguments = .ok ts) (hitem : Token.trees item = .ok is)
    (hd : Grammar.readItem is = .ok (.type d)) :
    expand arguments item =
      match Arguments.ofTrees ts with
      | .ok _ => .ok (Token.Tree.writtenAll d.trees)
      | .error e => .error (.arguments e) := by
  unfold expand
  rw [harguments, hitem]
  cases hparsed : Arguments.ofTrees ts with
  | error e => simp only [Except.mapError, bind, Except.bind, hparsed]
  | ok values =>
    simp only [Except.mapError, bind, Except.bind, hparsed, hd]
    rfl

/-- What the expansion of a marker and loading the marked declaration from a file have in common;
`parsed` are the arguments that the tokens of the marker spell. -/
structure Agree (expansion : Except ExpansionError (List String)) (parsed : Except Error Arguments)
    (loaded : Except Source.Error Source.Tree) : Prop where
  succeeds : (∃ tokens, expansion = .ok tokens) ↔ ∃ tree, loaded = .ok tree
  arguments : ∀ tokens tree, expansion = .ok tokens → loaded = .ok tree →
    ∃ arguments d, parsed = .ok arguments ∧ tree.round.declarations = [d] ∧
      d.markers = [(Loader.markerName, arguments)]
  message : ∀ e e', expansion = .error e → loaded = .error e' →
    ∃ file reason, e' = .marker file Loader.markerName reason ∧ e.message = reason.message

/-- Arguments that are read alike, or refused for one cause, make the expansion and the loaded tree
agree. -/
theorem agree_of_causes (parsed found : Except Error Arguments) (tokens : List String)
    (name : String) (location : Option Location) (types : TypeTable) (file : FilePath) :
    parsed.mapError Error.cause = found.mapError Error.cause →
      Agree
        (match parsed with
          | .ok _ => .ok tokens
          | .error e => .error (.arguments e))
        parsed
        (match found with
          | .ok arguments =>
            .ok ⟨⟨[{ name, type := name, location, markers := [(Loader.markerName, arguments)] }]⟩,
              types, [file]⟩
          | .error e => .error (.marker file Loader.markerName e)) := by
  intro hcause
  cases parsed with
  | ok arguments =>
    cases found with
    | error e => cases hcause
    | ok found =>
      cases hcause
      constructor
      case succeeds => exact iff_of_true ⟨_, rfl⟩ ⟨_, rfl⟩
      case arguments =>
        intro _ _ _ hloaded
        cases hloaded
        exact ⟨arguments, _, rfl, rfl, rfl⟩
      case message =>
        intro _ _ hexpansion
        cases hexpansion
  | error e =>
    cases found with
    | ok found => cases hcause
    | error e' =>
      have hcause : e.cause = e'.cause := Except.error.inj hcause
      constructor
      case succeeds =>
        constructor <;>
        · rintro ⟨_, h⟩
          cases h
      case arguments =>
        intro _ _ hexpansion
        cases hexpansion
      case message =>
        intro _ _ hexpansion hloaded
        cases hexpansion
        cases hloaded
        exact ⟨file, e', rfl, congrArg Cause.message hcause⟩

theorem head_of_alike {d : TypeDeclaration} {a : Attribute} {items : List Grammar.Item}
    (h : Alike [Grammar.Item.type d] items) (ha : d.attributes.head? = some a) :
    ∃ e, items = [.type e] ∧ ∃ b, e.attributes.head? = some b ∧ Alike a b := by
  obtain ⟨h⟩ := h
  cases h with
  | cons hitem hnil =>
    cases hnil
    cases hitem with
    | @type d e hde =>
      obtain ⟨rest, hrest⟩ := List.head?_eq_some_iff.mp ha
      have hattributes := hde.like.1
      rw [hrest] at hattributes
      generalize hbs : e.attributes = bs at hattributes
      cases hattributes with
      | cons hab _ => exact ⟨e, rfl, _, by rw [hbs]; rfl, ⟨hab⟩⟩

/-- The attribute macro accepts the arguments `ts` of a marker in front of a declaration iff the
declaration can be loaded from a file with the marker, be its path qualified and its delimiters what
they may; both read the same arguments or say the same of them. Without delimiters the marker is
read as one without arguments. -/
theorem expand_agrees {arguments item : String} {ts is us : List Token.Tree} {d : TypeDeclaration}
    (harguments : Token.trees arguments = .ok ts) (hitem : Token.trees item = .ok is)
    (hd : Grammar.readItem is = .ok (.type d)) {path : Path} (hpath : path.Plain)
    (hmarker : path.segments.getLast? = some Loader.markerName) {delimiter? : Option Delimiter}
    (hbare : delimiter? = none → ts = []) {fs : FileSystem} {directory file : FilePath}
    {content : String} (hfiles : Source.sourceFiles fs directory = .ok [file])
    (hcontent : fs.readText file = .ok content)
    (hus : Token.treesOf (Source.dropInterpreter (Source.dropByteOrderMark content.toList)) =
      .ok us)
    (htokens : Token.Tree.shapes us = Token.Tree.shapes (attributeTrees path ts delimiter? ++ is))
    (crateName : String) :
    Agree (expand arguments item) (Arguments.ofTrees ts)
      (Source.load fs directory crateName Loader.markerName) := by
  -- The file holds the declaration with the marker in front of its attributes.
  obtain ⟨d', hread, hhead⟩ := Grammar.readModule_attributed hpath ts delimiter? hd
  have hlike : Alike (attributeTrees path ts delimiter? ++ is) us :=
    ⟨Grammar.like_trees_iff.mpr htokens.symm⟩
  obtain ⟨items, hmodule, hitems⟩ := Grammar.readModule_alike hlike hread
  obtain ⟨e, rfl, a, hfirst, ha⟩ := head_of_alike hitems hhead
  have hread : Source.readItems content = .ok [.type e] := by
    unfold Source.readItems
    rw [hus]
    simp only [hmodule]
  have hfind : e.attributes.find? (isMarker Loader.markerName) = some a := by
    obtain ⟨rest, hrest⟩ := List.head?_eq_some_iff.mp hfirst
    rw [hrest]
    refine List.find?_cons_of_pos ?_
    rw [isMarker, ← ha.like.1]
    exact beq_iff_eq.mpr hmarker
  obtain ⟨name, location, types, hload⟩ := Source.load_marked hfiles hcontent hread hfind
  have hcause := Arguments.ofAttribute_alike ha
  rw [Arguments.ofAttribute_of path hbare] at hcause
  rw [expand_eq harguments hitem hd, hload]
  exact agree_of_causes _ _ _ name location types file hcause

/-- A source tree of one file, with a marker of a qualified path between brackets. -/
def markedFile : FileSystem :=
  ⟨[(["src"], .directory),
    (["src", "lib.rs"], .file "#[m::module_event_receiver[priority = 5]] struct S;".toUTF8)], []⟩

/-- The trees of the marker's arguments. -/
def priorityTrees : List Token.Tree :=
  [.leaf ⟨1, 0⟩ (.word "priority"), .leaf ⟨1, 9⟩ (.mark '=' false), .leaf ⟨1, 11⟩ (.literal "5")]

/-- The trees of the marked item. -/
def structTrees : List Token.Tree :=
  [.leaf ⟨1, 0⟩ (.word "struct"), .leaf ⟨1, 7⟩ (.word "S"), .leaf ⟨1, 8⟩ (.mark ';' false)]

/-- The trees of the file. -/
def markedTrees : List Token.Tree :=
  [.leaf ⟨1, 0⟩ (.mark '#' false),
    .group ⟨1, 1⟩ ⟨1, 40⟩ .bracket
      [.leaf ⟨1, 2⟩ (.word "m"), .leaf ⟨1, 3⟩ (.mark ':' true), .leaf ⟨1, 4⟩ (.mark ':' false),
        .leaf ⟨1, 5⟩ (.word "module_event_receiver"),
        .group ⟨1, 26⟩ ⟨1, 39⟩ .bracket
          [.leaf ⟨1, 27⟩ (.word "priority"), .leaf ⟨1, 36⟩ (.mark '=' false),
            .leaf ⟨1, 38⟩ (.literal "5")]],
    .leaf ⟨1, 42⟩ (.word "struct"), .leaf ⟨1, 49⟩ (.word "S"), .leaf ⟨1, 50⟩ (.mark ';' false)]

/-- Whether what was read is a type. -/
def isType : Except Grammar.SyntaxError Grammar.Item → Bool
  | .ok (.type _) => true
  | _ => false

theorem exists_type_of_isType {read : Except Grammar.SyntaxError Grammar.Item}
    (h : isType read = true) : ∃ d, read = .ok (.type d) := by
  unfold isType at h
  split at h
  · exact ⟨_, rfl⟩
  · cases h

theorem sourceFiles_markedFile :
    Source.sourceFiles markedFile ⟨"src"⟩ = .ok [⟨"src/lib.rs"⟩] :=
  Source.sourceFiles_of_filesBelow rfl rfl (by decide)

theorem expand_agrees_markedFile :
    (∃ tokens, expand "priority = 5" "struct S;" = .ok tokens) ∧
      Agree (expand "priority = 5" "struct S;") (.ok ⟨"", 5, 0⟩)
        (Source.load markedFile ⟨"src"⟩ "c" Loader.markerName) := by
  have harguments : Token.trees "priority = 5" = .ok priorityTrees := rfl
  have hitem : Token.trees "struct S;" = .ok structTrees := rfl
  obtain ⟨d, hd⟩ := exists_type_of_isType
    (show isType (Grammar.readItem structTrees) = true by decide +kernel)
  have hpath : (⟨false, ["m", Loader.markerName]⟩ : Path).Plain := ⟨by decide, by decide⟩
  have hcontent : markedFile.readText ⟨"src/lib.rs"⟩ =
      .ok "#[m::module_event_receiver[priority = 5]] struct S;" := FileSystem.readText_of_find rfl
  have htrees : Token.treesOf (Source.dropInterpreter (Source.dropByteOrderMark
      "#[m::module_event_receiver[priority = 5]] struct S;".toList)) = .ok markedTrees := rfl
  have htokens : Token.Tree.shapes markedTrees = Token.Tree.shapes
      (attributeTrees ⟨false, ["m", Loader.markerName]⟩ priorityTrees (some .bracket) ++
        structTrees) := rfl
  have hbare : some Delimiter.bracket = none → priorityTrees = [] := nofun
  have hparsed : Arguments.ofTrees priorityTrees = .ok ⟨"", 5, 0⟩ := by decide +kernel
  have hexpand := expand_eq harguments hitem hd
  have hagree := expand_agrees harguments hitem hd hpath rfl hbare sourceFiles_markedFile hcontent
    htrees htokens "c"
  rw [hparsed] at hexpand hagree
  exact ⟨⟨_, hexpand⟩, hagree⟩

end ReceiverLoader.Marker
