import Mathlib.Data.List.Basic
import ReceiverLoader.Proofs.CommandLine.Generation
import ReceiverLoader.Proofs.Round.Outcome
import ReceiverLoader.Proofs.Text.Split
import ReceiverLoader.Proofs.Token.Quoted

/-!
# Listing and generation

The command `scan` lists what the command `generate` registers. Each looks for receivers and checks
their capability in its own way: one lists all of them with a verdict, the other stops at the first
without the capability.

* `Row`: what the listing tells about a declaration, as data.
* `scan_ok`: the listing of a tree that was read.
* `Course.verdict`: what a round comes to, told by the capability of its receivers.
* `scan_predicts`: the listing of a tree predicts the generation of its loader.
-/

namespace ReceiverLoader

/-! ## What a round comes to -/

/-- The loader that a round has come to render, whether it could be written or not. -/
def Outcome.rendered? : Outcome → Option Artifact
  | generated a => some a
  | writeFailed a _ => some a
  | _ => none

/-- What a round with the receivers `ds` comes to where all types that need the capability are those
that pass the test `capable`. -/
inductive Verdict (handle : String) (capable : Declaration → Bool) (loader : Artifact)
    (ds : List Declaration) : Outcome → Prop
  | skipped : ds = [] → Verdict handle capable loader ds .skipped
  | violated {d : Declaration} : ds.find? (!capable ·) = some d →
      Verdict handle capable loader ds (.aborted (.violation ⟨d.name, handle, d.location⟩))
  | generated : ds.find? (!capable ·) = none → Verdict handle capable loader ds (.generated loader)
  | writeFailed (failure : WriteFailure) : ds.find? (!capable ·) = none →
      Verdict handle capable loader ds (.writeFailed loader failure)

namespace Verdict

variable {handle : String} {capable : Declaration → Bool} {loader : Artifact}
  {ds : List Declaration} {outcome : Outcome}

/-- All types have the capability iff the verdict is no violation. -/
theorem find?_eq_none_iff (h : Verdict handle capable loader ds outcome) :
    ds.find? (!capable ·) = none ↔ ∀ v, outcome ≠ .aborted (.violation v) := by
  cases h with
  | skipped hnil => simp [hnil]
  | violated hd => simp [hd]
  | generated hnone => simp [hnone]
  | writeFailed _ hnone => simp [hnone]

/-- A violation is about the first type without the capability. -/
theorem find?_of_violation {v : Violation}
    (h : Verdict handle capable loader ds (.aborted (.violation v))) :
    ∃ d, ds.find? (!capable ·) = some d ∧ v.declaration = d.name := by
  cases h with
  | violated hd => exact ⟨_, hd, rfl⟩

/-- No other loader is rendered. -/
theorem eq_of_rendered {a : Artifact} (h : Verdict handle capable loader ds outcome)
    (ha : outcome.rendered? = some a) : a = loader := by
  cases h with
  | skipped _ => cases ha
  | violated _ => cases ha
  | generated _ => exact (Option.some.inj ha).symm
  | writeFailed _ _ => exact (Option.some.inj ha).symm

end Verdict

/-- A round whose capability can be resolved comes to a verdict on its receivers. -/
theorem Course.verdict {settings : Settings} {module : String} {ds : List Declaration}
    {h after : Host} {outcome : Outcome} {handle : String}
    (hcourse : Course settings module ds h after outcome)
    (hresolve : h.resolveType settings.capability = some handle) :
    Verdict handle (fun d => h.isSubtype d.type handle) (loaderOf settings module ds) ds
      outcome := by
  have hfind {asked : Host} (hasked : Told h asked) :
      firstViolation asked handle ds =
        (ds.find? fun d => !h.isSubtype d.type handle).map
          fun d => (d, ⟨d.name, handle, d.location⟩) := by
    have hsub : ∀ type of, BuildContext.isSubtype asked type of = h.isSubtype type of :=
      (Host.sameStore_of_told hasked).isSubtype
    simp only [firstViolation_eq, hsub]
  cases hcourse with
  | skipped hnil => exact .skipped hnil
  | unresolved _ _ hnone => cases hresolve.symm.trans hnone
  | violated _ hasked hsome hviolation =>
    obtain rfl := Option.some.inj (hresolve.symm.trans hsome)
    rw [hfind hasked, Option.map_eq_some_iff] at hviolation
    obtain ⟨d, hd, heq⟩ := hviolation
    cases heq
    exact .violated hd
  | @written asked _ _ _ hasked hsome hviolation =>
    obtain rfl := Option.some.inj (hresolve.symm.trans hsome)
    rw [hfind hasked, Option.map_eq_none_iff] at hviolation
    cases (BuildContext.emit asked (loaderOf settings module ds)).2 with
    | ok path => exact .generated hviolation
    | error e => exact .writeFailed _ hviolation

namespace CommandLine

/-! ## The listing -/

/-- What the listing tells about a declaration. -/
structure Row where
  name : String
  group : String
  priority : Int32
  flag : Int32
  /-- Whether the declaration has the capability of a receiver. -/
  capable : Bool
deriving Repr, DecidableEq

namespace Row

/-- What stands behind the name in a row. -/
def facts (r : Row) : List String :=
  ["group=" ++ Text.quoted r.group, "priority=" ++ toString r.priority.toInt,
    "flag=" ++ toString r.flag.toInt, if r.capable then "ok" else "missing capability"]

/-- The text of a row. -/
def text (r : Row) : String := Text.joinWith "\t" (r.name :: r.facts)

/-- The row of a declaration, of whose type `types` tells the capability. -/
def ofDeclaration (types : TypeTable) (d : Declaration) : Row :=
  let arguments := (d.marker? Loader.markerName).getD Marker.Arguments.standard
  ⟨d.name, arguments.group, arguments.priority, arguments.flag,
    types.isSubtype d.type Loader.listenerTrait⟩

/-- The record of a row in the loader of a module. -/
def receiver (module : String) (r : Row) : Receiver :=
  ⟨module, r.name, r.group, r.priority, r.flag⟩

theorem onOneLine_toString_int (value : Int) : Text.OnOneLine (toString value).toList := by
  have hdigits (n : Nat) : Text.OnOneLine n.repr.toList := by
    rw [Nat.repr_eq_ofList_toDigits, String.toList_ofList]
    exact Token.onOneLine_digits (Token.areDigits_toDigits (by decide) n) (by decide)
  rw [Int.toString_eq_repr, Int.repr_eq_if]
  split
  · exact hdigits _
  · rw [String.toList_append]
    exact Text.onOneLine_append (by decide) (hdigits _)

theorem onOneLine_facts (r : Row) : ∀ fact ∈ r.facts, Text.OnOneLine fact.toList := by
  have happend {a b : String} (ha : Text.OnOneLine a.toList) (hb : Text.OnOneLine b.toList) :
      Text.OnOneLine (a ++ b).toList := by
    rw [String.toList_append]
    exact Text.onOneLine_append ha hb
  refine List.forall_mem_cons.mpr ⟨happend (by decide) (Token.onOneLine_quoted _), ?_⟩
  refine List.forall_mem_cons.mpr ⟨happend (by decide) (onOneLine_toString_int _), ?_⟩
  refine List.forall_mem_cons.mpr ⟨happend (by decide) (onOneLine_toString_int _), ?_⟩
  refine List.forall_mem_singleton.mpr ?_
  split <;> decide

/-- A row stands on one line if its name does. -/
theorem split_text {r : Row} (hname : '\n' ∉ r.name.toList) :
    Text.split '\n' r.text = [r.text] := by
  have hmem : '\n' ∉ r.text.toList := by
    refine Text.not_mem_joinWith (by decide) (List.forall_mem_cons.mpr ⟨hname, ?_⟩)
    exact fun fact hfact hc => (r.onOneLine_facts fact hfact '\n' hc).1 rfl
  exact Text.split_of_not_mem hmem

end Row

/-- The rows of the listing of a tree. -/
def rowsOf (tree : Source.Tree) : List Row :=
  (tree.round.scan Loader.markerName).map (Row.ofDeclaration tree.types)

/-- The capability of receivers can be resolved, and is its own normal form. -/
theorem resolve_listenerTrait :
    QualifiedName.resolve Loader.listenerTrait = some Loader.listenerTrait := by decide

theorem scan_error (verbose : Bool) {source : SourceChoice} {files : FileSystem} {e : Source.Error}
    (h : Source.load files source.directory source.crateName Loader.markerName = .error e) :
    scan verbose source files = failed verbose source [] files e := by
  have hload : Source.load files source.directory source.crateName Settings.standard.marker =
      .error e := h
  unfold scan
  dsimp only
  rw [hload]

/-- The host of a listing before its first row: there has been nothing but log entries. -/
def listingHost (source : SourceChoice) (tree : Source.Tree) (files : FileSystem) : Host :=
  ((Host.start ⟨"."⟩ tree.types .log files).note (tree.logEntry source.directory)).note
    (Round.scanEntry Loader.markerName (tree.round.scan Loader.markerName).length)

/-- The listing of a tree that was read prints its rows, and ends well iff all of them are
capable. -/
theorem scan_ok (verbose : Bool) {source : SourceChoice} {files : FileSystem} {tree : Source.Tree}
    (htree : Source.load files source.directory source.crateName Loader.markerName = .ok tree) :
    scan verbose source files = finished verbose ((rowsOf tree).all (·.capable))
      (((rowsOf tree).map Row.text).foldl Host.print (listingHost source tree files)) := by
  have hload : Source.load files source.directory source.crateName Settings.standard.marker =
      .ok tree := htree
  have hresolve : QualifiedName.resolve Settings.standard.capability = some Loader.listenerTrait :=
    resolve_listenerTrait
  unfold scan
  dsimp only
  rw [hload]
  simp only [Host.resolveType, hresolve, Option.getD_some, rowsOf, List.all_map, List.foldl_map]
  rfl

/-! ## Prediction -/

/-- What the listing `scanned` of a tree tells about the generation of the loader for `module`, of
which this is the outcome. -/
structure Predicts (tree : Source.Tree) (scanned : Completion) (module : String)
    (lineEnding : LineEnding) (outcome : Outcome) : Prop where
  /-- The rows are printed one after the other, each on a line of its own. -/
  output : scanned.output = (rowsOf tree).flatMap fun r => Text.split '\n' r.text
  lines : (∀ r ∈ rowsOf tree, '\n' ∉ r.name.toList) → scanned.output = (rowsOf tree).map Row.text
  /-- The listing ends well iff no violation stops the generation. -/
  exitCode : scanned.exitCode = 0 ↔ ∀ v, outcome ≠ .aborted (.violation v)
  /-- A violation is about the first row without the capability. -/
  violation : ∀ v, outcome = .aborted (.violation v) →
    ((rowsOf tree).find? (!·.capable)).map (·.name) = some v.declaration
  /-- A loader that is rendered registers the rows. -/
  records : ∀ a, outcome.rendered? = some a →
    a = Loader.render module ((rowsOf tree).map (Row.receiver module)) lineEnding.separator

/-- A row without the capability is what a violation is about. -/
theorem find?_rowsOf (tree : Source.Tree) :
    (rowsOf tree).find? (!·.capable) =
      ((tree.round.scan Loader.markerName).find? fun d =>
        !tree.types.isSubtype d.type Loader.listenerTrait).map (Row.ofDeclaration tree.types) :=
  List.find?_map

theorem loaderOf_rowsOf (tree : Source.Tree) (lineEnding : LineEnding) (module : String) :
    loaderOf (settingsFor lineEnding) module (tree.round.scan Loader.markerName) =
      Loader.render module ((rowsOf tree).map (Row.receiver module)) lineEnding.separator := by
  rw [rowsOf, List.map_map]
  rfl

/-- The verdict of a round on the receivers of a tree is what the listing of the tree predicts. -/
theorem predicts_of_verdict {tree : Source.Tree} {lineEnding : LineEnding} {module : String}
    {outcome : Outcome} {verbose : Bool} {source : SourceChoice} {files : FileSystem}
    (htree : Source.load files source.directory source.crateName Loader.markerName = .ok tree)
    (hverdict : Verdict Loader.listenerTrait
      (fun d => tree.types.isSubtype d.type Loader.listenerTrait)
      (loaderOf (settingsFor lineEnding) module (tree.round.scan Loader.markerName))
      (tree.round.scan Loader.markerName) outcome) :
    Predicts tree (scan verbose source files) module lineEnding outcome := by
  have hscan := scan_ok verbose htree
  have houtput : (scan verbose source files).output =
      (rowsOf tree).flatMap fun r => Text.split '\n' r.text := by
    rw [hscan, Host.foldl_print, List.flatMap_map]
    rfl
  have hexit : (scan verbose source files).exitCode = 0 ↔
      (rowsOf tree).find? (!·.capable) = none := by
    rw [hscan, exitCode_finished, List.all_eq_true, List.find?_eq_none]
    simp
  have hfind := find?_rowsOf tree
  refine ⟨houtput, fun hnames => ?_, ?_, ?_, ?_⟩
  · rw [houtput, List.map_eq_flatMap]
    exact List.flatMap_congr fun r hr => Row.split_text (hnames r hr)
  · rw [hexit, hfind, Option.map_eq_none_iff]
    exact hverdict.find?_eq_none_iff
  · rintro v rfl
    obtain ⟨d, hd, hname⟩ := hverdict.find?_of_violation
    rw [hfind, hd, hname]
    rfl
  · intro a ha
    rw [← loaderOf_rowsOf]
    exact hverdict.eq_of_rendered ha

/-- The commands `scan` and `generate` fail at the same sources, with the same error; of all others
the listing predicts the generation, whatever the options and the directory of generated files. -/
theorem scan_predicts (verbose verbose' : Bool) (source : SourceChoice) (out : FilePath)
    (options : List (String × String)) (lineEnding : LineEnding) (files : FileSystem) :
    (∃ e, Source.load files source.directory source.crateName Loader.markerName = .error e ∧
      scan verbose source files = failed verbose source [] files e ∧
      generate verbose' source out options lineEnding files =
        failed verbose' source (ignoredEntries options) files e) ∨
    ∃ tree h outcome,
      Source.load files source.directory source.crateName Loader.markerName = .ok tree ∧
      generation source out options lineEnding files = .ok (h, outcome) ∧
      generate verbose' source out options lineEnding files = ended verbose' h outcome ∧
      Predicts tree (scan verbose source files) (moduleOf options) lineEnding outcome := by
  cases hload : Source.load files source.directory source.crateName Loader.markerName with
  | error e => exact Or.inl ⟨e, rfl, scan_error verbose hload, generate_error verbose' hload⟩
  | ok tree =>
    have hcourse := processRound_course (generatingHost source out options files tree)
      (settingsFor lineEnding) tree.round
    generalize hround : processRound (generatingHost source out options files tree)
      (settingsFor lineEnding) tree.round = ended at hcourse
    obtain ⟨h, outcome⟩ := ended
    obtain ⟨hgeneration, hgenerate⟩ := generate_ok verbose' hload hround
    have htypes : (generatingHost source out options files tree).types = tree.types := by
      obtain ⟨table, log, hhost⟩ := generatingHost_eq source out options files tree
      rw [hhost]
      rfl
    rw [moduleNameOf_generatingHost] at hcourse
    have hverdict := hcourse.verdict resolve_listenerTrait
    simp only [Host.isSubtype, htypes] at hverdict
    exact Or.inr
      ⟨tree, h, outcome, rfl, hgeneration, hgenerate, predicts_of_verdict hload hverdict⟩

end CommandLine

end ReceiverLoader
