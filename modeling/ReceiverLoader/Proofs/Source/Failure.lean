import Mathlib.Control.Monad.Basic
import ReceiverLoader.Proofs.FileSystem.Writing
import ReceiverLoader.Proofs.Source.Collection
import ReceiverLoader.Proofs.Source.Files

/-!
# Which failure is reported for a source tree

Each file of a tree fails or does not fail by itself, whatever stands in the others. The first file
in the order of the paths that fails is the one that is reported, and nothing behind it matters.

* `Fails`: how a file fails: it cannot be read, or parsed, or a marker in it is ill-formed.
* `addFindings_items`, `addFile_yields`: what adding a file comes to, in terms of its own failure.
* `collect_yields`: the run over all files.
* `load_reports`: the failure that is reported, and which changes to a tree leave it alone.
-/

namespace ReceiverLoader.Source

open Grammar (Item TypeDeclaration)
open OrderedList (Ascending)

/-! ## The failure of a file -/

mutual

/-- The structs, enums and unions in an item, depth first. -/
def itemTypes : Item → List TypeDeclaration
  | .type d => [d]
  | .module _ items => typesIn items
  | _ => []

/-- The structs, enums and unions in items and in the inline modules among them, depth first. -/
def typesIn : List Item → List TypeDeclaration
  | [] => []
  | item :: items => itemTypes item ++ typesIn items

end

/-- The first attribute of `d` that is `marker` is ill-formed, for this reason. -/
def IllMarked (marker : String) (d : TypeDeclaration) (reason : Marker.Error) : Prop :=
  ∃ a, d.attributes.find? (Marker.isMarker marker) = some a ∧
    Marker.Arguments.ofAttribute a = .error reason

/-- The file at `p` fails by itself: it cannot be read as text; or it can, but cannot be parsed; or
it can, but a marker is ill-formed, of which the first is reported. -/
inductive Fails (fs : FileSystem) (marker : String) (p : FilePath) : Error → Prop
  | read {reason : FileError} : fs.readText p = .error reason → Fails fs marker p (.read p reason)
  | parse {text : String} {reason : ContentError} : fs.readText p = .ok text →
      readItems text = .error reason → Fails fs marker p (.parse p reason)
  | marker {text : String} {items : List Item} {before after : List TypeDeclaration}
      {d : TypeDeclaration} {reason : Marker.Error} : fs.readText p = .ok text →
      readItems text = .ok items → typesIn items = before ++ d :: after →
      (∀ d' ∈ before, ∀ reason', ¬ IllMarked marker d' reason') → IllMarked marker d reason →
      Fails fs marker p (.marker p marker reason)

/-- Why the first attribute of `d` that is `marker` is ill-formed. -/
def markerError? (marker : String) (d : TypeDeclaration) : Option Marker.Error :=
  (d.attributes.find? (Marker.isMarker marker)).bind fun a =>
    match Marker.Arguments.ofAttribute a with
    | .ok _ => none
    | .error reason => some reason

/-- The first error of a marker in the items of the file at `p`. -/
def itemsFailure? (marker : String) (p : FilePath) (items : List Item) : Option Error :=
  ((typesIn items).findSome? (markerError? marker)).map (.marker p marker)

/-- How the file at `p` with this content fails, if it does. -/
def contentFailure? (marker : String) (p : FilePath) (content : String) : Option Error :=
  match readItems content with
  | .error reason => some (.parse p reason)
  | .ok items => itemsFailure? marker p items

/-- How the file at `p` fails, if it does. -/
def failure? (fs : FileSystem) (marker : String) (p : FilePath) : Option Error :=
  match fs.readText p with
  | .error reason => some (.read p reason)
  | .ok text => contentFailure? marker p text

variable {fs : FileSystem} {directory p : FilePath} {crate crateName marker : String} {e : Error}

theorem markerError?_eq_some {d : TypeDeclaration} {reason : Marker.Error} :
    markerError? marker d = some reason ↔ IllMarked marker d reason := by
  rw [markerError?, Option.bind_eq_some_iff]
  refine exists_congr fun a => and_congr_right fun _ => ?_
  cases Marker.Arguments.ofAttribute a <;> simp

theorem markerError?_eq_none {d : TypeDeclaration} :
    markerError? marker d = none ↔ ∀ reason, ¬ IllMarked marker d reason := by
  rw [Option.eq_none_iff_forall_ne_some]
  exact forall_congr' fun reason => not_congr markerError?_eq_some

theorem itemsFailure?_eq_some {items : List Item} :
    itemsFailure? marker p items = some e ↔
      ∃ before d after reason, typesIn items = before ++ d :: after ∧
        (∀ d' ∈ before, ∀ reason', ¬ IllMarked marker d' reason') ∧ IllMarked marker d reason ∧
          e = .marker p marker reason := by
  simp only [itemsFailure?, Option.map_eq_some_iff, List.findSome?_eq_some_iff,
    markerError?_eq_some, markerError?_eq_none]
  constructor
  · rintro ⟨reason, ⟨before, d, after, htypes, hd, hbefore⟩, rfl⟩
    exact ⟨before, d, after, reason, htypes, hbefore, hd, rfl⟩
  · rintro ⟨before, d, after, reason, htypes, hbefore, hd, rfl⟩
    exact ⟨reason, ⟨before, d, after, htypes, hd, hbefore⟩, rfl⟩

theorem failure?_eq_some : failure? fs marker p = some e ↔ Fails fs marker p e := by
  constructor
  · intro h
    unfold failure? at h
    split at h
    · rename_i hread
      cases h
      exact .read hread
    · rename_i text htext
      unfold contentFailure? at h
      split at h
      · rename_i hparse
        cases h
        exact .parse htext hparse
      · rename_i items hitems
        obtain ⟨before, d, after, reason, htypes, hbefore, hd, rfl⟩ := itemsFailure?_eq_some.mp h
        exact .marker htext hitems htypes hbefore hd
  · intro h
    unfold failure? contentFailure?
    cases h with
    | read hread => rw [hread]
    | parse htext hparse => simp only [htext, hparse]
    | marker htext hitems htypes hbefore hd =>
      simp only [htext, hitems]
      exact itemsFailure?_eq_some.mpr ⟨_, _, _, _, htypes, hbefore, hd, rfl⟩

theorem failure?_eq_none : failure? fs marker p = none ↔ ∀ e, ¬ Fails fs marker p e := by
  rw [Option.eq_none_iff_forall_ne_some]
  exact forall_congr' fun e => not_congr failure?_eq_some

/-! ## One file -/

/-- The result is the failure, or a collection if there is none. -/
def Yields (failure : Option Error) (result : Except Error Collection) : Prop :=
  match failure with
  | none => ∃ c, result = .ok c
  | some e => result = .error e

theorem Yields.bind {failure failure' : Option Error} {result : Except Error Collection}
    {next : Collection → Except Error Collection} (h : Yields failure result)
    (hnext : ∀ c, Yields failure' (next c)) : Yields (failure.or failure') (result.bind next) := by
  cases failure with
  | none =>
    obtain ⟨c, rfl⟩ := h
    exact hnext c
  | some e =>
    obtain rfl : result = .error e := h
    rfl

theorem Yields.eq_error_iff {failure : Option Error} {result : Except Error Collection}
    (h : Yields failure result) : result = .error e ↔ failure = some e := by
  cases failure with
  | none =>
    obtain ⟨c, rfl⟩ := h
    exact ⟨nofun, nofun⟩
  | some e' =>
    obtain rfl : result = .error e' := h
    rw [Except.error.injEq, Option.some.injEq]

namespace Collection

/-- A type is added unless its marker is ill-formed. -/
theorem addFindings_type (path : FilePath) (name : String) (d : TypeDeclaration) (c : Collection) :
    Yields ((markerError? marker d).map (.marker path marker))
      (c.addFindings path marker [.type name d]) := by
  unfold markerError?
  simp only [addFindings, addFinding, declarationOf]
  cases d.attributes.find? (Marker.isMarker marker) with
  | none => exact ⟨_, rfl⟩
  | some a =>
    simp only [Option.bind_some]
    cases Marker.Arguments.ofAttribute a with
    | error reason => rfl
    | ok arguments => exact ⟨_, rfl⟩

mutual

/-- The items inside an item are added up to the first ill-formed marker among their types. -/
theorem addFindings_item (path : FilePath) : ∀ (item : Item) (scope : Scope) (c : Collection),
    Yields (((itemTypes item).findSome? (markerError? marker)).map (.marker path marker))
      (c.addFindings path marker (itemFindings scope item))
  | .type d, scope, c => by
    rw [itemTypes, List.findSome?_singleton]
    exact addFindings_type path (qualify scope.module d.name) d c
  | .module name items, scope, c =>
    addFindings_items path items ⟨scope.module ++ [name], imports items⟩
      (c.addModule (scope.module ++ [name]))
  | .trait _, _, _ | .use _ _, _, _ | .other, _, _ => ⟨_, rfl⟩
  | .implementation none _, _, _ | .implementation (some ⟨true, _⟩) _, _, _ => ⟨_, rfl⟩
  | .implementation (some ⟨false, _⟩) (.path _), _, _ => ⟨_, rfl⟩
  | .implementation (some ⟨false, _⟩) .soleBound, _, _ => ⟨_, rfl⟩
  | .implementation (some ⟨false, _⟩) .other, _, _ => ⟨_, rfl⟩

/-- Items are added up to the first ill-formed marker among their types. -/
theorem addFindings_items (path : FilePath) : ∀ (items : List Item) (scope : Scope)
    (c : Collection), Yields (itemsFailure? marker path items)
      (c.addFindings path marker (itemsFindings scope items))
  | [], _, c => ⟨c, rfl⟩
  | item :: items, scope, c => by
    rw [itemsFailure?, typesIn, List.findSome?_append, Option.map_or, itemsFindings,
      addFindings_append]
    exact (addFindings_item path item scope c).bind (addFindings_items path items scope)

end

/-- A file is added unless its content fails. -/
theorem addFile_yields (path : FilePath) (module : List String) (content : String)
    (c : Collection) :
    Yields (contentFailure? marker path content) (c.addFile path marker module content) := by
  unfold contentFailure? addFile
  cases readItems content with
  | error reason => rfl
  | ok items => exact addFindings_items path items ⟨module, imports items⟩ (c.addModule module)

end Collection

/-! ## All files -/

/-- Files are collected up to the first that fails. -/
theorem collect_yields (paths : List FilePath) (c : Collection) :
    Yields (paths.findSome? (failure? fs marker)) (collect fs crate marker directory c paths) := by
  induction paths generalizing c with
  | nil => exact ⟨c, rfl⟩
  | cons path paths ih =>
    have hcons : (path :: paths).findSome? (failure? fs marker) =
        (failure? fs marker path).or (paths.findSome? (failure? fs marker)) := by
      rw [List.findSome?_cons]
      cases failure? fs marker path <;> rfl
    rw [hcons, collect, failure?]
    cases fs.readText path with
    | error reason => rfl
    | ok text =>
      have hfile : Yields (contentFailure? marker path text) _ :=
        c.addFile_yields path (modulePath crate directory path) text
      have hfiles := hfile.bind ih
      cases hadd : c.addFile path marker (modulePath crate directory path) text with
      | error e =>
        rw [hadd] at hfiles
        simp only [hadd]
        exact hfiles
      | ok c₁ =>
        rw [hadd] at hfiles
        simp only [hadd]
        exact hfiles

theorem load_eq_error_iff {paths : List FilePath} (hpaths : sourceFiles fs directory = .ok paths) :
    load fs directory crateName marker = .error e ↔
      paths.findSome? (failure? fs marker) = some e := by
  have hcollect : Yields (paths.findSome? (failure? fs marker))
      (collect fs (normalizeCrateName crateName) marker directory
        (Collection.start (normalizeCrateName crateName)) paths) := collect_yields paths _
  rw [← hcollect.eq_error_iff, load, hpaths]
  dsimp only
  cases collect fs (normalizeCrateName crateName) marker directory
      (Collection.start (normalizeCrateName crateName)) paths with
  | error e' => rw [Except.error.injEq, Except.error.injEq]
  | ok c => exact ⟨nofun, nofun⟩

theorem load_eq_ok_iff_findSome? {paths : List FilePath}
    (hpaths : sourceFiles fs directory = .ok paths) :
    (∃ tree, load fs directory crateName marker = .ok tree) ↔
      paths.findSome? (failure? fs marker) = none := by
  constructor
  · rintro ⟨tree, htree⟩
    refine Option.eq_none_iff_forall_ne_some.mpr fun e he => ?_
    rw [(load_eq_error_iff hpaths).mpr he] at htree
    cases htree
  · intro hnone
    cases hload : load fs directory crateName marker with
    | ok tree => exact ⟨tree, rfl⟩
    | error e =>
      rw [(load_eq_error_iff hpaths).mp hload] at hnone
      cases hnone

/-- The file at `p` fails with `e`, and no file before it in the order of the paths fails. -/
structure FailsFirst (fs : FileSystem) (directory : FilePath) (marker : String) (p : FilePath)
    (e : Error) : Prop where
  isSourceFile : IsSourceFile fs directory p
  fails : Fails fs marker p e
  first : ∀ q, IsSourceFile fs directory q → q.order p = .lt → ∀ e', ¬ Fails fs marker q e'

/-- Two trees have the same files up to `p` in the order of the paths, with the same content. -/
structure SameUpTo (fs fs' : FileSystem) (directory p : FilePath) : Prop where
  isSourceFile : ∀ q, q.order p ≠ .gt →
    (IsSourceFile fs' directory q ↔ IsSourceFile fs directory q)
  readText : ∀ q, q.order p ≠ .gt → IsSourceFile fs directory q → fs'.readText q = fs.readText q

theorem Fails.congr {fs' : FileSystem} (h : fs'.readText p = fs.readText p) :
    Fails fs' marker p e ↔ Fails fs marker p e := by
  rw [← failure?_eq_some, ← failure?_eq_some, failure?, failure?, h]

theorem FailsFirst.of_sameUpTo {fs' : FileSystem} (h : FailsFirst fs directory marker p e)
    (hsame : SameUpTo fs fs' directory p) : FailsFirst fs' directory marker p e := by
  have hself : p.order p ≠ .gt := by
    rw [FilePath.order_eq_eq_iff.mpr rfl]
    nofun
  refine ⟨(hsame.isSourceFile p hself).mpr h.isSourceFile, ?_, fun q hq hlt e' => ?_⟩
  · exact (Fails.congr (hsame.readText p hself h.isSourceFile)).mpr h.fails
  · have hle : q.order p ≠ .gt := by
      rw [hlt]
      nofun
    have hq := (hsame.isSourceFile q hle).mp hq
    rw [Fails.congr (hsame.readText q hle hq)]
    exact h.first q hq hlt e'

/-- Which failures are reported for the tree below a directory. -/
structure Reports (fs : FileSystem) (directory : FilePath) (crateName marker : String) : Prop where
  /-- The first file that fails is reported, and no other. -/
  failing : ∀ e, load fs directory crateName marker = .error e ↔
    ∃ p, FailsFirst fs directory marker p e
  /-- A tree loads iff none of its files fails. -/
  loading : (∃ tree, load fs directory crateName marker = .ok tree) ↔
    ∀ p, IsSourceFile fs directory p → ∀ e, ¬ Fails fs marker p e
  /-- Files behind the one that is reported may be changed, added or removed. -/
  behind : ∀ p e, FailsFirst fs directory marker p e → ∀ fs' : FileSystem, fs'.WellFormed →
    (∃ paths, sourceFiles fs' directory = .ok paths) → SameUpTo fs fs' directory p →
    load fs' directory crateName marker = .error e

theorem load_eq_error_iff_failsFirst (wf : fs.WellFormed) {paths : List FilePath}
    (hpaths : sourceFiles fs directory = .ok paths) :
    load fs directory crateName marker = .error e ↔ ∃ p, FailsFirst fs directory marker p e := by
  rw [load_eq_error_iff hpaths,
    OrderedList.findSome?_of_ascending (ascending_sourceFiles wf hpaths)]
  refine exists_congr fun p => ?_
  simp only [mem_sourceFiles wf hpaths, failure?_eq_some, failure?_eq_none]
  exact ⟨fun ⟨hfile, hfails, hfirst⟩ => ⟨hfile, hfails, hfirst⟩,
    fun h => ⟨h.isSourceFile, h.fails, h.first⟩⟩

/-- Of a tree that can be listed the first file is reported, in the order of the paths, that cannot
be read, cannot be parsed or has an ill-formed marker, with the first of these failures; files
behind it do not matter, and the tree loads iff there is no such file. -/
theorem load_reports (wf : fs.WellFormed) {paths : List FilePath}
    (hpaths : sourceFiles fs directory = .ok paths) (crateName marker : String) :
    Reports fs directory crateName marker where
  failing e := load_eq_error_iff_failsFirst wf hpaths
  loading := by
    simp only [← mem_sourceFiles wf hpaths, ← failure?_eq_none]
    rw [← List.findSome?_eq_none_iff, load_eq_ok_iff_findSome? hpaths]
  behind p e h fs' wf' := by
    rintro ⟨paths', hpaths'⟩ hsame
    exact (load_eq_error_iff_failsFirst wf' hpaths').mpr ⟨p, h.of_sameUpTo hsame⟩

/-! ## A tree with several failures -/

/-- A file with two ill-formed markers, the first of them in an inline module. -/
def markedText : String :=
  "mod m \x7b #[mark(flag = x)] enum E \x7b\x7d \x7d #[mark(y)] struct S;"

/-- Two files that fail. The directory `a` comes before the file `a.rs`. -/
def failingFiles : FileSystem :=
  ⟨[(["src"], .directory), (["src", "a"], .directory),
    (["src", "a", "b.rs"], .file markedText.toUTF8), (["src", "a.rs"], .file "struct".toUTF8)], []⟩

/-- The same files, one changed and one added behind the first. -/
def changedFiles : FileSystem :=
  ⟨[(["src"], .directory), (["src", "a"], .directory),
    (["src", "a", "b.rs"], .file markedText.toUTF8), (["src", "a.rs"], .file "struct A;".toUTF8),
    (["src", "c.rs"], .file "]".toUTF8)], []⟩

theorem sourceFiles_failingFiles :
    sourceFiles failingFiles ⟨"src"⟩ = .ok [⟨"src/a/b.rs"⟩, ⟨"src/a.rs"⟩] :=
  sourceFiles_of_filesBelow rfl rfl (by decide)

theorem sourceFiles_changedFiles :
    sourceFiles changedFiles ⟨"src"⟩ = .ok [⟨"src/a/b.rs"⟩, ⟨"src/a.rs"⟩, ⟨"src/c.rs"⟩] :=
  sourceFiles_of_filesBelow rfl rfl (by decide)

theorem load_reports_failingFiles :
    failingFiles.WellFormed ∧
      sourceFiles failingFiles ⟨"src"⟩ = .ok [⟨"src/a/b.rs"⟩, ⟨"src/a.rs"⟩] ∧
      load failingFiles ⟨"src"⟩ "app" "mark" =
        .error (.marker ⟨"src/a/b.rs"⟩ "mark" ⟨⟨1, 22⟩, .noInteger⟩) ∧
      load changedFiles ⟨"src"⟩ "app" "mark" =
        .error (.marker ⟨"src/a/b.rs"⟩ "mark" ⟨⟨1, 22⟩, .noInteger⟩) := by
  have wf : failingFiles.WellFormed := by decide
  have wf' : changedFiles.WellFormed := by decide
  have hreports := load_reports wf sourceFiles_failingFiles "app" "mark"
  have hmem {q : FilePath} : IsSourceFile failingFiles ⟨"src"⟩ q ↔
      q = ⟨"src/a/b.rs"⟩ ∨ q = ⟨"src/a.rs"⟩ := by
    simp [← mem_sourceFiles wf sourceFiles_failingFiles]
  have hmem' {q : FilePath} : IsSourceFile changedFiles ⟨"src"⟩ q ↔
      q = ⟨"src/a/b.rs"⟩ ∨ q = ⟨"src/a.rs"⟩ ∨ q = ⟨"src/c.rs"⟩ := by
    simp [← mem_sourceFiles wf' sourceFiles_changedFiles]
  have htext : failingFiles.readText ⟨"src/a/b.rs"⟩ = .ok markedText :=
    FileSystem.readText_of_find rfl
  have htext' : changedFiles.readText ⟨"src/a/b.rs"⟩ = .ok markedText :=
    FileSystem.readText_of_find rfl
  have hcontent : contentFailure? "mark" ⟨"src/a/b.rs"⟩ markedText =
      some (.marker ⟨"src/a/b.rs"⟩ "mark" ⟨⟨1, 22⟩, .noInteger⟩) := by decide +kernel
  have hfails : failure? failingFiles "mark" ⟨"src/a/b.rs"⟩ =
      some (.marker ⟨"src/a/b.rs"⟩ "mark" ⟨⟨1, 22⟩, .noInteger⟩) := by
    rw [failure?, htext]
    exact hcontent
  have hself : FilePath.order ⟨"src/a/b.rs"⟩ ⟨"src/a/b.rs"⟩ = .eq :=
    FilePath.order_eq_eq_iff.mpr rfl
  have hbehind : FilePath.order ⟨"src/a.rs"⟩ ⟨"src/a/b.rs"⟩ = .gt := by decide
  have hbehind' : FilePath.order ⟨"src/c.rs"⟩ ⟨"src/a/b.rs"⟩ = .gt := by decide
  have hfirst : FailsFirst failingFiles ⟨"src"⟩ "mark" ⟨"src/a/b.rs"⟩
      (.marker ⟨"src/a/b.rs"⟩ "mark" ⟨⟨1, 22⟩, .noInteger⟩) := by
    refine ⟨hmem.mpr (.inl rfl), failure?_eq_some.mp hfails, fun q hq hlt => ?_⟩
    obtain rfl | rfl := hmem.mp hq
    · cases hself.symm.trans hlt
    · cases hbehind.symm.trans hlt
  have hsame : SameUpTo failingFiles changedFiles ⟨"src"⟩ ⟨"src/a/b.rs"⟩ := by
    constructor
    · intro q hle
      rw [hmem, hmem']
      refine or_congr_right ⟨?_, .inl⟩
      rintro (rfl | rfl)
      · rfl
      · exact absurd hbehind' hle
    · intro q hle hq
      obtain rfl | rfl := hmem.mp hq
      · exact htext'.trans htext.symm
      · exact absurd hbehind hle
  exact ⟨wf, sourceFiles_failingFiles, (hreports.failing _).mpr ⟨_, hfirst⟩,
    hreports.behind _ _ hfirst _ wf' ⟨_, sourceFiles_changedFiles⟩ hsame⟩

end ReceiverLoader.Source
