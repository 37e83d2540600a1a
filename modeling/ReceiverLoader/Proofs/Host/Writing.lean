import Mathlib.Control.Monad.Basic
import ReceiverLoader.Host
import ReceiverLoader.Proofs.FilePath.Components
import ReceiverLoader.Proofs.FileSystem.Growth
import ReceiverLoader.Proofs.OrderedList

/-!
# What a host keeps of the files that it writes

A host is asked to write files, one after the other. Each is refused, or fails, or is done.
`Host.writeAll` follows the requests and lists them with their answers.

* `Host.Answers`: the three ways that a request can end, with what each changes.
* `Host.Tracks`: the written paths of a host are those of the requests that were done.
* `Host.Tracks.accounted`, `Host.Tracks.next`: what becomes of one request, and what it keeps.
* `Host.writeAll_accounted`: what is refused, what changes on disk, and what is kept, in any
  sequence of requests.
-/

namespace ReceiverLoader

open OrderedList (Ascending insertBy)

/-- A file that a host was asked to write. -/
structure Writing where
  artifact : Artifact
  before : Host
  answer : Except WriteError FilePath
  after : Host

namespace Writing

/-- The path that the file belongs to. -/
def path (w : Writing) : FilePath :=
  w.before.artifactPath w.artifact.package w.artifact.typeName

/-- The file was written. -/
def IsDone (w : Writing) : Prop := ∃ p, w.answer = .ok p

/-- The request was refused, since a file of this path had been written. -/
def IsRefused (w : Writing) : Prop :=
  ∃ package typeName, w.answer = .error (.alreadyWritten package typeName)

end Writing

namespace Host

/-- Asks a host to write `a`. -/
def request (h : Host) (a : Artifact) : Writing :=
  let (after, answer) := h.emit a
  ⟨a, h, answer, after⟩

/-- Asks a host to write files, one after the other, and lists the requests. -/
def writeAll (h : Host) : List Artifact → Host × List Writing
  | [] => (h, [])
  | a :: as =>
    let w := h.request a
    let (final, ws) := w.after.writeAll as
    (final, w :: ws)

theorem writeAll_cons (h : Host) (a : Artifact) (as : List Artifact) :
    h.writeAll (a :: as) = (((h.request a).after.writeAll as).1,
      h.request a :: ((h.request a).after.writeAll as).2) := rfl

/-! ## A single request -/

/-- The ways that a request to write `a` to `path` can end on the host `h`. -/
inductive Answers (h : Host) (a : Artifact) (path : FilePath) :
    Host → Except WriteError FilePath → Prop
  | refused : h.hasWritten path = true →
      Answers h a path h (.error (.alreadyWritten a.package a.typeName))
  /-- Directories may have been made before the failure. -/
  | failed {files : FileSystem} (e : FileError) : h.hasWritten path = false →
      h.files.Grows files → Answers h a path { h with files } (.error (.io path e))
  | done {files files' : FileSystem} (log : List Log.Entry) : h.hasWritten path = false →
      h.files.Grows files → files.writeFile path a.content = .ok files' →
      Answers h a path
        { h with files := files', written := insertBy FilePath.order path h.written, log }
        (.ok path)

theorem emit_answers (h : Host) (a : Artifact) :
    Answers h a (h.artifactPath a.package a.typeName) (h.emit a).1 (h.emit a).2 := by
  unfold emit BuildContext.emit
  change Answers h a _ (h.write a.package a.typeName a.content).1
    (h.write a.package a.typeName a.content).2
  unfold write
  dsimp only
  generalize h.artifactPath a.package a.typeName = path
  by_cases hwritten : h.hasWritten path = true
  · rw [if_pos hwritten]
    exact .refused hwritten
  · have hnew : h.hasWritten path = false := Bool.eq_false_iff.mpr hwritten
    have hgrows := h.files.makeDirectories_grows path.components.dropLast
    rw [if_neg hwritten]
    generalize h.files.makeDirectories path.components.dropLast = made at hgrows ⊢
    obtain ⟨files, answer⟩ := made
    cases answer with
    | error e => exact .failed e hnew hgrows
    | ok =>
      dsimp only
      cases hwrite : files.writeFile path a.content with
      | error e => exact .failed e hnew hgrows
      | ok files' => exact .done _ hnew hgrows hwrite

theorem request_answers (h : Host) (a : Artifact) :
    ∃ answer after, h.request a = ⟨a, h, answer, after⟩ ∧
      Answers h a (h.artifactPath a.package a.typeName) after answer :=
  ⟨_, _, rfl, emit_answers h a⟩

/-- A request is refused iff a path of the same components is among the written ones. -/
theorem isRefused_request_iff (h : Host) (a : Artifact) :
    (h.request a).IsRefused ↔ h.hasWritten (h.artifactPath a.package a.typeName) = true := by
  obtain ⟨answer, after, hw, hanswers⟩ := request_answers h a
  rw [hw]
  cases hanswers with
  | refused hold => exact iff_of_true ⟨_, _, rfl⟩ hold
  | failed _ hnew =>
    refine iff_of_false (fun ⟨_, _, hanswer⟩ => ?_) (Bool.eq_false_iff.mp hnew)
    cases hanswer
  | done _ hnew =>
    refine iff_of_false (fun ⟨_, _, hanswer⟩ => ?_) (Bool.eq_false_iff.mp hnew)
    cases hanswer

theorem hasWritten_iff {h : Host} {p : FilePath} :
    h.hasWritten p = true ↔ ∃ q ∈ h.written, q.components = p.components := by
  simp [hasWritten]

/-! ## The written paths -/

/-- The written paths of `h` are those of the requests `past` that were done, in ascending order. -/
structure Tracks (past : List Writing) (h : Host) : Prop where
  ascending : Ascending FilePath.order h.written
  perm : h.written.Perm (past.filterMap (·.answer.toOption))
  path_eq : ∀ w ∈ past, ∀ p, w.answer = .ok p → p = w.path

end Host

/-- What becomes of a request to write a file, after the requests `earlier`. -/
structure Writing.Accounted (earlier : List Writing) (w : Writing) : Prop where
  /-- A request is refused iff a file of the same components has been written. -/
  refused_iff : w.IsRefused ↔
    ∃ e ∈ earlier, e.IsDone ∧ e.path.components = w.path.components
  /-- A request that is refused changes nothing. -/
  refused : ∀ package typeName, w.answer = .error (.alreadyWritten package typeName) →
    package = w.artifact.package ∧ typeName = w.artifact.typeName ∧ w.after = w.before
  /-- One that fails adds directories at most. -/
  failed : ∀ p e, w.answer = .error (.io p e) → p = w.path ∧
    w.after.written = w.before.written ∧ w.before.files.Grows w.after.files
  /-- One that is done leaves its file with the content and all other files as they were. -/
  done : ∀ p, w.answer = .ok p → p = w.path ∧
    (∀ q, q ∈ w.after.written ↔ q = w.path ∨ q ∈ w.before.written) ∧
    ∃ route, w.after.files.find w.path = .ok (route, .file w.artifact.content.toUTF8) ∧
      ∀ other, other ≠ route → ∀ bytes, w.after.files.node? other = some (.file bytes) ↔
        w.before.files.node? other = some (.file bytes)

namespace Host

variable {h : Host} {past : List Writing}

theorem Tracks.start (hw : h.written = []) : Tracks [] h where
  ascending := hw ▸ OrderedList.ascending_nil
  perm := hw ▸ List.Perm.nil
  path_eq _ hmem := absurd hmem List.not_mem_nil

theorem Tracks.hasWritten_iff (ht : Tracks past h) {p : FilePath} :
    h.hasWritten p = true ↔ ∃ e ∈ past, e.IsDone ∧ e.path.components = p.components := by
  rw [Host.hasWritten_iff]
  constructor
  · rintro ⟨q, hq, hcomponents⟩
    obtain ⟨e, he, hanswer⟩ := List.mem_filterMap.mp (ht.perm.mem_iff.mp hq)
    have hanswer : e.answer = .ok q := by
      cases ha : e.answer with
      | error => rw [ha] at hanswer; cases hanswer
      | ok p' => rw [ha] at hanswer; cases hanswer; rfl
    exact ⟨e, he, ⟨q, hanswer⟩, ht.path_eq e he q hanswer ▸ hcomponents⟩
  · rintro ⟨e, he, ⟨q, hanswer⟩, hcomponents⟩
    refine ⟨q, ht.perm.mem_iff.mpr (List.mem_filterMap.mpr ⟨e, he, ?_⟩), ?_⟩
    · rw [hanswer]
      rfl
    · rw [ht.path_eq e he q hanswer]
      exact hcomponents

/-- A path that has not been written is one more. -/
theorem perm_insertBy_written {p : FilePath} (hnew : h.hasWritten p = false) :
    (insertBy FilePath.order p h.written).Perm (p :: h.written) := by
  refine OrderedList.perm_insertBy fun q hq heq => ?_
  have hwritten := Host.hasWritten_iff.mpr ⟨q, hq, (FilePath.order_eq_eq_iff.mp heq).symm⟩
  rw [hnew] at hwritten
  cases hwritten

/-- A request ends as it should. -/
theorem Tracks.accounted (ht : Tracks past h) (a : Artifact) : (h.request a).Accounted past := by
  have hrefused := (isRefused_request_iff h a).trans ht.hasWritten_iff
  obtain ⟨answer, after, hw, hanswers⟩ := request_answers h a
  rw [hw] at hrefused ⊢
  constructor
  case refused_iff => exact hrefused
  case refused =>
    intro package typeName hanswer
    obtain rfl : answer = .error (.alreadyWritten package typeName) := hanswer
    cases hanswers with
    | refused => exact ⟨rfl, rfl, rfl⟩
  case failed =>
    intro p e hanswer
    obtain rfl : answer = .error (.io p e) := hanswer
    cases hanswers with
    | failed _ _ hgrows => exact ⟨rfl, rfl, hgrows⟩
  case done =>
    intro p hanswer
    obtain rfl : answer = .ok p := hanswer
    cases hanswers with
    | done log hnew hgrows hwrite =>
      obtain ⟨route, -, hput, hfind⟩ := FileSystem.find_writeFile hwrite
      refine ⟨rfl, fun q => (perm_insertBy_written hnew).mem_iff.trans List.mem_cons, route, hfind,
        fun other hother bytes => ?_⟩
      rw [hput, FileSystem.node?_put_of_ne hother]
      exact hgrows.node?_eq_file

/-- The written paths stay those of the requests that were done. -/
theorem Tracks.next (ht : Tracks past h) (a : Artifact) :
    Tracks (past ++ [h.request a]) (h.request a).after := by
  obtain ⟨answer, after, hw, hanswers⟩ := request_answers h a
  rw [hw]
  constructor
  case ascending =>
    cases hanswers with
    | refused => exact ht.ascending
    | failed => exact ht.ascending
    | done => exact OrderedList.ascending_insertBy _ ht.ascending
  case perm =>
    rw [List.filterMap_append]
    cases hanswers with
    | refused => exact ht.perm.trans (List.append_nil _ ▸ .refl _)
    | failed => exact ht.perm.trans (List.append_nil _ ▸ .refl _)
    | done _ hnew =>
      exact (perm_insertBy_written hnew).trans
        ((ht.perm.cons _).trans (List.perm_append_singleton _ _).symm)
  case path_eq =>
    intro w hmem p hanswer
    rcases List.mem_append.mp hmem with hmem | hmem
    · exact ht.path_eq w hmem p hanswer
    · obtain rfl := List.mem_singleton.mp hmem
      obtain rfl : answer = .ok p := hanswer
      cases hanswers with
      | done => rfl

/-- So it is with requests one after the other. -/
theorem Tracks.run (ht : Tracks past h) (as : List Artifact) :
    (∀ earlier w later, (h.writeAll as).2 = earlier ++ w :: later →
      w.Accounted (past ++ earlier)) ∧
    Tracks (past ++ (h.writeAll as).2) (h.writeAll as).1 := by
  induction as generalizing h past with
  | nil =>
    refine ⟨fun earlier w later he => ?_, (List.append_nil past).symm ▸ ht⟩
    exact absurd he.symm (List.append_ne_nil_of_right_ne_nil earlier (List.cons_ne_nil w later))
  | cons a as ih =>
    obtain ⟨hrest, hfinal⟩ := ih (ht.next a)
    rw [writeAll_cons]
    refine ⟨fun earlier w later he => ?_, by simpa using hfinal⟩
    cases earlier with
    | nil =>
      cases he
      exact (List.append_nil past).symm ▸ ht.accounted a
    | cons e earlier =>
      obtain ⟨rfl, hlater⟩ := List.cons.inj he
      simpa using hrest earlier w later hlater

/-- In each sequence of requests on a host that has not written yet, every request is refused,
fails or is done as `Writing.Accounted` says; at the end the host knows the paths of those that were
done, and no other. -/
theorem writeAll_accounted (hw : h.written = []) (as : List Artifact) :
    (∀ earlier w later, (h.writeAll as).2 = earlier ++ w :: later → w.Accounted earlier) ∧
      Ascending FilePath.order (h.writeAll as).1.written ∧
      (h.writeAll as).1.written.Perm ((h.writeAll as).2.filterMap (·.answer.toOption)) := by
  obtain ⟨haccounted, htracks⟩ := (Tracks.start hw).run as
  exact ⟨haccounted, htracks.ascending, htracks.perm⟩

/-- A host with a file where a directory of generated files would be. -/
def blockedHost : Host :=
  start ⟨"out"⟩ ⟨[], []⟩ .log ⟨[(["out"], .directory), (["out", "q"], .file "".toUTF8)], []⟩

/-- Requests for a file, for the same path spelled otherwise, for one below a file, and for another
one. -/
def sampleRequests : List Artifact :=
  [⟨"p", "T", "first"⟩, ⟨"p/", "T", "second"⟩, ⟨"q", "T", "third"⟩, ⟨"p", "U", "fourth"⟩]

theorem writeAll_accounted_sampleRequests :
    blockedHost.written = [] ∧
      (blockedHost.writeAll sampleRequests).2.map (·.answer) =
        [.ok ⟨"out/p/T.rs"⟩, .error (.alreadyWritten "p/" "T"),
          .error (.io ⟨"out/q/T.rs"⟩ .alreadyExists), .ok ⟨"out/p/U.rs"⟩] ∧
      (∀ earlier w later, (blockedHost.writeAll sampleRequests).2 = earlier ++ w :: later →
        w.Accounted earlier) ∧
      Ascending FilePath.order (blockedHost.writeAll sampleRequests).1.written ∧
      (blockedHost.writeAll sampleRequests).1.written.Perm
        ((blockedHost.writeAll sampleRequests).2.filterMap (·.answer.toOption)) :=
  ⟨rfl, by decide +kernel, writeAll_accounted rfl sampleRequests⟩

end Host

end ReceiverLoader
