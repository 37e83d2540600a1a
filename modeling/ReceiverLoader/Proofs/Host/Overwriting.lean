import ReceiverLoader.Proofs.Host.Writing

/-!
# Files that are written over

A host refuses a path whose components it has written, without a look at the disk. That protects a
file as long as no other path leads to it: paths with names only behind the directory of generated
files lead to different files, but one with `..` may lead to a file that was written before.

* `Host.Guards`: a file stands as it was written, and its path is known.
* `Host.writeAll_keeps`: requests for plain paths write no file twice.
* `Host.writeAll_overwrites`: requests for other paths may.
-/

namespace ReceiverLoader

open OrderedList (insertBy)

/-- The route that the path of the file leads to, if it leads anywhere. -/
def Writing.route (w : Writing) : Route :=
  Route.spelled w.before.files.workingDirectory w.path.components

namespace Host

variable {h : Host} {w : Writing} {as : List Artifact}

/-! ## Requests in a sequence -/

/-- A request leaves the place of generated files, and the place where paths begin. -/
theorem request_frame (h : Host) (a : Artifact) :
    (h.request a).after.outDirectory = h.outDirectory ∧
      (h.request a).after.files.workingDirectory = h.files.workingDirectory := by
  obtain ⟨answer, after, hw, hanswers⟩ := request_answers h a
  rw [hw]
  cases hanswers with
  | refused => exact ⟨rfl, rfl⟩
  | failed e _ hgrows => exact ⟨rfl, hgrows.workingDirectory⟩
  | done log _ hgrows hwrite =>
    obtain ⟨route, -, rfl, -⟩ := FileSystem.find_writeFile hwrite
    exact ⟨rfl, hgrows.workingDirectory⟩

/-- Each request of a sequence is one for a file of it; those behind it go on from where it ends. -/
theorem writeAll_split {earlier later : List Writing}
    (hw : (h.writeAll as).2 = earlier ++ w :: later) :
    ∃ (h' : Host) (a : Artifact) (behind : List Artifact), h'.request a = w ∧
      h'.outDirectory = h.outDirectory ∧ (∀ b ∈ a :: behind, b ∈ as) ∧
      w.after.writeAll behind = ((h.writeAll as).1, later) := by
  induction as generalizing h earlier with
  | nil => exact absurd hw.symm (List.append_ne_nil_of_right_ne_nil _ (List.cons_ne_nil w later))
  | cons a as ih =>
    rw [writeAll_cons] at hw ⊢
    cases earlier with
    | nil =>
      obtain ⟨rfl, rfl⟩ := List.cons.inj hw
      exact ⟨h, a, as, rfl, rfl, fun _ => id, rfl⟩
    | cons e earlier =>
      obtain ⟨rfl, hrest⟩ := List.cons.inj hw
      obtain ⟨h', b, behind, hrequest, hout, hmem, hbehind⟩ := ih hrest
      exact ⟨h', b, behind, hrequest, hout.trans (request_frame h a).1,
        fun c hc => List.mem_cons_of_mem a (hmem c hc), hbehind⟩

/-! ## Plain paths -/

theorem artifactPath_congr {h' : Host} (hout : h'.outDirectory = h.outDirectory)
    (package typeName : String) :
    h'.artifactPath package typeName = h.artifactPath package typeName := by
  rw [artifactPath, artifactPath, hout]

/-- Behind the directory of generated files the path of `a` has names only. -/
def IsPlain (h : Host) (a : Artifact) : Prop :=
  ∃ names : List String, (h.artifactPath a.package a.typeName).components =
    h.outDirectory.components ++ names.map .name

/-- If the package and the name of the file are single names, the path is plain. -/
theorem isPlain_of_isName (hdir : h.outDirectory.text ≠ "") {a : Artifact}
    (hpackage : FilePath.IsName a.package) (hfile : FilePath.IsName (a.typeName ++ ".rs")) :
    h.IsPlain a := by
  refine ⟨[a.package, a.typeName ++ ".rs"], ?_⟩
  have hpath : h.artifactPath a.package a.typeName =
      h.outDirectory.descend [a.package, a.typeName ++ ".rs"] := rfl
  rw [hpath, FilePath.components_descend hdir (by simp [hpackage, hfile])]

theorem IsPlain.congr {h' : Host} {a : Artifact} (hout : h'.outDirectory = h.outDirectory)
    (ha : h.IsPlain a) : h'.IsPlain a := by
  rw [IsPlain, artifactPath_congr hout, hout]
  exact ha

/-- Plain paths that lead to the same file have the same components. -/
theorem IsPlain.components_eq {a b : Artifact} (ha : h.IsPlain a) (hb : h.IsPlain b) {start : Route}
    (hroute : Route.spelled start (h.artifactPath a.package a.typeName).components =
      Route.spelled start (h.artifactPath b.package b.typeName).components) :
    (h.artifactPath a.package a.typeName).components =
      (h.artifactPath b.package b.typeName).components := by
  obtain ⟨names, hnames⟩ := ha
  obtain ⟨names', hnames'⟩ := hb
  rw [hnames, hnames', Route.spelled_append_names, Route.spelled_append_names] at hroute
  rw [hnames, hnames', List.append_cancel_left hroute]

/-! ## A file that stays -/

/-- The file of `w` stands on `h` as it was written, and its path is known. -/
structure Guards (w : Writing) (h : Host) : Prop where
  outDirectory : h.outDirectory = w.before.outDirectory
  workingDirectory : h.files.workingDirectory = w.before.files.workingDirectory
  written : h.hasWritten w.path = true
  content : h.files.readText w.path = .ok w.artifact.content

theorem hasWritten_insertBy {p q : FilePath} (hnew : h.hasWritten p = false) (files : FileSystem)
    (log : List Log.Entry) :
    ({ h with files, written := insertBy FilePath.order p h.written, log } : Host).hasWritten q =
      true ↔ p.components = q.components ∨ h.hasWritten q = true := by
  rw [hasWritten_iff, hasWritten_iff]
  simp only [(perm_insertBy_written hnew).mem_iff, List.mem_cons, exists_eq_or_imp]

/-- A file that has been written is guarded. -/
theorem guards_of_isDone {a : Artifact} (hdone : (h.request a).IsDone) :
    Guards (h.request a) (h.request a).after := by
  obtain ⟨hout, hstart⟩ := request_frame h a
  obtain ⟨answer, after, hw, hanswers⟩ := request_answers h a
  rw [hw] at hdone hout hstart ⊢
  obtain ⟨p, hanswer⟩ := hdone
  cases hanswer
  cases hanswers with
  | done log hnew hgrows hwrite =>
    exact ⟨hout, hstart, (hasWritten_insertBy hnew _ log).mpr (Or.inl rfl),
      FileSystem.readText_writeFile hwrite⟩

/-- A request for a path with the components of a guarded file is refused. -/
theorem Guards.isRefused (hg : Guards w h) {a : Artifact}
    (ha : (h.request a).path.components = w.path.components) : (h.request a).IsRefused := by
  rw [isRefused_request_iff]
  have hpath : (h.artifactPath a.package a.typeName).components = w.path.components := ha
  rw [hasWritten, hpath]
  exact hg.written

/-- A guarded file stays, if a request leads to it only by a path of the same components. -/
theorem Guards.next (hg : Guards w h) {a : Artifact}
    (ha : (h.request a).route = w.route → (h.request a).path.components = w.path.components) :
    Guards w (h.request a).after := by
  obtain ⟨hout, hstart⟩ := request_frame h a
  have hout := hout.trans hg.outDirectory
  have hstart := hstart.trans hg.workingDirectory
  have helse : ¬ (h.request a).IsRefused → (h.request a).route ≠ w.route :=
    fun hnot heq => hnot (hg.isRefused (ha heq))
  rw [isRefused_request_iff, Bool.not_eq_true] at helse
  have hroute : (h.request a).route = Route.spelled h.files.workingDirectory
    (h.artifactPath a.package a.typeName).components := rfl
  obtain ⟨answer, after, hw, hanswers⟩ := request_answers h a
  rw [hw] at hout hstart helse hroute ⊢
  cases hanswers with
  | refused => exact hg
  | failed e hnew hgrows => exact ⟨hout, hstart, hg.written, hgrows.readText hg.content⟩
  | done log hnew hgrows hwrite =>
    refine ⟨hout, hstart, (hasWritten_insertBy hnew _ log).mpr (Or.inr hg.written), ?_⟩
    obtain ⟨route, hlocate, hnode, -, rfl⟩ := FileSystem.writeFile_eq_ok hwrite
    refine FileSystem.readText_put hnode (fun hsame => ?_) _ (hgrows.readText hg.content)
    refine helse hnew (hroute.trans ?_)
    rw [Writing.route, ← hg.workingDirectory, ← hgrows.workingDirectory,
      ← FileSystem.locate_eq_spelled hlocate, ← FileSystem.locate_eq_spelled hsame]

/-- So it is with requests one after the other. -/
theorem Guards.run (hg : Guards w h)
    (has : ∀ a ∈ as, ∀ h' : Host, Guards w h' → (h'.request a).route = w.route →
      (h'.request a).path.components = w.path.components) :
    Guards w (h.writeAll as).1 ∧ ∀ l ∈ (h.writeAll as).2,
      Guards w l.after ∧ (l.route = w.route → l.IsRefused) := by
  induction as generalizing h with
  | nil => exact ⟨hg, nofun⟩
  | cons a as ih =>
    obtain ⟨ha, has⟩ := List.forall_mem_cons.mp has
    have hnext := hg.next (ha h hg)
    obtain ⟨hfinal, hrest⟩ := ih hnext has
    rw [writeAll_cons]
    refine ⟨hfinal, List.forall_mem_cons.mpr ⟨⟨hnext, fun heq => ?_⟩, hrest⟩⟩
    exact hg.isRefused (ha h hg heq)

/-- Where all paths are plain, a file that has been written is not written again: each later request
whose path leads to it is refused, and it keeps its content to the end. -/
theorem writeAll_keeps (has : ∀ a ∈ as, h.IsPlain a) {earlier later : List Writing}
    (hw : (h.writeAll as).2 = earlier ++ w :: later) (hdone : w.IsDone) :
    (∀ l ∈ later, l.route = w.route → l.IsRefused) ∧
      (∀ l ∈ later, l.after.files.readText w.path = .ok w.artifact.content) ∧
      (h.writeAll as).1.files.readText w.path = .ok w.artifact.content := by
  obtain ⟨h', a, behind, rfl, hout, hmem, hlater⟩ := writeAll_split hw
  have hplain : ∀ b ∈ a :: behind, h'.IsPlain b := fun b hb => (has b (hmem b hb)).congr hout
  obtain ⟨ha, hbehind⟩ := List.forall_mem_cons.mp hplain
  have hsame : ∀ b ∈ behind, ∀ h'' : Host, Guards (h'.request a) h'' →
      (h''.request b).route = (h'.request a).route →
      (h''.request b).path.components = (h'.request a).path.components := by
    intro b hb h'' hg hroute
    have hpath : (h''.request b).path = h'.artifactPath b.package b.typeName :=
      artifactPath_congr hg.outDirectory b.package b.typeName
    have hstart : (h''.request b).before.files.workingDirectory =
        (h'.request a).before.files.workingDirectory := hg.workingDirectory
    rw [Writing.route, Writing.route, hpath, hstart] at hroute
    rw [hpath]
    exact (hbehind b hb).components_eq ha hroute
  obtain ⟨hfinal, hrest⟩ := (guards_of_isDone hdone).run hsame
  rw [hlater] at hfinal hrest
  exact ⟨fun l hl => (hrest l hl).2, fun l hl => (hrest l hl).1.content, hfinal.content⟩

/-- A host that has written nothing, on an empty disk. -/
def emptyHost : Host := start ⟨"out"⟩ ⟨[], []⟩ .log ⟨[], []⟩

/-- Requests for a file, for another one, and for the first one again. -/
def repeatedRequests : List Artifact :=
  [⟨"p", "T", "first"⟩, ⟨"p", "U", "other"⟩, ⟨"p", "T", "second"⟩]

theorem writeAll_keeps_repeatedRequests :
    (∀ a ∈ repeatedRequests, emptyHost.IsPlain a) ∧
      ∃ w later, (emptyHost.writeAll repeatedRequests).2 = w :: later ∧ w.IsDone ∧
        (∃ l ∈ later, l.route = w.route) ∧ (∀ l ∈ later, l.route = w.route → l.IsRefused) ∧
        (∀ l ∈ later, l.after.files.readText w.path = .ok w.artifact.content) ∧
        (emptyHost.writeAll repeatedRequests).1.files.readText w.path = .ok w.artifact.content := by
  have hplain : ∀ a ∈ repeatedRequests, emptyHost.IsPlain a := by
    have hnames : ∀ a ∈ repeatedRequests,
        FilePath.IsName a.package ∧ FilePath.IsName (a.typeName ++ ".rs") := by decide +kernel
    exact fun a ha => isPlain_of_isName (by decide) (hnames a ha).1 (hnames a ha).2
  have hdone : (emptyHost.request ⟨"p", "T", "first"⟩).answer = .ok ⟨"out/p/T.rs"⟩ := by
    decide +kernel
  refine ⟨hplain, _, _, rfl, ⟨_, hdone⟩, ⟨_, List.mem_cons_of_mem _ List.mem_cons_self, ?_⟩,
    writeAll_keeps hplain (List.nil_append _).symm ⟨_, hdone⟩⟩
  decide +kernel

/-- The same file twice, the second time on a way back from its own directory. -/
def aliasedRequests : List Artifact := [⟨"p", "T", "first"⟩, ⟨"p/../p", "T", "second"⟩]

/-- Both requests are done, although they lead to one file: it does not keep its content. -/
theorem writeAll_overwrites :
    emptyHost.written = [] ∧ ∃ w l, (emptyHost.writeAll aliasedRequests).2 = [w, l] ∧
      w.IsDone ∧ l.route = w.route ∧ ¬ l.IsRefused ∧
      w.after.files.readText w.path = .ok "first" ∧
      (emptyHost.writeAll aliasedRequests).1.files.readText w.path = .ok "second" := by
  have hanswers : (emptyHost.writeAll aliasedRequests).2.map (·.answer) =
      [.ok ⟨"out/p/T.rs"⟩, .ok ⟨"out/p/../p/T.rs"⟩] := by decide +kernel
  obtain ⟨hfirst, hrest⟩ := List.cons.inj hanswers
  obtain ⟨hsecond, -⟩ := List.cons.inj hrest
  refine ⟨rfl, _, _, rfl, ⟨_, hfirst⟩, by decide +kernel, ?_, by decide +kernel, by decide +kernel⟩
  rintro ⟨package, typeName, hrefused⟩
  cases hsecond.symm.trans hrefused

end Host

end ReceiverLoader
