import ReceiverLoader.Proofs.FileSystem.Replacement
import ReceiverLoader.Proofs.Session.Once

/-!
# What a round does to the files

A round changes one file at most: the one of its loader, and only if it generates the loader.

* `FilesBehind`: the files behind a round with a given outcome.
* `Answers.filesBehind`, `Effect.filesBehind`: so are the files behind a request to write the
  loader, and behind what a round has done.
* `processRound_files`: so are the files behind each round.
* `processRound_generated`: a loader that a round generates is the one of its receivers.
-/

namespace ReceiverLoader

open FileSystem (SameFile Replaces)

/-- The files `fs'` behind a round with this outcome. A loader that was generated stands at `path`,
where no other file has changed; without one none has changed. -/
structure FilesBehind (path : FilePath) (fs fs' : FileSystem) (outcome : Outcome) : Prop where
  generated : ∀ a, outcome = .generated a → Replaces path a.content fs fs'
  idle : (∀ a, outcome ≠ .generated a) → ∀ route, SameFile fs fs' route

theorem Outcome.artifact?_eq_some {outcome : Outcome} {a : Artifact}
    (h : outcome.artifact? = some a) : outcome = .generated a := by
  cases outcome <;> cases h
  rfl

namespace Host

theorem Answers.outDirectory {h after : Host} {a : Artifact} {path : FilePath}
    {answer : Except WriteError FilePath} (hanswers : Answers h a path after answer) :
    after.outDirectory = h.outDirectory := by
  cases hanswers <;> rfl

/-- A request to write a loader changes the file of the loader, or none. -/
theorem Answers.filesBehind {h after : Host} {a : Artifact} {path : FilePath}
    {answer : Except WriteError FilePath} (hanswers : Answers h a path after answer) :
    FilesBehind path h.files after.files (Outcome.ofAnswer a answer) := by
  cases hanswers with
  | refused => exact ⟨nofun, fun _ => SameFile.refl h.files⟩
  | failed e _ hgrows => exact ⟨nofun, fun _ => hgrows.sameFile⟩
  | done log _ hgrows hwrite =>
    refine ⟨fun a' ha' => ?_, fun hnone => absurd rfl (hnone a)⟩
    cases ha'
    exact hgrows.replaces hwrite

end Host

/-- The files behind a round are those behind its request to write the loader, or as before. -/
theorem Effect.filesBehind {h after : Host} {loader : Artifact} {outcome : Outcome}
    (heffect : Effect h loader after outcome) :
    FilesBehind (h.artifactPath loader.package loader.typeName) h.files after.files outcome := by
  cases heffect with
  | idle hidle hstore =>
    rw [hstore.files]
    refine ⟨fun a ha => ?_, fun _ => SameFile.refl h.files⟩
    rcases hidle with hskipped | ⟨e, haborted⟩
    · cases ha.symm.trans hskipped
    · cases ha.symm.trans haborted
  | written hstore =>
    rw [hstore.files]
    exact (Host.emit_answers h loader).filesBehind

theorem Effect.outDirectory {h after : Host} {loader : Artifact} {outcome : Outcome}
    (heffect : Effect h loader after outcome) : after.outDirectory = h.outDirectory := by
  cases heffect with
  | idle _ hstore => exact hstore.outDirectory
  | written hstore => exact hstore.outDirectory.trans (Host.emit_answers h loader).outDirectory

variable (h : Host) (settings : Settings) (round : Round)

/-- A round changes the file of its loader if it generates the loader, and else none. -/
theorem processRound_files :
    FilesBehind h.loaderPath h.files (processRound h settings round).1.files
      (processRound h settings round).2 :=
  (processRound_course h settings round).effect.filesBehind

/-- A round writes below the directory of its host throughout. -/
theorem processRound_outDirectory :
    (processRound h settings round).1.outDirectory = h.outDirectory :=
  (processRound_course h settings round).effect.outDirectory

/-- A loader that a round generates is the one of its receivers. -/
theorem processRound_generated {a : Artifact}
    (ha : (processRound h settings round).2 = .generated a) :
    a = loaderOf settings (moduleNameOf h) (round.scan settings.marker) :=
  (processRound_course h settings round).effect.generated ha

end ReceiverLoader
