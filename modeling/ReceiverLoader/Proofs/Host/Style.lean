import ReceiverLoader.Proofs.Host.Writing
import ReceiverLoader.Proofs.Round.Outcome

/-!
# How a host tells what is reported

A host tells diagnostics to the build tool or to the log. The way in which it tells them makes no
difference to a round, and a host that tells them to the log prints nothing.

* `Host.printed_processRound`: a round prints nothing on such a host.
* `Host.Agrees`: two hosts that may differ in what they tell, and how.
* `Host.agrees_simulation`: their services are the same, and they stay alike.
-/

namespace ReceiverLoader.Host

/-- Of what is reported the host keeps the diagnostic; all else is told. -/
theorem report_eq (h : Host) (d : Diagnostic) : ∃ printed log,
    h.report d = { h with printed, log, diagnostics := h.diagnostics ++ [d] } := by
  unfold report
  dsimp only
  split
  · simp only [foldl_print]
    exact ⟨_, _, rfl⟩
  · exact ⟨_, _, rfl⟩

/-! ## Hosts that tell to the log -/

/-- The host `h'` still tells to the log, and nothing has been printed since `h`. -/
def Quiet (h h' : Host) : Prop := h'.style = .log ∧ h'.printed = h.printed

theorem Quiet.told {h h' h'' : Host} (hquiet : Quiet h h') (htold : Told h' h'') : Quiet h h'' := by
  induction htold with
  | refl => exact hquiet
  | note entry _ ih => exact ih
  | @report told d _ ih =>
    have hreport : told.report d = { told.note ⟨levelOf d.severity, d.detail, []⟩ with
        diagnostics := told.diagnostics ++ [d] } := by
      rw [report, ih.1]
      rfl
    change Quiet h (told.report d)
    rw [hreport]
    exact ih

theorem Quiet.emit {h h' : Host} (hquiet : Quiet h h') (a : Artifact) :
    Quiet h (BuildContext.emit h' a).1 := by
  have hanswers := emit_answers h' a
  change Quiet h (h'.emit a).1
  generalize (h'.emit a).1 = after at hanswers ⊢
  generalize (h'.emit a).2 = answer at hanswers
  cases hanswers with
  | refused => exact hquiet
  | failed => exact hquiet
  | done => exact hquiet

/-- A round leaves a host quiet, whichever course it takes. -/
theorem Quiet.course {h after : Host} {settings : Settings} {module : String}
    {ds : List Declaration} {outcome : Outcome} (hquiet : Quiet h h)
    (hcourse : Course settings module ds h after outcome) : Quiet h after := by
  cases hcourse with
  | skipped _ htold => exact hquiet.told htold
  | unresolved _ _ _ htold => exact hquiet.told htold
  | violated _ _ _ _ htold => exact hquiet.told htold
  | written _ hasked _ _ htold => exact ((hquiet.told hasked).emit _).told htold

/-- A round prints nothing on a host that tells to the log. -/
theorem printed_processRound {h : Host} (hstyle : h.style = .log) (settings : Settings)
    (round : Round) : (processRound h settings round).1.printed = h.printed :=
  (Quiet.course ⟨hstyle, rfl⟩ (processRound_course h settings round)).2

/-! ## Hosts alike -/

/-- Two hosts with the same values of options, types, files and diagnostics, which have written the
same. They may differ in what they have told, and in the way of telling it. -/
structure Agrees (s t : Host) : Prop where
  outDirectory : s.outDirectory = t.outDirectory
  option? : ∀ key, s.option? key = t.option? key
  types : s.types = t.types
  written : s.written = t.written
  files : s.files = t.files
  diagnostics : s.diagnostics = t.diagnostics

theorem Agrees.symm {s t : Host} (h : Agrees s t) : Agrees t s :=
  ⟨h.outDirectory.symm, fun key => (h.option? key).symm, h.types.symm, h.written.symm,
    h.files.symm, h.diagnostics.symm⟩

theorem Agrees.trans {s t u : Host} (h : Agrees s t) (h' : Agrees t u) : Agrees s u :=
  ⟨h.outDirectory.trans h'.outDirectory, fun key => (h.option? key).trans (h'.option? key),
    h.types.trans h'.types, h.written.trans h'.written, h.files.trans h'.files,
    h.diagnostics.trans h'.diagnostics⟩

theorem Agrees.report {s t : Host} (h : Agrees s t) (d : Diagnostic) :
    Agrees (s.report d) (t.report d) := by
  obtain ⟨_, _, hs⟩ := report_eq s d
  obtain ⟨_, _, ht⟩ := report_eq t d
  rw [hs, ht]
  exact ⟨h.outDirectory, h.option?, h.types, h.written, h.files,
    congrArg (· ++ [d]) h.diagnostics⟩

theorem Agrees.write {s t : Host} (h : Agrees s t) (package typeName content : String) :
    Agrees (s.write package typeName content).1 (t.write package typeName content).1 ∧
      (s.write package typeName content).2 = (t.write package typeName content).2 := by
  have hpath : s.artifactPath package typeName = t.artifactPath package typeName := by
    unfold artifactPath
    rw [h.outDirectory]
  unfold Host.write hasWritten
  simp only [hpath, h.written, h.files]
  split
  · exact ⟨h, rfl⟩
  · split
    · exact ⟨⟨h.outDirectory, h.option?, h.types, rfl, rfl, h.diagnostics⟩, rfl⟩
    · split
      · exact ⟨⟨h.outDirectory, h.option?, h.types, rfl, rfl, h.diagnostics⟩, rfl⟩
      · exact ⟨⟨h.outDirectory, h.option?, h.types, rfl, rfl, h.diagnostics⟩, rfl⟩

/-- The way in which diagnostics are told makes no difference to the services of a host. -/
theorem agrees_simulation : Simulation Agrees where
  option? h := h.option?
  resolveType _ _ := rfl
  isSubtype h type of := congrArg (·.isSubtype type of) h.types
  note h _ := ⟨h.outDirectory, h.option?, h.types, h.written, h.files, h.diagnostics⟩
  report h := h.report
  write h := h.write

end ReceiverLoader.Host
