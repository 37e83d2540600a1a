import ReceiverLoader.Proofs.Round.Outcome
import ReceiverLoader.Proofs.Token.Fragment

/-!
# What a round reports

A round adds to the diagnostics of its host and leaves those before it alone. `Reported` lists all
diagnostics between two states of a host; `NameReport` says what a round reports about the module's
name, `OutcomeReport` what it reports about its outcome, and `ResultReport` what an outcome gives as
its result beside that.

* `NameReport.eq_nil_iff`, `NameReport.warns_iff`: which names are reported about, and which draw a
  warning, by whether they are read as parts of identifiers.
* `Context.start_reported`: a round begins with the report about the name, and nothing else.
* `Context.process_reports`: a round in a context reports its outcome, and nothing else.
* `processRound_diagnostics`: a round from its beginning reports about the name, then its outcome.
* `processRound_reports`: the latter with the result, and whether there are errors.
-/

namespace ReceiverLoader

open BuildContext (option? note report emit)

/-! ## Diagnostics between two states -/

variable {σ : Type} [BuildContext σ]

/-- From the first state to the second exactly these diagnostics were reported; besides them there
were log entries only. -/
inductive Reported : σ → List Diagnostic → σ → Prop
  | refl (h : σ) : Reported h [] h
  | note {h h' : σ} {ds : List Diagnostic} (entry : Log.Entry) : Reported h ds h' →
      Reported h ds (note h' entry)
  | report {h h' : σ} {ds : List Diagnostic} (d : Diagnostic) : Reported h ds h' →
      Reported h (ds ++ [d]) (report h' d)

theorem Reported.told {h h' : σ} {ds : List Diagnostic} (hreported : Reported h ds h') :
    Told h h' := by
  induction hreported with
  | refl => exact .refl _
  | note entry _ ih => exact ih.note entry
  | report d _ ih => exact ih.report d

/-! ## Diagnostics of a host -/

namespace Host

@[simp] theorem diagnostics_note (h : Host) (entry : Log.Entry) :
    (BuildContext.note h entry).diagnostics = h.diagnostics := rfl

@[simp] theorem diagnostics_report (h : Host) (d : Diagnostic) :
    (BuildContext.report h d).diagnostics = h.diagnostics ++ [d] := by
  change (h.report d).diagnostics = _
  unfold report
  cases h.style with
  | log => rfl
  | directives =>
    simp only [foldl_print]
    rfl

theorem diagnostics_write (h : Host) (package typeName content : String) :
    (h.write package typeName content).1.diagnostics = h.diagnostics := by
  unfold write
  dsimp only
  split
  · rfl
  · split
    · rfl
    · split <;> rfl

theorem diagnostics_reported {h h' : Host} {ds : List Diagnostic} (hreported : Reported h ds h') :
    h'.diagnostics = h.diagnostics ++ ds := by
  induction hreported with
  | refl => exact (List.append_nil _).symm
  | note entry _ ih => exact ih
  | report d _ ih => rw [diagnostics_report, ih, List.append_assoc]

@[simp] theorem diagnostics_emit (h : Host) (a : Artifact) :
    (BuildContext.emit h a).1.diagnostics = h.diagnostics :=
  h.diagnostics_write a.package a.typeName a.content

end Host

/-! ## The module's name -/

/-- What is reported about the name of the module: an error if it is missing or empty, a warning if
it cannot be part of a type's name, and else nothing. -/
inductive NameReport (separator : String) : Option String → List Diagnostic → Prop
  | missing {name? : Option String} : name? = none ∨ name? = some "" →
      NameReport separator name? [⟨.error, Context.missingModule separator, none, none⟩]
  | unfit {name : String} : name ≠ "" → (∃ c ∈ name.toList, Text.Ident.isContinue c = false) →
      NameReport separator (some name) [⟨.warning, Context.unfitModule name, none, none⟩]
  | fit {name : String} : name ≠ "" → (∀ c ∈ name.toList, Text.Ident.isContinue c = true) →
      NameReport separator (some name) []

theorem NameReport.any_isError {separator : String} {name? : Option String}
    {ds : List Diagnostic} (h : NameReport separator name? ds) :
    ds.any Diagnostic.isError ↔ name? = none ∨ name? = some "" := by
  cases h with
  | missing hname => exact iff_of_true rfl hname
  | unfit hne _ => exact iff_of_false Bool.false_ne_true (by simp [hne])
  | fit hne _ => exact iff_of_false Bool.false_ne_true (by simp [hne])

theorem not_exists_name {name? : Option String} (h : name? = none ∨ name? = some "")
    {P : String → Prop} : ¬ ∃ name, name? = some name ∧ name ≠ "" ∧ P name := by
  rintro ⟨name, rfl, hne, -⟩
  rcases h with h | h
  · cases h
  · exact hne (Option.some.inj h)

/-- Nothing is reported about a name iff it is there and the beginning of an identifier with it
behind is read as one word, all of it. -/
theorem NameReport.eq_nil_iff {separator : String} {name? : Option String} {ds : List Diagnostic}
    (h : NameReport separator name? ds) :
    ds = [] ↔ ∃ name, name? = some name ∧ name ≠ "" ∧
      Token.soleWord? ("M_" ++ name) = some ("M_" ++ name) := by
  simp only [ne_eq, Token.soleWord?_eq_self_iff, Text.Ident.isFragment, List.all_eq_true]
  cases h with
  | missing hname => exact iff_of_false (List.cons_ne_nil _ _) (not_exists_name hname)
  | @unfit name _ hunfit =>
    refine iff_of_false (List.cons_ne_nil _ _) ?_
    rintro ⟨other, hother, -, hall⟩
    cases hother
    obtain ⟨c, hmem, hc⟩ := hunfit
    exact Bool.eq_false_iff.mp hc (hall c hmem)
  | @fit name hne hfit => exact iff_of_true rfl ⟨name, rfl, hne, hfit⟩

/-- A name draws a warning iff it is there and is not read so. -/
theorem NameReport.warns_iff {separator : String} {name? : Option String} {ds : List Diagnostic}
    (h : NameReport separator name? ds) :
    (∃ d ∈ ds, d.severity = .warning) ↔ ∃ name, name? = some name ∧ name ≠ "" ∧
      Token.soleWord? ("M_" ++ name) ≠ some ("M_" ++ name) := by
  have hnil := h.eq_nil_iff
  cases h with
  | missing hname => exact iff_of_false (by simp) (not_exists_name hname)
  | @unfit name hne _ =>
    refine iff_of_true ⟨_, List.mem_singleton_self _, rfl⟩ ⟨name, rfl, hne, fun hread => ?_⟩
    exact List.cons_ne_nil _ _ (hnil.mpr ⟨name, rfl, hne, hread⟩)
  | @fit name _ _ =>
    obtain ⟨other, hother, -, hread⟩ := hnil.mp rfl
    cases hother
    refine iff_of_false (by simp) ?_
    rintro ⟨other, hother, -, hunread⟩
    cases hother
    exact hunread hread

/-- The beginning of a round reports about the name of the module, and nothing else. -/
theorem Context.start_reported (h : σ) (settings : Settings) :
    ∃ reported, Reported h reported (Context.start h settings).1 ∧
      NameReport settings.separator (option? h Loader.moduleOption) reported := by
  unfold start
  cases option? h Loader.moduleOption with
  | none => exact ⟨_, (Reported.refl h).report _, .missing (Or.inl rfl)⟩
  | some name =>
    by_cases hname : name = ""
    · subst hname
      exact ⟨_, (Reported.refl h).report _, .missing (Or.inr rfl)⟩
    · have hne : (name != "") = true := bne_iff_ne.mpr hname
      simp only [Option.filter_some, hne, ↓reduceIte]
      by_cases hf : Text.Ident.isFragment name = true
      · rw [if_pos hf]
        exact ⟨[], (Reported.refl h).note _, .fit hname (List.all_eq_true.mp hf)⟩
      · rw [if_neg hf]
        refine ⟨_, ((Reported.refl h).report _).note _, .unfit hname ?_⟩
        rw [Bool.not_eq_true, Text.Ident.isFragment, List.all_eq_false] at hf
        simpa using hf

theorem Context.start_reports (h : Host) (settings : Settings) :
    ∃ reported, (Context.start h settings).1.diagnostics = h.diagnostics ++ reported ∧
      NameReport settings.separator (h.option? Loader.moduleOption) reported := by
  obtain ⟨reported, hreported, hname⟩ := Context.start_reported h settings
  exact ⟨reported, Host.diagnostics_reported hreported, hname⟩

/-! ## The outcome -/

/-- What is reported about the outcome of a round with the receivers `ds` on the host `h`, where the
capability `capability` is resolved as `handle?`. An abortion is an error, about the first receiver
without the capability if it is for one; a failure to write is a warning. -/
inductive OutcomeReport (h : Host) (capability : String) (handle? : Option String)
    (ds : List Declaration) : Outcome → List Diagnostic → Prop
  | skipped : OutcomeReport h capability handle? ds .skipped []
  | generated (a : Artifact) : OutcomeReport h capability handle? ds (.generated a) []
  | unresolved : handle? = none →
      OutcomeReport h capability handle? ds (.aborted (.unresolvedCapability capability))
        [⟨.error, (ProcessError.unresolvedCapability capability).message, none, none⟩]
  | violation {handle : String} {d : Declaration} : handle? = some handle →
      ds.find? (fun d => !h.isSubtype d.type handle) = some d →
      OutcomeReport h capability handle? ds (.aborted (.violation ⟨d.name, handle, d.location⟩))
        [⟨.error, (ProcessError.violation ⟨d.name, handle, d.location⟩).message, some d.name,
          d.location⟩]
  | writeFailed (a : Artifact) (failure : WriteFailure) :
      OutcomeReport h capability handle? ds (.writeFailed a failure)
        [⟨.warning, (ProcessError.write failure).message, none, none⟩]

/-- The result of an outcome, beside what is reported about it. An abortion gives its error and a
failure to write gives that; the one diagnostic, an error or a warning, has the message of the error
that is given. Every other outcome gives the loader that was written, if one was, and nothing is
reported. -/
inductive ResultReport : Outcome → Except ProcessError (Option Artifact) → List Diagnostic → Prop
  | skipped : ResultReport .skipped (.ok none) []
  | generated (a : Artifact) : ResultReport (.generated a) (.ok (some a)) []
  | aborted (e : ProcessError) {d : Diagnostic} : d.severity = .error → d.message = e.message →
      ResultReport (.aborted e) (.error e) [d]
  | writeFailed (a : Artifact) (failure : WriteFailure) {d : Diagnostic} :
      d.severity = .warning → d.message = (ProcessError.write failure).message →
      ResultReport (.writeFailed a failure) (.error (.write failure)) [d]

/-- A result that is an error has its message in the one diagnostic that is reported. -/
theorem ResultReport.message_eq {outcome : Outcome}
    {result : Except ProcessError (Option Artifact)} {reported : List Diagnostic}
    (hr : ResultReport outcome result reported) {e : ProcessError} (he : result = .error e) :
    ∃ d, reported = [d] ∧ d.message = e.message := by
  cases hr with
  | skipped | generated _ => cases he
  | aborted _ _ hmessage | writeFailed _ _ _ hmessage =>
    cases he
    exact ⟨_, rfl, hmessage⟩

namespace OutcomeReport

variable {h : Host} {capability : String} {handle? : Option String} {ds : List Declaration}
  {outcome : Outcome} {reported : List Diagnostic}

/-- What is reported about an outcome goes with its result. -/
theorem resultReport (hr : OutcomeReport h capability handle? ds outcome reported) :
    ResultReport outcome outcome.result reported := by
  cases hr with
  | skipped => exact .skipped
  | generated a => exact .generated a
  | unresolved _ | violation _ _ => exact .aborted _ rfl rfl
  | writeFailed a failure => exact .writeFailed a failure rfl rfl

theorem any_isError (hr : OutcomeReport h capability handle? ds outcome reported) :
    reported.any Diagnostic.isError ↔ ∃ e, outcome = .aborted e := by
  cases hr with
  | skipped => exact iff_of_false Bool.false_ne_true (by simp)
  | generated a => exact iff_of_false Bool.false_ne_true (by simp)
  | unresolved _ | violation _ _ => exact iff_of_true rfl ⟨_, rfl⟩
  | writeFailed _ _ => exact iff_of_false Bool.false_ne_true (by simp)

/-- Diagnostics and log entries do not matter to the report of an outcome. -/
theorem of_sameStore {h' : Host} (hs : Host.SameStore h h')
    (hr : OutcomeReport h' capability handle? ds outcome reported) :
    OutcomeReport h capability handle? ds outcome reported := by
  cases hr with
  | skipped => exact .skipped
  | generated a => exact .generated a
  | unresolved hnone => exact .unresolved hnone
  | violation hhandle hfind =>
    simp only [hs.isSubtype] at hfind
    exact .violation hhandle hfind
  | writeFailed a failure => exact .writeFailed a failure

end OutcomeReport

namespace Context

/-- The writing of a loader reports a failure, and nothing else. -/
theorem generate_reports (c : Context) (h : Host) (capability : String) (handle? : Option String)
    (ds : List Declaration) :
    ∃ reported, (c.generate h ds).1.diagnostics = h.diagnostics ++ reported ∧
      OutcomeReport h capability handle? ds (c.generate h ds).2 reported := by
  unfold generate
  generalize Loader.render c.module (c.receivers ds) c.settings.separator = artifact
  have hdiagnostics := Host.diagnostics_emit h artifact
  dsimp only
  generalize emit h artifact = written at hdiagnostics ⊢
  obtain ⟨h', answer⟩ := written
  have hdiagnostics : h'.diagnostics = h.diagnostics := hdiagnostics
  cases answer with
  | ok path =>
    refine ⟨[], ?_, .generated artifact⟩
    rw [Host.diagnostics_note, hdiagnostics, List.append_nil]
  | error e =>
    refine ⟨_, ?_, .writeFailed artifact ⟨artifact.typeName, e⟩⟩
    rw [Host.diagnostics_report, Host.diagnostics_note, hdiagnostics]
    rfl

/-- A round in a context reports its outcome, and nothing else. -/
theorem process_reports (c : Context) (h : Host) (round : Round) :
    ∃ reported, (c.process h round).1.diagnostics = h.diagnostics ++ reported ∧
      OutcomeReport h c.settings.capability (c.required h) (round.scan c.settings.marker)
        (c.process h round).2.2 reported := by
  unfold process
  generalize round.scan c.settings.marker = ds
  have hsame : Host.SameStore h (note h (Round.scanEntry c.settings.marker ds.length)) :=
    Host.sameStore_of_told ((Told.refl h).note _)
  have hdiagnostics := h.diagnostics_note (Round.scanEntry c.settings.marker ds.length)
  have hrequired : c.required (note h (Round.scanEntry c.settings.marker ds.length)) =
      c.required h := rfl
  dsimp only
  rw [hrequired]
  generalize note h (Round.scanEntry c.settings.marker ds.length) = asked at hsame hdiagnostics ⊢
  split
  · exact ⟨[], by rw [hdiagnostics, List.append_nil], .skipped⟩
  · split
    · rename_i hnone
      refine ⟨_, ?_, .unresolved hnone⟩
      rw [Host.diagnostics_report, hdiagnostics]
      rfl
    · rename_i handle hhandle
      have hsub : ∀ type of, BuildContext.isSubtype asked type of = h.isSubtype type of :=
        hsame.isSubtype
      rw [hhandle, firstViolation_eq]
      simp only [hsub]
      cases hfind : ds.find? fun d => !h.isSubtype d.type handle with
      | some d =>
        refine ⟨_, ?_, .violation rfl hfind⟩
        rw [Option.map_some]
        dsimp only
        rw [Host.diagnostics_report, hdiagnostics]
        rfl
      | none =>
        obtain ⟨reported, hreported, hr⟩ := generate_reports { c with capability := some handle }
          asked c.settings.capability (some handle) ds
        rw [hdiagnostics] at hreported
        exact ⟨reported, hreported, hr.of_sameStore hsame⟩

end Context

/-! ## A whole round -/

theorem Host.hasErrors_of_append {h h' : Host} {reported : List Diagnostic}
    (hd : h'.diagnostics = h.diagnostics ++ reported) :
    h'.hasErrors = (h.hasErrors || reported.any Diagnostic.isError) := by
  rw [Host.hasErrors, hd, List.any_append, Host.hasErrors]

/-- A round reports about the module's name, then about its outcome. -/
theorem processRound_diagnostics (h : Host) (settings : Settings) (round : Round) :
    ∃ named reported : List Diagnostic,
      (processRound h settings round).1.diagnostics = h.diagnostics ++ named ++ reported ∧
      NameReport settings.separator (h.option? Loader.moduleOption) named ∧
      OutcomeReport h settings.capability (h.resolveType settings.capability)
        (round.scan settings.marker) (processRound h settings round).2 reported := by
  obtain ⟨named, hnamed, hn⟩ := Context.start_reports h settings
  have hsame := Host.sameStore_of_told (Context.start_told h settings)
  have hsettings := Context.start_settings h settings
  have hrequired : (Context.start h settings).2.required (Context.start h settings).1 =
      h.resolveType settings.capability := by
    rw [Context.required, Context.start_capability, hsettings]
    rfl
  obtain ⟨reported, hreported, hr⟩ := Context.process_reports (Context.start h settings).2
    (Context.start h settings).1 round
  rw [hsettings, hrequired] at hr
  rw [hnamed] at hreported
  exact ⟨named, reported, hreported, hn, hr.of_sameStore hsame⟩

/-- Behind a round an error is among the diagnostics iff one was there before, the name is missing
or the round is aborted. -/
theorem hasErrors_processRound_iff (h : Host) (settings : Settings) (round : Round) :
    (processRound h settings round).1.hasErrors ↔ h.hasErrors ∨
      (h.option? Loader.moduleOption = none ∨ h.option? Loader.moduleOption = some "") ∨
      ∃ e, (processRound h settings round).2 = .aborted e := by
  obtain ⟨named, reported, hdiagnostics, hn, hr⟩ := processRound_diagnostics h settings round
  rw [List.append_assoc] at hdiagnostics
  rw [Host.hasErrors_of_append hdiagnostics, List.any_append, Bool.or_eq_true, Bool.or_eq_true,
    hn.any_isError, hr.any_isError]

/-- A round reports about the module's name, then about its outcome. The name draws a warning iff it
is not read as a part of an identifier. The result of the round is an error iff the outcome is an
abortion or a failure to write, and is the one whose message is reported. An error is among the
diagnostics behind the round iff one was there before, the name is missing or the round is
aborted. -/
theorem processRound_reports (h : Host) (settings : Settings) (round : Round) :
    ∃ named reported : List Diagnostic,
      (processRound h settings round).1.diagnostics = h.diagnostics ++ named ++ reported ∧
      NameReport settings.separator (h.option? Loader.moduleOption) named ∧
      ((∃ d ∈ named, d.severity = .warning) ↔ ∃ name,
        h.option? Loader.moduleOption = some name ∧ name ≠ "" ∧
        Token.soleWord? ("M_" ++ name) ≠ some ("M_" ++ name)) ∧
      OutcomeReport h settings.capability (h.resolveType settings.capability)
        (round.scan settings.marker) (processRound h settings round).2 reported ∧
      ResultReport (processRound h settings round).2 (processRound h settings round).2.result
        reported ∧
      (∀ e, (processRound h settings round).2.result = .error e →
        ∃ d, reported = [d] ∧ d.message = e.message) ∧
      ((processRound h settings round).1.hasErrors ↔ h.hasErrors ∨
        (h.option? Loader.moduleOption = none ∨ h.option? Loader.moduleOption = some "") ∨
        ∃ e, (processRound h settings round).2 = .aborted e) := by
  obtain ⟨named, reported, hdiagnostics, hn, hr⟩ := processRound_diagnostics h settings round
  exact ⟨named, reported, hdiagnostics, hn, hn.warns_iff, hr, hr.resultReport,
    fun e he => hr.resultReport.message_eq he, hasErrors_processRound_iff h settings round⟩

end ReceiverLoader
