import ReceiverLoader.Process

/-!
# The course of a round

What a round does to its host, whatever host it is. `Told` relates two states of a host between
which there were only log entries and diagnostics; `Course` lists the four courses that a round can
take, with what each has asked of the host.

* `processRound_course`: each round takes one of them.
* `firstViolation_eq`: validation finds the first declaration without the capability.
-/

namespace ReceiverLoader

open BuildContext (option? resolveType isSubtype note report emit)

variable {σ : Type} [BuildContext σ]

/-- From the first state to the second there were only log entries and diagnostics. -/
inductive Told : σ → σ → Prop
  | refl (h : σ) : Told h h
  | note {h h' : σ} (entry : Log.Entry) : Told h h' → Told h (note h' entry)
  | report {h h' : σ} (d : Diagnostic) : Told h h' → Told h (report h' d)

theorem Told.trans {h h' h'' : σ} (h₁ : Told h h') (h₂ : Told h' h'') : Told h h'' := by
  induction h₂ with
  | refl => exact h₁
  | note entry _ ih => exact ih.note entry
  | report d _ ih => exact ih.report d

/-- The outcome of a round whose loader the host was asked to write. -/
def Outcome.ofAnswer (artifact : Artifact) : Except WriteError FilePath → Outcome
  | .ok _ => .generated artifact
  | .error e => .writeFailed artifact ⟨artifact.typeName, e⟩

/-- The name of the module that a round is for: the option's value, or else the empty name. -/
def moduleNameOf (h : σ) : String := (option? h Loader.moduleOption).getD ""

/-- The loader of a module with these receivers. -/
def loaderOf (settings : Settings) (module : String) (ds : List Declaration) : Artifact :=
  Loader.render module (ds.map fun d => Receiver.ofDeclaration d settings.marker module)
    settings.separator

/-- The courses that a round with the receivers `ds` can take on a host, with the state that it
leaves and the outcome. The capability is looked up, and the loader written, in a state `asked`
that differs from the first one by what was told only. -/
inductive Course (settings : Settings) (module : String) (ds : List Declaration) (h : σ) :
    σ → Outcome → Prop
  | skipped {h' : σ} : ds = [] → Told h h' → Course settings module ds h h' .skipped
  | unresolved {asked h' : σ} : ds ≠ [] → Told h asked →
      resolveType asked settings.capability = none → Told h h' →
      Course settings module ds h h' (.aborted (.unresolvedCapability settings.capability))
  | violated {asked h' : σ} {handle : String} {d : Declaration} {v : Violation} : ds ≠ [] →
      Told h asked → resolveType asked settings.capability = some handle →
      firstViolation asked handle ds = some (d, v) → Told h h' →
      Course settings module ds h h' (.aborted (.violation v))
  | written {asked h' : σ} {handle : String} : ds ≠ [] → Told h asked →
      resolveType asked settings.capability = some handle →
      firstViolation asked handle ds = none →
      Told (emit asked (loaderOf settings module ds)).1 h' →
      Course settings module ds h h'
        (Outcome.ofAnswer (loaderOf settings module ds)
          (emit asked (loaderOf settings module ds)).2)

/-! ## Validation -/

/-- Validation stops at the first declaration without the capability. -/
theorem firstViolation_eq (h : σ) (required : String) (ds : List Declaration) :
    firstViolation h required ds =
      (ds.find? fun d => !isSubtype h d.type required).map
        fun d => (d, ⟨d.name, required, d.location⟩) := by
  induction ds with
  | nil => rfl
  | cons d ds ih =>
    rw [firstViolation, validate, List.find?_cons]
    cases isSubtype h d.type required with
    | true => exact ih
    | false => rfl

/-! ## The stages -/

namespace Context

theorem start_told (h : σ) (settings : Settings) : Told h (start h settings).1 := by
  unfold start
  split
  · rename_i name _
    by_cases hf : Text.Ident.isFragment name = true
    · rw [if_pos hf]
      exact (Told.refl h).note _
    · rw [if_neg hf]
      exact ((Told.refl h).report _).note _
  · exact (Told.refl h).report _

theorem start_settings (h : σ) (settings : Settings) :
    (start h settings).2.settings = settings := by
  unfold start
  split <;> rfl

theorem start_capability (h : σ) (settings : Settings) :
    (start h settings).2.capability = none := by
  unfold start
  split <;> rfl

/-- An empty name counts as missing; either way the round goes on with an empty one. -/
theorem start_module (h : σ) (settings : Settings) :
    (start h settings).2.module = moduleNameOf h := by
  unfold start moduleNameOf
  cases option? h Loader.moduleOption with
  | none => rfl
  | some name =>
    by_cases hn : name = ""
    · subst hn
      rfl
    · have hne : (name != "") = true := bne_iff_ne.mpr hn
      simp only [Option.filter_some, hne, ↓reduceIte, Option.getD_some]

/-- Writing the loader is the last thing that a round asks of its host. -/
theorem generate_told (c : Context) (h : σ) (ds : List Declaration) :
    Told (emit h (loaderOf c.settings c.module ds)).1 (c.generate h ds).1 ∧
      (c.generate h ds).2 = Outcome.ofAnswer (loaderOf c.settings c.module ds)
        (emit h (loaderOf c.settings c.module ds)).2 := by
  unfold generate
  have hl : Loader.render c.module (c.receivers ds) c.settings.separator =
      loaderOf c.settings c.module ds := rfl
  rw [hl]
  dsimp only
  generalize emit h (loaderOf c.settings c.module ds) = written
  obtain ⟨h', answer⟩ := written
  cases answer with
  | ok path => exact ⟨(Told.refl h').note _, rfl⟩
  | error e => exact ⟨((Told.refl h').note _).report _, rfl⟩

theorem process_course (c : Context) (h : σ) (round : Round) (hc : c.capability = none) :
    Course c.settings c.module (round.scan c.settings.marker) h (c.process h round).1
      (c.process h round).2.2 := by
  unfold process
  generalize round.scan c.settings.marker = ds
  have hasked := (Told.refl h).note (Round.scanEntry c.settings.marker ds.length)
  cases ds with
  | nil => exact Course.skipped rfl hasked
  | cons d ds =>
    have hne : d :: ds ≠ [] := List.cons_ne_nil d ds
    simp only [List.isEmpty_cons, Bool.false_eq_true, ↓reduceIte, required, hc]
    split
    · rename_i hr
      exact Course.unresolved hne hasked hr (hasked.report _)
    · rename_i handle hr
      split
      · rename_i e v hv
        exact Course.violated hne hasked hr hv (hasked.report _)
      · rename_i hv
        obtain ⟨htold, houtcome⟩ := generate_told { c with capability := some handle }
          (note h (Round.scanEntry c.settings.marker (d :: ds).length)) (d :: ds)
        rw [houtcome]
        exact Course.written hne hasked hr hv htold

end Context

theorem Course.of_told {settings : Settings} {module : String} {ds : List Declaration}
    {h h₁ h' : σ} {outcome : Outcome} (htold : Told h h₁)
    (hcourse : Course settings module ds h₁ h' outcome) :
    Course settings module ds h h' outcome := by
  cases hcourse with
  | skipped hds ht => exact .skipped hds (htold.trans ht)
  | unresolved hds ha hr ht => exact .unresolved hds (htold.trans ha) hr (htold.trans ht)
  | violated hds ha hr hv ht => exact .violated hds (htold.trans ha) hr hv (htold.trans ht)
  | written hds ha hr hv ht => exact .written hds (htold.trans ha) hr hv ht

/-- Each round takes one of the courses. -/
theorem processRound_course (h : σ) (settings : Settings) (round : Round) :
    Course settings (moduleNameOf h) (round.scan settings.marker) h
      (processRound h settings round).1 (processRound h settings round).2 := by
  have hcourse := Context.process_course (Context.start h settings).2 (Context.start h settings).1
    round (Context.start_capability h settings)
  rw [Context.start_settings, Context.start_module] at hcourse
  exact hcourse.of_told (Context.start_told h settings)

end ReceiverLoader
