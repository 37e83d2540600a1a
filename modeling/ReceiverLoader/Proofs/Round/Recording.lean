import ReceiverLoader.Proofs.Round.Course

/-!
# Hosts that record what is written

A relation between the states of two hosts is a `Simulation` if related hosts answer alike and stay
related; a round then ends alike on both (`Simulation.processRound`). `Recorded σ` is a host that
answers like one of `σ` and lists the files that it was asked to write, with the answers. As a round
cannot tell it from the host inside (`processRound_recorded`), the list says which files a round
writes, and how often.
-/

namespace ReceiverLoader

open BuildContext (option? resolveType isSubtype note report write emit)

/-! ## Simulations -/

variable {σ τ : Type} [BuildContext σ] [BuildContext τ]

/-- Related hosts give the same answers and are related also behind what they are asked to do. -/
structure Simulation (R : σ → τ → Prop) : Prop where
  option? : ∀ {s t}, R s t → ∀ key, option? s key = option? t key
  resolveType : ∀ {s t}, R s t → ∀ name, resolveType s name = resolveType t name
  isSubtype : ∀ {s t}, R s t → ∀ type of, isSubtype s type of = isSubtype t type of
  note : ∀ {s t}, R s t → ∀ entry, R (note s entry) (note t entry)
  report : ∀ {s t}, R s t → ∀ d, R (report s d) (report t d)
  write : ∀ {s t}, R s t → ∀ package typeName content,
    R (write s package typeName content).1 (write t package typeName content).1 ∧
      (write s package typeName content).2 = (write t package typeName content).2

namespace Simulation

variable {R : σ → τ → Prop} {s : σ} {t : τ}

theorem firstViolation (hR : Simulation R) (h : R s t) (required : String)
    (ds : List Declaration) : firstViolation s required ds = firstViolation t required ds := by
  simp only [firstViolation_eq, hR.isSubtype h]

theorem start (hR : Simulation R) (h : R s t) (settings : Settings) :
    R (Context.start s settings).1 (Context.start t settings).1 ∧
      (Context.start s settings).2 = (Context.start t settings).2 := by
  unfold Context.start
  rw [hR.option? h]
  split
  · rename_i name _
    refine ⟨hR.note ?_ _, rfl⟩
    by_cases hf : Text.Ident.isFragment name = true
    · rw [if_pos hf, if_pos hf]
      exact h
    · rw [if_neg hf, if_neg hf]
      exact hR.report h _
  · exact ⟨hR.report h _, rfl⟩

theorem generate (hR : Simulation R) (h : R s t) (c : Context) (ds : List Declaration) :
    R (c.generate s ds).1 (c.generate t ds).1 ∧
      (c.generate s ds).2 = (c.generate t ds).2 := by
  unfold Context.generate
  dsimp only
  generalize Loader.render c.module (c.receivers ds) c.settings.separator = artifact
  have hw := hR.write h artifact.package artifact.typeName artifact.content
  unfold emit
  generalize BuildContext.write s artifact.package artifact.typeName artifact.content = ws at hw ⊢
  generalize BuildContext.write t artifact.package artifact.typeName artifact.content = wt at hw ⊢
  obtain ⟨s', answer⟩ := ws
  obtain ⟨t', answer'⟩ := wt
  obtain ⟨hst, rfl⟩ := hw
  cases answer with
  | ok path => exact ⟨hR.note hst _, rfl⟩
  | error e => exact ⟨hR.report (hR.note hst _) _, rfl⟩

theorem process (hR : Simulation R) (h : R s t) (c : Context) (round : Round) :
    R (c.process s round).1 (c.process t round).1 ∧
      (c.process s round).2 = (c.process t round).2 := by
  unfold Context.process
  generalize round.scan c.settings.marker = ds
  have hnote := hR.note h (Round.scanEntry c.settings.marker ds.length)
  dsimp only
  generalize BuildContext.note s (Round.scanEntry c.settings.marker ds.length) = s' at hnote ⊢
  generalize BuildContext.note t (Round.scanEntry c.settings.marker ds.length) = t' at hnote ⊢
  have hreq : c.required s' = c.required t' := by
    unfold Context.required
    rw [hR.resolveType hnote]
  rw [hreq]
  split
  · exact ⟨hnote, rfl⟩
  · split
    · exact ⟨hR.report hnote _, rfl⟩
    · rename_i required _
      rw [hR.firstViolation hnote]
      split
      · exact ⟨hR.report hnote _, rfl⟩
      · obtain ⟨hgen, houtcome⟩ := hR.generate hnote { c with capability := some required } ds
        exact ⟨hgen, by rw [houtcome]⟩

/-- A round ends alike on related hosts. -/
theorem processRound (hR : Simulation R) (h : R s t) (settings : Settings) (round : Round) :
    R (processRound s settings round).1 (processRound t settings round).1 ∧
      (processRound s settings round).2 = (processRound t settings round).2 := by
  have hstart := hR.start h settings
  unfold ReceiverLoader.processRound
  generalize Context.start s settings = begun at hstart ⊢
  generalize Context.start t settings = begun' at hstart ⊢
  obtain ⟨s', c⟩ := begun
  obtain ⟨t', c'⟩ := begun'
  obtain ⟨hst, rfl⟩ := hstart
  obtain ⟨hprocess, houtcome⟩ := hR.process hst c round
  exact ⟨hprocess, congrArg Prod.snd houtcome⟩

end Simulation

/-! ## Recording -/

/-- A host with the files that it was asked to write. -/
structure Recorded (σ : Type) where
  host : σ
  /-- The files with the host's answers, in the order in which they were written. -/
  writes : List (Artifact × Except WriteError FilePath)

namespace Recorded

/-- A host that has not been asked to write a file yet. -/
def start (h : σ) : Recorded σ := ⟨h, []⟩

instance : BuildContext (Recorded σ) where
  option? r := option? r.host
  resolveType r := resolveType r.host
  isSubtype r := isSubtype r.host
  note r entry := { r with host := note r.host entry }
  report r d := { r with host := report r.host d }
  write r package typeName content :=
    let (host, answer) := write r.host package typeName content
    (⟨host, r.writes ++ [(⟨package, typeName, content⟩, answer)]⟩, answer)

/-- A recorded host is like the host inside. -/
theorem simulation : Simulation fun (r : Recorded σ) (h : σ) => r.host = h where
  option? h _ := by rw [← h]; rfl
  resolveType h _ := by rw [← h]; rfl
  isSubtype h _ _ := by rw [← h]; rfl
  note h _ := by rw [← h]; rfl
  report h _ := by rw [← h]; rfl
  write h _ _ _ := by rw [← h]; exact ⟨rfl, rfl⟩

/-- What is told does not count as written. -/
theorem told {r r' : Recorded σ} (h : Told r r') :
    Told r.host r'.host ∧ r'.writes = r.writes := by
  induction h with
  | refl => exact ⟨Told.refl _, rfl⟩
  | note entry _ ih => exact ⟨ih.1.note entry, ih.2⟩
  | report d _ ih => exact ⟨ih.1.report d, ih.2⟩

theorem emit_eq (r : Recorded σ) (a : Artifact) :
    emit r a = (⟨(emit r.host a).1, r.writes ++ [(a, (emit r.host a).2)]⟩, (emit r.host a).2) := rfl

end Recorded

/-- A round ends on a recorded host as it does on the host itself. -/
theorem processRound_recorded (h : σ) (settings : Settings) (round : Round) :
    processRound h settings round =
      ((processRound (Recorded.start h) settings round).1.host,
        (processRound (Recorded.start h) settings round).2) := by
  obtain ⟨hhost, houtcome⟩ := Recorded.simulation.processRound (s := Recorded.start h) (t := h) rfl
    settings round
  exact Prod.ext hhost.symm houtcome.symm

end ReceiverLoader
