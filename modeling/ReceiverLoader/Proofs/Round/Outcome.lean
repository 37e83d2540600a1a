import ReceiverLoader.Host
import ReceiverLoader.Proofs.Round.Recording
import ReceiverLoader.Proofs.Round.Selection

/-!
# The outcome of a round

`Settles` says what becomes of a round from its receivers, the options, the types and the files of
its host: which outcome it has, which file it writes, and what stays as it was.

* `Host.SameStore`: two states of a host that differ in what was told only. They write alike
  (`Host.SameStore.write`), and what is told leads from one to another (`Host.sameStore_of_told`).
* `processRound_settles`: each round on each host ends as `Settles` says.
-/

namespace ReceiverLoader

open BuildContext (resolveType isSubtype)

/-! ## What diagnostics and log entries leave as it was -/

namespace Host

/-- Two states of a host with the same options, types and files, which have written the same. -/
structure SameStore (h h' : Host) : Prop where
  outDirectory : h'.outDirectory = h.outDirectory
  options : h'.options = h.options
  types : h'.types = h.types
  written : h'.written = h.written
  files : h'.files = h.files

theorem foldl_print (lines : List String) (h : Host) :
    lines.foldl print h = { h with printed := h.printed ++ lines.flatMap (Text.split '\n') } := by
  induction lines generalizing h with
  | nil => simp
  | cons line lines ih =>
    rw [List.foldl_cons, ih]
    simp [print]

theorem sameStore_report (h : Host) (d : Diagnostic) : SameStore h (h.report d) := by
  unfold report
  cases h.style with
  | log => exact ⟨rfl, rfl, rfl, rfl, rfl⟩
  | directives =>
    simp only [foldl_print]
    exact ⟨rfl, rfl, rfl, rfl, rfl⟩

theorem SameStore.refl (h : Host) : SameStore h h := ⟨rfl, rfl, rfl, rfl, rfl⟩

theorem SameStore.symm {h h' : Host} (hs : SameStore h h') : SameStore h' h :=
  ⟨hs.outDirectory.symm, hs.options.symm, hs.types.symm, hs.written.symm, hs.files.symm⟩

theorem SameStore.trans {h h' h'' : Host} (h₁ : SameStore h h') (h₂ : SameStore h' h'') :
    SameStore h h'' :=
  ⟨h₂.outDirectory.trans h₁.outDirectory, h₂.options.trans h₁.options, h₂.types.trans h₁.types,
    h₂.written.trans h₁.written, h₂.files.trans h₁.files⟩

theorem sameStore_of_told {h h' : Host} (htold : Told h h') : SameStore h h' := by
  induction htold with
  | refl => exact SameStore.refl h
  | note entry _ ih => exact ih.trans ⟨rfl, rfl, rfl, rfl, rfl⟩
  | report d _ ih => exact ih.trans (sameStore_report _ d)

/-- What was told before does not matter to the writing of a file. -/
theorem SameStore.write {h h' : Host} (hs : SameStore h h') (package typeName content : String) :
    (h'.write package typeName content).2 = (h.write package typeName content).2 ∧
      SameStore (h.write package typeName content).1 (h'.write package typeName content).1 := by
  have hpath : h'.artifactPath package typeName = h.artifactPath package typeName := by
    unfold artifactPath
    rw [hs.outDirectory]
  unfold Host.write hasWritten
  simp only [hpath, hs.written, hs.files]
  split
  · exact ⟨rfl, hs⟩
  · split
    · exact ⟨rfl, hs.outDirectory, hs.options, hs.types, rfl, rfl⟩
    · split
      · exact ⟨rfl, hs.outDirectory, hs.options, hs.types, rfl, rfl⟩
      · exact ⟨rfl, hs.outDirectory, hs.options, hs.types, rfl, rfl⟩

theorem SameStore.emit {h h' : Host} (hs : SameStore h h') (a : Artifact) :
    (h'.emit a).2 = (h.emit a).2 ∧ SameStore (h.emit a).1 (h'.emit a).1 :=
  hs.write a.package a.typeName a.content

theorem SameStore.isSubtype {h h' : Host} (hs : SameStore h h') (type of : String) :
    h'.isSubtype type of = h.isSubtype type of := by
  unfold Host.isSubtype
  rw [hs.types]

end Host

/-! ## The outcome -/

theorem Outcome.ofAnswer_ne_skipped (a : Artifact) (answer : Except WriteError FilePath) :
    Outcome.ofAnswer a answer ≠ .skipped := by cases answer <;> simp [Outcome.ofAnswer]

theorem Outcome.ofAnswer_ne_aborted (a : Artifact) (answer : Except WriteError FilePath)
    (e : ProcessError) : Outcome.ofAnswer a answer ≠ .aborted e := by
  cases answer <;> simp [Outcome.ofAnswer]

/-- What becomes of a round with the receivers `ds` on the host `h`: the host `after` it, the files
that it has written, with the answers, and its outcome. -/
structure Settles (settings : Settings) (h : Host) (ds : List Declaration) (after : Host)
    (writes : List (Artifact × Except WriteError FilePath)) (outcome : Outcome) : Prop where
  /-- Without receivers nothing is done. -/
  skipped : outcome = .skipped ↔ ds = []
  unresolved : ds ≠ [] →
    (outcome = .aborted (.unresolvedCapability settings.capability) ↔
      h.resolveType settings.capability = none)
  /-- One receiver without the capability stops the round. -/
  violated : ∀ handle, ds ≠ [] → h.resolveType settings.capability = some handle →
    ((∃ v, outcome = .aborted (.violation v)) ↔ ∃ d ∈ ds, h.isSubtype d.type handle = false)
  /-- The violation names the first such receiver, its place and the capability. -/
  least : ∀ handle v, ds ≠ [] → h.resolveType settings.capability = some handle →
    outcome = .aborted (.violation v) →
    ∃ d ∈ ds, h.isSubtype d.type handle = false ∧
      (∀ e ∈ ds, h.isSubtype e.type handle = false → d.name ≤ e.name) ∧
      v = ⟨d.name, handle, d.location⟩
  /-- Else the loader is written, once, and the host's answer decides. -/
  written : ∀ handle, ds ≠ [] → h.resolveType settings.capability = some handle →
    (∀ d ∈ ds, h.isSubtype d.type handle = true) →
    writes = [(loaderOf settings (moduleNameOf h) ds,
        (h.emit (loaderOf settings (moduleNameOf h) ds)).2)] ∧
      outcome = Outcome.ofAnswer (loaderOf settings (moduleNameOf h) ds)
        (h.emit (loaderOf settings (moduleNameOf h) ds)).2 ∧
      after.files = (h.emit (loaderOf settings (moduleNameOf h) ds)).1.files ∧
      after.written = (h.emit (loaderOf settings (moduleNameOf h) ds)).1.written
  /-- A round that comes to no loader writes nothing. -/
  unwritten : (outcome = .skipped ∨ ∃ e, outcome = .aborted e) →
    writes = [] ∧ after.files = h.files ∧ after.written = h.written

/-- Where declarations ascend, the first that passes a test is the least. -/
theorem find?_least {ds : List Declaration} (hds : ds.Pairwise fun d e => d.name < e.name)
    {test : Declaration → Bool} {d : Declaration} (hd : ds.find? test = some d) :
    ∀ e ∈ ds, test e = true → d.name ≤ e.name := by
  obtain ⟨_, before, behind, rfl, hbefore⟩ := List.find?_eq_some_iff_append.mp hd
  obtain ⟨_, hbehind, _⟩ := List.pairwise_append.mp hds
  intro e he htest
  rcases List.mem_append.mp he with he | he
  · have hfalse := hbefore e he
    rw [htest] at hfalse
    cases hfalse
  · rcases List.mem_cons.mp he with rfl | he
    · exact Std.le_refl _
    · exact Std.le_of_lt ((List.pairwise_cons.mp hbehind).1 e he)

/-- A file is written behind what was told as if nothing had been, and it is the only one. -/
theorem Recorded.emit_told {h : Host} {asked after : Recorded Host} {a : Artifact}
    (hasked : Told (Recorded.start h) asked) (hafter : Told (BuildContext.emit asked a).1 after) :
    (BuildContext.emit asked a).2 = (h.emit a).2 ∧ after.writes = [(a, (h.emit a).2)] ∧
      Host.SameStore (h.emit a).1 after.host := by
  obtain ⟨haskedHost, haskedWrites⟩ := Recorded.told hasked
  obtain ⟨hhost, hwrites⟩ := Recorded.told hafter
  obtain ⟨hanswer, hstore⟩ := (Host.sameStore_of_told haskedHost).emit a
  have hanswer : (BuildContext.emit asked.host a).2 = (h.emit a).2 := hanswer
  rw [Recorded.emit_eq] at hwrites ⊢
  refine ⟨hanswer, ?_, hstore.trans (Host.sameStore_of_told hhost)⟩
  rw [hwrites, haskedWrites, hanswer]
  rfl

/-- What validation finds does not depend on what was told before. -/
theorem firstViolation_asked {h : Host} {asked : Recorded Host}
    (htold : Told (Recorded.start h) asked) (handle : String) (ds : List Declaration) :
    firstViolation asked handle ds =
      (ds.find? fun d => !h.isSubtype d.type handle).map
        fun d => (d, ⟨d.name, handle, d.location⟩) := by
  have hsame := Host.sameStore_of_told (Recorded.told htold).1
  have hsub : ∀ type of, isSubtype asked type of = h.isSubtype type of := hsame.isSubtype
  rw [firstViolation_eq]
  simp only [hsub]

theorem Course.settles {settings : Settings} {h : Host} {ds : List Declaration}
    (hds : ds.Pairwise fun d e => d.name < e.name) {after : Recorded Host} {outcome : Outcome}
    (hcourse : Course settings (moduleNameOf h) ds (Recorded.start h) after outcome) :
    Settles settings h ds after.host after.writes outcome := by
  cases hcourse with
  | skipped hnil htold =>
    obtain ⟨hhost, hwrites⟩ := Recorded.told htold
    have hsame := Host.sameStore_of_told hhost
    exact ⟨iff_of_true rfl hnil, fun hne => absurd hnil hne, fun _ hne => absurd hnil hne,
      fun _ _ hne => absurd hnil hne, fun _ hne => absurd hnil hne,
      fun _ => ⟨hwrites, hsame.files, hsame.written⟩⟩
  | unresolved hne hasked hnone htold =>
    obtain ⟨hhost, hwrites⟩ := Recorded.told htold
    have hsame := Host.sameStore_of_told hhost
    have hnone : h.resolveType settings.capability = none := hnone
    refine ⟨iff_of_false (by simp) hne, fun _ => iff_of_true rfl hnone, ?_, ?_, ?_,
      fun _ => ⟨hwrites, hsame.files, hsame.written⟩⟩ <;>
    · intros
      simp_all
  | @violated _ _ handle d v hne hasked hsome hviolation htold =>
    obtain ⟨hhost, hwrites⟩ := Recorded.told htold
    have hsame := Host.sameStore_of_told hhost
    have hsome : h.resolveType settings.capability = some handle := hsome
    rw [firstViolation_asked hasked, Option.map_eq_some_iff] at hviolation
    obtain ⟨_, hfind, heq⟩ := hviolation
    cases heq
    have hmem := List.mem_of_find?_eq_some hfind
    have hsub : h.isSubtype d.type handle = false := by simpa using List.find?_some hfind
    have hhandle : ∀ {handle'}, h.resolveType settings.capability = some handle' →
        handle' = handle := fun hs => Option.some.inj (hs.symm.trans hsome)
    refine ⟨iff_of_false (by simp) hne, fun _ => iff_of_false (by simp) (by simp [hsome]),
      ?_, ?_, ?_, fun _ => ⟨hwrites, hsame.files, hsame.written⟩⟩
    · intro handle' _ hs
      rw [hhandle hs]
      exact iff_of_true ⟨_, rfl⟩ ⟨d, hmem, hsub⟩
    · intro handle' v' _ hs hv
      cases hv
      rw [hhandle hs]
      refine ⟨d, hmem, hsub, fun e he hesub => find?_least hds hfind e he ?_, rfl⟩
      rw [hesub]
      rfl
    · intro handle' _ hs hall
      have htrue := hall d hmem
      rw [hhandle hs, hsub] at htrue
      cases htrue
  | @written asked _ handle hne hasked hsome hnone htold =>
    obtain ⟨hanswer, hwrites, hstore⟩ := Recorded.emit_told hasked htold
    have hsome : h.resolveType settings.capability = some handle := hsome
    rw [firstViolation_asked hasked, Option.map_eq_none_iff, List.find?_eq_none] at hnone
    have hall : ∀ d ∈ ds, h.isSubtype d.type handle = true := fun d hd => by
      simpa using hnone d hd
    rw [hanswer]
    exact {
      skipped := iff_of_false (Outcome.ofAnswer_ne_skipped _ _) hne
      unresolved := fun _ => iff_of_false (Outcome.ofAnswer_ne_aborted _ _ _) (by simp [hsome])
      violated := fun handle' _ hs => by
        rw [Option.some.inj (hs.symm.trans hsome)]
        refine iff_of_false (fun ⟨v, hv⟩ => Outcome.ofAnswer_ne_aborted _ _ _ hv) ?_
        rintro ⟨d, hd, hsub⟩
        rw [hall d hd] at hsub
        cases hsub
      least := fun _ _ _ _ hv => absurd hv (Outcome.ofAnswer_ne_aborted _ _ _)
      written := fun _ _ _ _ => ⟨hwrites, rfl, hstore.files, hstore.written⟩
      unwritten := fun hor => by
        rcases hor with hskip | ⟨e, habort⟩
        · exact absurd hskip (Outcome.ofAnswer_ne_skipped _ _)
        · exact absurd habort (Outcome.ofAnswer_ne_aborted _ _ _) }

/-- A round ends as `Settles` says of its receivers, of which there is one list. -/
theorem processRound_settles (h : Host) (settings : Settings) (round : Round) :
    ∃ ds, round.Selects settings.marker ds ∧
      (∀ es, round.Selects settings.marker es → es = ds) ∧
      (processRound h settings round).1 =
        (processRound (Recorded.start h) settings round).1.host ∧
      Settles settings h ds (processRound h settings round).1
        (processRound (Recorded.start h) settings round).1.writes
        (processRound h settings round).2 := by
  have hsel := Round.selects_scan round settings.marker
  have hcourse := processRound_course (Recorded.start h) settings round
  rw [processRound_recorded]
  exact ⟨round.scan settings.marker, hsel, fun es hes => hes.unique hsel, rfl,
    hcourse.settles hsel.ascending⟩

end ReceiverLoader
