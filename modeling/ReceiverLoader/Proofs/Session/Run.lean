import ReceiverLoader.Proofs.Round.Report

/-!
# Sessions

A session is what happens to one host: options are set, something is reported, contexts are begun
one after the other, and each processes any number of rounds. `Session.run` follows a list of events
and lists the rounds that were processed.

* `Context.process_effect`: a round in a context writes its loader, or leaves the files alone.
* `Session.run_like`: what was told before, and whether a context has looked up its capability,
  makes no difference to the rounds that follow.
* `Session.run_without_idle`: nor does a round that came to no loader.
-/

namespace ReceiverLoader

open BuildContext (note emit)

/-- Something that happens in a session. -/
inductive Event
  | setOption (key value : String)
  | report (d : Diagnostic)
  /-- A new context takes the place of the last one. -/
  | start (settings : Settings)
  /-- The context processes a round. -/
  | process (round : Round)

/-- A host and the context that was begun last. -/
structure Session where
  host : Host
  context : Option Context

/-- A round that was processed. -/
structure Processing where
  context : Context
  round : Round
  before : Host
  outcome : Outcome
  after : Host

namespace Session

/-- A single event. Without a context no round is processed. -/
def step (s : Session) : Event → Session × Option Processing
  | .setOption key value => (⟨s.host.setOption key value, s.context⟩, none)
  | .report d => (⟨s.host.report d, s.context⟩, none)
  | .start settings =>
    let (host, c) := Context.start s.host settings
    (⟨host, some c⟩, none)
  | .process round =>
    match s.context with
    | none => (s, none)
    | some c =>
      let (host, c', outcome) := c.process s.host round
      (⟨host, some c'⟩, some ⟨c, round, s.host, outcome, host⟩)

/-- Events one after the other, with the rounds that are processed. -/
def run (s : Session) : List Event → Session × List Processing
  | [] => (s, [])
  | e :: es =>
    let (s', processing?) := s.step e
    let (final, processings) := s'.run es
    (final, processing?.toList ++ processings)

theorem run_cons (s : Session) (e : Event) (es : List Event) :
    s.run (e :: es) = (((s.step e).1.run es).1, (s.step e).2.toList ++ ((s.step e).1.run es).2) :=
  rfl

theorem run_append (s : Session) (es fs : List Event) :
    s.run (es ++ fs) = (((s.run es).1.run fs).1, (s.run es).2 ++ ((s.run es).1.run fs).2) := by
  induction es generalizing s with
  | nil => rfl
  | cons e es ih => rw [List.cons_append, run_cons, run_cons, ih, List.append_assoc]

/-- A round is processed if it is the event and there is a context. -/
theorem step_eq_some {s : Session} {e : Event} {p : Processing} (hp : (s.step e).2 = some p) :
    ∃ c round, s.context = some c ∧ e = .process round ∧
      p = ⟨c, round, s.host, (c.process s.host round).2.2, (c.process s.host round).1⟩ ∧
      (s.step e).1 = ⟨(c.process s.host round).1, some (c.process s.host round).2.1⟩ := by
  obtain ⟨h, context⟩ := s
  cases e with
  | setOption key value => cases hp
  | report d => cases hp
  | start settings => cases hp
  | process round =>
    cases context with
    | none => cases hp
    | some c =>
      cases hp
      exact ⟨c, round, rfl, rfl, rfl, rfl⟩

/-- A round from its beginning is a context of its own with this one round. -/
theorem run_processRound (s : Session) (settings : Settings) (round : Round) :
    (s.run [.start settings, .process round]).1.host = (processRound s.host settings round).1 ∧
      (s.run [.start settings, .process round]).2.map (·.outcome) =
        [(processRound s.host settings round).2] := ⟨rfl, rfl⟩

end Session

/-! ## Rounds in a context -/

namespace Context

/-- The context as it was begun: the capability has not been looked up. -/
def begun (c : Context) : Context := { c with capability := none }

/-- The capability, if it has been looked up, is the one of the settings. -/
def IsSound (c : Context) : Prop :=
  ∀ handle, c.capability = some handle →
    QualifiedName.resolve c.settings.capability = some handle

theorem isSound_start (h : Host) (settings : Settings) : (start h settings).2.IsSound := by
  intro handle hc
  rw [start_capability] at hc
  cases hc

theorem IsSound.required {c : Context} (hc : c.IsSound) (h : Host) :
    c.required h = h.resolveType c.settings.capability := by
  unfold Context.required
  split
  · rename_i handle hhandle
    exact (hc handle hhandle).symm
  · rfl

/-- That the capability has been looked up makes no difference. -/
theorem process_begun {c : Context} (hc : c.IsSound) (h : Host) (round : Round) :
    (c.process h round).1 = (c.begun.process h round).1 ∧
      (c.process h round).2.2 = (c.begun.process h round).2.2 := by
  have hbegun : c.begun.IsSound := nofun
  unfold process
  dsimp only
  rw [hc.required, hbegun.required]
  have hsettings : c.begun.settings = c.settings := rfl
  rw [hsettings]
  split
  · exact ⟨rfl, rfl⟩
  · split
    · exact ⟨rfl, rfl⟩
    · split <;> exact ⟨rfl, rfl⟩

/-- A round leaves its context as it was, but for the capability that it may have looked up. -/
theorem process_context {c : Context} (hc : c.IsSound) (h : Host) (round : Round) :
    (c.process h round).2.1.begun = c.begun ∧ (c.process h round).2.1.IsSound := by
  unfold process
  dsimp only
  rw [hc.required]
  split
  · exact ⟨rfl, hc⟩
  · split
    · exact ⟨rfl, hc⟩
    · rename_i handle hhandle
      have hsound : ({ c with capability := some handle } : Context).IsSound := by
        intro handle' he
        cases he
        exact hhandle
      split <;> exact ⟨rfl, hsound⟩

/-- The loader of a round. -/
def loader (c : Context) (round : Round) : Artifact :=
  loaderOf c.settings c.module (round.scan c.settings.marker)

/-- A round has receivers, the capability can be resolved, and each of them has it. -/
def IsReady (c : Context) (h : Host) (round : Round) : Prop :=
  round.scan c.settings.marker ≠ [] ∧
    ∃ handle, h.resolveType c.settings.capability = some handle ∧
      ∀ d ∈ round.scan c.settings.marker, h.isSubtype d.type handle = true

end Context

/-- The round came to no loader. -/
def Outcome.IsIdle (outcome : Outcome) : Prop := outcome = .skipped ∨ ∃ e, outcome = .aborted e

/-- What a round does to the files of its host `h`: nothing, or it writes its loader. -/
inductive Effect (h : Host) (loader : Artifact) (after : Host) : Outcome → Prop
  | idle {outcome : Outcome} : outcome.IsIdle → Host.SameStore h after →
      Effect h loader after outcome
  | written : Host.SameStore (h.emit loader).1 after →
      Effect h loader after (Outcome.ofAnswer loader (h.emit loader).2)

/-- A round that came to no loader leaves the files alone. -/
theorem Effect.sameStore {h after : Host} {loader : Artifact} {outcome : Outcome}
    (heffect : Effect h loader after outcome) (hidle : outcome.IsIdle) :
    Host.SameStore h after := by
  cases heffect with
  | idle _ hstore => exact hstore
  | written _ =>
    rcases hidle with hskipped | ⟨e, haborted⟩
    · exact absurd hskipped (Outcome.ofAnswer_ne_skipped _ _)
    · exact absurd haborted (Outcome.ofAnswer_ne_aborted _ _ _)

theorem Course.effect {settings : Settings} {module : String} {ds : List Declaration} {h h' : Host}
    {outcome : Outcome} (hcourse : Course settings module ds h h' outcome) :
    Effect h (loaderOf settings module ds) h' outcome := by
  cases hcourse with
  | skipped _ htold => exact .idle (Or.inl rfl) (Host.sameStore_of_told htold)
  | unresolved _ _ _ htold => exact .idle (Or.inr ⟨_, rfl⟩) (Host.sameStore_of_told htold)
  | violated _ _ _ _ htold => exact .idle (Or.inr ⟨_, rfl⟩) (Host.sameStore_of_told htold)
  | written _ hasked _ _ htold =>
    obtain ⟨hanswer, hstore⟩ := (Host.sameStore_of_told hasked).emit (loaderOf settings module ds)
    have hafter := hstore.trans (Host.sameStore_of_told htold)
    exact hanswer ▸ .written hafter

namespace Context

/-- A round in a context writes its loader, or leaves the files alone. -/
theorem process_effect {c : Context} (hc : c.IsSound) (h : Host) (round : Round) :
    Effect h (c.loader round) (c.process h round).1 (c.process h round).2.2 := by
  obtain ⟨hhost, houtcome⟩ := process_begun hc h round
  rw [hhost, houtcome]
  exact (process_course c.begun h round rfl).effect

/-- A round that is ready writes its loader. -/
theorem IsReady.outcome_eq {c : Context} (hc : c.IsSound) {h : Host} {round : Round}
    (hready : c.IsReady h round) :
    (c.process h round).2.2 = Outcome.ofAnswer (c.loader round) (h.emit (c.loader round)).2 := by
  obtain ⟨hne, handle, hhandle, hall⟩ := hready
  obtain ⟨-, houtcome⟩ := process_begun hc h round
  rw [houtcome]
  have hcourse := process_course c.begun h round rfl
  generalize (c.begun.process h round).1 = h' at hcourse
  generalize (c.begun.process h round).2.2 = outcome at hcourse ⊢
  cases hcourse with
  | skipped hnil => exact absurd hnil hne
  | unresolved _ _ hnone =>
    have hnone : h.resolveType c.settings.capability = none := hnone
    rw [hhandle] at hnone
    cases hnone
  | @violated asked _ handle' _ _ _ hasked hsome hviolation =>
    have hsome : h.resolveType c.settings.capability = some handle' := hsome
    rw [hhandle] at hsome
    cases hsome
    have hsub : ∀ type of, BuildContext.isSubtype asked type of = h.isSubtype type of :=
      (Host.sameStore_of_told hasked).isSubtype
    rw [firstViolation_eq, Option.map_eq_some_iff] at hviolation
    obtain ⟨d, hfind, -⟩ := hviolation
    have hd := List.find?_some hfind
    have hmem := List.mem_of_find?_eq_some hfind
    rw [hsub, hall d hmem] at hd
    cases hd
  | written _ hasked =>
    obtain ⟨hanswer, -⟩ := (Host.sameStore_of_told hasked).emit (c.loader round)
    exact congrArg _ hanswer

end Context

/-! ## Sessions alike -/

/-- What was told before makes no difference to the services of a host. -/
theorem Host.simulation : Simulation Host.SameStore where
  option? h key := congrArg (OrderedList.get? key) h.options.symm
  resolveType _ _ := rfl
  isSubtype h type of := (h.isSubtype type of).symm
  note h _ := ⟨h.outDirectory, h.options, h.types, h.written, h.files⟩
  report {s t} h d := ((sameStore_report s d).symm.trans h).trans (sameStore_report t d)
  write h package typeName content :=
    ⟨(h.write package typeName content).2, (h.write package typeName content).1.symm⟩

namespace Session

/-- Each capability that the context has looked up is the one of its settings. -/
def IsSound (s : Session) : Prop := ∀ c, s.context = some c → c.IsSound

/-- The sessions differ in what was told, and in whether the capability has been looked up. -/
structure Like (s t : Session) : Prop where
  host : Host.SameStore s.host t.host
  context : s.context.map Context.begun = t.context.map Context.begun
  left : s.IsSound
  right : t.IsSound

theorem IsSound.like {s : Session} (hs : s.IsSound) : Like s s := ⟨.refl _, rfl, hs, hs⟩

/-- The same event has the same outcome in sessions alike, and they stay alike. -/
theorem step_like {s t : Session} (hst : Like s t) (e : Event) :
    Like (s.step e).1 (t.step e).1 ∧
      (s.step e).2.map (·.outcome) = (t.step e).2.map (·.outcome) := by
  obtain ⟨hhost, hcontext, hleft, hright⟩ := hst
  obtain ⟨h, context⟩ := s
  obtain ⟨h', context'⟩ := t
  cases e with
  | setOption key value =>
    refine ⟨⟨⟨hhost.outDirectory, ?_, hhost.types, hhost.written, hhost.files⟩, hcontext, hleft,
      hright⟩, rfl⟩
    exact congrArg (OrderedList.put key value) hhost.options
  | report d => exact ⟨⟨Host.simulation.report hhost d, hcontext, hleft, hright⟩, rfl⟩
  | start settings =>
    obtain ⟨hstart, hbegun⟩ := Host.simulation.start hhost settings
    have hsound : ∀ (h : Host) (c : Context),
        some (Context.start h settings).2 = some c → c.IsSound := by
      intro h c he
      cases he
      exact Context.isSound_start h settings
    exact ⟨⟨hstart, congrArg (fun c : Context => some c.begun) hbegun, hsound h, hsound h'⟩, rfl⟩
  | process round =>
    cases context with
    | none =>
      cases context' with
      | none => exact ⟨⟨hhost, rfl, hleft, hright⟩, rfl⟩
      | some c' => cases hcontext
    | some c =>
      cases context' with
      | none => cases hcontext
      | some c' =>
        have hc := hleft c rfl
        have hc' := hright c' rfl
        have hbegun : c.begun = c'.begun := Option.some.inj hcontext
        obtain ⟨hafter, houtcome⟩ := Host.simulation.process hhost c.begun round
        obtain ⟨hh, ho⟩ := Context.process_begun hc h round
        obtain ⟨hh', ho'⟩ := Context.process_begun hc' h' round
        obtain ⟨hb, hsound⟩ := Context.process_context hc h round
        obtain ⟨hb', hsound'⟩ := Context.process_context hc' h' round
        refine ⟨⟨?_, congrArg some (hb.trans (hbegun.trans hb'.symm)), ?_, ?_⟩, congrArg some ?_⟩
        · change Host.SameStore (c.process h round).1 (c'.process h' round).1
          rw [hh, hh', ← hbegun]
          exact hafter
        · intro c₁ he
          cases he
          exact hsound
        · intro c₁ he
          cases he
          exact hsound'
        · change (c.process h round).2.2 = (c'.process h' round).2.2
          rw [ho, ho', ← hbegun, houtcome]

/-- The same events have the same outcomes in sessions alike, and they stay alike. -/
theorem run_like {s t : Session} (hst : Like s t) (es : List Event) :
    Like (s.run es).1 (t.run es).1 ∧
      (s.run es).2.map (·.outcome) = (t.run es).2.map (·.outcome) := by
  induction es generalizing s t with
  | nil => exact ⟨hst, rfl⟩
  | cons e es ih =>
    obtain ⟨hstep, houtcome⟩ := step_like hst e
    obtain ⟨hrun, houtcomes⟩ := ih hstep
    refine ⟨hrun, ?_⟩
    rw [run_cons, run_cons, List.map_append, List.map_append, houtcomes, ← Option.toList_map,
      ← Option.toList_map, houtcome]

theorem IsSound.run {s : Session} (hs : s.IsSound) (es : List Event) : (s.run es).1.IsSound :=
  (run_like hs.like es).1.left

/-- A round that came to no loader leaves the session as it was, but for what was told. -/
theorem step_idle {s : Session} (hs : s.IsSound) {round : Round} {p : Processing}
    (hp : (s.step (.process round)).2 = some p) (hidle : p.outcome.IsIdle) :
    Like s (s.step (.process round)).1 := by
  obtain ⟨c, round, hc, he, rfl, hstep⟩ := step_eq_some hp
  cases he
  have hsound := hs c hc
  obtain ⟨hbegun, hsound'⟩ := Context.process_context hsound s.host round
  rw [hstep]
  refine ⟨(Context.process_effect hsound s.host round).sameStore hidle, ?_, hs, ?_⟩
  · rw [hc]
    exact congrArg some hbegun.symm
  · intro c' he
    cases he
    exact hsound'

/-- A round that came to no loader neither stops nor changes what follows: without it, the other
rounds have the same outcomes, and the same files are written. -/
theorem run_without_idle {s : Session} (hs : s.IsSound) (front behind : List Event) {round : Round}
    {p : Processing} (hp : ((s.run front).1.step (.process round)).2 = some p)
    (hidle : p.outcome.IsIdle) :
    ∃ before after, (s.run (front ++ behind)).2.map (·.outcome) = before ++ after ∧
      (s.run (front ++ .process round :: behind)).2.map (·.outcome) =
        before ++ p.outcome :: after ∧
      Host.SameStore (s.run (front ++ behind)).1.host
        (s.run (front ++ .process round :: behind)).1.host := by
  obtain ⟨hlike, houtcomes⟩ := run_like (step_idle (hs.run front) hp hidle) behind
  refine ⟨(s.run front).2.map (·.outcome), ((s.run front).1.run behind).2.map (·.outcome), ?_, ?_,
    ?_⟩
  · rw [run_append, List.map_append]
  · rw [run_append, run_cons, hp, List.map_append, List.map_append, ← houtcomes]
    rfl
  · rw [run_append, run_append, run_cons]
    exact hlike.host

end Session

end ReceiverLoader
