import ReceiverLoader.Proofs.Host.Writing
import ReceiverLoader.Proofs.Session.Run

/-!
# The loader is written once

A session generates at most one loader. Until then each round tries to write it; afterwards the
file keeps the text of the round that was first, and every other loader is refused.

* `Host.Holds`: what is kept of the host, with the text that stands in the loader's file.
* `Effect.holds`: a round keeps it, and a loader that it generates is the first.
* `Session.run_writesOnce`: a session that begins without written files writes its loader once.
-/

namespace ReceiverLoader

/-! ## The host of a session -/

namespace Host

/-- The file of the loader. -/
def loaderPath (h : Host) : FilePath :=
  h.artifactPath Loader.package (Loader.typeName (moduleNameOf h))

/-- What a session that began on `h` keeps of its host `h'`. With a `content?` the loader has been
written, and holds it; without one nothing has been written. -/
structure Holds (h : Host) (content? : Option String) (h' : Host) : Prop where
  outDirectory : h'.outDirectory = h.outDirectory
  module : h'.option? Loader.moduleOption = h.option? Loader.moduleOption
  written : h'.written = content?.toList.map fun _ => h.loaderPath
  content : ∀ text, content? = some text → h'.files.readText h.loaderPath = .ok text

namespace Holds

variable {h h' : Host} {content? : Option String}

theorem start (hw : h.written = []) : Holds h none h := ⟨rfl, rfl, hw, nofun⟩

theorem sameStore {after : Host} (hh : Holds h content? h') (hs : SameStore h' after) :
    Holds h content? after := by
  refine ⟨hs.outDirectory.trans hh.outDirectory, ?_, hs.written.trans hh.written, ?_⟩
  · rw [← hh.module, option?, hs.options]
    rfl
  · rw [hs.files]
    exact hh.content

theorem moduleNameOf_eq (hh : Holds h content? h') : moduleNameOf h' = moduleNameOf h :=
  congrArg (·.getD "") hh.module

/-- The loader of the module goes to the same file throughout. -/
theorem artifactPath_eq (hh : Holds h content? h') :
    h'.artifactPath Loader.package (Loader.typeName (moduleNameOf h)) = h.loaderPath := by
  unfold loaderPath artifactPath
  rw [hh.outDirectory]

theorem hasWritten_eq (hh : Holds h content? h') :
    h'.hasWritten h.loaderPath = content?.isSome := by
  rw [hasWritten, hh.written]
  cases content? <;> simp

/-- The first loader that is written stays, and no other one is written. -/
theorem emit (hh : Holds h content? h') {a : Artifact} (hpackage : a.package = Loader.package)
    (hname : a.typeName = Loader.typeName (moduleNameOf h)) :
    Holds h (content?.or ((Outcome.ofAnswer a (h'.emit a).2).artifact?.map (·.content)))
        (h'.emit a).1 ∧
      (content?.isSome → (h'.emit a).2 = .error (.alreadyWritten a.package a.typeName)) := by
  have hpath : h'.artifactPath a.package a.typeName = h.loaderPath := by
    rw [hpackage, hname, hh.artifactPath_eq]
  have hanswers := emit_answers h' a
  rw [hpath] at hanswers
  generalize h'.emit a = r at hanswers ⊢
  obtain ⟨after, answer⟩ := r
  have hwritten := hh.hasWritten_eq
  cases content? with
  | some text =>
    cases hanswers with
    | refused => exact ⟨hh, fun _ => rfl⟩
    | failed _ hnew => cases hnew.symm.trans hwritten
    | done _ hnew => cases hnew.symm.trans hwritten
  | none =>
    refine ⟨?_, nofun⟩
    cases hanswers with
    | refused hold => cases hold.symm.trans hwritten
    | failed => exact ⟨hh.outDirectory, hh.module, hh.written, nofun⟩
    | done log _ _ hwrite =>
      refine ⟨hh.outDirectory, hh.module, congrArg _ hh.written, fun text htext => ?_⟩
      cases htext
      exact FileSystem.readText_writeFile hwrite

end Holds

end Host

/-! ## Rounds -/

/-- A round keeps what its host holds. Once a loader stands in its file, no other is generated, and
one that is rendered nevertheless is refused. -/
theorem Effect.holds {h h' after : Host} {content? : Option String} {a : Artifact}
    {outcome : Outcome} (heffect : Effect h' a after outcome) (hh : Host.Holds h content? h')
    (hpackage : a.package = Loader.package)
    (hname : a.typeName = Loader.typeName (moduleNameOf h)) :
    Host.Holds h (content?.or (outcome.artifact?.map (·.content))) after ∧
      (content?.isSome → outcome.artifact? = none) := by
  cases heffect with
  | idle hidle hstore =>
    have hnone : outcome.artifact? = none := by
      rcases hidle with rfl | ⟨e, rfl⟩ <;> rfl
    rw [hnone, Option.map_none, Option.or_none]
    exact ⟨hh.sameStore hstore, fun _ => rfl⟩
  | written hstore =>
    obtain ⟨hholds, hrefused⟩ := hh.emit hpackage hname
    refine ⟨hholds.sameStore hstore, fun hsome => ?_⟩
    rw [hrefused hsome]
    rfl

/-- What a round generates is its loader. -/
theorem Effect.generated {h' after : Host} {a a' : Artifact} {outcome : Outcome}
    (heffect : Effect h' a after outcome) (ha : outcome = .generated a') : a' = a := by
  cases heffect with
  | idle hidle _ =>
    rcases hidle with hskipped | ⟨e, haborted⟩
    · cases ha.symm.trans hskipped
    · cases ha.symm.trans haborted
  | written _ =>
    cases hanswer : (h'.emit a).2 with
    | error e =>
      rw [hanswer] at ha
      cases ha
    | ok path =>
      rw [hanswer] at ha
      cases ha
      rfl

namespace Processing

/-- The loader of the round. -/
def loader (p : Processing) : Artifact := p.context.loader p.round

/-- The round has receivers, the capability can be resolved, and each of them has it. -/
def IsReady (p : Processing) : Prop := p.context.IsReady p.before p.round

/-- Why the loader was not written, if one of its name had been written before. -/
def refusal (p : Processing) : WriteFailure :=
  ⟨p.loader.typeName, .alreadyWritten p.loader.package p.loader.typeName⟩

/-- The round was refused: its loader was not written, for one had been written before, and this was
reported as a warning and nothing else. -/
structure IsRefused (p : Processing) : Prop where
  outcome : p.outcome = .writeFailed p.loader p.refusal
  reported : p.after.diagnostics =
    p.before.diagnostics ++ [⟨.warning, (ProcessError.write p.refusal).message, none, none⟩]

/-- The text of the loader that the round has generated. -/
def text? (p : Processing) : Option String := p.outcome.artifact?.map (·.content)

end Processing

/-! ## Sessions -/

/-- The event leaves the name of the module as it is on the host `h`. -/
def Event.KeepsModule (h : Host) (e : Event) : Prop :=
  ∀ value, e = .setOption Loader.moduleOption value → h.option? Loader.moduleOption = some value

namespace Session

/-- A session without a context. -/
def start (h : Host) : Session := ⟨h, none⟩

/-- What a session that began on `h` keeps. -/
structure Keeps (h : Host) (content? : Option String) (s : Session) : Prop where
  host : Host.Holds h content? s.host
  module : ∀ c, s.context = some c → c.module = moduleNameOf h
  sound : s.IsSound

variable {h : Host} {content? : Option String} {s : Session} {e : Event} {p : Processing}

theorem Keeps.start (hw : h.written = []) : Keeps h none (start h) :=
  ⟨.start hw, nofun, nofun⟩

/-- What a round does to the files of a session, and which loader it is that the round writes. -/
theorem Keeps.effect (hs : Keeps h content? s) (hp : (s.step e).2 = some p) :
    Effect s.host p.loader (s.step e).1.host p.outcome ∧
      p.loader.typeName = Loader.typeName (moduleNameOf h) := by
  obtain ⟨c, round, hc, rfl, rfl, hstep⟩ := step_eq_some hp
  rw [hstep]
  exact ⟨Context.process_effect (hs.sound c hc) s.host round,
    congrArg Loader.typeName (hs.module c hc)⟩

/-- Each event keeps what the session keeps; a loader that is generated is the first. -/
theorem Keeps.step (hs : Keeps h content? s) (he : e.KeepsModule h) :
    Keeps h (content?.or ((s.step e).2.bind Processing.text?)) (s.step e).1 := by
  have hsound : (s.step e).1.IsSound := hs.sound.run [e]
  cases hp : (s.step e).2 with
  | some p =>
    obtain ⟨heffect, hname⟩ := hs.effect hp
    refine ⟨(heffect.holds hs.host rfl hname).1, fun c' hc' => ?_, hsound⟩
    obtain ⟨c, round, hc, -, -, hstep⟩ := step_eq_some hp
    rw [hstep] at hc'
    cases hc'
    have hbegun := (Context.process_context (hs.sound c hc) s.host round).1
    exact (congrArg Context.module hbegun).trans (hs.module c hc)
  | none =>
    rw [Option.bind_none, Option.or_none]
    obtain ⟨host, context⟩ := s
    obtain ⟨hhost, hmodule, -⟩ := hs
    cases e with
    | setOption key value =>
      refine ⟨⟨hhost.outDirectory, ?_, hhost.written, hhost.content⟩, hmodule, hsound⟩
      change OrderedList.get? Loader.moduleOption (OrderedList.put key value host.options) = _
      by_cases hkey : key = Loader.moduleOption
      · subst hkey
        rw [OrderedList.get?_put_self, he value rfl]
      · rw [OrderedList.get?_put_of_ne (Ne.symm hkey)]
        exact hhost.module
    | report d => exact ⟨hhost.sameStore (Host.sameStore_report host d), hmodule, hsound⟩
    | start settings =>
      have hstore := Host.sameStore_of_told (Context.start_told host settings)
      refine ⟨hhost.sameStore hstore, fun c hc => ?_, hsound⟩
      cases hc
      exact (Context.start_module host settings).trans hhost.moduleNameOf_eq
    | process round =>
      cases context with
      | none => exact ⟨hhost, hmodule, hsound⟩
      | some c => cases hp

/-- What stands in the loader's file stays there. -/
theorem Keeps.run {text : String} (hs : Keeps h (some text) s) {es : List Event}
    (hes : ∀ e ∈ es, e.KeepsModule h) : Keeps h (some text) (s.run es).1 := by
  induction es generalizing s with
  | nil => exact hs
  | cons e es ih =>
    exact ih (hs.step (hes e List.mem_cons_self)) fun e' he' => hes e' (List.mem_cons_of_mem e he')

/-- Once a loader stands in its file, a round generates none, and a loader that is rendered
nevertheless is refused. -/
theorem Keeps.late (hs : Keeps h content? s) (hsome : content?.isSome)
    (hp : (s.step e).2 = some p) :
    p.outcome.artifact? = none ∧ (p.IsReady → p.IsRefused) := by
  obtain ⟨heffect, hname⟩ := hs.effect hp
  refine ⟨(heffect.holds hs.host rfl hname).2 hsome, fun hready => ?_⟩
  have hrefused := (hs.host.emit (a := p.loader) rfl hname).2 hsome
  obtain ⟨c, round, hc, rfl, rfl, -⟩ := step_eq_some hp
  have houtcome : (c.process s.host round).2.2 =
      Outcome.ofAnswer (c.loader round) (s.host.emit (c.loader round)).2 :=
    Context.IsReady.outcome_eq (hs.sound c hc) hready
  have hrefused : (s.host.emit (c.loader round)).2 = _ := hrefused
  rw [hrefused] at houtcome
  obtain ⟨reported, hreported, hr⟩ := Context.process_reports c s.host round
  rw [houtcome] at hr
  cases hr
  exact ⟨houtcome, hreported⟩

theorem Keeps.run_late (hs : Keeps h content? s) (hsome : content?.isSome) {es : List Event}
    (hes : ∀ e ∈ es, e.KeepsModule h) :
    ∀ p ∈ (s.run es).2, p.outcome.artifact? = none ∧ (p.IsReady → p.IsRefused) := by
  induction es generalizing s content? with
  | nil => exact fun p hp => absurd hp List.not_mem_nil
  | cons e es ih =>
    intro p hp
    rw [run_cons, List.mem_append, Option.mem_toList] at hp
    rcases hp with hp | hp
    · exact hs.late hsome hp
    · refine ih (hs.step (hes e List.mem_cons_self)) ?_
        (fun e' he' => hes e' (List.mem_cons_of_mem e he')) p hp
      cases content? with
      | none => cases hsome
      | some text => rfl

/-- A loader that is generated is the one of its round, and it is what the session keeps. -/
theorem Keeps.run_stored (hs : Keeps h content? s) {es : List Event}
    (hes : ∀ e ∈ es, e.KeepsModule h) {a : Artifact} (hp : p ∈ (s.run es).2)
    (ha : p.outcome = .generated a) :
    a = p.loader ∧ p.loader.typeName = Loader.typeName (moduleNameOf h) ∧
      Keeps h (some a.content) (s.run es).1 := by
  induction es generalizing s content? with
  | nil => exact absurd hp List.not_mem_nil
  | cons e es ih =>
    have hes' := fun e' he' => hes e' (List.mem_cons_of_mem e he')
    have hstep := hs.step (hes e List.mem_cons_self)
    rw [run_cons, List.mem_append, Option.mem_toList] at hp
    rcases hp with hp | hp
    · obtain ⟨heffect, hname⟩ := hs.effect hp
      refine ⟨heffect.generated ha, hname, ?_⟩
      have htext : p.text? = some a.content := by rw [Processing.text?, ha]; rfl
      rw [hp, Option.bind_some, htext] at hstep
      cases content? with
      | none => exact hstep.run hes'
      | some text =>
        have hnone := (hs.late rfl hp).1
        rw [ha] at hnone
        cases hnone
    · exact ih hstep hes' hp

/-- Of two rounds of a session, the second one is late if the first has generated a loader. -/
theorem Keeps.run_pairwise (hs : Keeps h content? s) {es : List Event}
    (hes : ∀ e ∈ es, e.KeepsModule h) :
    (s.run es).2.Pairwise fun p q => p.outcome.artifact?.isSome →
      q.outcome.artifact? = none ∧ (q.IsReady → q.IsRefused) := by
  induction es generalizing s content? with
  | nil => exact List.Pairwise.nil
  | cons e es ih =>
    have hes' := fun e' he' => hes e' (List.mem_cons_of_mem e he')
    have hstep := hs.step (hes e List.mem_cons_self)
    rw [run_cons]
    cases hp : (s.step e).2 with
    | none => exact ih hstep hes'
    | some p =>
      rw [hp] at hstep
      refine List.pairwise_cons.mpr ⟨fun q hq hsome => ?_, ih hstep hes'⟩
      refine hstep.run_late ?_ hes' q hq
      simp [Processing.text?, hsome]

theorem countP_le_one {α : Type} {test : α → Bool} {l : List α}
    (hl : l.Pairwise fun a b => test a = true → test b = false) : l.countP test ≤ 1 := by
  induction hl with
  | nil => exact Nat.zero_le 1
  | @cons a l ha _ ih =>
    by_cases htest : test a = true
    · have hzero : l.countP test = 0 :=
        List.countP_eq_zero.mpr fun b hb => by simp [ha b hb htest]
      have hcount : (a :: l).countP test = 1 := by rw [List.countP_cons_of_pos htest, hzero]
      exact Nat.le_of_eq hcount
    · rwa [List.countP_cons_of_neg htest]

/-- What becomes of a session that begins on `h`, with the events `es`. -/
structure WritesOnce (h : Host) (es : List Event) : Prop where
  /-- At most one round generates a loader. -/
  once : ((start h).run es).2.countP (·.outcome.artifact?.isSome) ≤ 1
  /-- It is the loader of the round, and at the end it stands in its file. -/
  stored : ∀ p ∈ ((start h).run es).2, ∀ a, p.outcome = .generated a → a = p.loader ∧
    ((start h).run es).1.host.files.readText (h.artifactPath a.package a.typeName) =
      .ok a.content
  /-- Every later round that is ready is refused. -/
  late : ((start h).run es).2.Pairwise fun p q =>
    (∃ a, p.outcome = .generated a) → q.IsReady → q.IsRefused
  /-- A round that is skipped or aborted makes no difference: without it, the other rounds have the
  same outcomes, and the same files are written. -/
  idle : ∀ front round behind, es = front ++ .process round :: behind →
    ∀ p, (((start h).run front).1.step (.process round)).2 = some p → p.outcome.IsIdle →
      ∃ before after,
        ((start h).run (front ++ behind)).2.map (·.outcome) = before ++ after ∧
        ((start h).run es).2.map (·.outcome) = before ++ p.outcome :: after ∧
        Host.SameStore ((start h).run (front ++ behind)).1.host ((start h).run es).1.host

/-- A session that begins without written files writes its loader once. -/
theorem run_writesOnce (hw : h.written = []) (es : List Event)
    (hes : ∀ e ∈ es, e.KeepsModule h) : WritesOnce h es := by
  have hstart := Keeps.start hw
  have hpairs := hstart.run_pairwise hes
  refine ⟨?_, fun p hp a ha => ?_, ?_, ?_⟩
  · exact countP_le_one (hpairs.imp fun hpq hp => by rw [(hpq hp).1]; rfl)
  · obtain ⟨rfl, hname, hkept⟩ := hstart.run_stored hes hp ha
    refine ⟨rfl, ?_⟩
    have hpath : h.artifactPath p.loader.package p.loader.typeName = h.loaderPath := by
      rw [hname]
      rfl
    rw [hpath]
    exact hkept.host.content _ rfl
  · refine hpairs.imp fun hpq hgenerated hready => ?_
    obtain ⟨a, ha⟩ := hgenerated
    exact (hpq (by rw [ha]; rfl)).2 hready
  · rintro front round behind rfl p hp hidle
    exact run_without_idle hstart.sound front behind hp hidle

/-! ## A session -/

/-- A host with one receiver's type. -/
def sampleHost : Host :=
  (Host.start ⟨"/out"⟩ ⟨["game::Door"], [("game::Door", Loader.listenerTrait)]⟩ .log
    ⟨[(["out"], .directory)], []⟩).setOption Loader.moduleOption "game"

/-- A round without receivers, one whose receiver has not the capability, and two with the same
receiver and different arguments, the second one in a context of its own. -/
def sampleEvents : List Event :=
  let round (type group : String) : Round :=
    ⟨[⟨type, type, none, [(Loader.markerName, ⟨group, 1, 2⟩)]⟩]⟩
  [.start .standard, .process .empty, .process (round "game::Wall" "first"),
    .process (round "game::Door" "first"), .start .standard,
    .process (round "game::Door" "second")]

/-- What has become of a round, without the texts. -/
def kindOf : Outcome → String
  | .skipped => "skipped"
  | .aborted _ => "aborted"
  | .generated _ => "generated"
  | .writeFailed _ ⟨_, .alreadyWritten _ _⟩ => "refused"
  | .writeFailed _ ⟨_, .io _ _⟩ => "failed"

theorem run_writesOnce_sampleEvents :
    sampleHost.written = [] ∧ (∀ e ∈ sampleEvents, e.KeepsModule sampleHost) ∧
      ((start sampleHost).run sampleEvents).2.map (fun p => kindOf p.outcome) =
        ["skipped", "aborted", "generated", "refused"] ∧
      WritesOnce sampleHost sampleEvents := by
  have hkeeps : ∀ e ∈ sampleEvents, e.KeepsModule sampleHost := by
    intro e he value hvalue
    subst hvalue
    simp [sampleEvents] at he
  exact ⟨rfl, hkeeps, by decide +kernel, run_writesOnce rfl sampleEvents hkeeps⟩

end Session

end ReceiverLoader
