import ReceiverLoader.Proofs.Host.Announcing
import ReceiverLoader.Proofs.Host.Writing
import ReceiverLoader.Proofs.Session.Once

/-!
# Diagnostics printed in a session

On a host that tells diagnostics to the build tool, a session prints what is reported in it, by hand
or by its rounds, and nothing else.

* `Host.IsAnnouncing.course`: a round prints its diagnostics only, whichever course it takes.
* `Session.run_reports`: what is reported by hand stays among the diagnostics, in order.
* `Session.run_announces`: what a session prints are its diagnostics, each line behind a directive.
-/

namespace ReceiverLoader

/-! ## Rounds -/

namespace Host.IsAnnouncing

variable {h h' : Host}

theorem told (hh : h.IsAnnouncing) (htold : Told h h') : h'.IsAnnouncing := by
  induction htold with
  | refl => exact hh
  | note entry _ ih => exact ih.note entry
  | report d _ ih => exact ih.report d

theorem emit (hh : h.IsAnnouncing) (a : Artifact) : (BuildContext.emit h a).1.IsAnnouncing := by
  have hanswers := emit_answers h a
  change (h.emit a).1.IsAnnouncing
  generalize (h.emit a).1 = after at hanswers ⊢
  generalize (h.emit a).2 = answer at hanswers
  cases hanswers with
  | refused => exact hh
  | failed => exact ⟨hh.style, hh.blocks⟩
  | done => exact ⟨hh.style, hh.blocks⟩

/-- A round prints its diagnostics only, whichever course it takes. -/
theorem course {settings : Settings} {module : String} {ds : List Declaration} {outcome : Outcome}
    (hh : h.IsAnnouncing) (hcourse : Course settings module ds h h' outcome) :
    h'.IsAnnouncing := by
  cases hcourse with
  | skipped _ htold => exact hh.told htold
  | unresolved _ _ _ htold => exact hh.told htold
  | violated _ _ _ _ htold => exact hh.told htold
  | written _ hasked _ _ htold => exact ((hh.told hasked).emit _).told htold

end Host.IsAnnouncing

/-- The diagnostic that is reported by hand. -/
def Event.reported? : Event → Option Diagnostic
  | .report d => some d
  | _ => none

namespace Session

/-! ## What is printed -/

/-- Each event prints what is reported in it. -/
theorem step_announcing {s : Session} (hs : s.IsSound) (hh : s.host.IsAnnouncing) (e : Event) :
    (s.step e).1.host.IsAnnouncing := by
  obtain ⟨h, context⟩ := s
  cases e with
  | setOption key value => exact ⟨hh.style, hh.blocks⟩
  | report d => exact hh.report d
  | start settings => exact hh.told (Context.start_told h settings)
  | process round =>
    cases context with
    | none => exact hh
    | some c =>
      obtain ⟨hhost, -⟩ := Context.process_begun (hs c rfl) h round
      change (c.process h round).1.IsAnnouncing
      rw [hhost]
      exact hh.course (Context.process_course c.begun h round rfl)

theorem run_announcing {s : Session} (hs : s.IsSound) (hh : s.host.IsAnnouncing)
    (es : List Event) : (s.run es).1.host.IsAnnouncing := by
  induction es generalizing s with
  | nil => exact hh
  | cons e es ih => exact ih (hs.run [e]) (step_announcing hs hh e)

/-! ## What is reported -/

/-- An event adds diagnostics behind those before it; by hand exactly one is reported. -/
theorem step_reports (s : Session) (e : Event) :
    ∃ reported, (s.step e).1.host.diagnostics = s.host.diagnostics ++ reported ∧
      e.reported?.toList.Sublist reported := by
  obtain ⟨h, context⟩ := s
  cases e with
  | setOption key value => exact ⟨[], (List.append_nil _).symm, List.nil_sublist _⟩
  | report d => exact ⟨[d], h.diagnostics_report d, List.Sublist.refl _⟩
  | start settings =>
    obtain ⟨reported, hreported, -⟩ := Context.start_reports h settings
    exact ⟨reported, hreported, List.nil_sublist _⟩
  | process round =>
    cases context with
    | none => exact ⟨[], (List.append_nil _).symm, List.nil_sublist _⟩
    | some c =>
      obtain ⟨reported, hreported, -⟩ := Context.process_reports c h round
      exact ⟨reported, hreported, List.nil_sublist _⟩

/-- What is reported by hand stays among the diagnostics, in order. -/
theorem run_reports (s : Session) (es : List Event) :
    ∃ reported, (s.run es).1.host.diagnostics = s.host.diagnostics ++ reported ∧
      (es.filterMap Event.reported?).Sublist reported := by
  induction es generalizing s with
  | nil => exact ⟨[], (List.append_nil _).symm, List.nil_sublist _⟩
  | cons e es ih =>
    obtain ⟨first, hfirst, hhand⟩ := step_reports s e
    obtain ⟨behind, hbehind, hhands⟩ := ih (s.step e).1
    refine ⟨first ++ behind, ?_, ?_⟩
    · rw [run_cons, hbehind, hfirst, List.append_assoc]
    · have hcons : (e :: es).filterMap Event.reported? =
          e.reported?.toList ++ es.filterMap Event.reported? := by
        rw [List.filterMap_cons]
        cases e.reported? <;> rfl
      rw [hcons]
      exact hhand.append hhands

/-- A session on a new host that tells diagnostics to the build tool prints them line by line, each
line behind the directive of its diagnostic. -/
theorem run_announces (outDirectory : FilePath) (types : TypeTable) (files : FileSystem)
    (es : List Event) :
    let after := ((start (Host.start outDirectory types .directives files)).run es).1.host
    after.Announced ∧ (es.filterMap Event.reported?).Sublist after.diagnostics := by
  have hsound : (start (Host.start outDirectory types .directives files)).IsSound := nofun
  have hnew : (Host.start outDirectory types .directives files).IsAnnouncing :=
    ⟨rfl, [], .nil, rfl⟩
  obtain ⟨reported, hreported, hhand⟩ :=
    run_reports (start (Host.start outDirectory types .directives files)) es
  refine ⟨(run_announcing hsound hnew es).announced, ?_⟩
  rw [hreported]
  exact hhand

/-- An error whose text looks like a warning on its second line, and has a carriage return and an
empty line. -/
example :
    ((start (Host.start ⟨"/out"⟩ .empty .directives ⟨[], []⟩)).run
        [.report ⟨.error, "a\r\ncargo::warning=b\n\n", some "c", none⟩]).1.host.printed =
      ["cargo::error=error: a", "cargo::error=cargo::warning=b", "cargo::error=",
        "cargo::error= (`c`)"] := by decide +kernel

end Session

end ReceiverLoader
