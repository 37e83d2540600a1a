import ReceiverLoader.Proofs.Round.Recording
import ReceiverLoader.Proofs.Round.Report
import ReceiverLoader.Proofs.Round.Selection

/-!
# Rounds without receivers

A round in which nothing is marked asks its host for the name of the module, reports what there is
to say about it, and stops.

* `IsSkipped`: what comes of such a round, whatever host it is.
* `processRound_unmarked`: this comes of a round without receivers.
-/

namespace ReceiverLoader

open BuildContext (option? note)

variable {σ : Type} [BuildContext σ]

namespace Round

/-- No declaration carries the marker. -/
def IsUnmarked (round : Round) (marker : String) : Prop :=
  ∀ d ∈ round.declarations, d.carries marker = false

instance (round : Round) (marker : String) : Decidable (round.IsUnmarked marker) :=
  List.decidableBAll _ _

theorem scan_eq_nil {round : Round} {marker : String} (h : round.IsUnmarked marker) :
    round.scan marker = [] := by
  have hnone : round.annotatedWith marker = [] :=
    List.filter_eq_nil_iff.mpr fun d hd => Bool.not_eq_true _ ▸ h d hd
  rw [scan, hnone, List.foldl_nil]

end Round

/-- What comes of a round without receivers: it is skipped, no file is written, and nothing is
reported but what there is to say about the name of the module. -/
structure IsSkipped (h : σ) (settings : Settings) (round : Round) : Prop where
  outcome : (processRound h settings round).2 = .skipped
  unwritten : (processRound (Recorded.start h) settings round).1.writes = []
  reported : ∃ reported, Reported h reported (processRound h settings round).1 ∧
    NameReport settings.separator (option? h Loader.moduleOption) reported

/-- A round without receivers is skipped behind the report about the module's name. -/
theorem processRound_unmarked (h : σ) (settings : Settings) {round : Round}
    (hround : round.IsUnmarked settings.marker) : IsSkipped h settings round := by
  have hscan := Round.scan_eq_nil hround
  have hcourse := processRound_course h settings round
  have hrecorded := processRound_course (Recorded.start h) settings round
  rw [hscan] at hcourse hrecorded
  refine ⟨?_, ?_, ?_⟩
  · generalize (processRound h settings round).1 = after at hcourse
    generalize (processRound h settings round).2 = outcome at hcourse
    cases hcourse with
    | skipped => rfl
    | unresolved hne | violated hne | written hne => exact absurd rfl hne
  · generalize (processRound (Recorded.start h) settings round).1 = after at hrecorded
    generalize (processRound (Recorded.start h) settings round).2 = outcome at hrecorded
    cases hrecorded with
    | skipped _ htold => exact (Recorded.told htold).2
    | unresolved hne | violated hne | written hne => exact absurd rfl hne
  · obtain ⟨reported, hreported, hname⟩ := Context.start_reported h settings
    refine ⟨reported, ?_, hname⟩
    have hsettings := Context.start_settings h settings
    have hprocess : (processRound h settings round).1 =
        note (Context.start h settings).1 (Round.scanEntry settings.marker 0) := by
      unfold processRound Context.process
      dsimp only
      rw [hsettings, hscan]
      rfl
    rw [hprocess]
    exact hreported.note _

end ReceiverLoader
