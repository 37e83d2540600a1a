import Mathlib.Logic.Equiv.Basic
import Mathlib.Order.Fin.Basic
import ReceiverLoader.Host
import ReceiverLoader.Proofs.Round.Course
import ReceiverLoader.Proofs.Round.Selection

/-!
# The order of declarations does not matter to a round

A host may list the declarations of a round in any order. What becomes of the round depends on its
marked declarations only, and on their order only as far as some have the same name.

* `Rearranged`: declarations in another order, in which those of one name keep theirs.
* `Rearranged.find?_name`: the first declaration of a name stays the first.
* `processRound_congr`: a round depends on its receivers only.
* `processRound_rearranged`: it ends alike in each order of its marked declarations.
-/

namespace ReceiverLoader

/-- `es` are the declarations `ds` in another order, in which those of one name keep theirs. -/
def Rearranged (ds es : List Declaration) : Prop :=
  ∃ place : Fin ds.length ≃ Fin es.length, (∀ i, es.get (place i) = ds.get i) ∧
    ∀ i j, i < j → (ds.get i).name = (ds.get j).name → place i < place j

namespace Rearranged

variable {ds es : List Declaration}

theorem symm (h : Rearranged ds es) : Rearranged es ds := by
  obtain ⟨place, hget, hkeeps⟩ := h
  have hget' (i : Fin es.length) : ds.get (place.symm i) = es.get i := by
    rw [← hget, place.apply_symm_apply]
  refine ⟨place.symm, hget', fun i j hij hname => ?_⟩
  rcases lt_trichotomy (place.symm i) (place.symm j) with hlt | heq | hgt
  · exact hlt
  · exact absurd (place.symm.injective heq) (ne_of_lt hij)
  · -- The other way round, `place` would bring `j` before `i`.
    rw [← hget', ← hget' j] at hname
    have hji := hkeeps _ _ hgt hname.symm
    rw [place.apply_symm_apply, place.apply_symm_apply] at hji
    exact absurd hij (lt_asymm hji)

theorem find?_name_of_eq_some (h : Rearranged ds es) {name : String} {d : Declaration}
    (hd : ds.find? (fun e => e.name == name) = some d) :
    es.find? (fun e => e.name == name) = some d := by
  obtain ⟨place, hget, hkeeps⟩ := h
  obtain ⟨hname, i, hi, rfl, hfirst⟩ := List.find?_eq_some_iff_getElem.mp hd
  have hname : ds[i].name = name := beq_iff_eq.mp hname
  have hplace : es[(place ⟨i, hi⟩).val] = ds[i] := hget ⟨i, hi⟩
  refine List.find?_eq_some_iff_getElem.mpr
    ⟨beq_iff_eq.mpr hname, place ⟨i, hi⟩, (place ⟨i, hi⟩).isLt, hplace, fun k hk => ?_⟩
  -- A declaration of the name that now comes first came from behind `i`, and so cannot be first.
  obtain ⟨j, hj⟩ := place.surjective ⟨k, hk.trans (place ⟨i, hi⟩).isLt⟩
  have hgetj : es[k] = ds[j] := by
    have := hget j
    rw [hj] at this
    exact this
  rw [Bool.not_eq_true', beq_eq_false_iff_ne, hgetj]
  intro hnamej
  have hle : i ≤ j := by
    by_contra hlt
    have hnot := hfirst j (Nat.lt_of_not_le hlt)
    rw [Bool.not_eq_true', beq_eq_false_iff_ne] at hnot
    exact hnot hnamej
  rcases Nat.eq_or_lt_of_le hle with rfl | hlt
  · rw [hj] at hk
    exact lt_irrefl _ hk
  · have hbefore := hkeeps ⟨i, hi⟩ j hlt (hname.trans hnamej.symm)
    rw [hj] at hbefore
    exact absurd hk (lt_asymm hbefore)

/-- The first declaration of a name stays the first. -/
theorem find?_name (h : Rearranged ds es) (name : String) :
    ds.find? (fun e => e.name == name) = es.find? (fun e => e.name == name) :=
  Option.ext fun _ => ⟨h.find?_name_of_eq_some, h.symm.find?_name_of_eq_some⟩

end Rearranged

/-! ## Rounds -/

section Rounds

variable {σ : Type} [BuildContext σ]

/-- A round depends on its receivers only. -/
theorem processRound_congr (h : σ) (settings : Settings) {round round' : Round}
    (hscan : round.scan settings.marker = round'.scan settings.marker) :
    processRound h settings round = processRound h settings round' := by
  have hprocess : (Context.start h settings).2.process (Context.start h settings).1 round =
      (Context.start h settings).2.process (Context.start h settings).1 round' := by
    unfold Context.process
    rw [Context.start_settings, hscan]
  unfold processRound
  dsimp only
  rw [hprocess]

/-- A round ends alike, with the same outcome and the same state of its host, if its marked
declarations come in another order that keeps the order of those with the same name. Declarations
without the marker do not matter. -/
theorem processRound_rearranged (h : σ) (settings : Settings) {round round' : Round}
    (hmarked : Rearranged (round.annotatedWith settings.marker)
      (round'.annotatedWith settings.marker)) :
    processRound h settings round = processRound h settings round' :=
  processRound_congr h settings (Round.scan_congr hmarked.find?_name)

end Rounds

/-- A declaration, marked with its group if it has one. -/
def groupedDeclaration (name : String) (group? : Option String) : Declaration :=
  ⟨name, name, none, group?.toList.map fun group => (Loader.markerName, ⟨group, 0, 0⟩)⟩

/-- Two doors, of which the first counts, and a wall; a window without the marker between them. -/
def doorsFirst : Round :=
  ⟨[groupedDeclaration "game::Door" "first", groupedDeclaration "game::Window" none,
    groupedDeclaration "game::Door" "second", groupedDeclaration "game::Wall" "third"]⟩

/-- The wall between the doors, and a roof without the marker. -/
def wallBetween : Round :=
  ⟨[groupedDeclaration "game::Roof" none, groupedDeclaration "game::Door" "first",
    groupedDeclaration "game::Wall" "third", groupedDeclaration "game::Door" "second"]⟩

theorem processRound_rearranged_wallBetween :
    Rearranged (doorsFirst.annotatedWith Settings.standard.marker)
        (wallBetween.annotatedWith Settings.standard.marker) ∧
      processRound (Host.start ⟨"out"⟩ .empty .log ⟨[], []⟩) .standard doorsFirst =
        processRound (Host.start ⟨"out"⟩ .empty .log ⟨[], []⟩) .standard wallBetween := by
  have hdoors : doorsFirst.annotatedWith Settings.standard.marker =
      [groupedDeclaration "game::Door" "first", groupedDeclaration "game::Door" "second",
        groupedDeclaration "game::Wall" "third"] := by decide +kernel
  have hwall : wallBetween.annotatedWith Settings.standard.marker =
      [groupedDeclaration "game::Door" "first", groupedDeclaration "game::Wall" "third",
        groupedDeclaration "game::Door" "second"] := by decide +kernel
  have hmarked : Rearranged (doorsFirst.annotatedWith Settings.standard.marker)
      (wallBetween.annotatedWith Settings.standard.marker) := by
    rw [hdoors, hwall]
    exact ⟨Equiv.swap 1 2, by decide +kernel, by decide +kernel⟩
  exact ⟨hmarked, processRound_rearranged _ .standard hmarked⟩

end ReceiverLoader
