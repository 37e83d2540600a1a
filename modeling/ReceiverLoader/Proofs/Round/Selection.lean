import ReceiverLoader.Proofs.OrderedList
import ReceiverLoader.Round

/-!
# The receivers of a round

`Selects` says which declarations of a round are receivers, and in which order, without a word on
how they are found: of those with the marker the first of each name, by ascending names.

* `selects_scan`: `Round.scan` finds them.
* `Selects.unique`: there is one such list for each round and marker.
* `scan_congr`: it depends on the first marked declaration of each name only.
-/

namespace ReceiverLoader.Round

open OrderedList (Ascending)

instance : Std.TransCmp compareNames := inferInstanceAs (Std.TransCmp (compareOn Declaration.name))

theorem compareNames_eq_lt_iff {d e : Declaration} : compareNames d e = .lt ↔ d.name < e.name :=
  compareOfLessAndEq_eq_lt

theorem compareNames_eq_eq_iff {d e : Declaration} : compareNames d e = .eq ↔ d.name = e.name :=
  Std.LawfulEqOrd.compare_eq_iff_eq

/-- `ds` are the receivers of `round`: the declarations that carry `marker`, of those with one name
the first, in strictly ascending order of names. -/
structure Selects (round : Round) (marker : String) (ds : List Declaration) : Prop where
  ascending : ds.Pairwise fun d e => d.name < e.name
  mem_iff : ∀ d, d ∈ ds ↔
    (round.declarations.filter (·.carries marker)).find? (fun e => e.name == d.name) = some d

theorem selects_scan (round : Round) (marker : String) :
    Selects round marker (round.scan marker) := by
  have hnil : Ascending compareNames [] := OrderedList.ascending_nil
  refine ⟨?_, fun d => ?_⟩
  · refine List.Pairwise.imp compareNames_eq_lt_iff.mp ?_
    exact OrderedList.ascending_foldl_insertBy _ hnil
  · have hkey : (fun e => compareNames e d == .eq) = fun e : Declaration => e.name == d.name := by
      funext e
      rw [Bool.eq_iff_iff, beq_iff_eq, beq_iff_eq, compareNames_eq_eq_iff]
    have hmem := OrderedList.mem_foldl_insertBy (a := d) (round.annotatedWith marker) hnil
    rw [hkey] at hmem
    exact hmem.trans (by simp [annotatedWith])

theorem Selects.unique {round : Round} {marker : String} {ds es : List Declaration}
    (hd : Selects round marker ds) (he : Selects round marker es) : ds = es := by
  have h₁ : Ascending compareNames ds := hd.ascending.imp compareNames_eq_lt_iff.mpr
  have h₂ : Ascending compareNames es := he.ascending.imp compareNames_eq_lt_iff.mpr
  exact OrderedList.eq_of_ascending h₁ h₂ fun d => (hd.mem_iff d).trans (he.mem_iff d).symm

/-- Rounds whose marked declarations of each name have the same first one have the same
receivers. -/
theorem scan_congr {round round' : Round} {marker : String}
    (h : ∀ name, (round.annotatedWith marker).find? (fun e => e.name == name) =
      (round'.annotatedWith marker).find? (fun e => e.name == name)) :
    round.scan marker = round'.scan marker := by
  obtain ⟨hascending, hmem⟩ := selects_scan round marker
  have hselects : Selects round' marker (round.scan marker) :=
    ⟨hascending, fun d => (hmem d).trans (by rw [← annotatedWith, h, annotatedWith])⟩
  exact hselects.unique (selects_scan round' marker)

end ReceiverLoader.Round
