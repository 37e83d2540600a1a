import ReceiverLoader.Proofs.Round.Course
import ReceiverLoader.Proofs.Round.Selection

/-!
# Locations do not matter to a round

Where declarations stand, and in which order they were found, makes no difference to what a round
generates, as long as their names differ.

* `scan_eq_of_perm`: rounds with the same declarations have the same receivers, but for locations.
* `processRound_alike`: they have the same outcome, but for the location of a violation.
-/

namespace ReceiverLoader

namespace Declaration

/-- The declaration without its location. -/
def unlocated (d : Declaration) : Declaration := { d with location := none }

end Declaration

/-! ## Receivers -/

namespace OrderedList

theorem insertBy_map {α β : Type} {order : α → α → Ordering} {order' : β → β → Ordering} {f : α → β}
    (h : ∀ a b, order' (f a) (f b) = order a b) (a : α) (l : List α) :
    insertBy order' (f a) (l.map f) = (insertBy order a l).map f := by
  induction l with
  | nil => rfl
  | cons b l ih =>
    rw [List.map_cons, insertBy, insertBy, h]
    cases order a b with
    | lt => rfl
    | eq => rfl
    | gt => rw [List.map_cons, ← ih]

theorem foldl_insertBy_map {α β : Type} {order : α → α → Ordering} {order' : β → β → Ordering}
    {f : α → β} (h : ∀ a b, order' (f a) (f b) = order a b) (l done : List α) :
    (l.map f).foldl (fun done b => insertBy order' b done) (done.map f) =
      (l.foldl (fun done a => insertBy order a done) done).map f := by
  induction l generalizing done with
  | nil => rfl
  | cons a l ih => rw [List.map_cons, List.foldl_cons, List.foldl_cons, insertBy_map h, ih]

end OrderedList

namespace Round

/-- The round without the locations of its declarations. -/
def unlocated (round : Round) : Round := ⟨round.declarations.map Declaration.unlocated⟩

theorem scan_unlocated (round : Round) (marker : String) :
    round.unlocated.scan marker = (round.scan marker).map Declaration.unlocated := by
  have hfilter : round.unlocated.annotatedWith marker =
      (round.annotatedWith marker).map Declaration.unlocated := List.filter_map
  unfold scan
  rw [hfilter]
  exact OrderedList.foldl_insertBy_map (fun _ _ => rfl) _ []

/-- Declarations whose names differ are found by their names. -/
theorem find?_name_eq_some {ds : List Declaration} (h : (ds.map (·.name)).Nodup) {d : Declaration} :
    ds.find? (fun e => e.name == d.name) = some d ↔ d ∈ ds := by
  induction ds with
  | nil => simp
  | cons e ds ih =>
    rw [List.map_cons, List.nodup_cons] at h
    obtain ⟨he, hds⟩ := h
    rw [List.find?_cons, List.mem_cons]
    by_cases hname : e.name = d.name
    · have hnot : d ∉ ds := fun hd => he (List.mem_map.mpr ⟨d, hd, hname.symm⟩)
      rw [beq_iff_eq.mpr hname]
      simp only [Option.some.injEq, hnot, or_false]
      exact eq_comm
    · have hne : d ≠ e := fun hd => hname (congrArg Declaration.name hd).symm
      rw [beq_false_of_ne hname]
      simp only [hne, false_or]
      exact ih hds

theorem scan_perm {round round' : Round} (hperm : round.declarations.Perm round'.declarations)
    (hnames : (round.declarations.map (·.name)).Nodup) (marker : String) :
    round.scan marker = round'.scan marker := by
  obtain ⟨hascending, hmem⟩ := selects_scan round marker
  have hfilter : (round.declarations.filter (·.carries marker)).Perm
      (round'.declarations.filter (·.carries marker)) := hperm.filter _
  have hnodup : ((round.declarations.filter (·.carries marker)).map (·.name)).Nodup :=
    hnames.sublist (List.filter_sublist.map _)
  have hnodup' : ((round'.declarations.filter (·.carries marker)).map (·.name)).Nodup :=
    (hfilter.map _).nodup_iff.mp hnodup
  have hselects : Selects round' marker (round.scan marker) := by
    refine ⟨hascending, fun d => ?_⟩
    rw [hmem, find?_name_eq_some hnodup, find?_name_eq_some hnodup', hfilter.mem_iff]
  exact hselects.unique (selects_scan round' marker)

/-- Rounds with the same declarations, whose names differ, have the same receivers, but for
locations. -/
theorem scan_eq_of_perm {round round' : Round}
    (hperm : (round.declarations.map Declaration.unlocated).Perm
      (round'.declarations.map Declaration.unlocated))
    (hnames : (round.declarations.map (·.name)).Nodup) (marker : String) :
    (round.scan marker).map Declaration.unlocated =
      (round'.scan marker).map Declaration.unlocated := by
  rw [← scan_unlocated, ← scan_unlocated]
  refine scan_perm hperm ?_ marker
  change ((round.declarations.map Declaration.unlocated).map (·.name)).Nodup
  rw [List.map_map]
  exact hnames

end Round

/-! ## Outcomes -/

open Declaration (unlocated)

/-- The outcomes are the same, but for the location of a violation. -/
inductive Outcome.Alike : Outcome → Outcome → Prop
  | refl (outcome : Outcome) : Alike outcome outcome
  | violation (declaration capability : String) (location location' : Option Location) :
      Alike (.aborted (.violation ⟨declaration, capability, location⟩))
        (.aborted (.violation ⟨declaration, capability, location'⟩))

section Rounds

variable {σ : Type} [BuildContext σ]

open BuildContext (isSubtype)

/-- What is found without regard to locations is the same. -/
theorem find?_unlocated {p : Declaration → Bool} (hp : ∀ d, p (unlocated d) = p d)
    {ds ds' : List Declaration} (hds : ds.map unlocated = ds'.map unlocated) :
    (ds.find? p).map unlocated = (ds'.find? p).map unlocated := by
  have hfind (ds : List Declaration) : (ds.find? p).map unlocated = (ds.map unlocated).find? p := by
    rw [List.find?_map]
    simp only [Function.comp_def, hp]
  rw [hfind, hfind, hds]

namespace Context

theorem receivers_unlocated (c : Context) {ds ds' : List Declaration}
    (hds : ds.map unlocated = ds'.map unlocated) : c.receivers ds = c.receivers ds' := by
  have hmap (ds : List Declaration) : c.receivers ds = c.receivers (ds.map unlocated) := by
    rw [receivers, receivers, List.map_map]
    rfl
  rw [hmap, hmap ds', hds]

theorem generate_unlocated (c : Context) (h : σ) {ds ds' : List Declaration}
    (hds : ds.map unlocated = ds'.map unlocated) : c.generate h ds = c.generate h ds' := by
  have hlength : ds.length = ds'.length := by
    rw [← List.length_map (f := unlocated), hds, List.length_map]
  unfold generate
  rw [c.receivers_unlocated hds, hlength]

theorem process_alike (c : Context) (h : σ) {round round' : Round}
    (hscan : (round.scan c.settings.marker).map unlocated =
      (round'.scan c.settings.marker).map unlocated) :
    (c.process h round).2.2.Alike (c.process h round').2.2 := by
  unfold process
  generalize round.scan c.settings.marker = ds at hscan ⊢
  generalize round'.scan c.settings.marker = ds' at hscan ⊢
  have hlength : ds.length = ds'.length := by
    rw [← List.length_map (f := unlocated), hscan, List.length_map]
  have hempty : ds.isEmpty = ds'.isEmpty := by
    rw [← List.isEmpty_map (f := unlocated), hscan, List.isEmpty_map]
  dsimp only
  rw [hempty, hlength]
  generalize BuildContext.note h (Round.scanEntry c.settings.marker ds'.length) = h₁
  by_cases hds : ds'.isEmpty = true
  · rw [if_pos hds, if_pos hds]
    exact .refl _
  · rw [if_neg hds, if_neg hds]
    split
    · exact .refl _
    · rename_i required _
      have hfind :=
        find?_unlocated (p := fun d => !isSubtype h₁ d.type required) (fun _ => rfl) hscan
      rw [firstViolation_eq, firstViolation_eq]
      generalize ds.find? _ = d? at hfind ⊢
      generalize ds'.find? _ = d?' at hfind ⊢
      cases d? with
      | none =>
        cases d?' with
        | some => cases hfind
        | none =>
          simp only [Option.map_none, generate_unlocated _ h₁ hscan]
          exact .refl _
      | some d =>
        cases d?' with
        | none => cases hfind
        | some d' =>
          have hsome : some (unlocated d) = some (unlocated d') := hfind
          have hname := congrArg Declaration.name (Option.some.inj hsome)
          change d.name = d'.name at hname
          simp only [Option.map_some, hname]
          exact .violation _ _ _ _

end Context

/-- Rounds with the same receivers, but for locations, have the same outcome, but for the location
of a violation. -/
theorem processRound_alike (h : σ) (settings : Settings) {round round' : Round}
    (hscan : (round.scan settings.marker).map unlocated =
      (round'.scan settings.marker).map unlocated) :
    (processRound h settings round).2.Alike (processRound h settings round').2 := by
  rw [← Context.start_settings h settings] at hscan
  exact Context.process_alike (Context.start h settings).2 (Context.start h settings).1 hscan

end Rounds

end ReceiverLoader
