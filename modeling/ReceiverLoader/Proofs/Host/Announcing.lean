import Mathlib.Data.List.Forall2
import ReceiverLoader.Host
import ReceiverLoader.Proofs.Round.Outcome
import ReceiverLoader.Proofs.Text.LineEnds

/-!
# What is printed of diagnostics

A host that tells diagnostics to the build tool prints a block of lines for each of them, in which
each line stands behind a directive. The text of a diagnostic is arbitrary: it may have line ends of
any kind, or look like a directive itself.

* `Host.Announces`: the block of a diagnostic.
* `Host.report_announces`: a report prints the block, and nothing else.
* `Host.IsAnnouncing.announced`: from the blocks follows what holds of all that is printed.
-/

namespace ReceiverLoader.Host

/-- What stands in front of each line that tells a diagnostic of this severity. -/
def directive : Severity → String
  | .error => "cargo::error="
  | .warning | .note => "cargo::warning="

/-- The lines tell a diagnostic: one for each line of its text, behind the directive. -/
def Announces (d : Diagnostic) (block : List String) : Prop :=
  ∃ lines, Text.Lined d.text.toList lines ∧
    block = lines.map fun line => directive d.severity ++ String.ofList line

/-- What a printed line says: the characters behind its first equals sign. -/
def said (line : String) : List Char := (line.toList.dropWhile (· ≠ '=')).drop 1

/-- The line starts with these characters. -/
def StartsWith (line start : String) : Prop := start.toList <+: line.toList

/-! ## One report -/

theorem directive_eq (severity : Severity) : directive severity = directiveOf severity ++ "=" := by
  cases severity <;> rfl

theorem feed_not_mem_directive (severity : Severity) : '\n' ∉ (directive severity).toList := by
  cases severity <;> decide

/-- The lines of a diagnostic are printed as they are: none of them has a line feed. -/
theorem announces_directiveLines (d : Diagnostic) :
    Announces d ((directiveLines d).flatMap (Text.split '\n')) := by
  have hlined := Text.lined_linesOf d.text.toList
  refine ⟨_, hlined, ?_⟩
  rw [directiveLines, Text.lines, List.map_map, List.flatMap_map, List.map_eq_flatMap]
  refine List.flatMap_congr fun line hline => ?_
  have htext : directiveOf d.severity ++ "=" ++ String.ofList line =
      directive d.severity ++ String.ofList line := by rw [directive_eq]
  have hfeed : '\n' ∉ (directive d.severity ++ String.ofList line).toList := by
    rw [String.toList_append, String.toList_ofList, List.mem_append]
    exact not_or.mpr ⟨feed_not_mem_directive _, hlined.not_mem_feed line hline⟩
  change Text.split '\n' (directiveOf d.severity ++ "=" ++ String.ofList line) = _
  rw [htext, Text.split, Text.splitAtChar_of_not_mem hfeed, List.map_singleton,
    String.ofList_toList]

/-- A report prints the block of its diagnostic, and nothing else. -/
theorem report_announces {h : Host} (hstyle : h.style = .directives) (d : Diagnostic) :
    ∃ log block, Announces d block ∧
      h.report d = { h with
        log, printed := h.printed ++ block, diagnostics := h.diagnostics ++ [d] } := by
  refine ⟨(h.note ⟨levelOf d.severity, d.detail, []⟩).log, _, announces_directiveLines d, ?_⟩
  cases h
  cases hstyle
  simp only [report, foldl_print]
  rfl

/-! ## The block of a diagnostic -/

namespace Announces

variable {d : Diagnostic} {block : List String}

theorem ne_nil (h : Announces d block) : block ≠ [] := by
  obtain ⟨lines, hlined, rfl⟩ := h
  have htext : d.text.toList ≠ [] := by
    change (d.severity.text ++ ": " ++ d.detail).toList ≠ []
    simp [String.toList_append]
  exact fun hnil => hlined.ne_nil htext (List.map_eq_nil_iff.mp hnil)

theorem startsWith (h : Announces d block) :
    ∀ line ∈ block, StartsWith line (directive d.severity) := by
  obtain ⟨lines, -, rfl⟩ := h
  intro line hline
  obtain ⟨text, -, rfl⟩ := List.mem_map.mp hline
  rw [StartsWith, String.toList_append]
  exact List.prefix_append _ _

theorem said_directive (severity : Severity) (text : List Char) :
    said (directive severity ++ String.ofList text) = text := by
  rw [said, String.toList_append, String.toList_ofList]
  cases severity <;> rfl

/-- The lines say the text of the diagnostic, without the ends of its lines. -/
theorem flatMap_said (h : Announces d block) :
    block.flatMap said = Text.withoutLineEnds d.text.toList := by
  obtain ⟨lines, hlined, rfl⟩ := h
  rw [← hlined.flatten, List.flatMap_map]
  simp only [said_directive, List.flatMap_id']

/-- A line of the block starts as that of an error iff the diagnostic is one: the text cannot change
this, as it stands behind the directive. -/
theorem exists_error_iff (h : Announces d block) :
    (∃ line ∈ block, StartsWith line "cargo::error=") ↔ d.isError := by
  have hne := h.ne_nil
  have hstarts := h.startsWith
  obtain ⟨severity, message, declaration, location⟩ := d
  cases severity with
  | error =>
    obtain ⟨line, hline⟩ := List.exists_mem_of_ne_nil block hne
    exact iff_of_true ⟨line, hline, hstarts line hline⟩ rfl
  | warning | note =>
    refine iff_of_false (fun ⟨line, hline, herror⟩ => ?_) Bool.false_ne_true
    obtain ⟨behind, hbehind⟩ := hstarts line hline
    rw [StartsWith, ← hbehind] at herror
    revert herror
    simp [directive, List.cons_prefix_cons]

end Announces

/-! ## All that is printed -/

/-- A host tells diagnostics to the build tool, and what it has printed are the blocks of those that
were reported. -/
structure IsAnnouncing (h : Host) : Prop where
  style : h.style = .directives
  blocks : ∃ blocks, List.Forall₂ Announces h.diagnostics blocks ∧ h.printed = blocks.flatten

theorem IsAnnouncing.note {h : Host} (hh : h.IsAnnouncing) (entry : Log.Entry) :
    (h.note entry).IsAnnouncing := ⟨hh.style, hh.blocks⟩

theorem IsAnnouncing.report {h : Host} (hh : h.IsAnnouncing) (d : Diagnostic) :
    (h.report d).IsAnnouncing := by
  obtain ⟨blocks, hblocks, hprinted⟩ := hh.blocks
  obtain ⟨log, block, hblock, hreport⟩ := report_announces hh.style d
  rw [hreport]
  refine ⟨hh.style, blocks ++ [block], List.rel_append hblocks (.cons hblock .nil), ?_⟩
  change h.printed ++ block = _
  rw [hprinted, List.flatten_append, List.flatten_singleton]

/-- What a host has printed of its diagnostics. -/
structure Announced (h : Host) : Prop where
  /-- Diagnostic by diagnostic its block, which is not empty. -/
  blocks : ∃ blocks, List.Forall₂ Announces h.diagnostics blocks ∧ h.printed = blocks.flatten ∧
    ∀ block ∈ blocks, block ≠ []
  /-- Each line has a directive. -/
  directives : ∀ line ∈ h.printed,
    StartsWith line "cargo::error=" ∨ StartsWith line "cargo::warning="
  /-- Behind the directives stand the texts, in order and without the ends of their lines. -/
  texts : h.printed.flatMap said =
    h.diagnostics.flatMap fun d => Text.withoutLineEnds d.text.toList
  /-- An error has been printed iff one has been reported. -/
  errors : (∃ line ∈ h.printed, StartsWith line "cargo::error=") ↔ h.hasErrors

theorem exists_of_forall₂_announces {ds : List Diagnostic} {blocks : List (List String)}
    (h : List.Forall₂ Announces ds blocks) : ∀ block ∈ blocks, ∃ d, Announces d block := by
  induction h with
  | nil => exact fun block hblock => absurd hblock List.not_mem_nil
  | cons hblock _ ih => exact List.forall_mem_cons.mpr ⟨⟨_, hblock⟩, ih⟩

theorem forall₂_announces_flatMap {ds : List Diagnostic} {blocks : List (List String)}
    (h : List.Forall₂ Announces ds blocks) :
    blocks.flatten.flatMap said = ds.flatMap fun d => Text.withoutLineEnds d.text.toList := by
  induction h with
  | nil => rfl
  | cons hblock _ ih =>
    rw [List.flatten_cons, List.flatMap_append, hblock.flatMap_said, ih, List.flatMap_cons]

theorem forall₂_announces_error {ds : List Diagnostic} {blocks : List (List String)}
    (h : List.Forall₂ Announces ds blocks) :
    (∃ line ∈ blocks.flatten, StartsWith line "cargo::error=") ↔ ds.any Diagnostic.isError := by
  induction h with
  | nil => simp
  | cons hblock _ ih =>
    rw [List.flatten_cons, List.any_cons, Bool.or_eq_true, ← hblock.exists_error_iff, ← ih]
    simp only [List.mem_append, or_and_right, exists_or]

/-- From the blocks follows what holds of all that is printed. -/
theorem IsAnnouncing.announced {h : Host} (hh : h.IsAnnouncing) : h.Announced := by
  obtain ⟨blocks, hblocks, hprinted⟩ := hh.blocks
  have hof : ∀ block ∈ blocks, ∃ d, Announces d block := exists_of_forall₂_announces hblocks
  refine ⟨⟨blocks, hblocks, hprinted, fun block hblock => ?_⟩, fun line hline => ?_, ?_, ?_⟩
  · obtain ⟨d, hd⟩ := hof block hblock
    exact hd.ne_nil
  · rw [hprinted] at hline
    obtain ⟨block, hblock, hline⟩ := List.mem_flatten.mp hline
    obtain ⟨d, hd⟩ := hof block hblock
    have hstarts := hd.startsWith line hline
    cases hseverity : d.severity with
    | error =>
      rw [hseverity] at hstarts
      exact Or.inl hstarts
    | warning | note =>
      rw [hseverity] at hstarts
      exact Or.inr hstarts
  · rw [hprinted, forall₂_announces_flatMap hblocks]
  · rw [hprinted, forall₂_announces_error hblocks]
    rfl

end ReceiverLoader.Host
