import Mathlib.Data.List.Chain
import ReceiverLoader.Source.Scope

/-!
# The words for modules in paths

Three words stand for modules: for the root of the crate, for the module that a path stands in and
for its parent. A path may begin with them.

* `wordless_of_isChain`: they stand nowhere else in a grammatical path.
* `absolute_anchored`: a path stands for a beginning of its module and its own end, in which no word
  is left, unless it begins with `self::super`.
-/

namespace ReceiverLoader.Source

open Grammar (Path)

/-! ## Grammatical paths -/

/-- The words for modules. -/
def moduleWords : List String := ["crate", "self", "super"]

/-- `b` may stand behind `a` in a path. No word for a module may, but that for the parent behind
another one for it or behind that for the module itself. -/
def Follows (a b : String) : Prop := b ∈ moduleWords → b = "super" ∧ (a = "self" ∨ a = "super")

instance (a b : String) : Decidable (Follows a b) :=
  inferInstanceAs (Decidable (_ → _))

/-- The words for modules stand where the language allows them: at the front of a path without
leading `::`. -/
structure IsGrammatical (path : Path) : Prop where
  chain : List.IsChain Follows path.segments
  colon : path.leadingColon = true → ∀ first ∈ path.segments.head?, first ∉ moduleWords

instance (path : Path) : Decidable (IsGrammatical path) :=
  decidable_of_iff (List.IsChain Follows path.segments ∧
      (path.leadingColon = true → ∀ first ∈ path.segments.head?, first ∉ moduleWords))
    ⟨fun ⟨hchain, hcolon⟩ => ⟨hchain, hcolon⟩, fun h => ⟨h.chain, h.colon⟩⟩

/-- The first segment is a word for a module. -/
def BeginsWithWord (path : Path) : Prop := ∃ first ∈ path.segments.head?, first ∈ moduleWords

/-- The path begins with the word for the parent behind that for the module it stands in. -/
def BeginsWithSelfSuper (path : Path) : Prop := ["self", "super"] <+: path.segments

theorem mem_moduleWords {s : String} :
    s ∈ moduleWords ↔ s = "crate" ∨ s = "self" ∨ s = "super" := by
  simp [moduleWords]

theorem beginsWithSelfSuper_cons {colon : Bool} {first : String} {rest : List String} :
    BeginsWithSelfSuper ⟨colon, first :: rest⟩ ↔ first = "self" ∧ rest.head? = some "super" := by
  rw [BeginsWithSelfSuper, List.cons_prefix_cons, List.head?_eq_some_iff]
  refine and_congr eq_comm ?_
  exact ⟨fun ⟨behind, heq⟩ => ⟨behind, heq.symm⟩, fun ⟨behind, heq⟩ => ⟨behind, heq.symm⟩⟩

/-- What stands behind the first segment. -/
theorem follows_head? {first : String} {rest : List String}
    (h : List.IsChain Follows (first :: rest)) : ∀ second ∈ rest.head?, Follows first second := by
  intro second hsecond
  obtain ⟨behind, rfl⟩ := List.head?_eq_some_iff.mp hsecond
  exact (List.isChain_cons_cons.mp h).1

/-- Segments that do not begin with a word for a module have none. -/
theorem wordless_of_isChain {segments : List String} (h : List.IsChain Follows segments)
    (hfirst : ∀ first ∈ segments.head?, first ∉ moduleWords) : ∀ s ∈ segments, s ∉ moduleWords := by
  induction segments with
  | nil => nofun
  | cons first rest ih =>
    have hword : first ∉ moduleWords := hfirst first rfl
    refine List.forall_mem_cons.mpr ⟨hword, ih h.tail ?_⟩
    intro second hsecond hword'
    obtain ⟨-, heq | heq⟩ := follows_head? h second hsecond hword'
    · exact hword (mem_moduleWords.mpr (.inr (.inl heq)))
    · exact hword (mem_moduleWords.mpr (.inr (.inr heq)))

/-! ## What they stand for -/

/-- In `module` the path stands for `base` with `rest` behind it: a beginning of the module, and the
end of the path. No word for a module is left in the latter unless the path begins with
`self::super`. -/
structure Anchored (module : List String) (path : Path) (base rest : List String) : Prop where
  begins : base <+: module
  ends : rest <:+ path.segments
  base_ne_nil : BeginsWithWord path → base ≠ []
  wordless : ¬ BeginsWithSelfSuper path → ∀ s ∈ rest, s ∉ moduleWords
  left : BeginsWithSelfSuper path → "super" ∈ rest

theorem parentModule_begins (module : List String) : parentModule module <+: module := by
  unfold parentModule
  split
  · exact List.dropLast_prefix module
  · exact List.prefix_refl module

theorem parentModule_ne_nil {module : List String} (h : module ≠ []) :
    parentModule module ≠ [] := by
  unfold parentModule
  split
  · rename_i hlength
    refine List.ne_nil_of_length_pos ?_
    rw [List.length_dropLast]
    omega
  · exact h

/-- All words for the parent are followed, and never out of the crate. -/
theorem followSuper_anchored {segments : List String} (h : List.IsChain Follows segments)
    (hfirst : ∀ first ∈ segments.head?, first ∈ moduleWords → first = "super")
    {module : List String} (hmodule : module ≠ []) :
    ∃ base rest, followSuper module segments = base ++ rest ∧ base ≠ [] ∧ base <+: module ∧
      rest <:+ segments ∧ ∀ s ∈ rest, s ∉ moduleWords := by
  induction segments generalizing module with
  | nil => exact ⟨module, [], (List.append_nil module).symm, hmodule, List.prefix_refl module,
      List.suffix_refl [], nofun⟩
  | cons first segments ih =>
    rw [followSuper]
    split
    · rename_i hsuper
      subst hsuper
      have hsecond : ∀ b ∈ segments.head?, b ∈ moduleWords → b = "super" := fun b hb hword =>
        (follows_head? h b hb hword).1
      obtain ⟨base, rest, heq, hne, hbase, hrest, hwords⟩ :=
        ih h.tail hsecond (parentModule_ne_nil hmodule)
      exact ⟨base, rest, heq, hne, hbase.trans (parentModule_begins module),
        hrest.trans (List.suffix_cons "super" segments), hwords⟩
    · rename_i hsuper
      refine ⟨module, first :: segments, rfl, hmodule, List.prefix_refl module, List.suffix_refl _,
        wordless_of_isChain h fun s hs hword => ?_⟩
      cases hs
      exact hsuper (hfirst first rfl hword)

section Absolute

variable {root : String} {inner rest : List String} {path : Path}

/-- A path without words stands for itself, be it with or without the module in front. -/
theorem anchored_of_wordless {module base : List String} (hbase : base <+: module)
    (hwords : ∀ s ∈ path.segments, s ∉ moduleWords) : Anchored module path base path.segments where
  begins := hbase
  ends := List.suffix_refl _
  base_ne_nil := by
    rintro ⟨first, hfirst, hword⟩
    exact absurd hword (hwords first (List.mem_of_mem_head? hfirst))
  wordless _ := hwords
  left h := absurd (mem_moduleWords.mpr (.inr (.inl rfl)))
    (hwords "self" (h.subset List.mem_cons_self))

theorem anchored_crate (h : List.IsChain Follows ("crate" :: rest)) :
    Anchored (root :: inner) ⟨false, "crate" :: rest⟩ [root] rest where
  begins := ⟨inner, rfl⟩
  ends := List.suffix_cons _ _
  base_ne_nil _ := List.cons_ne_nil _ _
  wordless _ := wordless_of_isChain h.tail fun second hsecond hword =>
    absurd (follows_head? h second hsecond hword).2 (by decide)
  left h := absurd (beginsWithSelfSuper_cons.mp h).1 (by decide)

theorem anchored_self (h : List.IsChain Follows ("self" :: rest)) :
    Anchored (root :: inner) ⟨false, "self" :: rest⟩ (root :: inner) rest where
  begins := List.prefix_refl _
  ends := List.suffix_cons _ _
  base_ne_nil _ := List.cons_ne_nil _ _
  wordless hnot := wordless_of_isChain h.tail fun second hsecond hword => by
    obtain ⟨rfl, -⟩ := follows_head? h second hsecond hword
    exact hnot (beginsWithSelfSuper_cons.mpr ⟨rfl, hsecond⟩)
  left hleft := List.mem_of_mem_head? (beginsWithSelfSuper_cons.mp hleft).2

theorem anchored_super (h : List.IsChain Follows ("super" :: rest)) :
    ∃ base behind, followSuper (root :: inner) ("super" :: rest) = base ++ behind ∧
      Anchored (root :: inner) ⟨false, "super" :: rest⟩ base behind := by
  obtain ⟨base, behind, heq, hne, hbase, hbehind, hwords⟩ :=
    followSuper_anchored h (fun _ hfirst _ => (Option.some.inj hfirst).symm)
      (List.cons_ne_nil root inner)
  exact ⟨base, behind, heq, hbase, hbehind, fun _ => hne, fun _ => hwords,
    fun h => absurd (beginsWithSelfSuper_cons.mp h).1 (by decide)⟩

/-- A grammatical path stands for a beginning of its module, with its own end. -/
theorem absolute_anchored (hpath : IsGrammatical path) {module : List String}
    (hmodule : module.head? = some root) (modules : List (List String)) (localFallback : Bool) :
    ∃ base rest, absolute root modules module path localFallback = base ++ rest ∧
      Anchored module path base rest := by
  obtain ⟨inner, rfl⟩ := List.head?_eq_some_iff.mp hmodule
  obtain ⟨colon, segments⟩ := path
  obtain ⟨hchain, hcolon⟩ := hpath
  cases segments with
  | nil => exact ⟨[], [], rfl, anchored_of_wordless List.nil_prefix nofun⟩
  | cons first rest =>
    by_cases hword : first ∈ moduleWords
    · have hfalse : colon = false := Bool.eq_false_iff.mpr fun h => hcolon h first rfl hword
      subst hfalse
      obtain rfl | rfl | rfl := mem_moduleWords.mp hword
      · exact ⟨_, _, rfl, anchored_crate hchain⟩
      · exact ⟨_, _, rfl, anchored_self hchain⟩
      · exact anchored_super hchain
    · obtain ⟨hcrate, hself, hsuper⟩ := by
        simpa only [mem_moduleWords, not_or] using hword
      have hwords : ∀ s ∈ first :: rest, s ∉ moduleWords :=
        wordless_of_isChain hchain fun _ hfirst => Option.some.inj hfirst ▸ hword
      have hforeign : Anchored (root :: inner) ⟨colon, first :: rest⟩ [] (first :: rest) :=
        anchored_of_wordless List.nil_prefix hwords
      simp only [absolute, if_neg hcrate, if_neg hself, if_neg hsuper]
      split
      · exact ⟨_, _, rfl, hforeign⟩
      · split
        · exact ⟨_, _, rfl, anchored_of_wordless (List.prefix_refl _) hwords⟩
        · exact ⟨_, _, rfl, hforeign⟩

end Absolute

end ReceiverLoader.Source
