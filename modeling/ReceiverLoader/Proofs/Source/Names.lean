import ReceiverLoader.Proofs.Grammar.Names
import ReceiverLoader.Proofs.Source.FileOrder

/-!
# The modules and the names in a tree

* `mem_treeModules_of_prefix`: the module of an item is known in the tree, and so are those around
  it.
* `SourceFile.Readable.isItemName`: types and traits have names for items.
-/

namespace ReceiverLoader.Source

open Grammar (Item IsItemName)

/-! ## The modules of a tree -/

mutual

theorem module_of_mem_itemOccurrences {file : FilePath} {fileModule : List String}
    {o : Occurrence} :
    ∀ (item : Item) (enclosing : List String) (body : List Item),
      o ∈ itemOccurrences file fileModule enclosing body item →
        o.module = fileModule ++ enclosing ∨
          o.module ∈ (itemOccurrences file fileModule enclosing body item).filterMap
            Occurrence.nested?
  | .module name items, enclosing, body, h => by
    rw [itemOccurrences] at h ⊢
    rw [List.filterMap_cons_some (show Occurrence.nested? _ = _ from rfl)]
    rcases List.mem_cons.mp h with rfl | h
    · exact Or.inl rfl
    · -- The items of the module stand in it, or in a module that is nested in it.
      right
      rcases module_of_mem_bodyOccurrences items (enclosing ++ [name]) items h with heq | hnested
      · rw [heq, ← List.append_assoc]
        exact List.mem_cons_self
      · exact List.mem_cons_of_mem _ hnested
  | .type _, _, _, h | .trait _, _, _, h | .implementation _ _, _, _, h | .use _ _, _, _, h
  | .other, _, _, h => by
    rw [List.mem_singleton.mp h]
    exact Or.inl rfl

theorem module_of_mem_bodyOccurrences {file : FilePath} {fileModule : List String}
    {o : Occurrence} :
    ∀ (items : List Item) (enclosing : List String) (body : List Item),
      o ∈ bodyOccurrences file fileModule enclosing body items →
        o.module = fileModule ++ enclosing ∨
          o.module ∈ (bodyOccurrences file fileModule enclosing body items).filterMap
            Occurrence.nested?
  | [], _, _, h => absurd h List.not_mem_nil
  | item :: items, enclosing, body, h => by
    rw [bodyOccurrences] at h ⊢
    rw [List.filterMap_append, List.mem_append]
    rcases List.mem_append.mp h with h | h
    · exact (module_of_mem_itemOccurrences item _ _ h).imp_right Or.inl
    · exact (module_of_mem_bodyOccurrences items _ _ h).imp_right Or.inr

end

/-- The items of a file stand in its modules. -/
theorem SourceFile.module_mem_modules {f : SourceFile} {o : Occurrence} (h : o ∈ f.occurrences) :
    o.module ∈ f.modules := by
  rw [modules, List.mem_cons]
  have hmodule := module_of_mem_bodyOccurrences _ _ _ h
  rwa [List.append_nil] at hmodule

theorem Collection.mem_enclosingModules {module m : List String} :
    m ∈ enclosingModules module ↔ m ≠ [] ∧ m <+: module := by
  rw [enclosingModules, List.mem_map]
  constructor
  · rintro ⟨n, hn, rfl⟩
    have hlength := List.mem_range.mp hn
    refine ⟨fun hnil => ?_, List.take_prefix _ _⟩
    rw [List.take_eq_nil_iff] at hnil
    rcases hnil with hzero | hempty
    · exact absurd hzero (Nat.succ_ne_zero n)
    · rw [hempty] at hlength
      exact absurd hlength (Nat.not_lt_zero n)
  · rintro ⟨hne, hbegins⟩
    have hpos : 0 < m.length := List.length_pos_iff.mpr hne
    refine ⟨m.length - 1, List.mem_range.mpr ?_, ?_⟩
    · have hle := hbegins.length_le
      omega
    · rw [Nat.sub_add_cancel hpos]
      exact (List.prefix_iff_eq_take.mp hbegins).symm

/-- The module of a declaration is known in the tree, and so are those around it. -/
theorem mem_treeModules_of_prefix {crate : String} {files : List SourceFile} {f : SourceFile}
    (hf : f ∈ files) {d : Occurrence} (hd : d ∈ f.occurrences) {m : List String} (hne : m ≠ [])
    (hbegins : m <+: d.module) : m ∈ treeModules crate files := by
  refine List.mem_cons_of_mem _ (List.mem_flatMap.mpr ⟨d.module, ?_, ?_⟩)
  · exact List.mem_flatMap.mpr ⟨f, hf, SourceFile.module_mem_modules hd⟩
  · exact Collection.mem_enclosingModules.mpr ⟨hne, hbegins⟩

/-! ## Own names -/

namespace Occurrence

/-- The name that an item gives a type or a trait. -/
def ownName? (o : Occurrence) : Option String :=
  match o.item with
  | .type d => some d.name
  | .trait name => some name
  | _ => none

theorem declaredName?_eq (o : Occurrence) : o.declaredName? = o.ownName?.map o.qualified := by
  unfold declaredName? ownName?
  cases o.item <;> rfl

theorem mem_names_of_ownName? {o : Occurrence} {name : String} (h : o.ownName? = some name) :
    name ∈ o.item.names := by
  unfold ownName? at h
  split at h
  · rename_i hitem
    cases h
    rw [hitem]
    exact List.mem_singleton_self _
  · rename_i hitem
    cases h
    rw [hitem]
    exact List.mem_singleton_self _
  · cases h

end Occurrence

mutual

theorem names_subset_of_mem_itemOccurrences {file : FilePath} {fileModule : List String}
    {o : Occurrence} :
    ∀ (item : Item) (enclosing : List String) (body : List Item),
      o ∈ itemOccurrences file fileModule enclosing body item → o.item.names ⊆ item.names
  | .module name items, enclosing, body, h => by
    rw [itemOccurrences] at h
    rcases List.mem_cons.mp h with rfl | h
    · exact List.Subset.refl _
    · exact List.subset_cons_of_subset name (names_subset_of_mem_bodyOccurrences items _ _ h)
  | .type _, _, _, h | .trait _, _, _, h | .implementation _ _, _, _, h | .use _ _, _, _, h
  | .other, _, _, h => by
    rw [List.mem_singleton.mp h]
    exact List.Subset.refl _

theorem names_subset_of_mem_bodyOccurrences {file : FilePath} {fileModule : List String}
    {o : Occurrence} :
    ∀ (items : List Item) (enclosing : List String) (body : List Item),
      o ∈ bodyOccurrences file fileModule enclosing body items →
        o.item.names ⊆ Item.allNames items
  | [], _, _, h => absurd h List.not_mem_nil
  | item :: items, enclosing, body, h => by
    rw [bodyOccurrences] at h
    rw [Item.allNames]
    rcases List.mem_append.mp h with h | h
    · exact List.subset_append_of_subset_left _ (names_subset_of_mem_itemOccurrences item _ _ h)
    · exact List.subset_append_of_subset_right _ (names_subset_of_mem_bodyOccurrences items _ _ h)

end

/-- The items of a text are named as they should be. -/
theorem readItems_isNamed {text : String} {items : List Item} (h : readItems text = .ok items) :
    ∀ item ∈ items, item.IsNamed := by
  unfold readItems at h
  split at h
  · cases h
  · split at h
    · cases h
    · rename_i hread
      cases h
      exact Grammar.readModule_isNamed hread

/-- Types and traits in a file that can be read have names for items. -/
theorem SourceFile.Readable.isItemName {marker : String} {f : SourceFile} (hf : f.Readable marker)
    {o : Occurrence} (ho : o ∈ f.occurrences) {name : String} (hname : o.ownName? = some name) :
    IsItemName name := by
  have hmem := names_subset_of_mem_bodyOccurrences _ _ _ ho
    (Occurrence.mem_names_of_ownName? hname)
  obtain ⟨item, hitem, hnames⟩ := Item.mem_allNames.mp hmem
  exact readItems_isNamed hf.readItems item hitem name hnames

end ReceiverLoader.Source
