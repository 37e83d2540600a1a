import ReceiverLoader.Proofs.Grammar.Wording
import ReceiverLoader.Proofs.Source.Names

/-!
# The words of source files

* `inherits_of_mem_occurrences`: what holds of the items of a file, and with a module of the items
  inside it, holds wherever an item stands.
* `SourceFile.Readable.isWorded`: names and paths in a file that can be read are made of
  identifiers.
* `SourceFile.Readable.isNamed`: the modules around an item have names for items.
-/

namespace ReceiverLoader.Source

open Grammar (Item IsItemName)
open Token (IsIdentifier)

/-! ## Properties of items and of those inside them -/

/-- Where `P` holds of a module, `N` holds of its name and `P` of its items. -/
def Hereditary (P : Item → Prop) (N : String → Prop) : Prop :=
  ∀ {name : String} {items : List Item}, P (.module name items) → N name ∧ ∀ item ∈ items, P item

/-- `P` holds of the item and of those beside it, and `N` of the modules around it. -/
structure Occurrence.Inherits (P : Item → Prop) (N : String → Prop) (o : Occurrence) : Prop where
  item : P o.item
  body : ∀ item ∈ o.body, P item
  enclosing : ∀ name ∈ o.enclosing, N name

section Inherits

variable {P : Item → Prop} {N : String → Prop} {file : FilePath} {fileModule : List String}
  {o : Occurrence}

mutual

theorem inherits_of_mem_itemOccurrences (hinside : Hereditary P N) :
    ∀ (item : Item) {enclosing : List String} {body : List Item}, P item → (∀ item ∈ body, P item) →
      (∀ name ∈ enclosing, N name) → o ∈ itemOccurrences file fileModule enclosing body item →
        o.Inherits P N
  | .module name items, enclosing, body, hitem, hbody, henclosing, h => by
    rw [itemOccurrences] at h
    rcases List.mem_cons.mp h with rfl | h
    · exact ⟨hitem, hbody, henclosing⟩
    · obtain ⟨hname, hitems⟩ := hinside hitem
      refine inherits_of_mem_bodyOccurrences hinside items hitems hitems (fun n hn => ?_) h
      rcases List.mem_append.mp hn with hn | hn
      · exact henclosing n hn
      · exact List.mem_singleton.mp hn ▸ hname
  | .type _, _, _, hitem, hbody, henclosing, h | .trait _, _, _, hitem, hbody, henclosing, h
  | .implementation _ _, _, _, hitem, hbody, henclosing, h
  | .use _ _, _, _, hitem, hbody, henclosing, h | .other, _, _, hitem, hbody, henclosing, h => by
    rw [List.mem_singleton.mp h]
    exact ⟨hitem, hbody, henclosing⟩

theorem inherits_of_mem_bodyOccurrences (hinside : Hereditary P N) :
    ∀ (items : List Item) {enclosing : List String} {body : List Item}, (∀ item ∈ items, P item) →
      (∀ item ∈ body, P item) → (∀ name ∈ enclosing, N name) →
        o ∈ bodyOccurrences file fileModule enclosing body items → o.Inherits P N
  | [], _, _, _, _, _, h => absurd h List.not_mem_nil
  | item :: items, enclosing, body, hitems, hbody, henclosing, h => by
    obtain ⟨hitem, hitems⟩ := List.forall_mem_cons.mp hitems
    rw [bodyOccurrences] at h
    rcases List.mem_append.mp h with h | h
    · exact inherits_of_mem_itemOccurrences hinside item hitem hbody henclosing h
    · exact inherits_of_mem_bodyOccurrences hinside items hitems hbody henclosing h

end

theorem inherits_of_mem_occurrences (hinside : Hereditary P N) {items : List Item}
    (hitems : ∀ item ∈ items, P item)
    (ho : o ∈ occurrences file fileModule items) : o.Inherits P N :=
  inherits_of_mem_bodyOccurrences hinside items hitems hitems (List.forall_mem_nil N) ho

end Inherits

/-! ## Names and paths -/

theorem hereditary_isNamed : Hereditary Item.IsNamed IsItemName := Item.isNamed_module.mp

theorem hereditary_isWorded (W : String → Prop) : Hereditary (Item.IsWorded W) W := fun h => by
  cases h with
  | module hname hitems => exact ⟨hname, hitems⟩

/-- The items of a text are made of identifiers. -/
theorem readItems_isWorded {text : String} {items : List Item} (h : readItems text = .ok items) :
    ∀ item ∈ items, item.IsWorded IsIdentifier := by
  unfold readItems at h
  split at h
  · cases h
  · rename_i trees htrees
    split at h
    · cases h
    · rename_i hread
      cases h
      exact Grammar.readModule_isWorded (Token.isIdentifier_of_treesOf htrees) hread

namespace SourceFile.Readable

variable {marker : String} {f : SourceFile} {o : Occurrence}

theorem isWorded (hf : f.Readable marker) (ho : o ∈ f.occurrences) :
    o.Inherits (Item.IsWorded IsIdentifier) IsIdentifier :=
  inherits_of_mem_occurrences (hereditary_isWorded IsIdentifier)
    (readItems_isWorded hf.readItems) ho

theorem isNamed (hf : f.Readable marker) (ho : o ∈ f.occurrences) :
    o.Inherits Item.IsNamed IsItemName :=
  inherits_of_mem_occurrences hereditary_isNamed (readItems_isNamed hf.readItems) ho

/-- Types and traits in a file that can be read are called by identifiers. -/
theorem isIdentifier (hf : f.Readable marker) (ho : o ∈ f.occurrences) {name : String}
    (hname : o.ownName? = some name) : IsIdentifier name := by
  have hitem := (hf.isWorded ho).item
  unfold Occurrence.ownName? at hname
  split at hname
  · rename_i heq
    cases hname
    rw [heq] at hitem
    cases hitem with
    | type h => exact h
  · rename_i heq
    cases hname
    rw [heq] at hitem
    cases hitem with
    | trait h => exact h
  · cases hname

end SourceFile.Readable

end ReceiverLoader.Source
