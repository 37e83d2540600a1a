import ReceiverLoader.Proofs.OrderedList
import ReceiverLoader.TypeTable

/-!
# Type tables as sets

* `mem_declared`, `mem_implementations`: a table holds what has been recorded, in whatever order.
* `Ordered.eq_of_mem`: a table is determined by the names and pairs it holds.
-/

namespace ReceiverLoader.TypeTable

open OrderedList (Ascending insertBy)

theorem comparePairs_eq : comparePairs = compareLex (compareOn Prod.fst) (compareOn Prod.snd) := rfl

instance : Std.TransCmp comparePairs := by
  rw [comparePairs_eq]
  infer_instance

instance : Std.LawfulEqCmp comparePairs where
  compare_self := Std.ReflCmp.compare_self
  eq_of_compare {p q} h := by
    rw [comparePairs, Ordering.then_eq_eq] at h
    exact Prod.ext (Std.LawfulEqCmp.eq_of_compare h.1) (Std.LawfulEqCmp.eq_of_compare h.2)

/-- The names and the pairs of a table are in ascending order. -/
structure Ordered (table : TypeTable) : Prop where
  declared : Ascending compare table.declared
  implementations : Ascending comparePairs table.implementations

theorem ordered_empty : Ordered empty := ⟨OrderedList.ascending_nil, OrderedList.ascending_nil⟩

/-- The table with these names declared. -/
def declareAll (names : List String) (table : TypeTable) : TypeTable :=
  names.foldl (fun table name => table.declare name) table

/-- The table with these pairs of a type and a trait. -/
def addAll (pairs : List (String × String)) (table : TypeTable) : TypeTable :=
  pairs.foldl (fun table p => table.addImplementation p.1 p.2) table

@[simp] theorem declareAll_nil (table : TypeTable) : table.declareAll [] = table := rfl

@[simp] theorem declareAll_singleton (table : TypeTable) (name : String) :
    table.declareAll [name] = table.declare name := rfl

theorem declareAll_append (table : TypeTable) (names others : List String) :
    table.declareAll (names ++ others) = (table.declareAll names).declareAll others :=
  List.foldl_append

theorem declareAll_eq (names : List String) (table : TypeTable) :
    table.declareAll names =
      { table with
        declared := names.foldl (fun l name => insertBy compare name l) table.declared } := by
  induction names generalizing table with
  | nil => rfl
  | cons name names ih => exact ih (table.declare name)

theorem addAll_eq (pairs : List (String × String)) (table : TypeTable) :
    table.addAll pairs =
      { table with
        implementations :=
          pairs.foldl (fun l p => insertBy comparePairs p l) table.implementations } := by
  induction pairs generalizing table with
  | nil => rfl
  | cons p pairs ih => exact ih (table.addImplementation p.1 p.2)

theorem Ordered.declareAll {table : TypeTable} (h : table.Ordered) (names : List String) :
    (table.declareAll names).Ordered := by
  rw [declareAll_eq]
  exact ⟨OrderedList.ascending_foldl_insertBy names h.declared, h.implementations⟩

theorem Ordered.addAll {table : TypeTable} (h : table.Ordered) (pairs : List (String × String)) :
    (table.addAll pairs).Ordered := by
  rw [addAll_eq]
  exact ⟨h.declared, OrderedList.ascending_foldl_insertBy pairs h.implementations⟩

theorem mem_declared_declareAll {names : List String} {name : String} :
    name ∈ (empty.declareAll names).declared ↔ name ∈ names := by
  rw [declareAll_eq]
  simp [OrderedList.mem_foldl_insertBy_of_lawful, empty]

theorem mem_declared {names : List String} {pairs : List (String × String)} {name : String} :
    name ∈ ((empty.declareAll names).addAll pairs).declared ↔ name ∈ names := by
  rw [addAll_eq]
  exact mem_declared_declareAll

theorem mem_implementations {names : List String} {pairs : List (String × String)}
    {p : String × String} :
    p ∈ ((empty.declareAll names).addAll pairs).implementations ↔ p ∈ pairs := by
  rw [addAll_eq, declareAll_eq]
  simp [OrderedList.mem_foldl_insertBy_of_lawful, empty]

/-- A table is determined by the names and pairs it holds. -/
theorem Ordered.eq_of_mem {t₁ t₂ : TypeTable} (h₁ : t₁.Ordered) (h₂ : t₂.Ordered)
    (hdeclared : ∀ name, name ∈ t₁.declared ↔ name ∈ t₂.declared)
    (himplementations : ∀ p, p ∈ t₁.implementations ↔ p ∈ t₂.implementations) : t₁ = t₂ := by
  obtain ⟨declared₁, implementations₁⟩ := t₁
  obtain ⟨declared₂, implementations₂⟩ := t₂
  congr
  · exact OrderedList.eq_of_ascending h₁.declared h₂.declared hdeclared
  · exact OrderedList.eq_of_ascending h₁.implementations h₂.implementations himplementations

end ReceiverLoader.TypeTable
