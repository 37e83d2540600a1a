import Mathlib.Data.List.Induction
import ReceiverLoader.Proofs.QualifiedName
import ReceiverLoader.Proofs.TypeTable

/-!
# What is recorded in a type table

A table is built up by records, each of a declared name or of an implementation. What it answers
depends on which records there are, and not on their order or number: an implementation that has
been recorded early may lose its force by a declaration that comes much later, and only by one.

* `mem_declared_record`, `mem_implementations_record`: the step, from one table to the next.
* `mem_declared_ofRecords`, `mem_implementations_ofRecords`: the run, over all records.
* `Supports`: the recorded traits that make a type a subtype of another.
* `ofRecords_answers`: what a table answers, and which answers a further record changes.
-/

namespace ReceiverLoader.TypeTable

open OrderedList (Ascending)
open QualifiedName (SameLastSegment)

/-- What is recorded in a table. -/
inductive Record
  | declare (name : String)
  | implement (type trait : String)
deriving Repr, DecidableEq

namespace Record

/-- Whether the record is one of an implementation. -/
def isImplement : Record → Bool
  | declare _ => false
  | implement _ _ => true

end Record

/-- The table with one record more. -/
def record (table : TypeTable) : Record → TypeTable
  | .declare name => table.declare name
  | .implement type trait => table.addImplementation type trait

/-- The table of these records, from the first to the last. -/
def ofRecords (rs : List Record) : TypeTable := rs.foldl record empty

/-! ## One record -/

section Step

variable {table : TypeTable} {r : Record}

theorem Ordered.record (h : table.Ordered) (r : Record) : (table.record r).Ordered := by
  cases r with
  | declare name => exact ⟨OrderedList.ascending_insertBy name h.declared, h.implementations⟩
  | implement type trait =>
    exact ⟨h.declared, OrderedList.ascending_insertBy (type, trait) h.implementations⟩

theorem mem_declared_record {name : String} :
    name ∈ (table.record r).declared ↔ name ∈ table.declared ∨ r = .declare name := by
  cases r with
  | declare other =>
    have hinsert : name ∈ (table.record (.declare other)).declared ↔
        name = other ∨ name ∈ table.declared := OrderedList.mem_insertBy_of_lawful
    rw [hinsert, Record.declare.injEq, or_comm, eq_comm]
  | implement type trait => simp [record, addImplementation]

theorem mem_implementations_record {type trait : String} :
    (type, trait) ∈ (table.record r).implementations ↔
      (type, trait) ∈ table.implementations ∨ r = .implement type trait := by
  cases r with
  | declare name => simp [record, declare]
  | implement type' trait' =>
    have hinsert : (type, trait) ∈ (table.record (.implement type' trait')).implementations ↔
        (type, trait) = (type', trait') ∨ (type, trait) ∈ table.implementations :=
      OrderedList.mem_insertBy_of_lawful
    rw [hinsert, Record.implement.injEq, Prod.mk.injEq, or_comm, eq_comm, @eq_comm _ trait]

end Step

/-! ## All records -/

section Run

variable {rs : List Record}

theorem ofRecords_append_singleton (rs : List Record) (r : Record) :
    ofRecords (rs ++ [r]) = (ofRecords rs).record r := by
  rw [ofRecords, List.foldl_append]
  rfl

theorem ordered_ofRecords (rs : List Record) : (ofRecords rs).Ordered := by
  induction rs using List.reverseRecOn with
  | nil => exact ordered_empty
  | append_singleton rs r ih =>
    rw [ofRecords_append_singleton]
    exact ih.record r

theorem mem_declared_ofRecords {name : String} :
    name ∈ (ofRecords rs).declared ↔ .declare name ∈ rs := by
  induction rs using List.reverseRecOn with
  | nil => exact iff_of_false List.not_mem_nil List.not_mem_nil
  | append_singleton rs r ih =>
    rw [ofRecords_append_singleton, mem_declared_record, ih, List.mem_append, List.mem_singleton,
      eq_comm]

theorem mem_implementations_ofRecords {type trait : String} :
    (type, trait) ∈ (ofRecords rs).implementations ↔ .implement type trait ∈ rs := by
  induction rs using List.reverseRecOn with
  | nil => exact iff_of_false List.not_mem_nil List.not_mem_nil
  | append_singleton rs r ih =>
    rw [ofRecords_append_singleton, mem_implementations_record, ih, List.mem_append,
      List.mem_singleton, eq_comm]

/-- The order and the number of the records do not matter. -/
theorem ofRecords_congr {rs' : List Record} (h : ∀ r, r ∈ rs' ↔ r ∈ rs) :
    ofRecords rs' = ofRecords rs := by
  refine (ordered_ofRecords rs').eq_of_mem (ordered_ofRecords rs) (fun name => ?_) ?_
  · rw [mem_declared_ofRecords, mem_declared_ofRecords, h]
  · rintro ⟨type, trait⟩
    rw [mem_implementations_ofRecords, mem_implementations_ofRecords, h]

theorem isDeclared_ofRecords {name : String} :
    (ofRecords rs).isDeclared name ↔ .declare name ∈ rs := by
  rw [isDeclared, List.contains_iff_mem, mem_declared_ofRecords]

theorem mem_traitsOf_ofRecords {type trait : String} :
    trait ∈ (ofRecords rs).traitsOf type ↔ .implement type trait ∈ rs := by
  rw [← mem_implementations_ofRecords]
  simp [traitsOf]

/-- The traits of a type are in ascending order, as the pairs of a type and a trait are. -/
theorem Ordered.traitsOf {table : TypeTable} (h : table.Ordered) (type : String) :
    Ascending compare (table.traitsOf type) := by
  refine List.pairwise_map.mpr ((h.implementations.filter _).imp_of_mem ?_)
  rintro ⟨t, a⟩ ⟨t', b⟩ hp hq hlt
  have ht : t = type := by simpa using (List.mem_filter.mp hp).2
  have ht' : t' = type := by simpa using (List.mem_filter.mp hq).2
  have hself : compare type type = .eq := Std.ReflCmp.compare_self
  rw [ht, ht', comparePairs, hself] at hlt
  exact hlt

end Run

/-! ## Subtypes -/

/-- By these records `type` implements `trait`, which is `of` or, if no record declares it, has its
last segment. -/
structure Supports (rs : List Record) (type of trait : String) : Prop where
  implemented : .implement type trait ∈ rs
  isNamed : trait = of ∨ .declare trait ∉ rs ∧ SameLastSegment trait of

section Subtype

variable {rs : List Record} {type of trait name : String}

theorem provides_ofRecords :
    (ofRecords rs).provides of trait ↔
      trait = of ∨ .declare trait ∉ rs ∧ SameLastSegment trait of := by
  rw [provides, Bool.or_eq_true, Bool.and_eq_true, Bool.not_eq_true', ← Bool.not_eq_true,
    isDeclared_ofRecords, beq_iff_eq, beq_iff_eq, QualifiedName.sameLastSegment_iff]

theorem isSubtype_ofRecords :
    (ofRecords rs).isSubtype type of ↔ type = of ∨ ∃ trait, Supports rs type of trait := by
  rw [isSubtype, Bool.or_eq_true, beq_iff_eq, List.any_eq_true]
  refine or_congr_right (exists_congr fun trait => ?_)
  rw [mem_traitsOf_ofRecords, provides_ofRecords]
  exact ⟨fun ⟨himplemented, hnamed⟩ => ⟨himplemented, hnamed⟩,
    fun h => ⟨h.implemented, h.isNamed⟩⟩

/-- Further implementations leave the traits in force that were. -/
theorem Supports.append_implement {more : List Record} (h : Supports rs type of trait)
    (hmore : ∀ r ∈ more, r.isImplement) : Supports (rs ++ more) type of trait where
  implemented := List.mem_append_left more h.implemented
  isNamed := by
    refine h.isNamed.imp_right fun ⟨hundeclared, hlast⟩ => ⟨fun hmem => ?_, hlast⟩
    obtain hmem | hmem := List.mem_append.mp hmem
    · exact hundeclared hmem
    · cases hmore _ hmem

/-- A further declaration takes its force from the declared trait alone, unless it is `of`. -/
theorem supports_append_declare :
    Supports (rs ++ [.declare name]) type of trait ↔
      Supports rs type of trait ∧ (trait = of ∨ trait ≠ name) := by
  have himplement : .implement type trait ∈ rs ++ [.declare name] ↔ .implement type trait ∈ rs := by
    simp
  have hdeclare : .declare trait ∈ rs ++ [.declare name] ↔ .declare trait ∈ rs ∨ trait = name := by
    simp
  constructor
  · rintro ⟨himplemented, hnamed⟩
    rw [himplement] at himplemented
    rw [hdeclare, not_or] at hnamed
    obtain rfl | ⟨⟨hundeclared, hne⟩, hlast⟩ := hnamed
    · exact ⟨⟨himplemented, .inl rfl⟩, .inl rfl⟩
    · exact ⟨⟨himplemented, .inr ⟨hundeclared, hlast⟩⟩, .inr hne⟩
  · rintro ⟨⟨himplemented, hnamed⟩, hkept⟩
    refine ⟨himplement.mpr himplemented, ?_⟩
    rw [hdeclare, not_or]
    obtain rfl | ⟨hundeclared, hlast⟩ := hnamed
    · exact .inl rfl
    · exact hkept.imp_right fun hne => ⟨⟨hundeclared, hne⟩, hlast⟩

/-- A declaration of `name` undoes that `type` is a subtype of `of` iff only `name` supports it, and
by its last segment only. -/
theorem isSubtype_append_declare_iff :
    ((ofRecords rs).isSubtype type of = true ∧
        (ofRecords (rs ++ [.declare name])).isSubtype type of = false) ↔
      type ≠ of ∧ name ≠ of ∧ Supports rs type of name ∧
        ∀ trait, Supports rs type of trait → trait = name := by
  rw [← Bool.not_eq_true, isSubtype_ofRecords, isSubtype_ofRecords]
  simp only [supports_append_declare, not_or, not_exists, not_and, not_not]
  constructor
  · rintro ⟨hbefore, hne, hall⟩
    obtain ⟨trait, htrait⟩ := hbefore.resolve_left hne
    obtain ⟨hof, rfl⟩ := hall trait htrait
    exact ⟨hne, hof, htrait, fun other hother => (hall other hother).2⟩
  · rintro ⟨hne, hof, hname, hall⟩
    refine ⟨.inr ⟨name, hname⟩, hne, fun trait htrait => ?_⟩
    obtain rfl := hall trait htrait
    exact ⟨hof, rfl⟩

end Subtype

/-! ## Answers -/

/-- What the table of some records answers, and how it compares with the tables of others. -/
structure Answers (rs : List Record) : Prop where
  /-- Records in another order, or repeated, give the same table. -/
  congr : ∀ rs', (∀ r, r ∈ rs' ↔ r ∈ rs) → ofRecords rs' = ofRecords rs
  isDeclared : ∀ name, (ofRecords rs).isDeclared name ↔ .declare name ∈ rs
  mem_traitsOf : ∀ type trait, trait ∈ (ofRecords rs).traitsOf type ↔ .implement type trait ∈ rs
  ascending_traitsOf : ∀ type, Ascending compare ((ofRecords rs).traitsOf type)
  isSubtype : ∀ type of,
    (ofRecords rs).isSubtype type of ↔ type = of ∨ ∃ trait, Supports rs type of trait
  /-- Further implementations undo no answer that a type is a subtype. -/
  implement : ∀ more, (∀ r ∈ more, r.isImplement) → ∀ type of, (ofRecords rs).isSubtype type of →
    (ofRecords (rs ++ more)).isSubtype type of
  /-- A further declaration makes no type a subtype that was none. -/
  declare : ∀ name type of, (ofRecords (rs ++ [.declare name])).isSubtype type of →
    (ofRecords rs).isSubtype type of
  /-- It undoes the answer only where the name alone supported it, was undeclared and matched by its
  last segment. -/
  undone : ∀ name type of, (ofRecords rs).isSubtype type of = true →
    ((ofRecords (rs ++ [.declare name])).isSubtype type of = false ↔
      type ≠ of ∧ name ≠ of ∧ .declare name ∉ rs ∧ SameLastSegment name of ∧
        ∀ trait, Supports rs type of trait → trait = name)

/-- A table answers by what has been recorded, in whatever order and however often: a type is a
subtype of another if it is the other, or implements it, or implements a trait of its last segment
that no record declares. A further implementation only adds to the subtypes, a further declaration
only takes from them, and only where nothing but the trait that it declares gave the capability. -/
theorem ofRecords_answers (rs : List Record) : Answers rs := by
  constructor
  case congr => exact fun rs' h => ofRecords_congr h
  case isDeclared => exact fun name => isDeclared_ofRecords
  case mem_traitsOf => exact fun type trait => mem_traitsOf_ofRecords
  case ascending_traitsOf => exact fun type => (ordered_ofRecords rs).traitsOf type
  case isSubtype => exact fun type of => isSubtype_ofRecords
  case implement =>
    intro more hmore type of h
    obtain rfl | ⟨trait, htrait⟩ := isSubtype_ofRecords.mp h
    · exact isSubtype_ofRecords.mpr (.inl rfl)
    · exact isSubtype_ofRecords.mpr (.inr ⟨trait, htrait.append_implement hmore⟩)
  case declare =>
    intro name type of h
    obtain rfl | ⟨trait, htrait⟩ := isSubtype_ofRecords.mp h
    · exact isSubtype_ofRecords.mpr (.inl rfl)
    · exact isSubtype_ofRecords.mpr (.inr ⟨trait, (supports_append_declare.mp htrait).1⟩)
  case undone =>
    intro name type of h
    constructor
    · intro hundone
      obtain ⟨hne, hof, hname, hall⟩ := isSubtype_append_declare_iff.mp ⟨h, hundone⟩
      obtain ⟨hundeclared, hlast⟩ := hname.isNamed.resolve_left hof
      exact ⟨hne, hof, hundeclared, hlast, hall⟩
    · rintro ⟨hne, hof, hundeclared, hlast, hall⟩
      obtain ⟨trait, htrait⟩ := (isSubtype_ofRecords.mp h).resolve_left hne
      obtain rfl := hall trait htrait
      exact (isSubtype_append_declare_iff.mpr ⟨hne, hof, htrait, hall⟩).2

/-- A trait that is declared last takes its force from an implementation that was recorded first. -/
example :
    (ofRecords [.implement "app::Foo" "app::Listener"]).isSubtype "app::Foo" "data::Listener" =
        true ∧
      (ofRecords [.implement "app::Foo" "app::Listener", .declare "app::Listener"]).isSubtype
        "app::Foo" "data::Listener" = false := by
  decide

end ReceiverLoader.TypeTable
