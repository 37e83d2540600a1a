import ReceiverLoader.Proofs.Grammar.Gives
import ReceiverLoader.Proofs.Grammar.Reading

/-!
# The names of items

No keyword names a type, a trait or a module, except that a module may be called `try`.

* `Rules.namesItems_rules`: what the rules read as an item is named as it should be.
* `readModule_isNamed`: so are the items of a module, with those inside them.
-/

namespace ReceiverLoader.Grammar

open Token (Position Tree Delimiter)

set_option synthInstance.maxSize 1000000000

/-- A name for an item: no keyword but `try`. -/
def IsItemName (name : String) : Prop := name ∈ keywords → name = "try"

namespace Item

mutual

/-- The names that an item and those inside it give to types, traits and modules. -/
def names : Item → List String
  | .type d => [d.name]
  | .trait name => [name]
  | .module name items => name :: allNames items
  | _ => []

/-- The names that items and those inside them give. -/
def allNames : List Item → List String
  | [] => []
  | item :: items => names item ++ allNames items

end

theorem mem_allNames {name : String} {items : List Item} :
    name ∈ allNames items ↔ ∃ item ∈ items, name ∈ item.names := by
  induction items with
  | nil => simp [allNames]
  | cons item items ih => simp [allNames, ih]

/-- The names that the item and those inside it give are names for items. -/
def IsNamed (item : Item) : Prop := ∀ name ∈ item.names, IsItemName name

/-- So it is with the item, if there is one. -/
def IsNamedIfAny (item? : Option Item) : Prop := ∀ item, item? = some item → item.IsNamed

theorem isNamed_of_names_nil {item : Item} (h : item.names = []) : item.IsNamed := by
  intro name hname
  rw [h] at hname
  exact absurd hname List.not_mem_nil

theorem isNamed_type {d : TypeDeclaration} : (type d).IsNamed ↔ IsItemName d.name := by
  simp [IsNamed, names]

theorem isNamed_trait {name : String} : (trait name).IsNamed ↔ IsItemName name := by
  simp [IsNamed, names]

theorem isNamed_module {name : String} {items : List Item} :
    (module name items).IsNamed ↔ IsItemName name ∧ ∀ item ∈ items, item.IsNamed := by
  simp only [IsNamed, names, List.forall_mem_cons, mem_allNames]
  refine and_congr_right fun _ => ?_
  constructor
  · exact fun h item hitem n hn => h n ⟨item, hitem, hn⟩
  · exact fun h n ⟨item, hitem, hn⟩ => h item hitem n hn

end Item

/-! ## Words -/

namespace Parser

instance : Gives IsItemName identifier := by
  refine Gives.word_if (fun w pos ts h hkeyword => ?_) inferInstance
  have hno : keywords.contains w = false := Bool.not_eq_true' _ ▸ h
  rw [List.contains_iff_mem.mpr hkeyword] at hno
  cases hno

instance : Gives IsItemName (wordIf (Ahead.keyword "try")) :=
  Gives.word_if (fun _ _ _ h _ => beq_iff_eq.mp h) inferInstance

end Parser

/-! ## Items -/

namespace Rules

open Grammar.Parser
open Item (IsNamed IsNamedIfAny)

theorem isNamedIfAny_none : IsNamedIfAny none := nofun

theorem isNamedIfAny_some {item : Item} : IsNamedIfAny (some item) ↔ item.IsNamed :=
  ⟨fun h => h item rfl, fun h _ heq => Option.some.inj heq ▸ h⟩

instance : Gives IsNamed (pure .other : Parser Item) := Gives.pure (Item.isNamed_of_names_nil rfl)

instance : Gives IsNamedIfAny (pure none : Parser (Option Item)) := Gives.pure isNamedIfAny_none

instance {p : Parser Item} [hp : Gives IsNamed p] :
    Gives IsNamedIfAny (p >>= fun item => pure (some item)) :=
  hp.bind fun _ hitem => Gives.pure (isNamedIfAny_some.mpr hitem)

instance : Gives IsNamedIfAny (pure (some .other) : Parser (Option Item)) :=
  Gives.pure (isNamedIfAny_some.mpr (Item.isNamed_of_names_nil rfl))

instance (isNormal : Bool) :
    Gives IsNamedIfAny (pure (otherIf isNormal) : Parser (Option Item)) := by
  cases isNormal with
  | false => exact inferInstanceAs (Gives IsNamedIfAny (pure none))
  | true => exact inferInstanceAs (Gives IsNamedIfAny (pure (some .other)))

instance (leadingColon : Bool) (tree? : Option UseTree) :
    Gives IsNamedIfAny (pure (tree?.map (.use leadingColon)) : Parser (Option Item)) := by
  cases tree? with
  | none => exact Gives.pure isNamedIfAny_none
  | some => exact Gives.pure (isNamedIfAny_some.mpr (Item.isNamed_of_names_nil rfl))

instance (isMarked : Bool) (trait : Option ImplementedTrait) (self : TypeForm) :
    Gives IsNamedIfAny
      (pure (if isMarked then none else some (.implementation trait self)) : Parser _) := by
  cases isMarked with
  | true => exact Gives.pure isNamedIfAny_none
  | false => exact Gives.pure (isNamedIfAny_some.mpr (Item.isNamed_of_names_nil rfl))

instance (isMarked isNegative : Bool) (trait self : TypeForm) :
    Gives IsNamedIfAny
      (pure (traitImplementation isMarked isNegative trait self) : Parser (Option Item)) := by
  unfold traitImplementation
  cases trait <;> infer_instance

variable {g : Rules}

instance : Gives IsNamedIfAny g.functionItem := by
  unfold functionItem
  infer_instance

instance : Gives IsNamed externCrate := by
  unfold externCrate
  infer_instance

instance (isVisible : Bool) (p : Position) : Gives IsNamed (g.foreignBlock isVisible p) := by
  unfold foreignBlock
  infer_instance

instance : Gives IsNamedIfAny g.staticItem := by
  unfold staticItem
  infer_instance

instance : Gives IsNamedIfAny g.useItem := by
  unfold useItem
  infer_instance

instance [hg : Gives IsNamed g.item] : Gives IsNamed g.moduleItem := by
  unfold moduleItem
  refine Gives.last fun _ => Gives.last fun _ => Gives.bind (Q := IsItemName) inferInstance ?_
  intro name hname
  have hmodule : ∀ items, (∀ item ∈ items, item.IsNamed) →
      Gives IsNamed (pure (.module name items) : Parser Item) :=
    fun items hitems => Gives.pure (Item.isNamed_module.mpr ⟨hname, hitems⟩)
  have hbody : Gives IsNamed (do
      let items ← group .brace do
        let _ ← g.innerAttributes
        manyToEnd g.item
      return .module name items) := Gives.bind inferInstance hmodule
  infer_instance

instance : Gives IsNamed g.traitItem := by
  unfold traitItem
  refine Gives.last fun _ => Gives.last fun _ => Gives.last fun _ =>
    Gives.bind (Q := IsItemName) inferInstance ?_
  intro name hname
  have htrait : Gives IsNamed (pure (.trait name) : Parser Item) :=
    Gives.pure (Item.isNamed_trait.mpr hname)
  infer_instance

instance (isVisible : Bool) : Gives IsNamedIfAny (g.implementationHeader isVisible) := by
  unfold implementationHeader
  infer_instance

instance (isVisible : Bool) : Gives IsNamedIfAny (g.implementation isVisible) := by
  unfold implementation
  have hitem : Gives IsNamedIfAny (do
      let item? ← g.implementationHeader isVisible
      let _ ← g.whereClause
      g.members g.implementationMember
      return item?) :=
    Gives.bind inferInstance fun item? hitem =>
      Gives.last fun _ => Gives.last fun _ => Gives.pure hitem
  infer_instance

instance : Gives IsNamedIfAny macroDefinition := by
  unfold macroDefinition
  infer_instance

instance : Gives IsNamed macroItem := by
  unfold macroItem
  infer_instance

instance (isVisible : Bool) (p : Position) : Gives IsNamed (g.externItem isVisible p) := by
  unfold externItem
  infer_instance

instance (text : String) (body : Parser Unit) : Gives IsNamed (g.declaration text body) := by
  unfold declaration
  refine Gives.last fun _ => Gives.last fun position =>
    Gives.bind (Q := IsItemName) inferInstance ?_
  intro name hname
  have htype : Gives IsNamed (pure (.type ⟨[], name, position, []⟩) : Parser Item) :=
    Gives.pure (Item.isNamed_type.mpr hname)
  infer_instance

section Inside

variable [hg : Gives IsNamed g.item]

instance (isVisible : Bool) (p : Position) : Gives IsNamedIfAny (g.unsafeItem isVisible p) := by
  unfold unsafeItem
  infer_instance

instance (isVisible : Bool) (p : Position) : Gives IsNamedIfAny (g.itemBody isVisible p) := by
  unfold itemBody
  infer_instance

instance (attributes : List Attribute) : Gives IsNamedIfAny (g.itemBehindRule attributes) := by
  unfold itemBehindRule
  refine Gives.last fun _ => Gives.last fun _ => Gives.bind (Q := IsNamedIfAny) inferInstance ?_
  intro item? hitem
  split
  · have hname := Item.isNamed_type.mp (isNamedIfAny_some.mp hitem)
    exact Gives.pure (isNamedIfAny_some.mpr (Item.isNamed_type.mpr hname))
  · exact Gives.pure hitem

end Inside

/-- What the rules read as an item is named as it should be. -/
structure NamesItems (g : Rules) : Prop where
  item : Gives IsNamed g.item
  itemBehind : ∀ attributes, Gives IsNamedIfAny (g.itemBehind attributes)

theorem NamesItems.itemRule (hg : g.NamesItems) : Gives IsNamed g.itemRule := by
  have hinside : Gives IsNamedIfAny (do g.itemBehind (← g.outerAttributes)) :=
    Gives.last hg.itemBehind
  unfold Rules.itemRule
  refine Gives.last fun _ => (Gives.capture hinside).bind fun (item?, normal) hitem => ?_
  cases item? with
  | none => infer_instance
  | some item =>
    have hitem : item.IsNamed := isNamedIfAny_some.mp hitem
    refine Gives.last fun _ => ?_
    cases item with
    | type d => exact Gives.pure (Item.isNamed_type.mpr (Item.isNamed_type.mp hitem))
    | _ => exact Gives.pure hitem

theorem namesItems_rules (depth : Nat) : (rules depth).NamesItems := by
  induction depth with
  | zero => exact ⟨Gives.last fun _ => inferInstance, fun _ => Gives.last fun _ => inferInstance⟩
  | succ depth ih =>
    have := ih.item
    exact ⟨ih.itemRule, fun attributes =>
      inferInstanceAs (Gives IsNamedIfAny ((rules depth).itemBehindRule attributes))⟩

end Rules

/-! ## Texts -/

/-- The items of a module, and those inside them, are named as they should be. -/
theorem readModule_isNamed {ts : List Tree} {items : List Item} (h : readModule ts = .ok items) :
    ∀ item ∈ items, item.IsNamed := by
  obtain ⟨s, hread, -⟩ := readAll_eq_ok.mp h
  have := (Rules.namesItems_rules (depthOf ts)).item
  have hgives : Gives (fun items => ∀ item ∈ items, item.IsNamed) (do
      let _ ← (rules (depthOf ts)).innerAttributes
      Parser.manyToEnd (rules (depthOf ts)).item) := inferInstance
  exact hgives.of_ok hread

end ReceiverLoader.Grammar
