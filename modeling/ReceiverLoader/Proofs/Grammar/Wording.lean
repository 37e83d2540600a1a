import ReceiverLoader.Proofs.Grammar.GivesFrom
import ReceiverLoader.Proofs.Grammar.LeavingRules
import ReceiverLoader.Proofs.Grammar.Reading

/-!
# The wording of items

The names that items declare, the segments of the paths in their headers and the names in their
`use` trees are words of the text they are read from. No keyword but `_` is a new name behind `as`.

* `Rules.wordsItems_rules`: what the rules read as an item is worded like the trees it is read from.
* `readModule_isWorded`: so are the items of a module.
-/

namespace ReceiverLoader.Grammar

open Token (Position Tree Delimiter)

set_option synthInstance.maxSize 1000000000

/-- A name behind `as`: no keyword but `_`. -/
def IsAlias (name : String) : Prop := name ∈ keywords → name = "_"

/-- The segments of a type that is a path. -/
def TypeForm.segments : TypeForm → List String
  | .path form => form.path.segments
  | _ => []

/-- All names in the tree satisfy `W`, and the new ones stand behind `as`. -/
inductive UseTree.IsWorded (W : String → Prop) : UseTree → Prop
  | path {name : String} {tree : UseTree} : W name → IsWorded W tree → IsWorded W (.path name tree)
  | name {name : String} : W name → IsWorded W (.name name)
  | rename {name newName : String} : W name → W newName → IsAlias newName →
      IsWorded W (.rename name newName)
  | glob : IsWorded W .glob
  | group {trees : List UseTree} : (∀ tree ∈ trees, IsWorded W tree) → IsWorded W (.group trees)

/-- All names and segments in the item satisfy `W`. -/
inductive Item.IsWorded (W : String → Prop) : Item → Prop
  | type {d : TypeDeclaration} : W d.name → IsWorded W (.type d)
  | trait {name : String} : W name → IsWorded W (.trait name)
  | implementation {trait : Option ImplementedTrait} {self : TypeForm} :
      (∀ t ∈ trait, ∀ segment ∈ t.path.segments, W segment) →
        (∀ segment ∈ self.segments, W segment) → IsWorded W (.implementation trait self)
  | module {name : String} {items : List Item} : W name → (∀ item ∈ items, IsWorded W item) →
      IsWorded W (.module name items)
  | use {leadingColon : Bool} {tree : UseTree} : tree.IsWorded W →
      IsWorded W (.use leadingColon tree)
  | other : IsWorded W .other

namespace Rules

open Grammar.Parser

variable {W : String → Prop}

/-! ## Paths and types -/

/-- The segments of the path satisfy `W`. -/
def PathIsWorded (W : String → Prop) (form : PathForm) : Prop :=
  ∀ segment ∈ form.path.segments, W segment

/-- The segments of a type that is a path satisfy `W`. -/
def TypeIsWorded (W : String → Prop) (form : TypeForm) : Prop :=
  ∀ segment ∈ form.segments, W segment

instance : GivesFrom W (TypeIsWorded W) (pure .other : Parser TypeForm) :=
  GivesFrom.pure (List.forall_mem_nil W)

instance (more : Bool) : GivesFrom W (TypeIsWorded W)
    (pure (if more then .other else .soleBound) : Parser TypeForm) := by
  cases more <;> exact GivesFrom.pure (List.forall_mem_nil W)

variable {g : Rules} [hg : RulesLeave g]

instance (inExpression : Bool) :
    GivesFrom W (fun s => W s.name) (g.segment inExpression) := by
  unfold segment
  refine GivesFrom.last inferInstance fun _ => GivesFrom.ite ?_ ?_
  · exact GivesFrom.bind inferInstance inferInstance fun _ hname => GivesFrom.pure hname
  · refine GivesFrom.bind (Q := W) inferInstance inferInstance fun name hname => ?_
    have hsegment (arguments : Option Nat) :
        GivesFrom W (fun s => W s.name) (pure ⟨name, arguments⟩ : Parser Segment) :=
      GivesFrom.pure hname
    infer_instance

theorem pathIsWorded_pathForm {leadingColon : Bool} {segments : List Segment}
    (h : ∀ s ∈ segments, W s.name) : PathIsWorded W (pathForm leadingColon segments) := by
  intro segment hsegment
  obtain ⟨s, hs, rfl⟩ := List.mem_map.mp hsegment
  exact h s (List.mem_reverse.mp hs)

instance (inExpression : Bool) : GivesFrom W (PathIsWorded W) (g.path inExpression) := by
  unfold path
  refine GivesFrom.last inferInstance fun _ => ?_
  refine GivesFrom.bind (Q := fun s => W s.name) inferInstance inferInstance fun first hfirst => ?_
  refine GivesFrom.bind (Q := fun segments => ∀ s ∈ segments, W s.name) inferInstance
    (GivesFrom.loop (I := fun segments => ∀ s ∈ segments, W s.name) (fun _ => inferInstance)
      (fun done hdone => ?_) (fun _ h => h) (List.forall_mem_singleton.mpr hfirst))
    fun segments hsegments => GivesFrom.pure (pathIsWorded_pathForm hsegments)
  refine GivesFrom.last inferInstance fun _ => GivesFrom.ite ?_ (GivesFrom.pure hdone)
  exact GivesFrom.last inferInstance fun _ =>
    GivesFrom.bind (Q := fun s => W s.name) inferInstance inferInstance fun s hs =>
      GivesFrom.pure (List.forall_mem_cons.mpr ⟨hs, hdone⟩)

instance (inExpression : Bool) :
    GivesFrom W (fun form? => ∀ form ∈ form?, PathIsWorded W form) (g.anyPath inExpression) := by
  unfold anyPath
  refine GivesFrom.last inferInstance fun _ => GivesFrom.ite ?_ ?_
  · exact GivesFrom.last inferInstance fun _ => GivesFrom.pure nofun
  · refine GivesFrom.bind (Q := PathIsWorded W) inferInstance inferInstance fun form hform => ?_
    exact GivesFrom.pure fun _ heq => Option.some.inj heq ▸ hform

theorem behindPath_gives (plus bound : Bool) {form : PathForm} (hform : PathIsWorded W form) :
    GivesFrom W (TypeIsWorded W) (g.behindPath plus bound form) := by
  have hpath : GivesFrom W (TypeIsWorded W) (pure (.path form) : Parser TypeForm) :=
    GivesFrom.pure hform
  unfold behindPath
  infer_instance

instance (plus bound : Bool) (binder : List Tree) :
    GivesFrom W (TypeIsWorded W) (g.pathType plus bound binder) := by
  unfold pathType
  refine GivesFrom.bind inferInstance
    (GivesFrom.capture (P := fun form? => ∀ form ∈ form?, PathIsWorded W form) inferInstance)
    fun (form?, path) hform => ?_
  cases form? with
  | none => infer_instance
  | some form =>
    have hbehind := behindPath_gives (g := g) plus bound (hform form rfl)
    dsimp only
    infer_instance

instance (plus : Bool) : GivesFrom W (TypeIsWorded W) (g.parenthesizedType plus) := by
  unfold parenthesizedType
  refine GivesFrom.last inferInstance fun ((inside, stray), ts) => ?_
  refine GivesFrom.last inferInstance fun summed => ?_
  have hend {p : Parser TypeForm} (hleaves : Leaves p) (hp : GivesFrom W (TypeIsWorded W) p) :
      GivesFrom W (TypeIsWorded W) (do
        let form ← p
        record stray
        return form) :=
    GivesFrom.bind hleaves hp fun form hform => GivesFrom.last inferInstance fun _ =>
      GivesFrom.pure hform
  have hother := hend (p := pure .other) inferInstance inferInstance
  have hbound (more : Bool) :=
    hend (p := pure (if more then .other else .soleBound)) inferInstance inferInstance
  cases inside <;> dsimp only <;> infer_instance

instance : GivesFrom W (TypeIsWorded W) g.functionType := by
  unfold functionType
  infer_instance

instance : GivesFrom W (TypeIsWorded W) g.bracketedType := by
  unfold bracketedType
  infer_instance

instance (plus : Bool) : GivesFrom W (TypeIsWorded W) (g.objectType plus) := by
  unfold objectType
  infer_instance

instance (plus : Bool) : GivesFrom W (TypeIsWorded W) (g.typeRule plus) := by
  unfold typeRule
  dsimp only
  infer_instance

/-! ## Use items -/

/-- So it is with the tree, if there is one. -/
def TreeIsWorded (W : String → Prop) (tree? : Option UseTree) : Prop :=
  ∀ tree ∈ tree?, tree.IsWorded W

theorem treeIsWorded_some {tree : UseTree} (h : tree.IsWorded W) : TreeIsWorded W (some tree) :=
  fun _ heq => Option.some.inj heq ▸ h

theorem treeIsWorded_map {α : Type} {f : α → UseTree} {a? : Option α}
    (h : ∀ a ∈ a?, (f a).IsWorded W) : TreeIsWorded W (a?.map f) := by
  cases a? with
  | none => exact nofun
  | some a => exact treeIsWorded_some (h a rfl)

instance : Gives IsAlias useAlias := by
  have hword : Gives IsAlias (do
      if ← ahead (Ahead.identifier.or (Ahead.keyword "_")) then word else want .identifier) := by
    refine Gives.word_if (fun w pos ts h hkeyword => ?_) inferInstance
    obtain h | h := Bool.or_eq_true_iff.mp h
    · have hno : keywords.contains w = false := Bool.not_eq_true' _ ▸ h
      rw [List.contains_iff_mem.mpr hkeyword] at hno
      cases hno
    · exact beq_iff_eq.mp h
  exact hword

instance : GivesFrom W W useAlias := by
  unfold useAlias
  infer_instance

theorem allOf_eq_some {α : Type} {as? : List (Option α)} {as : List α} (h : allOf as? = some as) :
    ∀ a ∈ as, some a ∈ as? := by
  induction as? generalizing as with
  | nil =>
    cases h
    exact List.forall_mem_nil _
  | cons a? as? ih =>
    cases a? with
    | none => cases h
    | some a =>
      obtain ⟨as', has', rfl⟩ := Option.map_eq_some_iff.mp h
      exact List.forall_mem_cons.mpr
        ⟨List.mem_cons_self, fun b hb => List.mem_cons_of_mem _ (ih has' b hb)⟩

section Use

variable [hu : ∀ root, GivesFrom W (TreeIsWorded W) (g.useTree root)]

instance (root : Bool) :
    GivesFrom W (fun trees? => ∀ tree? ∈ trees?, TreeIsWorded W tree?) (g.useGroup root) := by
  have hnone : GivesFrom W (TreeIsWorded W) (pure none : Parser (Option UseTree)) :=
    GivesFrom.pure nofun
  have htree (rooted : Bool) : GivesFrom W (TreeIsWorded W) (do
      let tree ← g.useTree (root && !rooted)
      return if rooted then none else tree) := by
    refine GivesFrom.bind inferInstance (hu _) fun tree? htree => ?_
    cases rooted with
    | true => exact hnone
    | false => exact GivesFrom.pure htree
  unfold useGroup
  dsimp only
  infer_instance

instance (root : Bool) : GivesFrom W (TreeIsWorded W) (g.useTreeRule root) := by
  unfold useTreeRule
  refine GivesFrom.last inferInstance fun _ => GivesFrom.ite ?_ ?_
  · refine GivesFrom.bind (Q := W) inferInstance inferInstance fun name hname => ?_
    refine GivesFrom.last inferInstance fun _ => GivesFrom.ite ?_ ?_
    · exact GivesFrom.bind inferInstance (hu false) fun tree? htree =>
        GivesFrom.pure (treeIsWorded_map fun tree hmem => .path hname (htree tree hmem))
    · refine GivesFrom.last inferInstance fun _ => GivesFrom.ite ?_ ?_
      · have halias : GivesFrom W (fun n => W n ∧ IsAlias n) useAlias :=
          GivesFrom.and inferInstance inferInstance
        exact GivesFrom.bind inferInstance halias fun newName hnew =>
          GivesFrom.pure (treeIsWorded_some (.rename hname hnew.1 hnew.2))
      · exact GivesFrom.pure (treeIsWorded_some (.name hname))
  · refine GivesFrom.last inferInstance fun _ => GivesFrom.ite ?_ ?_
    · exact GivesFrom.pure (treeIsWorded_some .glob)
    · refine GivesFrom.last inferInstance fun _ => GivesFrom.ite ?_ inferInstance
      refine GivesFrom.bind
        (Q := fun trees? => ∀ tree? ∈ trees?, TreeIsWorded W tree?) inferInstance inferInstance
        fun trees? htrees => GivesFrom.pure (treeIsWorded_map fun trees hall => .group ?_)
      exact fun tree hmem => htrees _ (allOf_eq_some hall tree hmem) tree rfl

end Use

/-! ## Items -/

/-- So it is with the item, if there is one. -/
def ItemIsWorded (W : String → Prop) (item? : Option Item) : Prop := ∀ item ∈ item?, item.IsWorded W

theorem itemIsWorded_some {item : Item} : ItemIsWorded W (some item) ↔ item.IsWorded W :=
  ⟨fun h => h item rfl, fun h _ heq => Option.some.inj heq ▸ h⟩

instance : GivesFrom W (Item.IsWorded W) (pure .other : Parser Item) := GivesFrom.pure .other

instance : GivesFrom W (ItemIsWorded W) (pure none : Parser (Option Item)) := GivesFrom.pure nofun

instance : GivesFrom W (ItemIsWorded W) (pure (some .other) : Parser (Option Item)) :=
  GivesFrom.pure (itemIsWorded_some.mpr .other)

instance {p : Parser Item} [hleaves : Leaves p] [hp : GivesFrom W (Item.IsWorded W) p] :
    GivesFrom W (ItemIsWorded W) (p >>= fun item => pure (some item)) :=
  GivesFrom.bind hleaves hp fun _ hitem => GivesFrom.pure (itemIsWorded_some.mpr hitem)

instance (isNormal : Bool) :
    GivesFrom W (ItemIsWorded W) (pure (otherIf isNormal) : Parser (Option Item)) := by
  cases isNormal with
  | false => exact inferInstanceAs (GivesFrom W (ItemIsWorded W) (pure none))
  | true => exact inferInstanceAs (GivesFrom W (ItemIsWorded W) (pure (some .other)))

instance : GivesFrom W (ItemIsWorded W) g.functionItem := by
  unfold functionItem
  infer_instance

instance : GivesFrom W (Item.IsWorded W) externCrate := by
  unfold externCrate
  infer_instance

instance (isVisible : Bool) (p : Position) :
    GivesFrom W (Item.IsWorded W) (g.foreignBlock isVisible p) := by
  unfold foreignBlock
  infer_instance

instance : GivesFrom W (ItemIsWorded W) g.staticItem := by
  unfold staticItem
  infer_instance

instance [hu : ∀ root, GivesFrom W (TreeIsWorded W) (g.useTree root)] :
    GivesFrom W (ItemIsWorded W) g.useItem := by
  unfold useItem
  refine GivesFrom.last inferInstance fun _ => GivesFrom.last inferInstance fun leadingColon => ?_
  refine GivesFrom.bind inferInstance (hu _) fun tree? htree => ?_
  refine GivesFrom.last inferInstance fun _ => GivesFrom.pure ?_
  cases tree? with
  | none => exact nofun
  | some tree => exact itemIsWorded_some.mpr (.use (htree tree rfl))

instance [hi : GivesFrom W (Item.IsWorded W) g.item] :
    GivesFrom W (Item.IsWorded W) g.moduleItem := by
  unfold moduleItem
  refine GivesFrom.last inferInstance fun _ => GivesFrom.last inferInstance fun _ =>
    GivesFrom.bind (Q := W) inferInstance inferInstance fun name hname => ?_
  have hbody : GivesFrom W (Item.IsWorded W) (do
      let items ← group .brace do
        let _ ← g.innerAttributes
        manyToEnd g.item
      return .module name items) :=
    GivesFrom.bind (Q := fun items => ∀ item ∈ items, item.IsWorded W) inferInstance inferInstance
      fun items hitems => GivesFrom.pure (.module hname hitems)
  infer_instance

instance : GivesFrom W (Item.IsWorded W) g.traitItem := by
  unfold traitItem
  refine GivesFrom.last inferInstance fun _ => GivesFrom.last inferInstance fun _ =>
    GivesFrom.last inferInstance fun _ =>
      GivesFrom.bind (Q := W) inferInstance inferInstance fun name hname => ?_
  have htrait : GivesFrom W (Item.IsWorded W) (pure (.trait name) : Parser Item) :=
    GivesFrom.pure (.trait hname)
  infer_instance

theorem itemIsWorded_traitImplementation (isMarked isNegative : Bool) {trait self : TypeForm}
    (htrait : TypeIsWorded W trait) (hself : TypeIsWorded W self) :
    ItemIsWorded W (traitImplementation isMarked isNegative trait self) := by
  cases trait with
  | path form =>
    cases isMarked with
    | true => exact nofun
    | false =>
      refine itemIsWorded_some.mpr (.implementation (fun t ht => ?_) hself)
      cases ht
      exact htrait
  | soleBound => exact nofun
  | other => exact nofun

instance [ht : ∀ plus, GivesFrom W (TypeIsWorded W) (g.type plus)] (isVisible : Bool) :
    GivesFrom W (ItemIsWorded W) (g.implementationHeader isVisible) := by
  unfold implementationHeader
  dsimp only
  have hheader (position : Position) (isMarked isNegative : Bool) :
      GivesFrom W (ItemIsWorded W) (do
        let first ← g.type true
        if ← keyword? "for" then
          return traitImplementation isMarked isNegative first (← g.type true)
        else if isNegative then forbid position .negativeImplementation
        else return if isMarked then none else some (.implementation none first)) := by
    refine GivesFrom.bind inferInstance (ht true) fun first hfirst => ?_
    refine GivesFrom.last inferInstance fun _ => GivesFrom.ite ?_ (GivesFrom.ite inferInstance ?_)
    · exact GivesFrom.bind inferInstance (ht true) fun self hself =>
        GivesFrom.pure (itemIsWorded_traitImplementation isMarked isNegative hfirst hself)
    · cases isMarked with
      | true => exact GivesFrom.pure nofun
      | false => exact GivesFrom.pure (itemIsWorded_some.mpr (.implementation nofun hfirst))
  infer_instance

instance [ht : ∀ plus, GivesFrom W (TypeIsWorded W) (g.type plus)] (isVisible : Bool) :
    GivesFrom W (ItemIsWorded W) (g.implementation isVisible) := by
  unfold implementation
  have hitem : GivesFrom W (ItemIsWorded W) (do
      let item? ← g.implementationHeader isVisible
      let _ ← g.whereClause
      g.members g.implementationMember
      return item?) :=
    GivesFrom.bind inferInstance inferInstance fun item? hitem =>
      GivesFrom.last inferInstance fun _ => GivesFrom.last inferInstance fun _ =>
        GivesFrom.pure hitem
  infer_instance

instance : GivesFrom W (ItemIsWorded W) macroDefinition := by
  unfold macroDefinition
  infer_instance

instance : GivesFrom W (Item.IsWorded W) macroItem := by
  unfold macroItem
  infer_instance

instance (isVisible : Bool) (p : Position) :
    GivesFrom W (Item.IsWorded W) (g.externItem isVisible p) := by
  unfold externItem
  infer_instance

instance (text : String) {body : Parser Unit} [Leaves body] :
    GivesFrom W (Item.IsWorded W) (g.declaration text body) := by
  unfold declaration
  refine GivesFrom.last inferInstance fun _ => GivesFrom.last inferInstance fun position =>
    GivesFrom.bind (Q := W) inferInstance inferInstance fun name hname => ?_
  have htype : GivesFrom W (Item.IsWorded W)
      (pure (.type ⟨[], name, position, []⟩) : Parser Item) := GivesFrom.pure (.type hname)
  infer_instance

section Inside

variable [∀ plus, GivesFrom W (TypeIsWorded W) (g.type plus)]
variable [∀ root, GivesFrom W (TreeIsWorded W) (g.useTree root)]
variable [GivesFrom W (Item.IsWorded W) g.item]

instance (isVisible : Bool) (p : Position) :
    GivesFrom W (ItemIsWorded W) (g.unsafeItem isVisible p) := by
  unfold unsafeItem
  infer_instance

instance (isVisible : Bool) (p : Position) :
    GivesFrom W (ItemIsWorded W) (g.itemBody isVisible p) := by
  unfold itemBody
  infer_instance

instance (attributes : List Attribute) :
    GivesFrom W (ItemIsWorded W) (g.itemBehindRule attributes) := by
  unfold itemBehindRule
  refine GivesFrom.last inferInstance fun _ => GivesFrom.last inferInstance fun _ =>
    GivesFrom.bind (Q := ItemIsWorded W) inferInstance inferInstance fun item? hitem => ?_
  split
  · cases itemIsWorded_some.mp hitem with
    | type hname => exact GivesFrom.pure (itemIsWorded_some.mpr (.type hname))
  · exact GivesFrom.pure hitem

end Inside

/-- What the rules read as an item is worded like the trees it is read from. -/
structure WordsItems (W : String → Prop) (g : Rules) : Prop where
  type : ∀ plus, GivesFrom W (TypeIsWorded W) (g.type plus)
  useTree : ∀ root, GivesFrom W (TreeIsWorded W) (g.useTree root)
  item : GivesFrom W (Item.IsWorded W) g.item
  itemBehind : ∀ attributes, GivesFrom W (ItemIsWorded W) (g.itemBehind attributes)

theorem WordsItems.itemRule (h : WordsItems W g) : GivesFrom W (Item.IsWorded W) g.itemRule := by
  have hinside : GivesFrom W (ItemIsWorded W) (do g.itemBehind (← g.outerAttributes)) :=
    GivesFrom.last inferInstance h.itemBehind
  unfold Rules.itemRule
  refine GivesFrom.last inferInstance fun _ =>
    GivesFrom.bind inferInstance (GivesFrom.capture hinside) fun (item?, normal) hitem => ?_
  cases item? with
  | none => infer_instance
  | some item =>
    have hitem : item.IsWorded W := itemIsWorded_some.mp hitem
    refine GivesFrom.last inferInstance fun _ => ?_
    cases hitem with
    | type hname => exact GivesFrom.pure (.type hname)
    | trait h => exact GivesFrom.pure (.trait h)
    | implementation h h' => exact GivesFrom.pure (.implementation h h')
    | module h h' => exact GivesFrom.pure (.module h h')
    | use h => exact GivesFrom.pure (.use h)
    | other => exact GivesFrom.pure .other

theorem wordsItems_rules (W : String → Prop) (depth : Nat) : WordsItems W (rules depth) := by
  induction depth with
  | zero =>
    exact ⟨fun _ => GivesFrom.last inferInstance fun _ => inferInstance,
      fun _ => GivesFrom.last inferInstance fun _ => inferInstance,
      GivesFrom.last inferInstance fun _ => inferInstance,
      fun _ => GivesFrom.last inferInstance fun _ => inferInstance⟩
  | succ depth ih =>
    have := ih.type
    have := ih.useTree
    have := ih.item
    exact ⟨fun plus => inferInstanceAs (GivesFrom W (TypeIsWorded W) ((rules depth).typeRule plus)),
      fun root => inferInstanceAs (GivesFrom W (TreeIsWorded W) ((rules depth).useTreeRule root)),
      ih.itemRule, fun attributes =>
        inferInstanceAs (GivesFrom W (ItemIsWorded W) ((rules depth).itemBehindRule attributes))⟩

end Rules

/-! ## Texts -/

/-- The items of a module are worded like the trees they are read from. -/
theorem readModule_isWorded {W : String → Prop} {ts : List Tree} {items : List Item}
    (hwords : Tree.AllWords W ts) (h : readModule ts = .ok items) :
    ∀ item ∈ items, item.IsWorded W := by
  obtain ⟨s, hread, -⟩ := readAll_eq_ok.mp h
  have := (Rules.wordsItems_rules W (depthOf ts)).item
  have hgives : GivesFrom W (fun items => ∀ item ∈ items, item.IsWorded W) (do
      let _ ← (rules (depthOf ts)).innerAttributes
      Parser.manyToEnd (rules (depthOf ts)).item) := inferInstance
  exact hgives.of_ok hwords hread

end ReceiverLoader.Grammar
