import Mathlib.Data.List.Forall2
import ReceiverLoader.Grammar.Item
import ReceiverLoader.Proofs.Token.Shape

/-!
# Values alike

Two values are alike if they differ in positions only. `Likeness` says what this means for each type
that the grammar's parsers give, and `Alike` is the relation, as a class: what is alike is found by
the search for instances. `Discrete` are the types without positions, where it is equality.

* `like_trees_iff`: trees are alike iff they have the same shapes.
* `Front`: how two lists of trees that are alike begin.
* `Ahead.Blind`: a test that looks at no position.
-/

namespace ReceiverLoader.Grammar

open Token (Position Leaf Tree Delimiter Literal)

/-- What it means for two values of a type to differ in positions only. -/
class Likeness (α : Type) where
  like : α → α → Prop
  refl : ∀ a, like a a

export Likeness (like)

/-- The values differ in positions only. -/
class Alike {α : Type} [Likeness α] (a b : α) : Prop where
  like : like a b

/-- A type without positions. -/
class Discrete (α : Type) [Likeness α] : Prop where
  eq_of_like : ∀ {a b : α}, like a b → a = b

instance {α : Type} [Likeness α] (a : α) : Alike a a := ⟨Likeness.refl a⟩

theorem Alike.eq {α : Type} [Likeness α] [Discrete α] {a b : α} (h : Alike a b) : a = b :=
  Discrete.eq_of_like h.like

instance {α : Type} [Likeness α] {c : Prop} [Decidable c] {a a' b b' : α} [ha : Alike a b]
    [ha' : Alike a' b'] : Alike (if c then a else a') (if c then b else b') := by
  split <;> assumption

/-! ## Compound types -/

section Compound

variable {α β : Type} [Likeness α] [Likeness β]

instance : Likeness (α × β) where
  like p q := like p.1 q.1 ∧ like p.2 q.2
  refl p := ⟨Likeness.refl p.1, Likeness.refl p.2⟩

instance : Likeness (Option α) where
  like := Option.Rel like
  refl
    | none => .none
    | some a => .some (Likeness.refl a)

instance : Likeness (List α) where
  like := List.Forall₂ like
  refl _ := List.forall₂_same.mpr fun a _ => Likeness.refl a

instance [Discrete α] [Discrete β] : Discrete (α × β) where
  eq_of_like h := Prod.ext (Discrete.eq_of_like h.1) (Discrete.eq_of_like h.2)

instance [Discrete α] : Discrete (Option α) where
  eq_of_like h := by
    cases h with
    | none => rfl
    | some h => rw [Discrete.eq_of_like h]

instance [Discrete α] : Discrete (List α) where
  eq_of_like h := by
    induction h with
    | nil => rfl
    | cons h _ ih => rw [Discrete.eq_of_like h, ih]

instance {a a' : α} {b b' : β} [Alike a a'] [Alike b b'] : Alike (a, b) (a', b') :=
  ⟨Alike.like, Alike.like⟩

instance {p q : α × β} [h : Alike p q] : Alike p.1 q.1 := ⟨h.like.1⟩

instance {p q : α × β} [h : Alike p q] : Alike p.2 q.2 := ⟨h.like.2⟩

instance {a b : α} [Alike a b] : Alike (some a) (some b) := ⟨.some Alike.like⟩

instance {a b : α} {l m : List α} [h : Alike a b] [h' : Alike l m] : Alike (a :: l) (b :: m) :=
  ⟨.cons h.like h'.like⟩

instance {l l' m m' : List α} [h : Alike l m] [h' : Alike l' m'] : Alike (l ++ l') (m ++ m') :=
  ⟨List.rel_append h.like h'.like⟩

instance {l m : List α} [h : Alike l m] : Alike l.reverse m.reverse :=
  ⟨List.forall₂_reverse_iff.mpr h.like⟩

instance {l m : List α} [h : Alike l m] (n : Nat) : Alike (l.take n) (m.take n) :=
  ⟨List.forall₂_take n h.like⟩

instance {l m : List α} [h : Alike l m] (n : Nat) : Alike (l.drop n) (m.drop n) :=
  ⟨List.forall₂_drop n h.like⟩

theorem Alike.length_eq {l m : List α} (h : Alike l m) : l.length = m.length :=
  List.Forall₂.length_eq h.like

theorem Alike.isEmpty_eq {l m : List α} (h : Alike l m) : l.isEmpty = m.isEmpty := by
  obtain ⟨h⟩ := h
  cases h <;> rfl

instance {l m : List α} [h : Alike l m] : Alike l.head? m.head? := by
  obtain ⟨h⟩ := h
  cases h with
  | nil => infer_instance
  | cons hab _ => exact ⟨.some hab⟩

instance {l m : List α} [h : Alike l m] : Alike l.getLast? m.getLast? := by
  rw [List.getLast?_eq_head?_reverse, List.getLast?_eq_head?_reverse]
  infer_instance

end Compound

/-! ## Types without positions -/

/-- The values of the type hold no position. -/
class Plain (α : Type) : Prop

instance (priority := low) {α : Type} [Plain α] : Likeness α := ⟨Eq, fun _ => rfl⟩

instance {α : Type} [Plain α] : Discrete α := ⟨id⟩

instance : Plain Unit where
instance : Plain Bool where
instance : Plain Nat where
instance : Plain String where
instance : Plain Delimiter where
instance : Plain Literal where
instance : Plain Path where
instance : Plain PathForm where
instance : Plain TypeForm where
instance : Plain UseTree where
instance : Plain Rules.Segment where
instance : Plain Rules.Enclosed where
instance : Plain Rules.RangeDots where
instance : Plain Rules.ArgumentsBefore where
instance : Plain Rules.AliasForm where
instance : Plain Rules.ConstantForm where

/-! ## Types with positions -/

instance : Likeness Position := ⟨fun _ _ => True, fun _ => trivial⟩

instance (p q : Position) : Alike p q := ⟨trivial⟩

instance : Likeness Tree := ⟨fun t u => t.shape = u.shape, fun _ => rfl⟩

theorem shapes_eq (ts : List Tree) : Tree.shapes ts = ts.map Tree.shape := by
  induction ts with
  | nil => rfl
  | cons t ts ih => rw [Tree.shapes, ih, List.map_cons]

/-- Trees are alike iff they have the same shapes. -/
theorem like_trees_iff {ts us : List Tree} : like ts us ↔ Tree.shapes ts = Tree.shapes us := by
  rw [shapes_eq, shapes_eq, ← List.forall₂_eq_eq_eq, List.forall₂_map_left_iff,
    List.forall₂_map_right_iff]
  rfl

instance (p q : Position) (l : Leaf) : Alike (Tree.leaf p l) (.leaf q l) := ⟨rfl⟩

instance (p q p' q' : Position) (d : Delimiter) {body body' : List Tree} [h : Alike body body'] :
    Alike (Tree.group p q d body) (.group p' q' d body') where
  like := by
    have hshapes := like_trees_iff.mp h.like
    change Tree.shape _ = Tree.shape _
    rw [Tree.shape, Tree.shape, hshapes]

/-- How two lists of trees that are alike begin. -/
inductive Front : List Tree → List Tree → Prop
  | nothing : Front [] []
  | word (p q : Position) (text : String) {ts us : List Tree} : Alike ts us →
      Front (.leaf p (.word text) :: ts) (.leaf q (.word text) :: us)
  | mark (p q : Position) (c : Char) (joint : Bool) {ts us : List Tree} : Alike ts us →
      Front (.leaf p (.mark c joint) :: ts) (.leaf q (.mark c joint) :: us)
  | literal (p q : Position) (text : String) {ts us : List Tree} : Alike ts us →
      Front (.leaf p (.literal text) :: ts) (.leaf q (.literal text) :: us)
  | group (p q p' q' : Position) (d : Delimiter) {body body' ts us : List Tree} :
      Alike body body' → Alike ts us →
      Front (.group p q d body :: ts) (.group p' q' d body' :: us)

theorem Alike.front {ts us : List Tree} (h : Alike ts us) : Front ts us := by
  obtain ⟨h⟩ := h
  cases h with
  | nil => exact .nothing
  | @cons t u ts us htu hts =>
    have hshape : t.shape = u.shape := htu
    cases t with
    | leaf p l =>
      cases u with
      | leaf q m =>
        rw [Tree.shape, Tree.shape, Token.Shape.leaf.injEq] at hshape
        subst hshape
        cases l with
        | word text => exact .word p q text ⟨hts⟩
        | mark c joint => exact .mark p q c joint ⟨hts⟩
        | literal text => exact .literal p q text ⟨hts⟩
      | group q q' d body => cases hshape
    | group p p' d body =>
      cases u with
      | leaf q m => cases hshape
      | group q q' d' body' =>
        rw [Tree.shape, Tree.shape, Token.Shape.group.injEq] at hshape
        obtain ⟨rfl, hbody⟩ := hshape
        exact .group p p' q q' d ⟨like_trees_iff.mpr hbody⟩ ⟨hts⟩

instance : Likeness Stray := ⟨fun s t => s.inside = t.inside, fun _ => rfl⟩

namespace ExpressionForm

/-- Forms of expressions that differ in positions only. -/
inductive Like : ExpressionForm → ExpressionForm → Prop
  | integer (p q : Position) (value : Nat) : Like (.integer p value) (.integer q value)
  | negation {form form' : ExpressionForm} : Like form form' →
      Like (.negation form) (.negation form')
  | comparison : Like .comparison .comparison
  | range (p q : Position) : Like (.range p) (.range q)
  | block : Like .block .block
  | bracedCall : Like .bracedCall .bracedCall
  | verbatim : Like .verbatim .verbatim
  | other : Like .other .other

instance : Likeness ExpressionForm where
  like := Like
  refl form := by
    induction form with
    | integer p value => exact .integer p p value
    | negation _ ih => exact .negation ih
    | range p => exact .range p p
    | comparison => exact .comparison
    | block => exact .block
    | bracedCall => exact .bracedCall
    | verbatim => exact .verbatim
    | other => exact .other

instance (p q : Position) (value : Nat) : Alike (integer p value) (integer q value) :=
  ⟨.integer p q value⟩

instance {form form' : ExpressionForm} [h : Alike form form'] :
    Alike (negation form) (negation form') :=
  ⟨.negation h.like⟩

instance (p q : Position) : Alike (range p) (range q) := ⟨.range p q⟩

end ExpressionForm

namespace PatternForm

/-- Forms of patterns that differ in positions only. -/
inductive Like : PatternForm → PatternForm → Prop
  | rest : Like .rest .rest
  | openRange (p q : Position) : Like (.openRange p) (.openRange q)
  | other : Like .other .other

instance : Likeness PatternForm where
  like := Like
  refl
    | .rest => .rest
    | .openRange p => .openRange p p
    | .other => .other

instance (p q : Position) : Alike (openRange p) (openRange q) := ⟨.openRange p q⟩

end PatternForm

namespace AttributeContent

/-- Contents of attributes that differ in positions only. -/
inductive Like : AttributeContent → AttributeContent → Prop
  | nothing : Like .nothing .nothing
  | arguments (p q : Position) {body body' : List Tree} : Alike body body' →
      Like (.arguments p body) (.arguments q body')
  | value (p q : Position) : Like (.value p) (.value q)

instance : Likeness AttributeContent where
  like := Like
  refl
    | .nothing => .nothing
    | .arguments p _ => .arguments p p inferInstance
    | .value p => .value p p

instance (p q : Position) {body body' : List Tree} [h : Alike body body'] :
    Alike (arguments p body) (arguments q body') :=
  ⟨.arguments p q h⟩

instance (p q : Position) : Alike (value p) (value q) := ⟨.value p q⟩

end AttributeContent

instance : Likeness Attribute where
  like a b := a.path = b.path ∧ like a.content b.content
  refl a := ⟨rfl, Likeness.refl a.content⟩

instance (path : Path) {content content' : AttributeContent} [h : Alike content content'] :
    Alike (Attribute.mk path content) ⟨path, content'⟩ :=
  ⟨rfl, h.like⟩

instance : Likeness TypeDeclaration where
  like d e := like d.attributes e.attributes ∧ d.name = e.name ∧ like d.trees e.trees
  refl d := ⟨Likeness.refl d.attributes, rfl, Likeness.refl d.trees⟩

instance (name : String) (p q : Position) {attributes attributes' : List Attribute}
    {trees trees' : List Tree} [h : Alike attributes attributes'] [h' : Alike trees trees'] :
    Alike (TypeDeclaration.mk attributes name p trees) ⟨attributes', name, q, trees'⟩ :=
  ⟨h.like, rfl, h'.like⟩

namespace Item

/-- Items that differ in positions only. -/
inductive Like : Item → Item → Prop
  | type {d e : TypeDeclaration} : Alike d e → Like (.type d) (.type e)
  | trait (name : String) : Like (.trait name) (.trait name)
  | implementation (trait : Option ImplementedTrait) (self : TypeForm) :
      Like (.implementation trait self) (.implementation trait self)
  | module (name : String) {items items' : List Item} : List.Forall₂ Like items items' →
      Like (.module name items) (.module name items')
  | use (leadingColon : Bool) (tree : UseTree) :
      Like (.use leadingColon tree) (.use leadingColon tree)
  | other : Like .other .other

mutual

theorem Like.refl : ∀ item : Item, Like item item
  | .type _ => .type inferInstance
  | .trait name => .trait name
  | .implementation t self => .implementation t self
  | .module name items => .module name (Like.refl_all items)
  | .use leadingColon tree => .use leadingColon tree
  | .other => .other

theorem Like.refl_all : ∀ items : List Item, List.Forall₂ Like items items
  | [] => .nil
  | item :: items => .cons (Like.refl item) (Like.refl_all items)

end

instance : Likeness Item := ⟨Like, Like.refl⟩

instance {d e : TypeDeclaration} [h : Alike d e] : Alike (type d) (type e) := ⟨.type h⟩

instance (name : String) {items items' : List Item} [h : Alike items items'] :
    Alike (module name items) (module name items') :=
  ⟨.module name h.like⟩

end Item

namespace Rules.ArgumentKind

/-- Kinds of arguments that differ in positions only. -/
inductive Like : ArgumentKind → ArgumentKind → Prop
  | receiver (p q : Position) : Like (.receiver p) (.receiver q)
  | typed : Like .typed .typed
  | variadic : Like .variadic .variadic

instance : Likeness ArgumentKind where
  like := Like
  refl
    | .receiver p => .receiver p p
    | .typed => .typed
    | .variadic => .variadic

instance (p q : Position) : Alike (receiver p) (receiver q) := ⟨.receiver p q⟩

end Rules.ArgumentKind

instance : Likeness AngleMember where
  like m n := m.isLifetime = n.isLifetime ∧ like m.trees n.trees ∧ like m.comma n.comma
  refl m := ⟨rfl, Likeness.refl m.trees, Likeness.refl m.comma⟩

namespace Parser.Turn

variable {σ α : Type} [Likeness σ] [Likeness α]

/-- Decisions that differ in positions only. -/
inductive Like : Turn σ α → Turn σ α → Prop
  | done {a b : α} : Alike a b → Like (.done a) (.done b)
  | again {s t : σ} : Alike s t → Like (.again s) (.again t)

instance : Likeness (Turn σ α) where
  like := Like
  refl
    | .done _ => .done inferInstance
    | .again _ => .again inferInstance

instance {a b : α} [h : Alike a b] : Alike (done a : Turn σ α) (done b) := ⟨.done h⟩

instance {s t : σ} [h : Alike s t] : Alike (again s : Turn σ α) (again t) := ⟨.again h⟩

end Parser.Turn

end ReceiverLoader.Grammar
