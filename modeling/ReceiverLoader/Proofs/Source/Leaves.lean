import ReceiverLoader.Proofs.Source.Importing

/-!
# `use` items leaf by leaf

The paths in a `use` tree end in its leaves. Each leaf binds one name at most, and that by the way
to it and by itself, whatever stands beside it in the tree.

* `bindings_eq`: a tree binds what its leaves bind, from left to right.
* `isLeafwise_imports`: flattening leaves the path as it was, and a `use` item can be replaced by
  one item for each of its leaves.
-/

namespace ReceiverLoader.Source

open Grammar (Path UseTree Item)
open OrderedList (get? putAll)

/-! ## Leaves -/

/-- The end of a path in a `use` tree. -/
inductive LeafForm
  | name (name : String)
  | rename (name newName : String)
  | glob
deriving Repr, DecidableEq

namespace LeafForm

/-- The `use` tree of an end without a path. -/
def tree : LeafForm → UseTree
  | name n => .name n
  | rename n newName => .rename n newName
  | glob => .glob

/-- The name that an end behind `path` binds, and what it stands for. The word `self` stands for the
path, and has to have a segment or a new name to be bound by. -/
def binding? (path : Path) : LeafForm → Option (String × Path)
  | name n =>
    if n = "self" then path.segments.getLast?.map fun last => (last, path)
    else some (n, extend path n)
  | rename n newName => some (newName, if n = "self" then path else extend path n)
  | glob => none

end LeafForm

/-- A leaf of a `use` tree. -/
structure Leaf where
  /-- The segments that lead to it, the outermost first. -/
  way : List String
  form : LeafForm
deriving Repr, DecidableEq

namespace Leaf

/-- The leaf as one of a tree behind `segment`. -/
def behind (segment : String) (l : Leaf) : Leaf := { l with way := segment :: l.way }

/-- The `use` tree that has this leaf only. -/
def tree (l : Leaf) : UseTree := l.way.foldr .path l.form.tree

/-- What a leaf of a tree behind the path `outer` binds. -/
def binding? (outer : Path) (l : Leaf) : Option (String × Path) :=
  l.form.binding? (beyond outer l.way)

end Leaf

mutual

/-- The leaves of a `use` tree, from left to right. -/
def leaves : UseTree → List Leaf
  | .path segment tree => (leaves tree).map (Leaf.behind segment)
  | .name name => [⟨[], .name name⟩]
  | .rename name newName => [⟨[], .rename name newName⟩]
  | .glob => [⟨[], .glob⟩]
  | .group trees => groupLeaves trees

/-- The leaves of the members of a group. -/
def groupLeaves : List UseTree → List Leaf
  | [] => []
  | tree :: trees => leaves tree ++ groupLeaves trees

end

/-- What the leaves of an item bind. -/
def leafBindings : Item → List (String × Path)
  | .use leadingColon tree => (leaves tree).filterMap (Leaf.binding? ⟨leadingColon, []⟩)
  | _ => []

/-- What flattening does to the path and to the table, and what imports are collected by it. -/
structure IsLeafwise (flatten : Flattening → UseTree → Flattening)
    (imports : List Item → List (String × Path)) : Prop where
  /-- The path comes back as it was given. -/
  outer_eq : ∀ s tree, (flatten s tree).outer = s.outer
  /-- What the leaves bind behind the path is put into the table, from left to right. -/
  table_eq : ∀ s tree, (flatten s tree).imports =
    putAll ((leaves tree).filterMap (Leaf.binding? s.outer)) s.imports
  /-- The imports are the table of what all leaves of all items bind. -/
  imports_eq : ∀ items, imports items = putAll (items.flatMap leafBindings) []
  /-- A name stands for what the last leaf says that binds it. -/
  get?_eq : ∀ items name,
    get? name (imports items) = (items.flatMap leafBindings).reverse.lookup name
  /-- In the place of a `use` item there may stand one for each of its leaves. -/
  split : ∀ before colon tree behind, imports (before ++ .use colon tree :: behind) =
    imports (before ++ (leaves tree).map (fun l => .use colon l.tree) ++ behind)

/-! ## What leaves bind -/

theorem Leaf.binding?_behind (outer : Path) (segment : String) (l : Leaf) :
    (l.behind segment).binding? outer = l.binding? (extend outer segment) := by
  have hpath : beyond outer (segment :: l.way) = beyond (extend outer segment) l.way := by
    simp [beyond, extend]
  rw [binding?, binding?, behind, hpath]

/-- An end without a path binds a name for the path of the tree. -/
theorem filterMap_end (outer : Path) (form : LeafForm) :
    [⟨[], form⟩].filterMap (Leaf.binding? outer) = (form.binding? outer).toList := by
  have hpath : beyond outer [] = outer := by rw [beyond, List.append_nil]
  rw [List.filterMap_cons, Leaf.binding?, hpath]
  cases form.binding? outer <;> rfl

mutual

/-- What a tree binds is what its leaves bind. -/
theorem bindings_eq : ∀ (outer : Path) (tree : UseTree),
    bindings outer tree = (leaves tree).filterMap (Leaf.binding? outer)
  | outer, .path segment tree => by
    have hbehind : Leaf.binding? outer ∘ Leaf.behind segment =
        Leaf.binding? (extend outer segment) :=
      funext (Leaf.binding?_behind outer segment)
    rw [bindings, bindings_eq (extend outer segment) tree, leaves, List.filterMap_map, hbehind]
  | outer, .name name => by
    rw [bindings, leaves, filterMap_end, LeafForm.binding?]
    split <;> rfl
  | outer, .rename name newName => by
    rw [bindings, leaves, filterMap_end]
    rfl
  | outer, .glob => by
    rw [bindings, leaves, filterMap_end]
    rfl
  | outer, .group trees => by
    rw [bindings, groupBindings_eq outer trees, leaves]

theorem groupBindings_eq : ∀ (outer : Path) (trees : List UseTree),
    groupBindings outer trees = (groupLeaves trees).filterMap (Leaf.binding? outer)
  | outer, [] => by
    rw [groupBindings, groupLeaves]
    rfl
  | outer, tree :: trees => by
    rw [groupBindings, bindings_eq outer tree, groupBindings_eq outer trees, groupLeaves,
      List.filterMap_append]

end

theorem itemBindings_eq (item : Item) : itemBindings item = leafBindings item := by
  cases item with
  | use colon tree => exact bindings_eq ⟨colon, []⟩ tree
  | _ => rfl

theorem flatMap_itemBindings_eq (items : List Item) :
    items.flatMap itemBindings = items.flatMap leafBindings :=
  List.flatMap_congr fun item _ => itemBindings_eq item

/-! ## Items with one leaf -/

theorem leaves_formTree (form : LeafForm) : leaves form.tree = [⟨[], form⟩] := by
  cases form <;> rw [LeafForm.tree, leaves]

theorem leaves_tree (l : Leaf) : leaves l.tree = [l] := by
  obtain ⟨way, form⟩ := l
  induction way with
  | nil => exact leaves_formTree form
  | cons segment way ih =>
    have htree : Leaf.tree ⟨segment :: way, form⟩ = .path segment (Leaf.tree ⟨way, form⟩) := rfl
    rw [htree, leaves, ih]
    rfl

/-- The items that are made of leaves bind what these bind. -/
theorem flatMap_leafBindings_tree (colon : Bool) (ls : List Leaf) :
    (ls.map fun l => Item.use colon l.tree).flatMap leafBindings =
      ls.filterMap (Leaf.binding? ⟨colon, []⟩) := by
  induction ls with
  | nil => rfl
  | cons l ls ih =>
    rw [List.map_cons, List.flatMap_cons, ih, leafBindings, leaves_tree, ← List.filterMap_append]
    rfl

/-- Imports are collected leaf by leaf. -/
theorem isLeafwise_imports : IsLeafwise flatten imports where
  outer_eq s tree := by rw [flatten_eq]
  table_eq s tree := by rw [flatten_eq, bindings_eq]
  imports_eq items := by rw [imports_eq, flatMap_itemBindings_eq]
  get?_eq items name := by rw [get?_imports, flatMap_itemBindings_eq]
  split before colon tree behind := by
    rw [imports_eq, imports_eq, flatMap_itemBindings_eq, flatMap_itemBindings_eq]
    simp only [List.flatMap_append, List.flatMap_cons, flatMap_leafBindings_tree, leafBindings,
      List.append_assoc]

/-- `use a::{b::{self as c, d}, *, self};` binds `c` and `d` behind two segments, and `a` behind the
first of them. -/
example :
    imports [.use false (.path "a" (.group
      [.path "b" (.group [.rename "self" "c", .name "d"]), .glob, .name "self"]))] =
      [("a", ⟨false, ["a"]⟩), ("c", ⟨false, ["a", "b"]⟩), ("d", ⟨false, ["a", "b", "d"]⟩)] := by
  decide

end ReceiverLoader.Source
