import ReceiverLoader.Proofs.OrderedList
import ReceiverLoader.Source.Scope

/-!
# What `use` items bind

`bindings` lists what a `use` tree binds behind a path, from left to right. Flattening the tree puts
just these bindings into the table and leads back to the path.

* `flatten_eq`: what flattening makes of the path and of the table.
* `imports_eq`: the imports of a module are the bindings of its items, the later ones first.
-/

namespace ReceiverLoader.Source

open Grammar (Path UseTree Item)
open OrderedList (putAll putAll_append)

mutual

/-- The names that a `use` tree below `path` binds, and what they stand for, from left to right. -/
def bindings (path : Path) : UseTree → List (String × Path)
  | .path name tree => bindings (extend path name) tree
  | .name name =>
    if name = "self" then (path.segments.getLast?.map fun last => (last, path)).toList
    else [(name, extend path name)]
  | .rename name newName => [(newName, if name = "self" then path else extend path name)]
  | .glob => []
  | .group trees => groupBindings path trees

/-- The names that the members of a group bind. -/
def groupBindings (path : Path) : List UseTree → List (String × Path)
  | [] => []
  | tree :: trees => bindings path tree ++ groupBindings path trees

end

/-- The names that an item binds. -/
def itemBindings : Item → List (String × Path)
  | .use leadingColon tree => bindings ⟨leadingColon, []⟩ tree
  | _ => []

/-! ## Flattening -/

/-- A segment that was put behind the path can be taken off again, whatever was imported between. -/
theorem leave_enter (s : Flattening) (segment : String) (imports : List (String × Path)) :
    Flattening.leave ⟨(s.enter segment).outer, imports⟩ = ⟨s.outer, imports⟩ := by
  simp [Flattening.leave, Flattening.enter, extend]

mutual

/-- What a tree binds is put into the table, and the path is the same as before. -/
theorem flatten_eq : ∀ (s : Flattening) (tree : UseTree),
    flatten s tree = ⟨s.outer, putAll (bindings s.outer tree) s.imports⟩
  | s, .path segment tree => by
    rw [flatten, flatten_eq (s.enter segment) tree, leave_enter]
    rfl
  | s, .name name => by
    rw [flatten, bindings]
    split
    · split
      · rename_i last hlast
        rw [hlast]
        rfl
      · rename_i hnone
        rw [hnone]
        rfl
    · rfl
  | s, .rename name newName => by
    rw [flatten, bindings]
    rfl
  | s, .glob => by
    rw [flatten, bindings]
    rfl
  | s, .group trees => by
    rw [flatten, flattenAll_eq s trees, bindings]

theorem flattenAll_eq : ∀ (s : Flattening) (trees : List UseTree),
    flattenAll s trees = ⟨s.outer, putAll (groupBindings s.outer trees) s.imports⟩
  | s, [] => by
    rw [flattenAll, groupBindings]
    rfl
  | s, tree :: trees => by
    -- The members behind the first begin with the path that it began with.
    rw [flattenAll, flatten_eq s tree, flattenAll_eq _ trees, groupBindings, putAll_append]

end

theorem importItem_eq (table : List (String × Path)) (item : Item) :
    importItem table item = putAll (itemBindings item) table := by
  cases item with
  | use colon tree => rw [importItem, flatten_eq, itemBindings]
  | _ => rfl

/-- What the items bind is put into one table, from left to right. -/
theorem foldl_importItem_eq (items : List Item) (table : List (String × Path)) :
    items.foldl importItem table = putAll (items.flatMap itemBindings) table := by
  induction items generalizing table with
  | nil => rfl
  | cons item items ih =>
    rw [List.foldl_cons, ih, importItem_eq, List.flatMap_cons, putAll_append]

theorem imports_eq (items : List Item) :
    imports items = putAll (items.flatMap itemBindings) [] :=
  foldl_importItem_eq items []

/-- Of the paths that a name is bound to it stands for the last one. -/
theorem get?_imports (items : List Item) (name : String) :
    OrderedList.get? name (imports items) = (items.flatMap itemBindings).reverse.lookup name := by
  rw [imports_eq, OrderedList.get?_putAll]
  exact Option.or_none

end ReceiverLoader.Source
