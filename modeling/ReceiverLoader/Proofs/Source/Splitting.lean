import ReceiverLoader.Proofs.Grammar.Reading
import ReceiverLoader.Proofs.Round.Location
import ReceiverLoader.Proofs.Source.FileOrder
import ReceiverLoader.Proofs.Source.Flattening

/-!
# Inline modules that become files

Where an inline module is taken out of a file and put into one of its own, the two files together
hold what the one has held.

* `SplitsOff`: an inline module of some items is replaced by its declaration.
* `Placeless`: what an item contributes no matter where the item is written down.
* `SplitsOff.perm`: what all items contribute, from one file and from two.
-/

namespace ReceiverLoader.Source

open Grammar (Item Attribute TypeDeclaration Alike)

/-- `items'` are `items`, but for positions, with the inline module `name` of these `members`
replaced by an item that declares nothing, as `mod name;` is. `enclosing` are the inline modules
around it, the outermost first. -/
inductive SplitsOff (name : String) (members : List Item) :
    List String → List Item → List Item → Prop
  | here {before before' behind behind' : List Item} :
      Alike before before' → Alike behind behind' →
      SplitsOff name members [] (before ++ .module name members :: behind)
        (before' ++ .other :: behind')
  | inside {before before' behind behind' items items' : List Item} {enclosing : List String}
      (outer : String) : Alike before before' → Alike behind behind' →
      SplitsOff name members enclosing items items' →
      SplitsOff name members (outer :: enclosing) (before ++ .module outer items :: behind)
        (before' ++ .module outer items' :: behind')

/-! ## Imports -/

theorem itemBindings_like {item item' : Item} (h : Item.Like item item') :
    itemBindings item = itemBindings item' := by
  cases h <;> rfl

theorem flatMap_itemBindings_alike {items items' : List Item} (h : Alike items items') :
    items.flatMap itemBindings = items'.flatMap itemBindings := by
  obtain ⟨h⟩ := h
  induction h with
  | nil => rfl
  | cons hitem _ ih => rw [List.flatMap_cons, List.flatMap_cons, itemBindings_like hitem, ih]

theorem imports_alike {items items' : List Item} (h : Alike items items') :
    imports items = imports items' := by
  rw [imports_eq, imports_eq, flatMap_itemBindings_alike h]

theorem imports_around {before before' behind behind' : List Item} (hbefore : Alike before before')
    (hbehind : Alike behind behind') {item item' : Item} (hitem : itemBindings item = [])
    (hitem' : itemBindings item' = []) :
    imports (before ++ item :: behind) = imports (before' ++ item' :: behind') := by
  simp only [imports_eq, List.flatMap_append, List.flatMap_cons, hitem, hitem',
    flatMap_itemBindings_alike hbefore, flatMap_itemBindings_alike hbehind]

/-- Modules bring no names into scope. -/
theorem SplitsOff.imports_eq {name : String} {members items items' : List Item}
    {enclosing : List String} (h : SplitsOff name members enclosing items items') :
    imports items = imports items' := by
  cases h with
  | here hbefore hbehind => exact imports_around hbefore hbehind rfl rfl
  | inside _ hbefore hbehind _ => exact imports_around hbefore hbehind rfl rfl

/-! ## Contributions -/

/-- What `g` finds at an item depends only on the item and on its scope; at a type not on positions,
and at a module not on what is inside. -/
structure Placeless {β : Type} (g : Occurrence → Option β) : Prop where
  same : ∀ {o o' : Occurrence}, o.scope = o'.scope → o.item = o'.item → g o = g o'
  type : ∀ {o o' : Occurrence} {d d' : TypeDeclaration}, o.scope = o'.scope → o.item = .type d →
    o'.item = .type d' → Alike d d' → g o = g o'
  module : ∀ {o o' : Occurrence} {name : String} {items items' : List Item}, o.scope = o'.scope →
    o.item = .module name items → o'.item = .module name items' → g o = g o'
  other : ∀ {o : Occurrence}, o.item = .other → g o = none

section Placeless

variable {β : Type} {g : Occurrence → Option β}

theorem Placeless.alike (hg : Placeless g) {o o' : Occurrence} (hscope : o.scope = o'.scope)
    (h : Item.Like o.item o'.item) : g o = g o' := by
  generalize hitem : o.item = item at h
  generalize hitem' : o'.item = item' at h
  cases h with
  | type h => exact hg.type hscope hitem hitem' h
  | module => exact hg.module hscope hitem hitem'
  | _ => exact hg.same hscope (hitem.trans hitem'.symm)

section Apply

variable (hg : Placeless g) {file file' : FilePath}
  {fileModule fileModule' enclosing enclosing' : List String} {body body' : List Item}
  (hmodule : fileModule ++ enclosing = fileModule' ++ enclosing')
  (hbody : imports body = imports body')
include hg hmodule hbody

theorem Placeless.apply_alike {item item' : Item} (h : Item.Like item item') :
    g ⟨file, fileModule, enclosing, body, item⟩ =
      g ⟨file', fileModule', enclosing', body', item'⟩ :=
  hg.alike (Scope.mk.injEq .. ▸ ⟨hmodule, hbody⟩) h

theorem Placeless.apply_module (name : String) (items items' : List Item) :
    g ⟨file, fileModule, enclosing, body, .module name items⟩ =
      g ⟨file', fileModule', enclosing', body', .module name items'⟩ :=
  hg.module (Scope.mk.injEq .. ▸ ⟨hmodule, hbody⟩) rfl rfl

end Apply

theorem filterMap_cons_eq (g : Occurrence → Option β) (o : Occurrence) (os : List Occurrence) :
    (o :: os).filterMap g = (g o).toList ++ os.filterMap g := by
  rw [List.filterMap_cons]
  cases g o <;> rfl

mutual

theorem Placeless.filterMap_item (hg : Placeless g) {file file' : FilePath}
    {fileModule fileModule' : List String} :
    ∀ (item item' : Item) (enclosing enclosing' : List String) (body body' : List Item),
      fileModule ++ enclosing = fileModule' ++ enclosing' → imports body = imports body' →
      Item.Like item item' →
      (itemOccurrences file fileModule enclosing body item).filterMap g =
        (itemOccurrences file' fileModule' enclosing' body' item').filterMap g
  | .module name items, _, enclosing, enclosing', _, _, hmodule, hbody, h => by
    cases id h with
    | @module _ _ items' hitems =>
      have hnested :
          fileModule ++ (enclosing ++ [name]) = fileModule' ++ (enclosing' ++ [name]) := by
        rw [← List.append_assoc, hmodule, List.append_assoc]
      rw [itemOccurrences, itemOccurrences, filterMap_cons_eq, filterMap_cons_eq,
        hg.apply_alike hmodule hbody h,
        hg.filterMap_body items items' _ _ items items' hnested (imports_alike ⟨hitems⟩) hitems]
  | .type _, _, _, _, _, _, hmodule, hbody, h | .trait _, _, _, _, _, _, hmodule, hbody, h
  | .implementation _ _, _, _, _, _, _, hmodule, hbody, h
  | .use _ _, _, _, _, _, _, hmodule, hbody, h | .other, _, _, _, _, _, hmodule, hbody, h => by
    cases id h
    change List.filterMap g [_] = List.filterMap g [_]
    rw [filterMap_cons_eq, filterMap_cons_eq, hg.apply_alike hmodule hbody h]

theorem Placeless.filterMap_body (hg : Placeless g) {file file' : FilePath}
    {fileModule fileModule' : List String} :
    ∀ (items items' : List Item) (enclosing enclosing' : List String) (body body' : List Item),
      fileModule ++ enclosing = fileModule' ++ enclosing' → imports body = imports body' →
      List.Forall₂ Item.Like items items' →
      (bodyOccurrences file fileModule enclosing body items).filterMap g =
        (bodyOccurrences file' fileModule' enclosing' body' items').filterMap g
  | [], _, _, _, _, _, _, _, h => by
    cases h
    rfl
  | item :: items, _, enclosing, enclosing', body, body', hmodule, hbody, h => by
    cases h with
    | cons hitem hitems =>
      rw [bodyOccurrences, bodyOccurrences, List.filterMap_append, List.filterMap_append,
        hg.filterMap_item item _ enclosing enclosing' body body' hmodule hbody hitem,
        hg.filterMap_body items _ enclosing enclosing' body body' hmodule hbody hitems]

end

theorem perm_around {α : Type} {before head inner inner' behind moved : List α}
    (h : inner.Perm (inner' ++ moved)) :
    (before ++ (head ++ inner ++ behind)).Perm
      (before ++ (head ++ inner' ++ behind) ++ moved) := by
  have hinside : (inner ++ behind).Perm (inner' ++ behind ++ moved) :=
    calc (inner ++ behind).Perm (inner' ++ moved ++ behind) := h.append_right behind
      _ = inner' ++ (moved ++ behind) := List.append_assoc ..
      List.Perm _ (inner' ++ (behind ++ moved)) := List.perm_append_comm.append_left inner'
      _ = inner' ++ behind ++ moved := (List.append_assoc ..).symm
  simpa only [List.append_assoc] using (hinside.append_left head).append_left before

theorem bodyOccurrences_append (file : FilePath) (fileModule enclosing : List String)
    (body items more : List Item) :
    bodyOccurrences file fileModule enclosing body (items ++ more) =
      bodyOccurrences file fileModule enclosing body items ++
        bodyOccurrences file fileModule enclosing body more := by
  induction items with
  | nil => rfl
  | cons item items ih =>
    rw [List.cons_append, bodyOccurrences, bodyOccurrences, ih, List.append_assoc]

/-- What the items of a file contribute, the items of the two files contribute together, but for the
module that has become a file. -/
theorem SplitsOff.perm (hg : Placeless g) {name : String} {members newItems : List Item}
    (hnew : Alike members newItems) {enclosing : List String} {items items' : List Item}
    (h : SplitsOff name members enclosing items items') (file new : FilePath)
    (fileModule outer : List String) {body body' : List Item}
    (hbody : imports body = imports body') :
    ∃ o, o.item = .module name members ∧ o.module = fileModule ++ outer ++ enclosing ∧
      ((bodyOccurrences file fileModule outer body items).filterMap g).Perm
        ((bodyOccurrences file fileModule outer body' items').filterMap g ++
          ((g o).toList ++ (occurrences new (o.module ++ [name]) newItems).filterMap g)) := by
  have hpart {body body' items items' : List Item} (outer : List String)
      (hbody : imports body = imports body') (hitems : Alike items items') :
      (bodyOccurrences file fileModule outer body items).filterMap g =
        (bodyOccurrences file fileModule outer body' items').filterMap g :=
    hg.filterMap_body items items' outer outer body body' rfl hbody hitems.like
  induction h generalizing outer body body' with
  | @here before before' behind behind' hbefore hbehind =>
    let o : Occurrence := ⟨file, fileModule, outer, body, .module name members⟩
    have hmodule : fileModule ++ (outer ++ [name]) = o.module ++ [name] ++ [] := by
      rw [List.append_nil]
      exact (List.append_assoc ..).symm
    have hmembers :
        (bodyOccurrences file fileModule (outer ++ [name]) members members).filterMap g =
          (bodyOccurrences new (o.module ++ [name]) [] newItems newItems).filterMap g :=
      hg.filterMap_body members newItems _ _ members newItems hmodule (imports_alike hnew) hnew.like
    refine ⟨o, rfl, (List.append_nil _).symm, ?_⟩
    simp only [bodyOccurrences_append, bodyOccurrences, itemOccurrences, occurrences,
      List.filterMap_append, filterMap_cons_eq, List.filterMap_nil, hpart outer hbody hbefore,
      hpart outer hbody hbehind, hmembers,
      hg.other (o := ⟨file, fileModule, outer, body', .other⟩) rfl]
    simp only [List.append_assoc, Option.toList_none, List.nil_append]
    refine List.Perm.append_left _ ?_
    rw [← List.append_assoc]
    exact List.perm_append_comm
  | @inside before before' behind behind' items items' enclosing b hbefore hbehind h ih =>
    obtain ⟨o, hitem, hmodule, hperm⟩ := ih (outer ++ [b]) h.imports_eq
    refine ⟨o, hitem, ?_, ?_⟩
    · rw [hmodule]
      simp only [List.append_assoc, List.singleton_append]
    · have hhead : g ⟨file, fileModule, outer, _, .module b items⟩ =
          g ⟨file, fileModule, outer, _, .module b items'⟩ :=
        hg.apply_module rfl hbody b items items'
      simp only [bodyOccurrences_append, bodyOccurrences, itemOccurrences,
        List.filterMap_append, filterMap_cons_eq, hpart outer hbody hbefore,
        hpart outer hbody hbehind, hhead]
      exact perm_around hperm

end Placeless

end ReceiverLoader.Source
