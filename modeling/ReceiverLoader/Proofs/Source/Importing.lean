import ReceiverLoader.Proofs.Source.Spelling

/-!
# What imports stand for

`Brings` says which name a `use` tree brings into scope, and for which path, by the rules of the
language. A path that begins with such a name stands for the path that was imported.

* `mem_bindings_iff`: the names that are found in a `use` tree are those that it brings.
* `absolute_settled`: when a path means the same in a `use` item and elsewhere.
* `resolve_imported`, `resolve_direct`: paths that begin with an imported name, and those that do
  not.
-/

namespace ReceiverLoader.Source

open Grammar (Path UseTree Item)

/-! ## What `use` items bring into scope -/

/-- A `use` tree behind the segments `outer` brings `name` into scope, for the path with the
segments `target`. -/
inductive Brings : List String → UseTree → String → List String → Prop
  | inside {outer target : List String} {segment name : String} {tree : UseTree} :
      Brings (outer ++ [segment]) tree name target → Brings outer (.path segment tree) name target
  | plain {outer : List String} {name : String} : name ≠ "self" →
      Brings outer (.name name) name (outer ++ [name])
  /-- The module itself has the name of its last segment. -/
  | itself {outer : List String} {last : String} : outer.getLast? = some last →
      Brings outer (.name "self") last outer
  | renamed {outer : List String} {original name : String} : original ≠ "self" →
      Brings outer (.rename original name) name (outer ++ [original])
  | itselfRenamed {outer : List String} {name : String} :
      Brings outer (.rename "self" name) name outer
  | grouped {outer target : List String} {name : String} {trees : List UseTree} {tree : UseTree} :
      tree ∈ trees → Brings outer tree name target → Brings outer (.group trees) name target

mutual

theorem mem_bindings_iff {name : String} {colon : Bool} {target : List String} :
    ∀ (outer : Path) (tree : UseTree), (name, ⟨colon, target⟩) ∈ bindings outer tree ↔
      colon = outer.leadingColon ∧ Brings outer.segments tree name target
  | outer, .path segment tree => by
    rw [bindings, mem_bindings_iff (extend outer segment) tree]
    refine and_congr_right fun _ => ⟨.inside, fun h => ?_⟩
    cases h with
    | inside h => exact h
  | outer, .name other => by
    rw [bindings]
    split
    · rename_i hself
      subst hself
      constructor
      · intro h
        obtain ⟨last, hlast, heq⟩ := Option.map_eq_some_iff.mp (Option.mem_toList.mp h)
        cases heq
        exact ⟨rfl, .itself hlast⟩
      · rintro ⟨rfl, h⟩
        cases h with
        | plain hself => exact absurd rfl hself
        | itself hlast =>
          rw [hlast]
          exact List.mem_singleton_self _
    · rename_i hself
      rw [List.mem_singleton]
      constructor
      · intro h
        cases h
        exact ⟨rfl, .plain hself⟩
      · rintro ⟨rfl, h⟩
        cases h with
        | plain => rfl
        | itself => exact absurd rfl hself
  | outer, .rename original other => by
    rw [bindings, List.mem_singleton]
    split
    · rename_i hself
      subst hself
      constructor
      · intro h
        cases h
        exact ⟨rfl, .itselfRenamed⟩
      · rintro ⟨rfl, h⟩
        cases h with
        | renamed hself => exact absurd rfl hself
        | itselfRenamed => rfl
    · rename_i hself
      constructor
      · intro h
        cases h
        exact ⟨rfl, .renamed hself⟩
      · rintro ⟨rfl, h⟩
        cases h with
        | renamed => rfl
        | itselfRenamed => exact absurd rfl hself
  | outer, .glob => by
    rw [bindings]
    refine iff_of_false List.not_mem_nil fun ⟨_, h⟩ => ?_
    cases h
  | outer, .group trees => by
    rw [bindings, mem_groupBindings_iff outer trees]
    refine and_congr_right fun _ => ⟨fun ⟨tree, htree, h⟩ => .grouped htree h, fun h => ?_⟩
    cases h with
    | grouped htree h => exact ⟨_, htree, h⟩

theorem mem_groupBindings_iff {name : String} {colon : Bool} {target : List String} :
    ∀ (outer : Path) (trees : List UseTree), (name, ⟨colon, target⟩) ∈ groupBindings outer trees ↔
      colon = outer.leadingColon ∧ ∃ tree ∈ trees, Brings outer.segments tree name target
  | outer, [] => by
    rw [groupBindings]
    exact iff_of_false List.not_mem_nil fun ⟨_, _, h, _⟩ => absurd h List.not_mem_nil
  | outer, tree :: trees => by
    rw [groupBindings, List.mem_append, mem_bindings_iff outer tree,
      mem_groupBindings_iff outer trees, ← and_or_left]
    simp only [List.mem_cons, exists_eq_or_imp]

end

/-- A `use` item of the body brings `name` into scope for this path. -/
def ImportedFrom (body : List Item) (name : String) (path : Path) : Prop :=
  ∃ tree, .use path.leadingColon tree ∈ body ∧ Brings [] tree name path.segments

theorem importedFrom_iff {body : List Item} {name : String} {path : Path} :
    ImportedFrom body name path ↔ (name, path) ∈ body.flatMap itemBindings := by
  rw [List.mem_flatMap]
  constructor
  · rintro ⟨tree, htree, h⟩
    exact ⟨_, htree, (mem_bindings_iff _ tree).mpr ⟨rfl, h⟩⟩
  · rintro ⟨item, hitem, h⟩
    cases item with
    | use colon tree =>
      obtain ⟨rfl, h⟩ := (mem_bindings_iff ⟨colon, []⟩ tree).mp h
      exact ⟨tree, hitem, h⟩
    | _ => exact absurd h List.not_mem_nil

/-- The body brings `name` into scope for this path, and for no other one. -/
def SolelyFrom (body : List Item) (name : String) (path : Path) : Prop :=
  ImportedFrom body name path ∧ ∀ other, ImportedFrom body name other → other = path

theorem binds_iff {body : List Item} {name : String} :
    Binds body name ↔ ∃ path, ImportedFrom body name path := by
  simp only [importedFrom_iff, List.mem_flatMap, Binds]
  exact ⟨fun ⟨item, hitem, path, h⟩ => ⟨path, item, hitem, h⟩,
    fun ⟨path, item, hitem, h⟩ => ⟨item, hitem, path, h⟩⟩

/-- A name that is brought into scope stands for a path that it was brought in for. -/
theorem exists_get?_imports {body : List Item} {name : String} (h : Binds body name) :
    ∃ path, ImportedFrom body name path ∧ OrderedList.get? name (imports body) = some path := by
  rw [get?_imports]
  cases hlookup : (body.flatMap itemBindings).reverse.lookup name with
  | none =>
    obtain ⟨item, hitem, path, hmem⟩ := h
    have hne := List.lookup_eq_none_iff.mp hlookup (name, path)
      (List.mem_reverse.mpr (List.mem_flatMap.mpr ⟨item, hitem, hmem⟩))
    exact absurd rfl (bne_iff_ne.mp hne)
  | some path =>
    obtain ⟨before, behind, heq, -⟩ := List.lookup_eq_some_iff.mp hlookup
    have hmem : (name, path) ∈ (body.flatMap itemBindings).reverse := by
      rw [heq]
      exact List.mem_append_right _ List.mem_cons_self
    exact ⟨path, importedFrom_iff.mpr (List.mem_reverse.mp hmem), rfl⟩

theorem get?_imports_of_solelyFrom {body : List Item} {name : String} {path : Path}
    (h : SolelyFrom body name path) : OrderedList.get? name (imports body) = some path := by
  obtain ⟨hfrom, hsole⟩ := h
  obtain ⟨other, hother, hget⟩ := exists_get?_imports (binds_iff.mpr ⟨path, hfrom⟩)
  rw [hget, hsole other hother]

/-! ## What imports stand for -/

/-- In `module`, the path means the same in a `use` item and elsewhere: it is more than a lone name,
or a name that stands for a module. In a `use` item any other lone name is that of another crate,
elsewhere it is that of an item of the module. -/
def IsSettled (modules : List (List String)) (module : List String) (path : Path) : Prop :=
  path.leadingColon = true ∨ path.segments.length ≠ 1 ∨
    ∃ first, path.segments.head? = some first ∧
      (first ∈ ["crate", "self", "super"] ∨ module ++ [first] ∈ modules)

theorem absolute_settled {modules : List (List String)} {module : List String} {path : Path}
    (h : IsSettled modules module path) (root : String) :
    absolute root modules module path false = absolute root modules module path true := by
  obtain ⟨colon, segments⟩ := path
  cases segments with
  | nil => rfl
  | cons first rest =>
    by_cases hword : colon = true ∨ first = "crate" ∨ first = "self" ∨ first = "super"
    · rcases hword with rfl | rfl | rfl | rfl
      · rfl
      all_goals cases colon <;> rfl
    · obtain ⟨hcolon, hcrate, hself, hsuper⟩ := by simpa only [not_or] using hword
      have hlocal : (modules.contains (module ++ [first]) || (false && rest.isEmpty)) =
          (modules.contains (module ++ [first]) || (true && rest.isEmpty)) := by
        rcases h with h | h | ⟨name, hname, h⟩
        · exact absurd h hcolon
        · have hrest : rest.isEmpty = false := by
            cases rest with
            | nil => exact absurd rfl h
            | cons => rfl
          rw [hrest]
          rfl
        · obtain rfl : first = name := Option.some.inj hname
          have hmem : modules.contains (module ++ [first]) = true := by
            refine List.contains_iff_mem.mpr (h.resolve_left fun hword => ?_)
            simp [hcrate, hself, hsuper] at hword
          rw [hmem, Bool.true_or, Bool.true_or]
      simp only [absolute]
      rw [hlocal]

/-- A lone name that is imported and stands for no module is that of another crate. -/
theorem absolute_foreign {root name : String} {modules : List (List String)} {module : List String}
    (h : ¬ IsSettled modules module ⟨false, [name]⟩) :
    absolute root modules module ⟨false, [name]⟩ false = [name] := by
  have hword : name ∉ ["crate", "self", "super"] := fun hword =>
    h (Or.inr (Or.inr ⟨name, rfl, Or.inl hword⟩))
  have hmodule : modules.contains (module ++ [name]) = false :=
    Bool.eq_false_iff.mpr fun hmem =>
      h (Or.inr (Or.inr ⟨name, rfl, Or.inr (List.contains_iff_mem.mp hmem)⟩))
  simp only [List.mem_cons, List.not_mem_nil, or_false, not_or] at hword
  obtain ⟨hcrate, hself, hsuper⟩ := hword
  simp only [absolute]
  rw [if_neg Bool.false_ne_true, if_neg hcrate, if_neg hself, if_neg hsuper, hmodule, Bool.false_or,
    Bool.false_and, if_neg Bool.false_ne_true]

/-- The path with these segments behind it. -/
def beyond (path : Path) (rest : List String) : Path :=
  { path with segments := path.segments ++ rest }

/-- A path that begins with an imported name stands for what was imported, with the rest behind
it. -/
theorem resolve_imported {root name : String} {modules : List (List String)}
    {module : List String} {body : List Item} {path : Path} (h : SolelyFrom body name path)
    (rest : List String) :
    resolve root modules ⟨module, imports body⟩ ⟨false, name :: rest⟩ =
      QualifiedName.ofSegments (absolute root modules module (beyond path rest) false) := by
  have himport : importOf ⟨module, imports body⟩ ⟨false, name :: rest⟩ = some path :=
    get?_imports_of_solelyFrom h
  rw [resolve, himport]
  rfl

/-- A path whose first segment is not imported stands for itself. -/
theorem resolve_direct {root : String} {modules : List (List String)} {module : List String}
    {body : List Item} {path : Path}
    (hfree : path.leadingColon = false → ∀ first, path.segments.head? = some first →
      ∀ other, ¬ ImportedFrom body first other) :
    resolve root modules ⟨module, imports body⟩ path =
      QualifiedName.ofSegments (absolute root modules module path true) := by
  have himport : importOf ⟨module, imports body⟩ path = none := by
    rw [importOf]
    split
    · rfl
    · rename_i hcolon
      cases hfirst : path.segments.head? with
      | none => rfl
      | some first =>
        refine get?_imports_of_not_binds fun hbinds => ?_
        obtain ⟨other, hother⟩ := binds_iff.mp hbinds
        exact hfree (Bool.eq_false_iff.mpr hcolon) first hfirst other hother
  rw [resolve, himport]

end ReceiverLoader.Source
