import ReceiverLoader.FilePath
import ReceiverLoader.Proofs.Text.Split

/-!
# Components of paths

* `order_eq_eq_iff`: paths are equal under their order iff their components are.
* `components_join`, `components_descend`: names that are joined to a path are further components.
* `eq_of_descend`: from one path different names lead to different paths.
-/

namespace ReceiverLoader

namespace Component

/-- The characters by which components of one kind are compared. -/
def key : Component → String
  | name text => text
  | _ => ""

theorem order_eq (a b : Component) :
    a.order b = (compare a.rank b.rank).then (compare a.key b.key) := by
  cases a <;> cases b <;> rfl

instance : Std.TransCmp order := by
  have h : order = compareLex (compareOn rank) (compareOn key) := by
    funext a b
    exact order_eq a b
  rw [h]
  infer_instance

theorem eq_of_rank_of_key {a b : Component} (hr : a.rank = b.rank) (hk : a.key = b.key) :
    a = b := by
  cases a <;> cases b <;> simp_all [rank, key]

instance : Std.LawfulEqCmp order where
  compare_self := Std.ReflCmp.compare_self
  eq_of_compare {a b} h := by
    rw [order_eq, Ordering.then_eq_eq] at h
    exact eq_of_rank_of_key (Std.LawfulEqCmp.eq_of_compare h.1) (Std.LawfulEqCmp.eq_of_compare h.2)

end Component

namespace FilePath

/-! ## The order -/

theorem compareComponents_eq (as bs : List Component) :
    compareComponents as bs = List.compareLex Component.order as bs := by
  induction as generalizing bs with
  | nil => cases bs <;> rfl
  | cons a as ih =>
    cases bs with
    | nil => rfl
    | cons b bs => rw [compareComponents, List.compareLex_cons_cons, ih]

theorem order_eq (p q : FilePath) :
    p.order q = List.compareLex Component.order p.components q.components :=
  compareComponents_eq _ _

instance : Std.TransCmp order where
  eq_swap {p q} := by
    rw [order_eq, order_eq]
    exact Std.OrientedCmp.eq_swap
  isLE_trans {p q r} := by
    rw [order_eq, order_eq, order_eq]
    exact Std.TransCmp.isLE_trans

theorem order_eq_eq_iff {p q : FilePath} : p.order q = .eq ↔ p.components = q.components := by
  rw [order_eq, Std.LawfulEqCmp.compare_eq_iff_eq]

/-! ## Names that are joined to a path -/

/-- A text that is one component of every path it is joined to. -/
structure IsName (text : String) : Prop where
  ne_empty : text ≠ ""
  ne_here : text ≠ "."
  ne_parent : text ≠ ".."
  not_slash : '/' ∉ text.toList

instance (text : String) : Decidable (IsName text) :=
  decidable_of_iff (text ≠ "" ∧ text ≠ "." ∧ text ≠ ".." ∧ '/' ∉ text.toList)
    ⟨fun ⟨h₁, h₂, h₃, h₄⟩ => ⟨h₁, h₂, h₃, h₄⟩, fun ⟨h₁, h₂, h₃, h₄⟩ => ⟨h₁, h₂, h₃, h₄⟩⟩

theorem isName_of_componentOf {isFirst : Bool} {piece n : String} (hpiece : '/' ∉ piece.toList)
    (h : componentOf isFirst piece = some (.name n)) : IsName n := by
  unfold componentOf at h
  split at h
  · cases h
  · rename_i hempty
    split at h
    · split at h <;> cases h
    · rename_i hhere
      split at h
      · cases h
      · rename_i hparent
        cases h
        exact ⟨hempty, hhere, hparent, hpiece⟩

theorem isName_of_mem_componentsOf {pieces : List String} {n : String}
    (hpieces : ∀ piece ∈ pieces, '/' ∉ piece.toList) (h : .name n ∈ componentsOf pieces) :
    IsName n := by
  unfold componentsOf at h
  split at h
  · cases h
  · rename_i piece
    exact isName_of_componentOf (hpieces piece (List.mem_singleton_self piece))
      (Option.mem_toList.mp h)
  · rename_i first rest _
    rcases List.mem_append.mp h with h | h
    · have h := Option.mem_toList.mp h
      split at h
      · cases h
      · exact isName_of_componentOf (hpieces first List.mem_cons_self) h
    · obtain ⟨piece, hpiece, h⟩ := List.mem_filterMap.mp h
      exact isName_of_componentOf (hpieces piece (List.mem_cons_of_mem first hpiece)) h

/-- The names among the components of a path are names. -/
theorem isName_of_mem_components {p : FilePath} {n : String} (h : .name n ∈ p.components) :
    IsName n := by
  refine isName_of_mem_componentsOf (fun piece hpiece => ?_) h
  obtain ⟨cs, hcs, rfl⟩ := List.mem_map.mp hpiece
  rw [String.toList_ofList]
  exact Text.not_mem_of_mem_splitAtChar hcs

theorem IsName.componentOf {n : String} (h : IsName n) (isFirst : Bool) :
    componentOf isFirst n = some (.name n) := by
  rw [FilePath.componentOf, if_neg h.ne_empty, if_neg h.ne_here, if_neg h.ne_parent]

theorem IsName.not_isAbsolute {n : String} (h : IsName n) : isAbsolute ⟨n⟩ = false := by
  have hne : n.toList.head? ≠ some '/' := fun e => h.not_slash (List.mem_of_head? e)
  simpa [isAbsolute] using hne

theorem componentsOf_concat_name (first : String) (rest : List String) {n : String}
    (h : IsName n) :
    componentsOf (first :: (rest ++ [n])) =
      componentsOf (first :: (rest ++ [""])) ++ [.name n] := by
  have hcons : ∀ piece, componentsOf (first :: (rest ++ [piece])) =
      (if first = "" then some Component.root else FilePath.componentOf true first).toList ++
        (rest ++ [piece]).filterMap (FilePath.componentOf false) := by
    intro piece
    cases rest <;> rfl
  have hempty : FilePath.componentOf false "" = none := rfl
  rw [hcons, hcons, List.filterMap_append, List.filterMap_append]
  simp [h.componentOf, hempty]

theorem componentsOf_concat_empty {first : String} {rest : List String}
    (h : first ≠ "" ∨ rest ≠ []) :
    componentsOf (first :: (rest ++ [""])) = componentsOf (first :: rest) := by
  have hempty : componentOf false "" = none := rfl
  cases rest with
  | nil =>
    have hfirst : first ≠ "" := h.resolve_right (fun h => h rfl)
    simp [componentsOf, hempty, hfirst]
  | cons second rest =>
    rw [List.cons_append, componentsOf, componentsOf, ← List.cons_append, List.filterMap_append]
    · simp [hempty]
    all_goals simp

/-- A name behind a slash is a further component, where something stands before the slash. -/
theorem components_slash {p : FilePath} (hp : p.text ≠ "") {n : String} (hn : IsName n) :
    components ⟨p.text ++ "/" ++ n⟩ = p.components ++ [.name n] := by
  have hsplit : Text.splitAtChar '/' n.toList = [n.toList] :=
    Text.splitAtChar_of_not_mem hn.not_slash
  obtain ⟨first, rest, hpieces⟩ :=
    List.exists_cons_of_ne_nil (Text.splitAtChar_ne_nil '/' p.text.toList)
  have hne : String.ofList first ≠ "" ∨ rest.map String.ofList ≠ [] := by
    by_cases hrest : rest = []
    · refine Or.inl fun hfirst => hp (String.toList_eq_nil_iff.mp ?_)
      rw [hrest, String.ofList_eq_empty_iff.mp hfirst] at hpieces
      exact Text.eq_nil_of_splitAtChar hpieces
    · exact Or.inr fun h => hrest (List.map_eq_nil_iff.mp h)
  have hp' : p.components = componentsOf (String.ofList first :: rest.map String.ofList) := by
    rw [components, Text.split, hpieces, List.map_cons]
  have hslash : "/".toList = ['/'] := rfl
  rw [hp', ← componentsOf_concat_empty hne, ← componentsOf_concat_name _ _ hn, components,
    Text.split, String.toList_append, String.toList_append, hslash, List.append_assoc,
    List.singleton_append, Text.splitAtChar_append_cons, hsplit, hpieces]
  simp

/-- A name that is joined to a path is a further component. -/
theorem components_join (p : FilePath) {n : String} (hn : IsName n) :
    (p.join ⟨n⟩).components = p.components ++ [.name n] := by
  have hsplit : Text.splitAtChar '/' n.toList = [n.toList] :=
    Text.splitAtChar_of_not_mem hn.not_slash
  rw [join, hn.not_isAbsolute, if_neg Bool.false_ne_true]
  by_cases hempty : p.text = ""
  · -- Before the name stands nothing, not even a slash.
    have hp : p.components = [] := by
      rw [components, hempty]
      rfl
    have hname : components ⟨n⟩ = [.name n] := by
      rw [components, Text.split, hsplit, List.map_singleton, String.ofList_toList, componentsOf,
        hn.componentOf, Option.toList_some]
    rw [if_pos (by simp [hempty]), hempty, String.empty_append, hp, hname, List.nil_append]
  by_cases hlast : p.text.toList.getLast? = some '/'
  · -- The slash at the end divides an empty piece off, which the name takes the place of.
    obtain ⟨front, hfront⟩ := List.getLast?_eq_some_iff.mp hlast
    obtain ⟨first, rest, hpieces⟩ := List.exists_cons_of_ne_nil (Text.splitAtChar_ne_nil '/' front)
    have hp : p.components = componentsOf (String.ofList first ::
        (rest.map String.ofList ++ [""])) := by
      rw [components, Text.split, hfront, Text.splitAtChar_append_cons, hpieces]
      simp [Text.splitAtChar]
    rw [hp, ← componentsOf_concat_name _ _ hn, if_pos (by simp [hlast]),
      components, Text.split, String.toList_append, hfront, List.append_assoc,
      List.singleton_append, Text.splitAtChar_append_cons, hsplit, hpieces]
    simp
  · rw [if_neg (by simp [hlast, hempty]), components_slash hempty hn]

theorem text_join_ne_empty (p : FilePath) {n : String} (hn : IsName n) :
    (p.join ⟨n⟩).text ≠ "" := by
  rw [join, hn.not_isAbsolute, if_neg (by simp)]
  split <;> simp [hn.ne_empty]

/-- Names that are joined to a path are further components. -/
theorem components_descend {p : FilePath} (hp : p.text ≠ "") {names : List String}
    (h : ∀ n ∈ names, IsName n) :
    (p.descend names).components = p.components ++ names.map .name := by
  induction names generalizing p with
  | nil => simp [descend]
  | cons n names ih =>
    obtain ⟨hn, hnames⟩ := List.forall_mem_cons.mp h
    have hdescend : p.descend (n :: names) = (p.join ⟨n⟩).descend names := rfl
    rw [hdescend, ih (text_join_ne_empty p hn) hnames, components_join p hn]
    simp

/-- From one path different names lead to different paths. -/
theorem eq_of_descend {p : FilePath} (hp : p.text ≠ "") {names names' : List String}
    (h : ∀ n ∈ names, IsName n) (h' : ∀ n ∈ names', IsName n)
    (heq : (p.descend names).components = (p.descend names').components) : names = names' := by
  rw [components_descend hp h, components_descend hp h'] at heq
  exact (List.map_inj_right fun _ _ => Component.name.inj).mp (List.append_cancel_left heq)

end FilePath

end ReceiverLoader
