import ReceiverLoader.OrderedList

/-!
# Insertion into ordered lists

* `ascending_insertBy`: insertion keeps a list in strictly ascending order.
* `mem_insertBy`: the new member is kept iff no equal one is there.
* `mem_foldl_insertBy`: of the members that are equal under the order, the list that is built by
  insertion keeps the first.
* `eq_of_ascending`: an ascending list is determined by its members.
* `findSome?_of_ascending`: what is found first in an ascending list is found at the least member.
* `ascending_mergeSort`: sorting gives an ascending list if all members differ under the order.
* `get?_putAll`: a table into which entries were put gives each key its last value.
-/

namespace ReceiverLoader.OrderedList

open Std (TransCmp OrientedCmp ReflCmp LawfulEqCmp)

variable {α : Type} {order : α → α → Ordering}

/-- Each member comes before those behind it. -/
def Ascending (order : α → α → Ordering) (l : List α) : Prop :=
  l.Pairwise fun a b => order a b = .lt

theorem ascending_nil : Ascending order [] := List.Pairwise.nil

theorem mem_of_mem_insertBy {a b : α} {l : List α} (h : b ∈ insertBy order a l) :
    b = a ∨ b ∈ l := by
  induction l with
  | nil => exact Or.inl (List.mem_singleton.mp h)
  | cons c l ih =>
    unfold insertBy at h
    split at h
    · exact List.mem_cons.mp h
    · exact Or.inr h
    · rcases List.mem_cons.mp h with rfl | h
      · exact Or.inr List.mem_cons_self
      · exact (ih h).imp_right (List.mem_cons_of_mem c)

theorem mem_insertBy_of_mem {a b : α} {l : List α} (h : b ∈ l) : b ∈ insertBy order a l := by
  induction l with
  | nil => cases h
  | cons c l ih =>
    unfold insertBy
    split
    · exact List.mem_cons_of_mem a h
    · exact h
    · rcases List.mem_cons.mp h with rfl | h
      · exact List.mem_cons_self
      · exact List.mem_cons_of_mem c (ih h)

/-- After the insertion of `a` a member is equal to it under the order. -/
theorem exists_eq_insertBy (order : α → α → Ordering) [ReflCmp order] (a : α) (l : List α) :
    ∃ b ∈ insertBy order a l, order a b = .eq := by
  induction l with
  | nil => exact ⟨a, List.mem_singleton_self a, ReflCmp.compare_self⟩
  | cons c l ih =>
    unfold insertBy
    split
    · exact ⟨a, List.mem_cons_self, ReflCmp.compare_self⟩
    · rename_i h
      exact ⟨c, List.mem_cons_self, h⟩
    · obtain ⟨b, hb, hab⟩ := ih
      exact ⟨b, List.mem_cons_of_mem c hb, hab⟩

theorem ascending_insertBy [TransCmp order] (a : α) {l : List α} (h : Ascending order l) :
    Ascending order (insertBy order a l) := by
  induction l with
  | nil => exact List.pairwise_singleton _ a
  | cons c l ih =>
    obtain ⟨hc, hl⟩ := List.pairwise_cons.mp h
    unfold insertBy
    split
    · rename_i hac
      refine List.pairwise_cons.mpr ⟨fun b hb => ?_, h⟩
      rcases List.mem_cons.mp hb with rfl | hb
      · exact hac
      · exact TransCmp.lt_trans hac (hc b hb)
    · exact h
    · rename_i hac
      refine List.pairwise_cons.mpr ⟨fun b hb => ?_, ih hl⟩
      rcases mem_of_mem_insertBy hb with rfl | hb
      · exact OrientedCmp.lt_of_gt hac
      · exact hc b hb

/-- Insertion adds `a` unless an equal member is there. -/
theorem mem_insertBy [TransCmp order] {a b : α} {l : List α} (h : Ascending order l) :
    b ∈ insertBy order a l ↔ b ∈ l ∨ b = a ∧ ∀ c ∈ l, order a c ≠ .eq := by
  induction l with
  | nil => simp [insertBy]
  | cons c l ih =>
    obtain ⟨hc, hl⟩ := List.pairwise_cons.mp h
    unfold insertBy
    split
    · rename_i hac
      have hne : ∀ d ∈ c :: l, order a d ≠ .eq := by
        intro d hd
        rcases List.mem_cons.mp hd with rfl | hd
        · rw [hac]; simp
        · rw [TransCmp.lt_trans hac (hc d hd)]; simp
      rw [List.mem_cons, or_comm]
      exact or_congr_right ⟨fun hb => ⟨hb, hne⟩, And.left⟩
    · rename_i hac
      refine ⟨Or.inl, fun hb => hb.elim id fun ⟨_, hne⟩ => ?_⟩
      exact absurd hac (hne c List.mem_cons_self)
    · rename_i hac
      have hne : order a c ≠ .eq := by rw [hac]; simp
      simp only [List.mem_cons, ih hl, forall_eq_or_imp, or_assoc, hne, ne_eq, not_false_eq_true,
        true_and]

/-- Where no member is equal to `a` under the order, insertion adds `a` and moves nothing else. -/
theorem perm_insertBy {a : α} {l : List α} (h : ∀ b ∈ l, order a b ≠ .eq) :
    (insertBy order a l).Perm (a :: l) := by
  induction l with
  | nil => exact .refl [a]
  | cons b l ih =>
    unfold insertBy
    split
    · exact .refl _
    · rename_i hab
      exact absurd hab (h b List.mem_cons_self)
    · exact ((ih fun c hc => h c (List.mem_cons_of_mem b hc)).cons b).trans (.swap a b l)

/-- The list built by insertion is ascending. -/
theorem ascending_foldl_insertBy [TransCmp order] (l : List α) {done : List α}
    (h : Ascending order done) :
    Ascending order (l.foldl (fun done a => insertBy order a done) done) := by
  induction l generalizing done with
  | nil => exact h
  | cons a l ih => exact ih (ascending_insertBy a h)

/-- Of the members that are equal to `a` the first is kept, and only if none was there before. -/
theorem mem_foldl_insertBy [TransCmp order] {a : α} (l : List α) {done : List α}
    (h : Ascending order done) :
    a ∈ l.foldl (fun done a => insertBy order a done) done ↔
      a ∈ done ∨ (∀ c ∈ done, order c a ≠ .eq) ∧ l.find? (fun b => order b a == .eq) = some a := by
  induction l generalizing done with
  | nil => simp
  | cons b l ih =>
    rw [List.foldl_cons, ih (ascending_insertBy b h), mem_insertBy h, List.find?_cons]
    by_cases hba : order b a = .eq
    · -- An equal member is there now, so that only `b` itself can have become a member.
      have hfalse : ¬ ∀ c ∈ insertBy order b done, order c a ≠ .eq := by
        obtain ⟨c, hc, hbc⟩ := exists_eq_insertBy order b done
        exact fun hall => hall c hc (TransCmp.eq_trans (OrientedCmp.eq_symm hbc) hba)
      have hiff : (∀ c ∈ done, order b c ≠ .eq) ↔ ∀ c ∈ done, order c a ≠ .eq := by
        refine forall₂_congr fun c _ => not_congr ?_
        rw [TransCmp.congr_left hba, OrientedCmp.eq_comm]
      simp only [hfalse, false_and, or_false, hba, beq_self_eq_true, Option.some.injEq, hiff]
      rw [and_comm, eq_comm]
    · have hne : a ≠ b := fun e => hba (e ▸ ReflCmp.compare_self)
      have hiff : (∀ c ∈ insertBy order b done, order c a ≠ .eq) ↔ ∀ c ∈ done, order c a ≠ .eq := by
        refine ⟨fun hall c hc => hall c (mem_insertBy_of_mem hc), fun hall c hc => ?_⟩
        rcases mem_of_mem_insertBy hc with rfl | hc
        · exact hba
        · exact hall c hc
      have hfind : (order b a == .eq) = false := beq_eq_false_iff_ne.mpr hba
      simp only [hne, false_and, or_false, hiff, hfind]

/-- Where only equal members are equal under the order, insertion adds `a` and nothing else. -/
theorem mem_insertBy_of_lawful [LawfulEqCmp order] {a b : α} {l : List α} :
    b ∈ insertBy order a l ↔ b = a ∨ b ∈ l := by
  refine ⟨mem_of_mem_insertBy, ?_⟩
  rintro (rfl | hb)
  · obtain ⟨c, hc, hbc⟩ := exists_eq_insertBy order b l
    exact LawfulEqCmp.eq_of_compare hbc ▸ hc
  · exact mem_insertBy_of_mem hb

/-- Where only equal members are equal under the order, all that is inserted becomes a member. -/
theorem mem_foldl_insertBy_of_lawful [LawfulEqCmp order] {a : α} (l : List α) {done : List α} :
    a ∈ l.foldl (fun done a => insertBy order a done) done ↔ a ∈ done ∨ a ∈ l := by
  induction l generalizing done with
  | nil => simp
  | cons b l ih =>
    rw [List.foldl_cons, ih, mem_insertBy_of_lawful, List.mem_cons, or_assoc, or_left_comm]

theorem Ascending.nodup [ReflCmp order] {l : List α} (h : Ascending order l) : l.Nodup := by
  refine List.Pairwise.imp (fun {a b} hab e => ?_) h
  have haa : order a a = .eq := ReflCmp.compare_self
  rw [← e, haa] at hab
  cases hab

/-- An ascending list is determined by its members. -/
theorem eq_of_ascending [TransCmp order] {l₁ l₂ : List α} (h₁ : Ascending order l₁)
    (h₂ : Ascending order l₂) (h : ∀ a, a ∈ l₁ ↔ a ∈ l₂) : l₁ = l₂ := by
  refine ((List.perm_ext_iff_of_nodup h₁.nodup h₂.nodup).mpr h).eq_of_pairwise ?_ h₁ h₂
  intro a b _ _ hab hba
  rw [OrientedCmp.gt_of_lt hba] at hab
  cases hab

/-- What is found first in an ascending list is found at the least member that has it. -/
theorem findSome?_of_ascending {β : Type} [OrientedCmp order] {l : List α} (h : Ascending order l)
    {f : α → Option β} {b : β} :
    l.findSome? f = some b ↔ ∃ a ∈ l, f a = some b ∧ ∀ c ∈ l, order c a = .lt → f c = none := by
  constructor
  · intro hfind
    obtain ⟨before, a, after, rfl, ha, hbefore⟩ := List.findSome?_eq_some_iff.mp hfind
    have hafter := (List.pairwise_append.mp h).2.1
    have hself : order a a = .eq := ReflCmp.compare_self
    refine ⟨a, by simp, ha, fun c hc hlt => ?_⟩
    obtain hc | hc := List.mem_append.mp hc
    · exact hbefore c hc
    · obtain rfl | hc := List.mem_cons.mp hc
      · rw [hself] at hlt
        cases hlt
      · rw [OrientedCmp.gt_of_lt ((List.pairwise_cons.mp hafter).1 c hc)] at hlt
        cases hlt
  · rintro ⟨a, hmem, ha, hless⟩
    obtain ⟨before, after, rfl⟩ := List.append_of_mem hmem
    have hbefore := (List.pairwise_append.mp h).2.2
    refine List.findSome?_eq_some_iff.mpr ⟨before, a, after, rfl, ha, fun c hc => ?_⟩
    exact hless c (List.mem_append_left _ hc) (hbefore c hc a List.mem_cons_self)

/-- Sorting brings members that differ under the order into strictly ascending order. -/
theorem ascending_mergeSort [TransCmp order] {l : List α}
    (h : l.Pairwise fun a b => order a b ≠ .eq) :
    Ascending order (l.mergeSort fun a b => (order a b).isLE) := by
  have htotal : ∀ a b, ((order a b).isLE || (order b a).isLE) = true := by
    intro a b
    have hba : order b a = (order a b).swap := OrientedCmp.eq_swap
    rw [hba]
    cases order a b <;> rfl
  have hle := List.pairwise_mergeSort (fun _ _ _ => TransCmp.isLE_trans) htotal l
  have hne : (l.mergeSort fun a b => (order a b).isLE).Pairwise fun a b => order a b ≠ .eq :=
    (List.mergeSort_perm l _).symm.pairwise h fun {_ _} hab e => hab (OrientedCmp.eq_symm e)
  refine (hle.and hne).imp fun {a b} hab => ?_
  obtain ⟨hab, hne⟩ := hab
  cases ho : order a b with
  | lt => rfl
  | eq => exact absurd ho hne
  | gt => simp [ho] at hab

/-! ## Tables -/

section Tables

variable {β : Type}

theorem get?_put (key other : String) (value : β) (table : List (String × β)) :
    get? other (put key value table) = if key = other then some value else get? other table := by
  by_cases hkey : key = other
  · rw [if_pos hkey, ← hkey, get?_put_self]
  · rw [if_neg hkey, get?_put_of_ne (Ne.symm hkey)]

/-- A table into which entries are put, one after the other. -/
def putAll (entries table : List (String × β)) : List (String × β) :=
  entries.foldl (fun table e => put e.1 e.2 table) table

theorem putAll_append (entries entries' table : List (String × β)) :
    putAll (entries ++ entries') table = putAll entries' (putAll entries table) :=
  List.foldl_append

/-- Of the entries of a key the last one holds, and what was there before only without any. -/
theorem get?_putAll (key : String) (entries table : List (String × β)) :
    get? key (putAll entries table) = (entries.reverse.lookup key).or (get? key table) := by
  induction entries generalizing table with
  | nil => rfl
  | cons e entries ih =>
    obtain ⟨k, v⟩ := e
    have hcons : putAll ((k, v) :: entries) table = putAll entries (put k v table) := rfl
    rw [hcons, ih, get?_put, List.reverse_cons, List.lookup_append, Option.or_assoc]
    by_cases hkey : k = key
    · simp [hkey]
    · have hbeq : (key == k) = false := beq_false_of_ne (Ne.symm hkey)
      simp [List.lookup_cons, hkey, hbeq]

end Tables

end ReceiverLoader.OrderedList
