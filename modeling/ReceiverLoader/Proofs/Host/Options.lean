import ReceiverLoader.Host
import ReceiverLoader.Proofs.OrderedList

/-!
# The options of a host

* `lastValue?`: the value that a list of settings gives to a key in the end.
* `lastValue?_foldl_put`: a table into which settings were put gives each key its last value.
* `option?_setOptions`: options that are set from left to right have their last values.
-/

namespace ReceiverLoader

/-- The last value of a key. -/
def lastValue? (key : String) (settings : List (String × String)) : Option String :=
  (settings.reverse.find? fun o => o.1 == key).map (·.2)

theorem lastValue?_eq_lookup (key : String) (os : List (String × String)) :
    lastValue? key os = os.reverse.lookup key := by
  rw [lastValue?]
  induction os.reverse with
  | nil => rfl
  | cons o os ih =>
    obtain ⟨k, v⟩ := o
    by_cases hkey : k = key
    · simp [hkey]
    · have hbeq : (key == k) = false := beq_false_of_ne (Ne.symm hkey)
      simp [List.lookup_cons, hkey, hbeq, ih]

theorem lastValue?_cons (key : String) (o : String × String) (os : List (String × String)) :
    lastValue? key (o :: os) =
      (lastValue? key os).or (if o.1 = key then some o.2 else none) := by
  rw [lastValue?, List.reverse_cons, List.find?_append, Option.map_or, lastValue?]
  by_cases hkey : o.1 = key
  · simp [hkey]
  · simp [hkey]

theorem lastValue?_append (key : String) (os os' : List (String × String)) :
    lastValue? key (os ++ os') = (lastValue? key os').or (lastValue? key os) := by
  rw [lastValue?, List.reverse_append, List.find?_append, Option.map_or]
  rfl

/-- Of settings that are sifted by their keys the keys that stay keep their last values. -/
theorem lastValue?_filter (test : String → Bool) (key : String) (os : List (String × String)) :
    lastValue? key (os.filter fun o => test o.1) =
      if test key then lastValue? key os else none := by
  induction os with
  | nil => simp [lastValue?]
  | cons o os ih =>
    rw [lastValue?_cons]
    cases ho : test o.1 with
    | true =>
      simp only [List.filter_cons, ho, ↓reduceIte, lastValue?_cons, ih]
      by_cases hkey : o.1 = key
      · simp [← hkey, ho]
      · simp [hkey]
    | false =>
      simp only [List.filter_cons, ho, Bool.false_eq_true, ↓reduceIte, ih]
      by_cases hkey : o.1 = key
      · simp [← hkey, ho]
      · simp [hkey]

namespace OrderedList

/-- Values that are put into a table from left to right stand before those in it. -/
theorem get?_foldl_put (key : String) (os table : List (String × String)) :
    get? key (os.foldl (fun table o => put o.1 o.2 table) table) =
      (lastValue? key os).or (get? key table) := by
  rw [lastValue?_eq_lookup]
  exact get?_putAll key os table

/-- Each key stands in a table once, in its place. -/
theorem keys_put (key value : String) (table : List (String × String)) :
    (put key value table).map (·.1) = insertBy compare key (table.map (·.1)) := by
  unfold put
  induction table with
  | nil => rfl
  | cons e table ih =>
    have hcompare : compareKeys (key, value) e = compare key e.1 := rfl
    rw [List.map_cons, putBy, insertBy, hcompare]
    cases hkey : compare key e.1 with
    | lt => rfl
    | eq => rw [List.map_cons, Std.LawfulEqCmp.eq_of_compare hkey]
    | gt => rw [List.map_cons, ih]

theorem ascending_keys_foldl_put (os : List (String × String)) {table : List (String × String)}
    (h : Ascending compare (table.map (·.1))) :
    Ascending compare ((os.foldl (fun table o => put o.1 o.2 table) table).map (·.1)) := by
  induction os generalizing table with
  | nil => exact h
  | cons o os ih =>
    refine ih ?_
    rw [keys_put]
    exact ascending_insertBy o.1 h

theorem get?_eq_none {key : String} {table : List (String × String)}
    (h : key ∉ table.map (·.1)) : get? key table = none := by
  induction table with
  | nil => rfl
  | cons e table ih =>
    rw [List.map_cons, List.mem_cons, not_or] at h
    rw [get?, if_neg (Ne.symm h.1), ih h.2]

/-- Where no key stands twice, its first value is the last one. -/
theorem lastValue?_eq_get? {table : List (String × String)} (h : (table.map (·.1)).Nodup)
    (key : String) : lastValue? key table = get? key table := by
  induction table with
  | nil => rfl
  | cons e table ih =>
    obtain ⟨he, htable⟩ := List.nodup_cons.mp h
    rw [lastValue?_cons, ih htable, get?]
    by_cases hkey : e.1 = key
    · rw [if_pos hkey, if_pos hkey, ← hkey, get?_eq_none he, Option.none_or]
    · rw [if_neg hkey, if_neg hkey, Option.or_none]

/-- A table into which settings were put gives each key its last value. -/
theorem lastValue?_foldl_put (key : String) (os : List (String × String)) :
    lastValue? key (os.foldl (fun table o => put o.1 o.2 table) []) = lastValue? key os := by
  have hascending : Ascending compare
      ((os.foldl (fun table o => put o.1 o.2 table) []).map (·.1)) :=
    ascending_keys_foldl_put os ascending_nil
  rw [lastValue?_eq_get? hascending.nodup, get?_foldl_put]
  exact Option.or_none

end OrderedList

namespace Host

theorem setOptions_eq (h : Host) (os : List (String × String)) :
    h.setOptions os =
      { h with options := os.foldl (fun table o => OrderedList.put o.1 o.2 table) h.options } := by
  unfold setOptions
  induction os generalizing h with
  | nil => rfl
  | cons o os ih =>
    rw [List.foldl_cons, ih]
    rfl

/-- Options that are set have their last values, and the others stay. -/
theorem option?_setOptions (h : Host) (os : List (String × String)) (key : String) :
    (h.setOptions os).option? key = (lastValue? key os).or (h.option? key) := by
  rw [setOptions_eq]
  exact OrderedList.get?_foldl_put key os h.options

end Host

end ReceiverLoader
