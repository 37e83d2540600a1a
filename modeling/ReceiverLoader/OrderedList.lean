/-!
# Ordered lists

Lists in strictly ascending order, as sets and as tables. `insertBy` and `putBy` keep the order; on
an equal member the first keeps what is there and the second replaces it. `get?_put_self` and
`get?_put_of_ne` say what a table holds after a change.
-/

namespace ReceiverLoader.OrderedList

variable {α : Type}

/-- Puts `a` in its place, unless an equal member is there. -/
def insertBy (order : α → α → Ordering) (a : α) : List α → List α
  | [] => [a]
  | b :: bs =>
    match order a b with
    | .lt => a :: b :: bs
    | .eq => b :: bs
    | .gt => b :: insertBy order a bs

/-- Puts `a` in its place, in the stead of an equal member. -/
def putBy (order : α → α → Ordering) (a : α) : List α → List α
  | [] => [a]
  | b :: bs =>
    match order a b with
    | .lt => a :: b :: bs
    | .eq => a :: bs
    | .gt => b :: putBy order a bs

/-- Adds a text to an ascending list of texts. -/
def insert (text : String) (texts : List String) : List String := insertBy compare text texts

/-- The texts of a list in ascending order, each once. -/
def ofList (texts : List String) : List String := texts.foldl (fun done t => insert t done) []

/-- The order of lists of texts, member by member. -/
def compareLists : List String → List String → Ordering
  | [], [] => .eq
  | [], _ :: _ => .lt
  | _ :: _, [] => .gt
  | a :: as, b :: bs => (compare a b).then (compareLists as bs)

/-- The order of pairs by their keys. -/
def compareKeys {β : Type} (a b : String × β) : Ordering := compare a.1 b.1

/-- Gives `key` a value in a table in ascending order of keys. -/
def put {β : Type} (key : String) (value : β) (table : List (String × β)) : List (String × β) :=
  putBy compareKeys (key, value) table

/-- The value of `key` in a table. -/
def get? {β : Type} (key : String) : List (String × β) → Option β
  | [] => none
  | (k, v) :: rest => if k = key then some v else get? key rest

theorem compareKeys_eq_iff {β : Type} {a b : String × β} : compareKeys a b = .eq ↔ a.1 = b.1 :=
  Std.LawfulEqOrd.compare_eq_iff_eq

/-- Each key has the value it was given last. -/
theorem get?_put_self {β : Type} (key : String) (value : β)
    (table : List (String × β)) : get? key (put key value table) = some value := by
  induction table with
  | nil => simp [put, putBy, get?]
  | cons e rest ih =>
    unfold put putBy
    split
    · simp [get?]
    · simp [get?]
    · rename_i h
      have hne : e.1 ≠ key := by
        intro he
        rw [compareKeys_eq_iff.mpr he.symm] at h
        cases h
      simpa [put, get?, hne] using ih

/-- The values of other keys stay. -/
theorem get?_put_of_ne {β : Type} {key other : String} (h : other ≠ key) (value : β)
    (table : List (String × β)) : get? other (put key value table) = get? other table := by
  induction table with
  | nil => simp [put, putBy, get?, h.symm]
  | cons e rest ih =>
    unfold put putBy
    split
    · simp [get?, h.symm]
    · rename_i he
      have he : key = e.1 := compareKeys_eq_iff.mp he
      subst he
      simp [get?, h.symm]
    · by_cases he : e.1 = other
      · simp [get?, he]
      · simpa [put, get?, he] using ih

end ReceiverLoader.OrderedList
