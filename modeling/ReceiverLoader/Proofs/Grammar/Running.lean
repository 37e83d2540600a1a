import ReceiverLoader.Proofs.Grammar.Refines

/-!
# Running parsers

What parsers give on trees that are known, and what is known of trees that a parser has read.

* `bind_eq_ok`, `bind_of_ok`: a sequence succeeds step by step.
* `manyWhile_cons`: a list of readings is the first of them and the list of those behind it.
-/

namespace ReceiverLoader.Grammar

open Token (Position Tree Delimiter)

variable {ε α β : Type} {scopeEnd : Position}

/-- A sequence succeeds if each of its steps does. -/
theorem bind_eq_ok {p : Reading ε α} {f : α → Reading ε β} {s : Progress} {r : β × Progress} :
    (p >>= f) scopeEnd s = .ok r ↔
      ∃ a s', p scopeEnd s = .ok (a, s') ∧ f a scopeEnd s' = .ok r := by
  rw [bind_apply]
  constructor
  · intro h
    split at h
    · exact ⟨_, _, ‹_›, h⟩
    · cases h
  · rintro ⟨a, s', hp, hf⟩
    rw [hp]
    exact hf

theorem bind_of_ok {p : Reading ε α} {f : α → Reading ε β} {s s' : Progress} {a : α}
    (h : p scopeEnd s = .ok (a, s')) : (p >>= f) scopeEnd s = f a scopeEnd s' := by
  rw [bind_apply, h]

theorem ite_apply {c : Prop} [Decidable c] (p q : Reading ε α) (s : Progress) :
    (if c then p else q) scopeEnd s = if c then p scopeEnd s else q scopeEnd s := by
  split <;> rfl

/-- The progress once the next `n` trees have been read as they are. -/
def Progress.past (s : Progress) (n : Nat) : Progress :=
  { s with trees := s.trees.drop n, written := (s.trees.take n).reverse ++ s.written }

namespace Parser

theorem ahead_apply (test : Ahead) (s : Progress) :
    ahead test scopeEnd s = .ok (test s.trees, s) := rfl

theorem word_apply (p : Position) (w : String) (ts : List Tree) (stray : Option Stray)
    (written : List Tree) :
    word scopeEnd ⟨.leaf p (.word w) :: ts, stray, written⟩ =
      .ok (w, ⟨ts, stray, .leaf p (.word w) :: written⟩) := rfl

theorem mark?_apply (text : String) (s : Progress) :
    mark? text scopeEnd s =
      if Ahead.mark text s.trees then .ok (true, s.past text.length) else .ok (false, s) := by
  unfold mark?
  rw [bind_of_ok (ahead_apply ..), ite_apply]
  rfl

theorem mark?_of {text : String} {s : Progress} (h : Ahead.mark text s.trees = true) :
    mark? text scopeEnd s = .ok (true, s.past text.length) := by
  rw [mark?_apply, if_pos h]

theorem mark?_of_not {text : String} {s : Progress} (h : Ahead.mark text s.trees = false) :
    mark? text scopeEnd s = .ok (false, s) := by
  rw [mark?_apply, h, if_neg Bool.false_ne_true]

theorem markIf?_apply (allowed : Bool) (text : String) (s : Progress) :
    markIf? allowed text scopeEnd s =
      if allowed && Ahead.mark text s.trees then .ok (true, s.past text.length)
      else .ok (false, s) := by
  cases allowed with
  | false => rfl
  | true => exact mark?_apply text s

theorem want_ne_ok {what : Wanted} {s : Progress} {r : α × Progress} :
    want what scopeEnd s ≠ .ok r := by
  intro h
  obtain ⟨_, _, _, h⟩ := bind_eq_ok.mp h
  obtain ⟨_, _, _, h⟩ := bind_eq_ok.mp h
  cases h

theorem mark_eq_ok {text : String} {s s' : Progress} {u : Unit}
    (h : mark text scopeEnd s = .ok (u, s')) :
    Ahead.mark text s.trees = true ∧ s' = s.past text.length := by
  unfold mark at h
  rw [bind_of_ok (ahead_apply ..), ite_apply] at h
  split at h
  · cases h
    exact ⟨‹_›, rfl⟩
  · exact absurd h want_ne_ok

theorem openGroup_apply (d : Delimiter) (p : Parser α) (opens closes : Position)
    (body ts : List Tree) (stray : Option Stray) (written : List Tree) :
    openGroup d p scopeEnd ⟨.group opens closes d body :: ts, stray, written⟩ =
      match p closes ⟨body, stray, []⟩ with
      | .ok (a, inner) =>
        .ok ((a, leftOver d inner.trees),
          ⟨ts, inner.stray, .group opens closes d inner.written.reverse :: written⟩)
      | .error error => .error error :=
  if_pos rfl

/-- What is opened is a group, and the parser has read its members. -/
theorem openGroup_eq_ok {d : Delimiter} {p : Parser α} {s s' : Progress} {r : α × Option Stray}
    (h : openGroup d p scopeEnd s = .ok (r, s')) :
    ∃ opens closes body inner, s.trees = .group opens closes d body :: s'.trees ∧
      p closes ⟨body, s.stray, []⟩ = .ok (r.1, inner) := by
  unfold openGroup at h
  split at h
  · rename_i htrees
    split at h
    · subst d
      split at h
      · rename_i hread
        cases h
        exact ⟨_, _, _, _, htrees, hread⟩
      · cases h
    · cases h
  · cases h
  · cases h

theorem group_eq_ok {d : Delimiter} {p : Parser α} {s s' : Progress} {a : α}
    (h : group d p scopeEnd s = .ok (a, s')) :
    ∃ opens closes body inner, s.trees = .group opens closes d body :: s'.trees ∧
      p closes ⟨body, s.stray, []⟩ = .ok (a, inner) := by
  obtain ⟨⟨b, stray⟩, s₁, hopen, h⟩ := bind_eq_ok.mp h
  obtain ⟨_, s₂, hrecord, h⟩ := bind_eq_ok.mp h
  cases hrecord
  cases h
  exact openGroup_eq_ok hopen

theorem capture_eq_ok {p : Parser α} {s s' : Progress} {a : α} {ts : List Tree} :
    capture p scopeEnd s = .ok ((a, ts), s') ↔
      ∃ s₁, p scopeEnd { s with written := [] } = .ok (a, s₁) ∧ ts = s₁.written.reverse ∧
        s' = { s₁ with written := s.written } := by
  unfold capture
  constructor
  · intro h
    split at h
    · cases h
      exact ⟨_, ‹_›, rfl, rfl⟩
    · cases h
  · rintro ⟨s₁, hp, rfl, rfl⟩
    rw [hp]

/-! ## Loops -/

theorem loopFor_apply {σ : Type} (turn : σ → Parser (Turn σ α)) (rest : σ → α) (bound : List Tree)
    (state : σ) (s : Progress) :
    loopFor turn rest bound state scopeEnd s =
      match turn state scopeEnd s with
      | .ok (.done a, s') => .ok (a, s')
      | .ok (.again state', s') =>
        match bound with
        | [] => .ok (rest state', s')
        | _ :: bound => loopFor turn rest bound state' scopeEnd s'
      | .error error => .error error := by
  cases bound <;>
  · rw [loopFor, bind_apply]
    rcases turn state scopeEnd s with _ | ⟨_ | _, _⟩ <;> rfl

/-- A loop whose first round ends it. -/
theorem loop_of_done {σ : Type} {turn : σ → Parser (Turn σ α)} {rest : σ → α} {state : σ}
    {s s' : Progress} {a : α} (h : turn state scopeEnd s = .ok (.done a, s')) :
    loop turn rest state scopeEnd s = .ok (a, s') := by
  have htrees : trees scopeEnd s = .ok (s.trees, s) := rfl
  unfold loop
  rw [bind_of_ok htrees, loopFor_apply, h]

/-- A round of `manyWhile`. -/
def whileTurn (test : Ahead) (p : Parser α) (done : List α) : Parser (Turn (List α) (List α)) := do
  if ← ahead test then return .again ((← p) :: done) else return .done done.reverse

theorem manyWhile_apply (test : Ahead) (p : Parser α) (s : Progress) :
    manyWhile test p scopeEnd s =
      loopFor (whileTurn test p) List.reverse s.trees [] scopeEnd s := rfl

theorem whileTurn_apply (test : Ahead) (p : Parser α) (done : List α) (s : Progress) :
    whileTurn test p done scopeEnd s =
      if test s.trees then (p scopeEnd s).map fun (a, s') => (.again (a :: done), s')
      else .ok (.done done.reverse, s) := by
  unfold whileTurn
  rw [bind_of_ok (ahead_apply ..)]
  cases test s.trees with
  | false => rfl
  | true =>
    rw [if_pos rfl, if_pos rfl, bind_apply]
    cases p scopeEnd s <;> rfl

theorem manyWhile_of_not {test : Ahead} (p : Parser α) {s : Progress} (h : test s.trees = false) :
    manyWhile test p scopeEnd s = .ok ([], s) := by
  rw [manyWhile_apply, loopFor_apply, whileTurn_apply, h, if_neg Bool.false_ne_true]
  rfl

/-- What `p` reads where the test holds is not nothing. -/
def Consumes (test : Ahead) (p : Parser α) : Prop :=
  ∀ scopeEnd s a s', test s.trees = true → p scopeEnd s = .ok (a, s') →
    s'.trees.length < s.trees.length

section Consumes

variable {test : Ahead} {p : Parser α} (hp : Consumes test p)
include hp

/-- A loop that has as many rounds left as there are trees goes on as from the beginning. -/
theorem loopFor_whileTurn (bound : List Tree) (done : List α) (s : Progress)
    (hbound : s.trees.length ≤ bound.length) :
    loopFor (whileTurn test p) List.reverse bound done scopeEnd s =
      (manyWhile test p scopeEnd s).map fun (l, s') => (done.reverse ++ l, s') := by
  obtain ⟨n, hn⟩ : ∃ n, s.trees.length = n := ⟨_, rfl⟩
  induction n using Nat.strongRecOn generalizing bound done s with
  | ind n ih =>
    rw [manyWhile_apply, loopFor_apply, loopFor_apply, whileTurn_apply, whileTurn_apply]
    cases htest : test s.trees with
    | false => simp [Except.map]
    | true =>
      rw [if_pos rfl, if_pos rfl]
      cases hread : p scopeEnd s with
      | error => rfl
      | ok r =>
        obtain ⟨a, s'⟩ := r
        have hless := hp scopeEnd s a s' htest hread
        cases bound with
        | nil => rw [List.length_nil] at hbound; omega
        | cons b bound =>
          cases hts : s.trees with
          | nil => rw [hts, List.length_nil] at hless; omega
          | cons t ts =>
            rw [hts, List.length_cons] at hless hbound hn
            rw [List.length_cons] at hbound
            simp only [Except.map]
            rw [ih s'.trees.length (by omega) bound (a :: done) s' (by omega) rfl,
              ih s'.trees.length (by omega) ts [a] s' (by omega) rfl]
            cases manyWhile test p scopeEnd s' <;> simp [Except.map]

/-- A list of readings is the first of them and the list of those behind it. -/
theorem manyWhile_cons {s s' : Progress} {a : α} (htest : test s.trees = true)
    (hread : p scopeEnd s = .ok (a, s')) :
    manyWhile test p scopeEnd s =
      (manyWhile test p scopeEnd s').map fun (l, s'') => (a :: l, s'') := by
  have hless := hp scopeEnd s a s' htest hread
  rw [manyWhile_apply, loopFor_apply, whileTurn_apply, if_pos htest, hread]
  cases hts : s.trees with
  | nil => rw [hts, List.length_nil] at hless; omega
  | cons t ts =>
    rw [hts, List.length_cons] at hless
    exact loopFor_whileTurn hp ts [a] s' (by omega)

end Consumes

theorem manyWhile_single {test : Ahead} {p : Parser α} {s s' : Progress} {a : α}
    (hne : s.trees ≠ []) (htest : test s.trees = true) (hread : p scopeEnd s = .ok (a, s'))
    (hend : test s'.trees = false) : manyWhile test p scopeEnd s = .ok ([a], s') := by
  obtain ⟨t, bound, hts⟩ := List.exists_cons_of_ne_nil hne
  rw [manyWhile_apply, loopFor_apply, whileTurn_apply, htest, if_pos rfl, hread, hts]
  simp only [Except.map]
  rw [loopFor_apply, whileTurn_apply, hend, if_neg Bool.false_ne_true]
  rfl

end Parser

end ReceiverLoader.Grammar
