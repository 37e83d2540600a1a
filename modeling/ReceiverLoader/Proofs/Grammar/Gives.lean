import ReceiverLoader.Proofs.Grammar.Running

/-!
# What parsers give

`Gives P p` says that all that `p` reads satisfies `P`. As it is a class, the search for instances
finds it for a parser that is put together from others, except where what has been read matters.

* `Gives.bind`: of a sequence, where what has been read first matters.
* `Gives.last`: of a sequence, where only what is read last matters.
* `Gives.word_if`: what is read as a word satisfies what a test makes sure of.
-/

namespace ReceiverLoader.Grammar

open Token (Position Tree Delimiter)

/-- All that `p` reads satisfies `P`. -/
class Gives {ε α : Type} (P : α → Prop) (p : Reading ε α) : Prop where
  of_ok : ∀ {scopeEnd : Position} {s s' : Progress} {a : α}, p scopeEnd s = .ok (a, s') → P a

section Monad

variable {ε α β : Type} {P : β → Prop} {Q : α → Prop}

theorem Gives.bind {p : Reading ε α} {f : α → Reading ε β} (hp : Gives Q p)
    (hf : ∀ a, Q a → Gives P (f a)) : Gives P (p >>= f) where
  of_ok := by
    intro scopeEnd s s' b h
    obtain ⟨a, s₁, hread, h⟩ := bind_eq_ok.mp h
    exact (hf a (hp.of_ok hread)).of_ok h

/-- Only what is read last matters. -/
theorem Gives.last {p : Reading ε α} {f : α → Reading ε β} (hf : ∀ a, Gives P (f a)) :
    Gives P (p >>= f) :=
  Gives.bind (Q := fun _ => True) ⟨fun _ => trivial⟩ fun a _ => hf a

instance {p : Reading ε α} {f : α → Reading ε β} [∀ a, Gives P (f a)] : Gives P (p >>= f) :=
  Gives.last inferInstance

theorem Gives.pure {a : α} (h : Q a) : Gives Q (pure a : Reading ε α) where
  of_ok := by
    intro scopeEnd s s' b hread
    cases hread
    exact h

instance {c : Prop} [Decidable c] {p q : Reading ε α} [hp : Gives Q p] [hq : Gives Q q] :
    Gives Q (if c then p else q) := by
  by_cases hc : c
  · rwa [if_pos hc]
  · rwa [if_neg hc]

end Monad

namespace Parser

variable {α : Type} {P : α → Prop}

instance (e : SyntaxError) : Gives P (throw e : Parser α) := ⟨fun h => by cases h⟩

instance (what : Wanted) : Gives P (want what : Parser α) := ⟨fun h => absurd h want_ne_ok⟩

instance (position : Position) (what : Forbidden) : Gives P (forbid position what : Parser α) := by
  unfold forbid
  infer_instance

theorem word_eq_ok {scopeEnd : Position} {s s' : Progress} {w : String}
    (h : word scopeEnd s = .ok (w, s')) : ∃ p ts, s.trees = .leaf p (.word w) :: ts := by
  have htrees : trees scopeEnd s = .ok (s.trees, s) := rfl
  unfold word at h
  rw [bind_of_ok htrees] at h
  cases hts : s.trees with
  | nil =>
    rw [hts] at h
    exact absurd h want_ne_ok
  | cons t ts =>
    rw [hts] at h
    cases t with
    | group => exact absurd h want_ne_ok
    | leaf p l =>
      cases l with
      | word w' =>
        obtain ⟨_, s₁, -, h⟩ := bind_eq_ok.mp h
        cases h
        exact ⟨p, ts, rfl⟩
      | _ => exact absurd h want_ne_ok

/-- What is read as a word satisfies what the test makes sure of. -/
theorem Gives.word_if {test : Ahead} {P : String → Prop} {p : Parser String}
    (htest : ∀ w pos ts, test (.leaf pos (.word w) :: ts) = true → P w) (hp : Gives P p) :
    Gives P (do if ← ahead test then word else p) where
  of_ok := by
    intro scopeEnd s s' w h
    rw [bind_of_ok (ahead_apply ..), ite_apply] at h
    split at h
    · rename_i hahead
      obtain ⟨pos, ts, htrees⟩ := word_eq_ok h
      rw [htrees] at hahead
      exact htest w pos ts hahead
    · exact hp.of_ok h

instance {d : Delimiter} {p : Parser α} [hp : Gives P p] : Gives P (group d p) where
  of_ok := by
    intro scopeEnd s s' a h
    obtain ⟨_, _, _, _, -, hread⟩ := group_eq_ok h
    exact hp.of_ok hread

theorem Gives.capture {p : Parser α} (hp : Gives P p) :
    Gives (fun r : α × List Tree => P r.1) (capture p) where
  of_ok := by
    intro scopeEnd s s' r h
    obtain ⟨s₁, hread, -⟩ := capture_eq_ok.mp h
    exact hp.of_ok hread

instance {p : Parser α} [hp : Gives P p] : Gives P (asSpelled p) := by
  have hsilently : Gives P (silently p) := (Gives.capture hp).bind fun _ hr => Gives.pure hr
  unfold asSpelled
  refine Gives.last fun _ => hsilently.bind fun a ha => ?_
  exact Gives.last fun _ => Gives.last fun _ => Gives.pure ha

/-- Of a group that has been read, only the delimiter is looked at. -/
instance {f : Delimiter × Position × List Tree → Parser α}
    [hf : ∀ d p body, Gives P (f (d, p, body))] : Gives P (anyGroup >>= f) :=
  Gives.last fun (d, p, body) => hf d p body

/-- What a round of `manyWhile` decides, with readings that satisfy `P`. -/
def TurnGives (P : α → Prop) : Turn (List α) (List α) → Prop
  | .done as => ∀ a ∈ as, P a
  | .again as => ∀ a ∈ as, P a

/-- The rounds of `manyWhile` add readings to those before. -/
theorem Gives.loopFor {turn : List α → Parser (Turn (List α) (List α))}
    (hturn : ∀ done, (∀ a ∈ done, P a) → Gives (TurnGives P) (turn done)) (bound : List Tree)
    {done : List α} (hdone : ∀ a ∈ done, P a) :
    Gives (fun as => ∀ a ∈ as, P a) (loopFor turn List.reverse bound done) := by
  induction bound generalizing done with
  | nil =>
    rw [Parser.loopFor]
    refine (hturn done hdone).bind fun t ht => ?_
    cases t with
    | done as => exact Gives.pure ht
    | again as => exact Gives.pure fun a ha => ht a (List.mem_reverse.mp ha)
  | cons b bound ih =>
    rw [Parser.loopFor]
    refine (hturn done hdone).bind fun t ht => ?_
    cases t with
    | done as => exact Gives.pure ht
    | again as => exact ih ht

instance {test : Ahead} {p : Parser α} [hp : Gives P p] :
    Gives (fun as => ∀ a ∈ as, P a) (manyWhile test p) := by
  refine ⟨fun {scopeEnd s s' as} h => ?_⟩
  rw [manyWhile_apply] at h
  refine (Gives.loopFor (fun done hdone => ?_) s.trees (List.forall_mem_nil P)).of_ok h
  have hagain : Gives (TurnGives P) (do return .again ((← p) :: done)) :=
    hp.bind fun a ha => Gives.pure (List.forall_mem_cons.mpr ⟨ha, hdone⟩)
  have hdone : Gives (TurnGives P) (pure (.done done.reverse) : Parser _) :=
    Gives.pure fun a ha => hdone a (List.mem_reverse.mp ha)
  unfold whileTurn
  infer_instance

instance {p : Parser α} [Gives P p] : Gives (fun as => ∀ a ∈ as, P a) (manyToEnd p) := by
  unfold manyToEnd
  infer_instance

end Parser

end ReceiverLoader.Grammar
