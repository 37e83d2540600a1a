import ReceiverLoader.Proofs.Grammar.Gives
import ReceiverLoader.Proofs.Grammar.Leaving
import ReceiverLoader.Proofs.Token.Identifier

/-!
# What parsers give from trees with known words

`GivesFrom W P p` says that all that `p` reads satisfies `P`, provided that every word in the trees
it has satisfies `W`. A sequence needs also that its first part leaves some of these trees, and no
others.

* `GivesFrom.bind`, `GivesFrom.last`: of a sequence, as for `Gives`.
* `GivesFrom.loop`: of a loop, by what holds of its states.
-/

namespace ReceiverLoader.Grammar

open Token (Position Tree Delimiter)

/-- From trees whose words satisfy `W`, all that `p` reads satisfies `P`. -/
class GivesFrom {ε α : Type} (W : String → Prop) (P : α → Prop) (p : Reading ε α) : Prop where
  of_ok : ∀ {scopeEnd : Position} {s s' : Progress} {a : α}, Tree.AllWords W s.trees →
    p scopeEnd s = .ok (a, s') → P a

section Monad

variable {ε α β : Type} {W : String → Prop} {P : β → Prop} {Q Q' : α → Prop}

theorem Gives.from {p : Reading ε α} (hp : Gives Q p) : GivesFrom W Q p := ⟨fun _ => hp.of_ok⟩

theorem GivesFrom.and {p : Reading ε α} (hp : GivesFrom W Q p) (hp' : Gives Q' p) :
    GivesFrom W (fun a => Q a ∧ Q' a) p :=
  ⟨fun hwords h => ⟨hp.of_ok hwords h, hp'.of_ok h⟩⟩

theorem GivesFrom.bind {p : Reading ε α} {f : α → Reading ε β} (hleaves : Leaves p)
    (hp : GivesFrom W Q p) (hf : ∀ a, Q a → GivesFrom W P (f a)) : GivesFrom W P (p >>= f) where
  of_ok := by
    intro scopeEnd s s' b hwords h
    obtain ⟨a, s₁, hread, h⟩ := bind_eq_ok.mp h
    exact (hf a (hp.of_ok hwords hread)).of_ok (hwords.of_suffix (hleaves.suffix hread)) h

/-- Only what is read last matters. -/
theorem GivesFrom.last {p : Reading ε α} {f : α → Reading ε β} (hleaves : Leaves p)
    (hf : ∀ a, GivesFrom W P (f a)) : GivesFrom W P (p >>= f) :=
  GivesFrom.bind (Q := fun _ => True) hleaves ⟨fun _ _ => trivial⟩ fun a _ => hf a

instance {p : Reading ε α} {f : α → Reading ε β} [hleaves : Leaves p]
    [hf : ∀ a, GivesFrom W P (f a)] : GivesFrom W P (p >>= f) :=
  GivesFrom.last hleaves hf

theorem GivesFrom.pure {a : α} (h : Q a) : GivesFrom W Q (pure a : Reading ε α) :=
  (Gives.pure h).from

theorem GivesFrom.ite {c : Prop} [Decidable c] {p q : Reading ε α} (hp : GivesFrom W Q p)
    (hq : GivesFrom W Q q) : GivesFrom W Q (if c then p else q) := by
  split
  · exact hp
  · exact hq

instance {c : Prop} [Decidable c] {p q : Reading ε α} [hp : GivesFrom W Q p]
    [hq : GivesFrom W Q q] : GivesFrom W Q (if c then p else q) :=
  hp.ite hq

end Monad

namespace Parser

variable {α : Type} {W : String → Prop} {P : α → Prop}

instance (e : SyntaxError) : GivesFrom W P (throw e : Parser α) := Gives.from inferInstance

instance (what : Wanted) : GivesFrom W P (want what : Parser α) := Gives.from inferInstance

instance (position : Position) (what : Forbidden) :
    GivesFrom W P (forbid position what : Parser α) :=
  Gives.from inferInstance

/-! ## Words and groups -/

instance : GivesFrom W W word where
  of_ok := by
    intro scopeEnd s s' w hwords h
    obtain ⟨p, ts, htrees⟩ := word_eq_ok h
    rw [htrees] at hwords
    exact hwords w (List.mem_append_left _ List.mem_cons_self)

instance : GivesFrom W W identifier := by
  unfold identifier
  infer_instance

instance (test : Ahead) : GivesFrom W W (wordIf test) := by
  unfold wordIf
  infer_instance

instance (d : Delimiter) {p : Parser α} [hp : GivesFrom W P p] :
    GivesFrom W P (group d p) where
  of_ok := by
    intro scopeEnd s s' a hwords h
    obtain ⟨_, _, body, _, htrees, hread⟩ := group_eq_ok h
    rw [htrees, Tree.allWords_cons] at hwords
    exact hp.of_ok (s := ⟨body, s.stray, []⟩) (Tree.allWords_body.mp hwords.1) hread

theorem GivesFrom.capture {p : Parser α} (hp : GivesFrom W P p) :
    GivesFrom W (fun r : α × List Tree => P r.1) (capture p) where
  of_ok := by
    intro scopeEnd s s' r hwords h
    obtain ⟨s₁, hread, -⟩ := capture_eq_ok.mp h
    exact hp.of_ok (s := { s with written := [] }) hwords hread

/-! ## Loops -/

section Loops

variable {σ : Type} {I : σ → Prop}

/-- The state that a round ends in satisfies `I`, or its result satisfies `P`. -/
def Turn.Satisfies (I : σ → Prop) (P : α → Prop) : Turn σ α → Prop
  | .done a => P a
  | .again state => I state

/-- What holds of the first state and is kept by each round holds of the last state. -/
theorem GivesFrom.loop {turn : σ → Parser (Turn σ α)} {rest : σ → α}
    (hleaves : ∀ state, Leaves (turn state))
    (hturn : ∀ state, I state → GivesFrom W (Turn.Satisfies I P) (turn state))
    (hrest : ∀ state, I state → P (rest state)) {state : σ} (hstate : I state) :
    GivesFrom W P (loop turn rest state) := by
  have hfor (bound : List Tree) : ∀ {state : σ}, I state →
      GivesFrom W P (loopFor turn rest bound state) := by
    induction bound with
    | nil =>
      intro state hstate
      rw [loopFor]
      refine GivesFrom.bind (hleaves state) (hturn state hstate) fun t ht => ?_
      cases t with
      | done a => exact GivesFrom.pure ht
      | again state' => exact GivesFrom.pure (hrest state' ht)
    | cons b bound ih =>
      intro state hstate
      rw [loopFor]
      refine GivesFrom.bind (hleaves state) (hturn state hstate) fun t ht => ?_
      cases t with
      | done a => exact GivesFrom.pure ht
      | again state' => exact ih ht
  unfold Parser.loop
  exact GivesFrom.last inferInstance fun bound => hfor bound hstate

end Loops

section Many

variable {p : Parser α} [hleaves : Leaves p] [hp : GivesFrom W P p]

theorem forall_mem_reverse {as : List α} (h : ∀ a ∈ as, P a) : ∀ a ∈ as.reverse, P a :=
  fun a ha => h a (List.mem_reverse.mp ha)

instance (test : Ahead) : GivesFrom W (fun as => ∀ a ∈ as, P a) (manyWhile test p) := by
  unfold manyWhile
  refine GivesFrom.loop (I := fun done => ∀ a ∈ done, P a) (fun _ => inferInstance)
    (fun done hdone => ?_) (fun _ => forall_mem_reverse) (List.forall_mem_nil P)
  refine GivesFrom.last inferInstance fun _ => GivesFrom.ite ?_ ?_
  · exact GivesFrom.bind hleaves hp fun a ha =>
      GivesFrom.pure (List.forall_mem_cons.mpr ⟨ha, hdone⟩)
  · exact GivesFrom.pure (forall_mem_reverse hdone)

instance : GivesFrom W (fun as => ∀ a ∈ as, P a) (manyToEnd p) := by
  unfold manyToEnd
  infer_instance

instance : GivesFrom W (fun as => ∀ a ∈ as, P a) (commaList p) := by
  unfold commaList separated
  refine GivesFrom.loop (I := fun done => ∀ a ∈ done, P a) (fun _ => inferInstance)
    (fun done hdone => ?_) (fun _ => forall_mem_reverse) (List.forall_mem_nil P)
  refine GivesFrom.last inferInstance fun _ => GivesFrom.ite ?_ ?_
  · exact GivesFrom.pure (forall_mem_reverse hdone)
  · refine GivesFrom.bind hleaves hp fun a ha => ?_
    have hdone : ∀ b ∈ a :: done, P b := List.forall_mem_cons.mpr ⟨ha, hdone⟩
    refine GivesFrom.last inferInstance fun _ => GivesFrom.ite ?_ ?_
    · exact GivesFrom.pure (forall_mem_reverse hdone)
    · exact GivesFrom.last inferInstance fun _ => GivesFrom.pure hdone

end Many

end Parser

end ReceiverLoader.Grammar
