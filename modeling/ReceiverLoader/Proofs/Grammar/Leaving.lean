import ReceiverLoader.Proofs.Grammar.Running

/-!
# What parsers leave to be read

`Leaves p` says that the trees which `p` leaves to be read are the last of those it had. As it is a
class, the search for instances finds it for a parser that is put together from others; what happens
inside a group does not matter to it.
-/

namespace ReceiverLoader.Grammar

open Token (Position Tree Delimiter)

/-- The trees that `p` leaves to be read are the last of those it had. -/
class Leaves {ε α : Type} (p : Reading ε α) : Prop where
  suffix : ∀ {scopeEnd : Position} {s s' : Progress} {a : α}, p scopeEnd s = .ok (a, s') →
    s'.trees <:+ s.trees

section Monad

variable {ε α β : Type}

theorem Leaves.bind {p : Reading ε α} {f : α → Reading ε β} (hp : Leaves p)
    (hf : ∀ a, Leaves (f a)) : Leaves (p >>= f) where
  suffix := by
    intro scopeEnd s s' b h
    obtain ⟨a, s₁, hread, h⟩ := bind_eq_ok.mp h
    exact ((hf a).suffix h).trans (hp.suffix hread)

instance {p : Reading ε α} {f : α → Reading ε β} [hp : Leaves p] [hf : ∀ a, Leaves (f a)] :
    Leaves (p >>= f) :=
  hp.bind hf

instance (a : α) : Leaves (pure a : Reading ε α) where
  suffix h := by
    cases h
    exact List.suffix_rfl

theorem Leaves.ite {c : Prop} [Decidable c] {p q : Reading ε α} (hp : Leaves p) (hq : Leaves q) :
    Leaves (if c then p else q) := by
  split
  · exact hp
  · exact hq

instance {c : Prop} [Decidable c] {p q : Reading ε α} [hp : Leaves p] [hq : Leaves q] :
    Leaves (if c then p else q) :=
  Leaves.ite hp hq

instance (e : ε) : Leaves (throw e : Reading ε α) := ⟨fun h => by cases h⟩

instance : Leaves (read : Reading ε Position) where
  suffix h := by
    cases h
    exact List.suffix_rfl

end Monad

namespace Parser

variable {α : Type}

/-! ## Tokens -/

instance : Leaves trees where
  suffix h := by
    cases h
    exact List.suffix_rfl

instance (ts : List Tree) : Leaves (emit ts) where
  suffix h := by
    cases h
    exact List.suffix_rfl

instance (n : Nat) : Leaves (leaveOut n) where
  suffix h := by
    cases h
    exact List.drop_suffix n _

instance (n : Nat) : Leaves (advance n) := by
  unfold advance
  infer_instance

instance (test : Ahead) : Leaves (ahead test) := by
  unfold ahead
  infer_instance

instance : Leaves here := by
  unfold here
  refine Leaves.bind inferInstance fun ts => ?_
  cases ts <;> infer_instance

instance (what : Wanted) : Leaves (want what : Parser α) := ⟨fun h => absurd h want_ne_ok⟩

instance (position : Position) (what : Forbidden) : Leaves (forbid position what : Parser α) := by
  unfold forbid
  infer_instance

instance (text : String) : Leaves (mark text) := by
  unfold mark
  infer_instance

instance (text : String) : Leaves (mark? text) := by
  unfold mark?
  infer_instance

instance (allowed : Bool) (text : String) : Leaves (markIf? allowed text) := by
  unfold markIf?
  infer_instance

instance (text : String) : Leaves (keyword text) := by
  unfold keyword
  infer_instance

instance (text : String) : Leaves (keyword? text) := by
  unfold keyword?
  infer_instance

instance : Leaves word := by
  unfold word
  refine Leaves.bind inferInstance fun ts => ?_
  split <;> infer_instance

instance : Leaves identifier := by
  unfold identifier
  infer_instance

instance (test : Ahead) : Leaves (wordIf test) := by
  unfold wordIf
  infer_instance

instance : Leaves lifetime := by
  unfold lifetime
  infer_instance

instance : Leaves lifetime? := by
  unfold lifetime?
  infer_instance

instance : Leaves literal := by
  unfold literal
  refine Leaves.bind inferInstance fun ts => ?_
  split <;> infer_instance

instance : Leaves textLiteral := by
  unfold textLiteral
  refine Leaves.bind inferInstance fun ts => ?_
  split <;> infer_instance

/-! ## Groups -/

/-- Whatever is read inside, a group is gone as a whole. -/
instance (d : Delimiter) (p : Parser α) : Leaves (openGroup d p) where
  suffix := by
    intro scopeEnd s s' a h
    obtain ⟨opens, closes, body, -, htrees, -⟩ := openGroup_eq_ok h
    rw [htrees]
    exact List.suffix_cons _ _

instance (stray : Option Stray) : Leaves (record stray) where
  suffix h := by
    cases h
    exact List.suffix_rfl

instance (d : Delimiter) (p : Parser α) : Leaves (group d p) := by
  unfold group
  infer_instance

instance : Leaves anyGroup := by
  unfold anyGroup
  refine Leaves.bind inferInstance fun ts => ?_
  split <;> infer_instance

/-! ## Trying and capturing -/

instance (p : Parser α) : Leaves (peek p) where
  suffix := by
    intro scopeEnd s s' a h
    unfold peek at h
    split at h
    · cases h
      exact List.suffix_rfl
    · cases h

instance {p : Parser α} [hp : Leaves p] : Leaves (capture p) where
  suffix := by
    intro scopeEnd s s' a h
    obtain ⟨s₁, hread, -, rfl⟩ := capture_eq_ok.mp h
    have hsuffix := hp.suffix hread
    exact hsuffix

instance {p : Parser α} [Leaves p] : Leaves (silently p) := by
  unfold silently
  infer_instance

instance (before : List Tree) : Leaves (readSince before) := by
  unfold readSince
  infer_instance

instance {p : Parser α} [Leaves p] : Leaves (asSpelled p) := by
  unfold asSpelled
  infer_instance

instance {p : Parser Bool} [Leaves p] : Leaves (normalized p) := by
  unfold normalized
  infer_instance

instance : Leaves endsInBrace := ⟨fun h => by
  rw [endsInBrace_apply] at h
  cases h
  exact List.suffix_rfl⟩

instance (test : Ahead) {p : Parser α} [Leaves p] : Leaves (when test p) := by
  unfold when
  infer_instance

/-! ## Loops -/

section Loops

variable {σ : Type}

instance {turn : σ → Parser (Turn σ α)} [hturn : ∀ state, Leaves (turn state)] (rest : σ → α)
    (bound : List Tree) (state : σ) : Leaves (loopFor turn rest bound state) := by
  induction bound generalizing state with
  | nil =>
    rw [loopFor]
    refine (hturn state).bind fun t => ?_
    cases t <;> infer_instance
  | cons b bound ih =>
    rw [loopFor]
    refine (hturn state).bind fun t => ?_
    cases t with
    | done a => infer_instance
    | again state' => exact ih state'

theorem loop_leaves {turn : σ → Parser (Turn σ α)} (hturn : ∀ state, Leaves (turn state))
    {rest : σ → α} {state : σ} : Leaves (loop turn rest state) := by
  unfold loop
  infer_instance

instance {turn : σ → Parser (Turn σ α)} [hturn : ∀ state, Leaves (turn state)] (rest : σ → α)
    (state : σ) : Leaves (loop turn rest state) :=
  loop_leaves hturn

end Loops

section Many

variable {p : Parser α} [Leaves p]

instance (test : Ahead) : Leaves (manyWhile test p) := by
  unfold manyWhile
  infer_instance

instance (separator : String) (stop : Ahead) : Leaves (separated separator stop p) := by
  unfold separated
  infer_instance

instance (separator : String) (stop : Ahead) : Leaves (joined separator stop p) := by
  unfold joined
  infer_instance

end Many

end Parser

end ReceiverLoader.Grammar
