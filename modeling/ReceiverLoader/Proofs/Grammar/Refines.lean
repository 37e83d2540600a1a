import ReceiverLoader.Proofs.Grammar.Ahead

/-!
# Parsers that read alike

`Refines p q` relates two parsers whose inputs differ in positions, in the depth that is left and in
what was written out before: either `p` uses its depth up, or both end alike. With the same depth on
both sides this says that positions do not matter; with a greater one for `q`, that a depth which
has sufficed once suffices for good.

As `Refines` is a class, a parser that is put together from others is related to its counterpart by
the search for instances. This module has the instances for what parsers are put together with.
-/

namespace ReceiverLoader.Grammar

open Token (Position Leaf Tree Delimiter Literal)

/-- The errors of a reading have a cause; one cause is that the depth is used up. -/
class Fault (ε : Type) (κ : outParam Type) where
  cause : ε → κ
  deep : κ

instance : Fault SyntaxError Cause := ⟨SyntaxError.cause, .tooDeep⟩

/-- Whether the first tree is a group in braces. -/
def isBraced : List Tree → Bool
  | .group _ _ .brace _ :: _ => true
  | _ => false

/-- The progresses differ in positions, and in the trees of `frame`, which were written out before
on the right side only. -/
structure Progress.AlikeUpTo (frame : List Tree) (s t : Progress) : Prop where
  trees : Alike s.trees t.trees
  stray : Alike s.stray t.stray
  written : ∃ since, Alike s.written since ∧ t.written = since ++ frame

/-- The left side has used its depth up, or both sides end alike. -/
inductive Ends {ε κ α : Type} [Fault ε κ] [Likeness α] (frame : List Tree) :
    Except ε (α × Progress) → Except ε (α × Progress) → Prop
  | deep {e : ε} (result : Except ε (α × Progress)) : Fault.cause e = Fault.deep ε →
      Ends frame (.error e) result
  | error {e e' : ε} : Fault.cause e = Fault.cause e' → Ends frame (.error e) (.error e')
  | ok {a b : α} {s t : Progress} : Alike a b → s.AlikeUpTo frame t →
      Ends frame (.ok (a, s)) (.ok (b, t))

/-- What reads trees and may fail with an `ε`. -/
abbrev Reading (ε : Type) := ReaderT Position (StateT Progress (Except ε))

/-- From inputs alike, `p` uses its depth up, or it ends like `q`. -/
class Refines {ε κ α : Type} [Fault ε κ] [Likeness α] (p q : Reading ε α) : Prop where
  ends : ∀ {frame : List Tree}, isBraced frame = false → ∀ (scopeEnd scopeEnd' : Position)
    {s t : Progress}, s.AlikeUpTo frame t → Ends frame (p scopeEnd s) (q scopeEnd' t)

theorem Progress.AlikeUpTo.written_nil {s t : Progress} (h : s.AlikeUpTo [] t) :
    Alike s.written t.written := by
  obtain ⟨-, -, since, hsince, hwritten⟩ := h
  rwa [hwritten, List.append_nil]

/-- Parsers that read alike also do so where nothing has been written out. -/
theorem Refines.ends_of_written_nil {ε κ α : Type} [Fault ε κ] [Likeness α] {p q : Reading ε α}
    (hp : Refines p q) (scopeEnd scopeEnd' : Position) {ts us : List Tree} (hts : Alike ts us)
    {stray stray' : Option Stray} (hstray : Alike stray stray') :
    Ends [] (p scopeEnd ⟨ts, stray, []⟩) (q scopeEnd' ⟨us, stray', []⟩) :=
  hp.ends rfl scopeEnd scopeEnd' ⟨hts, hstray, [], inferInstance, rfl⟩

theorem Ends.of_ok {ε κ α : Type} [Fault ε κ] [Likeness α] {frame : List Tree} {a : α}
    {s : Progress} {r : Except ε (α × Progress)} (h : Ends frame (.ok (a, s)) r) :
    ∃ b t, r = .ok (b, t) ∧ Alike a b ∧ s.AlikeUpTo frame t := by
  cases h with
  | ok hab hst => exact ⟨_, _, rfl, hab, hst⟩

/-! ## Sequences and choices -/

section Monad

theorem bind_apply {ε α β : Type} (p : Reading ε α) (f : α → Reading ε β) (scopeEnd : Position)
    (s : Progress) :
    (p >>= f) scopeEnd s =
      match p scopeEnd s with
      | .ok (a, s') => f a scopeEnd s'
      | .error e => .error e := by
  change Except.bind (p scopeEnd s) _ = _
  cases p scopeEnd s <;> rfl

variable {ε κ α β : Type} [Fault ε κ] [Likeness α] [Likeness β]

theorem Refines.bind {p q : Reading ε α} {f f' : α → Reading ε β} (hp : Refines p q)
    (hf : ∀ a b, Alike a b → Refines (f a) (f' b)) : Refines (p >>= f) (q >>= f') where
  ends := by
    intro frame hframe scopeEnd scopeEnd' s t hst
    rw [bind_apply, bind_apply]
    have hends := hp.ends hframe scopeEnd scopeEnd' hst
    generalize p scopeEnd s = r at hends
    generalize q scopeEnd' t = r' at hends
    cases hends with
    | deep _ hdeep => exact .deep _ hdeep
    | error hcause => exact .error hcause
    | ok hab hst' => exact (hf _ _ hab).ends hframe scopeEnd scopeEnd' hst'

/-- What has been read is not looked at. -/
instance (priority := high) {p q : Reading ε α} {r r' : Reading ε β} [hp : Refines p q]
    [hr : Refines r r'] : Refines (p >>= fun _ => r) (q >>= fun _ => r') :=
  hp.bind fun _ _ _ => hr

instance [Discrete α] {p q : Reading ε α} {f f' : α → Reading ε β} [hp : Refines p q]
    [hf : ∀ a, Refines (f a) (f' a)] : Refines (p >>= f) (q >>= f') :=
  hp.bind fun a _ hab => hab.eq ▸ hf a

instance {p q : Reading ε Position} {f f' : Position → Reading ε β} [hp : Refines p q]
    [hf : ∀ a b, Refines (f a) (f' b)] : Refines (p >>= f) (q >>= f') :=
  hp.bind fun a b _ => hf a b

instance {a b : α} [h : Alike a b] : Refines (pure a : Reading ε α) (pure b) where
  ends := fun _ _ _ _ _ hst => .ok h hst

instance {p q : Reading ε α} [hp : Refines p q] :
    Refines (p >>= fun a => pure (some a)) (q >>= fun a => pure (some a)) :=
  hp.bind fun _ _ _ => inferInstance

instance {c : Prop} [Decidable c] {p p' q q' : Reading ε α} [hp : Refines p q]
    [hq : Refines p' q'] : Refines (if c then p else p') (if c then q else q') := by
  by_cases hc : c
  · rwa [if_pos hc, if_pos hc]
  · rwa [if_neg hc, if_neg hc]

/-- A choice between the same two parsers by tests that come out alike. -/
theorem Refines.ite {c c' : Prop} [Decidable c] [Decidable c'] (hc : c ↔ c')
    {p p' q q' : Reading ε α} (hp : Refines p q) (hq : Refines p' q') :
    Refines (if c then p else p') (if c' then q else q') := by
  by_cases h : c
  · rwa [if_pos h, if_pos (hc.mp h)]
  · rwa [if_neg h, if_neg (mt hc.mpr h)]

end Monad

/-! ## The operations of parsers -/

namespace Parser

variable {α β : Type} [Likeness α] [Likeness β]

instance (p q : Position) (cause : Cause) :
    Refines (throw ⟨p, cause⟩ : Parser α) (throw ⟨q, cause⟩) where
  ends := fun _ _ _ _ _ _ => .error rfl

instance : Refines trees trees where
  ends := fun _ _ _ _ _ hst => .ok hst.trees hst

instance {ts us : List Tree} [Alike ts us] : Refines (emit ts) (emit us) where
  ends := by
    intro frame _ _ _ s t hst
    obtain ⟨htrees, hstray, since, hsince, hwritten⟩ := hst
    refine .ok inferInstance ⟨htrees, hstray, us.reverse ++ since, inferInstance, ?_⟩
    change us.reverse ++ t.written = _
    rw [hwritten, List.append_assoc]

instance (n : Nat) : Refines (leaveOut n) (leaveOut n) where
  ends := by
    intro frame _ _ _ s t hst
    obtain ⟨htrees, hstray, hwritten⟩ := hst
    exact .ok inferInstance ⟨inferInstanceAs (Alike (s.trees.drop n) (t.trees.drop n)), hstray,
      hwritten⟩

instance (n : Nat) : Refines (advance n) (advance n) := by
  unfold advance
  exact Refines.bind inferInstance fun ts us _ => inferInstance

instance (test : Ahead) [ht : Ahead.Blind test] : Refines (ahead test) (ahead test) := by
  unfold ahead
  refine Refines.bind inferInstance fun ts us h => ?_
  rw [ht.eq h]
  infer_instance

instance : Refines here here where
  ends := by
    intro frame hframe scopeEnd scopeEnd' s t hst
    unfold here
    refine (Refines.bind inferInstance fun ts us h => ?_).ends hframe scopeEnd scopeEnd' hst
    cases h.front with
    | nothing => exact ⟨fun _ _ _ _ _ hst => .ok inferInstance hst⟩
    | _ => exact inferInstanceAs (Refines (pure _) (pure _))

instance (what : Wanted) : Refines (want what : Parser α) (want what) := by
  unfold want
  infer_instance

instance (position position' : Position) (what : Forbidden) :
    Refines (forbid position what : Parser α) (forbid position' what) := by
  unfold forbid
  infer_instance

instance (text : String) : Refines (mark text) (mark text) := by
  unfold mark
  infer_instance

instance (text : String) : Refines (mark? text) (mark? text) := by
  unfold mark?
  infer_instance

instance (allowed : Bool) (text : String) :
    Refines (markIf? allowed text) (markIf? allowed text) := by
  unfold markIf?
  infer_instance

instance (text : String) : Refines (keyword text) (keyword text) := by
  unfold keyword
  infer_instance

instance (text : String) : Refines (keyword? text) (keyword? text) := by
  unfold keyword?
  infer_instance

instance : Refines word word := by
  unfold word
  refine Refines.bind inferInstance fun ts us h => ?_
  cases h.front with
  | word => infer_instance
  | _ => exact inferInstanceAs (Refines (want _) (want _))

instance : Refines identifier identifier := by
  unfold identifier
  infer_instance

instance (test : Ahead) [Ahead.Blind test] : Refines (wordIf test) (wordIf test) := by
  unfold wordIf
  infer_instance

instance : Refines lifetime lifetime := by
  unfold lifetime
  infer_instance

instance : Refines lifetime? lifetime? := by
  unfold lifetime?
  infer_instance

instance : Refines literal literal := by
  unfold literal
  refine Refines.bind inferInstance fun ts us h => ?_
  obtain ⟨hts, hus⟩ | ⟨p, q, value, count, hts, hus⟩ := Ahead.literal?_alike h <;>
    rw [hts, hus] <;> infer_instance

instance : Refines textLiteral textLiteral := by
  unfold textLiteral
  refine Refines.bind inferInstance fun ts us h => ?_
  obtain ⟨hts, hus⟩ | ⟨p, q, value, count, hts, hus⟩ := Ahead.literal?_alike h <;> rw [hts, hus]
  · infer_instance
  · cases value <;> infer_instance

/-! ## Groups -/

theorem leftOver_alike (d : Delimiter) {ts us : List Tree} (h : Alike ts us) :
    Alike (leftOver d ts) (leftOver d us) := by
  cases h.front with
  | nothing => infer_instance
  | _ => exact ⟨.some rfl⟩

instance (d : Delimiter) {p q : Parser α} [hp : Refines p q] :
    Refines (openGroup d p) (openGroup d q) where
  ends := by
    intro frame hframe scopeEnd scopeEnd' s t hst
    obtain ⟨htrees, hstray, since, hsince, hwritten⟩ := hst
    obtain ⟨ts, stray, written⟩ := s
    obtain ⟨us, stray', written'⟩ := t
    unfold openGroup
    cases htrees.front with
    | nothing | word | mark | literal => exact .error rfl
    | @group opens closes opens' closes' d' body body' _ _ hbody hrest =>
      by_cases hd : d = d'
      · simp only [if_pos hd]
        have hinner := hp.ends_of_written_nil closes closes' hbody hstray
        generalize p closes ⟨body, stray, []⟩ = r at hinner ⊢
        generalize q closes' ⟨body', stray', []⟩ = r' at hinner ⊢
        cases hinner with
        | deep _ hdeep => exact .deep _ hdeep
        | error hcause => exact .error hcause
        | @ok a b inner inner' hab hinner =>
          have hgroup := hinner.written_nil
          have hleft := leftOver_alike d hinner.trees
          have hsince' : Alike (Tree.group opens closes d inner.written.reverse :: written)
              (Tree.group opens' closes' d inner'.written.reverse :: since) := inferInstance
          exact .ok inferInstance ⟨hrest, hinner.stray, _, hsince', congrArg (_ :: ·) hwritten⟩
      · simp only [if_neg hd]
        exact .error rfl

instance {stray stray' : Option Stray} [Alike stray stray'] :
    Refines (record stray) (record stray') where
  ends := by
    intro frame _ _ _ s t hst
    obtain ⟨htrees, hstray, hwritten⟩ := hst
    refine .ok inferInstance ⟨htrees, ?_, hwritten⟩
    change Alike (s.stray.or stray) (t.stray.or stray')
    obtain ⟨hstray⟩ := hstray
    generalize s.stray = recorded at hstray ⊢
    generalize t.stray = recorded' at hstray ⊢
    cases hstray with
    | none => assumption
    | some h => exact ⟨.some h⟩

instance (d : Delimiter) {p q : Parser α} [hp : Refines p q] :
    Refines (group d p) (group d q) := by
  unfold group
  refine Refines.bind inferInstance fun (a, stray) (b, stray') h => ?_
  have hab : Alike a b := ⟨h.like.1⟩
  have hstray : Alike stray stray' := ⟨h.like.2⟩
  infer_instance

instance : Refines anyGroup anyGroup := by
  unfold anyGroup
  refine Refines.bind inferInstance fun ts us h => ?_
  cases h.front with
  | group => infer_instance
  | _ => exact inferInstanceAs (Refines (want _) (want _))

/-- Of a group that has been read, only the delimiter is looked at. -/
instance {f f' : Delimiter × Position × List Tree → Parser β}
    [h : ∀ d p q body body', Refines (f (d, p, body)) (f' (d, q, body'))] :
    Refines (anyGroup >>= f) (anyGroup >>= f') := by
  refine Refines.bind inferInstance fun (d, p, body) (d', q, body') hab => ?_
  obtain rfl : d = d' := hab.like.1
  exact h d p q body body'

instance : Refines skipRest skipRest := by
  unfold skipRest
  refine Refines.bind inferInstance fun ts us h => ?_
  rw [h.length_eq]
  infer_instance

/-! ## Trying and capturing -/

instance {p q : Parser α} [hp : Refines p q] : Refines (attempt p) (attempt q) where
  ends := by
    intro frame hframe scopeEnd scopeEnd' s t hst
    unfold attempt
    have hends := hp.ends hframe scopeEnd scopeEnd' hst
    generalize p scopeEnd s = r at hends ⊢
    generalize q scopeEnd' t = r' at hends ⊢
    cases hends with
    | @deep e _ hdeep =>
      obtain ⟨position, cause⟩ := e
      cases (show cause = .tooDeep from hdeep)
      exact .deep _ rfl
    | @error e e' hcause =>
      obtain ⟨position, cause⟩ := e
      obtain ⟨position', cause'⟩ := e'
      cases (show cause = cause' from hcause)
      cases cause with
      | tooDeep => exact .deep _ rfl
      | _ => exact .ok inferInstance hst
    | ok hab hst' => exact .ok inferInstance hst'

instance {p q : Parser α} [hp : Refines p q] : Refines (peek p) (peek q) where
  ends := by
    intro frame hframe scopeEnd scopeEnd' s t hst
    unfold peek
    have hattempt : Refines (attempt p) (attempt q) := inferInstance
    have hends := hattempt.ends hframe scopeEnd scopeEnd' hst
    generalize attempt p scopeEnd s = r at hends ⊢
    generalize attempt q scopeEnd' t = r' at hends ⊢
    cases hends with
    | deep _ hdeep => exact .deep _ hdeep
    | error hcause => exact .error hcause
    | ok hab _ => exact .ok hab hst

instance {p q : Parser α} [hp : Refines p q] : Refines (capture p) (capture q) where
  ends := by
    intro frame hframe scopeEnd scopeEnd' s t hst
    obtain ⟨htrees, hstray, hwritten⟩ := hst
    unfold capture
    have hends := hp.ends_of_written_nil scopeEnd scopeEnd' htrees hstray
    generalize p scopeEnd { s with written := [] } = r at hends ⊢
    generalize q scopeEnd' { t with written := [] } = r' at hends ⊢
    cases hends with
    | deep _ hdeep => exact .deep _ hdeep
    | error hcause => exact .error hcause
    | ok hab hst' =>
      have hcaptured := hst'.written_nil
      exact .ok inferInstance ⟨hst'.trees, hst'.stray, hwritten⟩

instance {p q : Parser α} [hp : Refines p q] : Refines (silently p) (silently q) := by
  unfold silently
  refine Refines.bind inferInstance fun (a, ts) (b, us) h => ?_
  have hab : Alike a b := ⟨h.like.1⟩
  infer_instance

instance {before before' : List Tree} [h : Alike before before'] :
    Refines (readSince before) (readSince before') := by
  unfold readSince
  refine Refines.bind inferInstance fun ts us hts => ?_
  rw [h.length_eq, hts.length_eq]
  infer_instance

instance {before before' : List Tree} [Alike before before'] :
    Refines (readSince before >>= emit) (readSince before' >>= emit) :=
  Refines.bind inferInstance fun _ _ _ => inferInstance

instance {before before' : List Tree} [Alike before before'] {r r' : Parser β} [Refines r r'] :
    Refines (readSince before >>= fun ts => emit ts >>= fun _ => r)
      (readSince before' >>= fun ts => emit ts >>= fun _ => r') :=
  Refines.bind inferInstance fun _ _ _ => inferInstance

instance {p q : Parser α} [hp : Refines p q] : Refines (asSpelled p) (asSpelled q) := by
  unfold asSpelled
  refine Refines.bind inferInstance fun before before' _ => ?_
  exact Refines.bind inferInstance fun _ _ _ => inferInstance

instance {p q : Parser Bool} [hp : Refines p q] : Refines (normalized p) (normalized q) := by
  unfold normalized
  refine Refines.bind inferInstance fun before before' _ => ?_
  refine Refines.bind inferInstance fun (a, ts) (b, us) h => ?_
  have hab : a = b := h.like.1
  have hts : Alike ts us := ⟨h.like.2⟩
  subst hab
  infer_instance

theorem endsInBrace_apply (scopeEnd : Position) (s : Progress) :
    endsInBrace scopeEnd s = .ok (isBraced s.written, s) := by
  obtain ⟨ts, stray, written⟩ := s
  unfold endsInBrace
  rw [bind_apply]
  cases written with
  | nil => rfl
  | cons t written =>
    cases t with
    | leaf => rfl
    | group _ _ d _ => cases d <;> rfl

instance : Refines endsInBrace endsInBrace where
  ends := by
    intro frame hframe scopeEnd scopeEnd' s t hst
    obtain ⟨-, -, since, hsince, hwritten⟩ := id hst
    have hbraced : isBraced s.written = isBraced t.written := by
      rw [hwritten]
      generalize s.written = written at hsince ⊢
      cases hsince.front with
      | nothing => exact hframe.symm
      | group _ _ _ _ d => cases d <;> rfl
      | _ => rfl
    rw [endsInBrace_apply, endsInBrace_apply, hbraced]
    exact .ok inferInstance hst

instance (test : Ahead) [Ahead.Blind test] {p q : Parser α} [hp : Refines p q] :
    Refines (when test p) (when test q) := by
  unfold when
  refine Refines.bind inferInstance fun a b hab => ?_
  cases hab.eq
  refine Refines.ite Iff.rfl ?_ inferInstance
  exact Refines.bind inferInstance fun _ _ _ => inferInstance

/-! ## Loops -/

section Loops

variable {σ : Type} [Likeness σ]

/-- A turn of a loop, from any state. -/
theorem loopFor_refines {turn turn' : σ → Parser (Turn σ α)} {rest rest' : σ → α}
    (hturn : ∀ s t, Alike s t → Refines (turn s) (turn' t))
    (hrest : ∀ s t, Alike s t → Alike (rest s) (rest' t)) {bound bound' : List Tree}
    (hbound : bound.length = bound'.length) {s t : σ} (hst : Alike s t) :
    Refines (loopFor turn rest bound s) (loopFor turn' rest' bound' t) := by
  induction bound generalizing bound' s t with
  | nil =>
    obtain rfl := List.length_eq_zero_iff.mp hbound.symm
    unfold loopFor
    refine (hturn s t hst).bind fun r r' hr => ?_
    obtain ⟨hr⟩ := hr
    cases hr with
    | done hab => infer_instance
    | again hst' =>
      have := hrest _ _ hst'
      infer_instance
  | cons b bound ih =>
    cases bound' with
    | nil => cases hbound
    | cons b' bound' =>
      unfold loopFor
      refine (hturn s t hst).bind fun r r' hr => ?_
      obtain ⟨hr⟩ := hr
      cases hr with
      | done hab => infer_instance
      | again hst' => exact ih (Nat.succ.inj hbound) hst'

theorem loop_refines {turn turn' : σ → Parser (Turn σ α)} {rest rest' : σ → α}
    (hturn : ∀ s t, Alike s t → Refines (turn s) (turn' t))
    (hrest : ∀ s t, Alike s t → Alike (rest s) (rest' t)) {s t : σ} (hst : Alike s t) :
    Refines (loop turn rest s) (loop turn' rest' t) := by
  unfold loop
  exact Refines.bind inferInstance fun ts us hts => loopFor_refines hturn hrest hts.length_eq hst

instance [Discrete σ] {turn turn' : σ → Parser (Turn σ α)} (rest : σ → α) (s : σ)
    [h : ∀ s, Refines (turn s) (turn' s)] : Refines (loop turn rest s) (loop turn' rest s) :=
  loop_refines (fun s _ hst => hst.eq ▸ h s) (fun _ _ hst => hst.eq ▸ inferInstance) inferInstance

end Loops

section Many

variable {p q : Parser α} [hp : Refines p q]

instance (test : Ahead) [Ahead.Blind test] : Refines (manyWhile test p) (manyWhile test q) := by
  unfold manyWhile
  refine loop_refines (fun done done' _ => ?_) (fun _ _ _ => inferInstance) inferInstance
  refine Refines.bind inferInstance fun a b hab => ?_
  cases hab.eq
  refine Refines.ite Iff.rfl ?_ inferInstance
  exact Refines.bind inferInstance fun _ _ _ => inferInstance

instance : Refines (manyToEnd p) (manyToEnd q) := by
  unfold manyToEnd
  infer_instance

instance (separator : String) (stop : Ahead) [Ahead.Blind stop] :
    Refines (separated separator stop p) (separated separator stop q) := by
  unfold separated
  refine loop_refines (fun done done' _ => ?_) (fun _ _ _ => inferInstance) inferInstance
  refine Refines.bind inferInstance fun a b hab => ?_
  cases hab.eq
  refine Refines.ite Iff.rfl inferInstance ?_
  exact Refines.bind inferInstance fun _ _ _ => inferInstance

instance (separator : String) (stop : Ahead) [Ahead.Blind stop] :
    Refines (joined separator stop p) (joined separator stop q) := by
  unfold joined
  refine loop_refines (fun done done' _ => ?_) (fun _ _ _ => inferInstance) inferInstance
  refine Refines.bind inferInstance fun a b hab => ?_
  cases hab.eq
  refine Refines.ite Iff.rfl inferInstance ?_
  exact Refines.bind inferInstance fun _ _ _ => inferInstance

instance : Refines (commaList p) (commaList q) := by
  unfold commaList
  infer_instance

end Many

end Parser

end ReceiverLoader.Grammar
