import Mathlib.Data.List.Induction
import ReceiverLoader.Proofs.Marker.Listing

/-!
# Which lists of marker arguments are accepted

A list of arguments is accepted iff each of them has a name of its own, one of the three, and a
value for it. The first argument from the left of which this does not hold is reported, whatever
stands behind its comma.

* `Acceptable`, `Refused`: the arguments that are accepted, and why one is refused behind them.
* `foldlM_of_acceptable`, `foldlM_of_refused`: what settling the arguments comes to.
* `ofTrees_settled`: what a list of arguments is read as.
-/

namespace ReceiverLoader.Marker

open Grammar (IsExpression)
open Token (Position Tree)

namespace WrittenArgument

theorem eq_of_names {a : WrittenArgument} {f f' : Field} (h : a.Names f) (h' : a.Names f') :
    f = f' :=
  Option.some.inj ((field?_eq_some.mpr h).symm.trans (field?_eq_some.mpr h'))

theorem field?_eq_none {a : WrittenArgument} : a.field? = none ↔ ∀ f, ¬ a.Names f := by
  rw [Option.eq_none_iff_forall_ne_some]
  exact forall_congr' fun f => not_congr field?_eq_some

end WrittenArgument

/-- Each argument has one of the names, none has that of another, and each has a value for it. -/
structure Acceptable (as : List WrittenArgument) : Prop where
  named : ∀ a ∈ as, ∃ f, a.Names f ∧ (a.value? f).isSome
  once : as.Pairwise fun a b => ∀ f, a.Names f → ¬ b.Names f

/-- Why an argument is refused behind others that are accepted. -/
inductive Refused (before : List WrittenArgument) (a : WrittenArgument) : Error → Prop
  | unknown : (∀ f, ¬ a.Names f) → Refused before a ⟨a.path.position, .unknown⟩
  | duplicate {f : Field} (b : WrittenArgument) : a.Names f → b ∈ before → b.Names f →
      Refused before a ⟨a.path.position, .duplicate f⟩
  | value {f : Field} : a.Names f → (∀ b ∈ before, ¬ b.Names f) → a.value? f = none →
      Refused before a (a.valueError f)

/-- What has been read of a field is the value of the argument with its name. -/
def Taken.Holds (taken : Taken) (as : List WrittenArgument) : Prop :=
  ∀ f, (∀ a ∈ as, a.Names f → taken.value? f = a.value? f) ∧
    ((∀ a ∈ as, ¬ a.Names f) → taken.value? f = .none)

variable {as before after : List WrittenArgument} {a : WrittenArgument} {taken : Taken}

theorem acceptable_append_singleton :
    Acceptable (before ++ [a]) ↔
      Acceptable before ∧ ∃ f, a.Names f ∧ (a.value? f).isSome ∧ ∀ b ∈ before, ¬ b.Names f := by
  constructor
  · rintro ⟨hnamed, honce⟩
    obtain ⟨honce, -, hlast⟩ := List.pairwise_append.mp honce
    obtain ⟨f, hname, hvalue⟩ := hnamed a (by simp)
    exact ⟨⟨fun b hb => hnamed b (List.mem_append_left _ hb), honce⟩, f, hname, hvalue,
      fun b hb hb' => hlast b hb a (List.mem_singleton_self a) f hb' hname⟩
  · rintro ⟨⟨hnamed, honce⟩, f, hname, hvalue, hbefore⟩
    constructor
    · intro b hb
      obtain hb | hb := List.mem_append.mp hb
      · exact hnamed b hb
      · obtain rfl := List.mem_singleton.mp hb
        exact ⟨f, hname, hvalue⟩
    · refine List.pairwise_append.mpr ⟨honce, List.pairwise_singleton _ _, ?_⟩
      intro b hb c hc f' hb' hc'
      obtain rfl := List.mem_singleton.mp hc
      obtain rfl := WrittenArgument.eq_of_names hc' hname
      exact hbefore b hb hb'

/-- An argument behind acceptable ones is acceptable with them, or refused. -/
theorem acceptable_or_refused (hbefore : Acceptable before) (a : WrittenArgument) :
    Acceptable (before ++ [a]) ∨ ∃ e, Refused before a e := by
  cases hf : a.field? with
  | none => exact .inr ⟨_, .unknown (WrittenArgument.field?_eq_none.mp hf)⟩
  | some f =>
    have hname := WrittenArgument.field?_eq_some.mp hf
    by_cases hduplicate : ∃ b ∈ before, b.Names f
    · obtain ⟨b, hb, hb'⟩ := hduplicate
      exact .inr ⟨_, .duplicate b hname hb hb'⟩
    have hnone : ∀ b ∈ before, ¬ b.Names f := fun b hb hb' => hduplicate ⟨b, hb, hb'⟩
    cases hvalue : a.value? f with
    | none => exact .inr ⟨_, .value hname hnone hvalue⟩
    | some v =>
      refine .inl (acceptable_append_singleton.mpr ⟨hbefore, f, hname, ?_, hnone⟩)
      rw [hvalue]
      rfl

/-! ## Settling -/

theorem Taken.Holds.has_eq_false {f : Field} (h : taken.Holds as) (hno : ∀ a ∈ as, ¬ a.Names f) :
    taken.has f = false := by
  rw [taken.has_eq, (h f).2 hno]
  rfl

theorem settle_of_refused {e : Error} (hbefore : Acceptable before) (hholds : taken.Holds before)
    (h : Refused before a e) : settle taken a = .error e := by
  unfold settle
  cases h with
  | unknown hno => rw [WrittenArgument.field?_eq_none.mpr hno]
  | @duplicate f b hname hb hb' =>
    obtain ⟨f', hf', hvalue⟩ := hbefore.named b hb
    obtain rfl := WrittenArgument.eq_of_names hb' hf'
    have hhas : taken.has f = true := by
      rw [taken.has_eq, (hholds f).1 b hb hb']
      exact hvalue
    rw [WrittenArgument.field?_eq_some.mpr hname]
    dsimp only
    rw [if_pos hhas]
  | @value f hname hno hvalue =>
    rw [WrittenArgument.field?_eq_some.mpr hname]
    dsimp only
    rw [hholds.has_eq_false hno, if_neg Bool.false_ne_true, hvalue]

/-- Acceptable arguments are settled, and what has been read holds their values. -/
theorem foldlM_of_acceptable (h : Acceptable as) :
    ∃ taken, as.foldlM settle .none = .ok taken ∧ taken.Holds as := by
  induction as using List.reverseRecOn with
  | nil => exact ⟨.none, rfl, fun f => ⟨nofun, fun _ => by cases f <;> rfl⟩⟩
  | append_singleton before a ih =>
    obtain ⟨hbefore, f, hname, hvalue, hno⟩ := acceptable_append_singleton.mp h
    obtain ⟨taken, hfold, hholds⟩ := ih hbefore
    obtain ⟨v, hv⟩ := Option.isSome_iff_exists.mp hvalue
    have hsettle : settle taken a = .ok (taken.set f v) := by
      rw [settle, WrittenArgument.field?_eq_some.mpr hname]
      dsimp only
      rw [hholds.has_eq_false hno, if_neg Bool.false_ne_true, hv]
    refine ⟨taken.set f v, ?_, fun f' => ?_⟩
    · rw [List.foldlM_append, hfold]
      change [a].foldlM settle taken = _
      rw [List.foldlM_cons, hsettle]
      rfl
    · by_cases hf' : f' = f
      · subst f'
        constructor
        · intro b hb hb'
          obtain hb | hb := List.mem_append.mp hb
          · exact absurd hb' (hno b hb)
          · obtain rfl := List.mem_singleton.mp hb
            rw [taken.value?_set, hv]
        · intro hnone
          exact absurd hname (hnone a (by simp))
      · rw [taken.value?_set_of_ne hf']
        constructor
        · intro b hb hb'
          obtain hb | hb := List.mem_append.mp hb
          · exact (hholds f').1 b hb hb'
          · obtain rfl := List.mem_singleton.mp hb
            exact absurd (WrittenArgument.eq_of_names hb' hname) hf'
        · exact fun hnone => (hholds f').2 fun b hb => hnone b (List.mem_append_left _ hb)

/-- The first argument that is refused decides, whatever stands behind it. -/
theorem foldlM_of_refused {e : Error} (hbefore : Acceptable before) (h : Refused before a e)
    (after : List WrittenArgument) : (before ++ a :: after).foldlM settle .none = .error e := by
  obtain ⟨taken, hfold, hholds⟩ := foldlM_of_acceptable hbefore
  rw [List.foldlM_append, hfold]
  change (a :: after).foldlM settle taken = _
  rw [List.foldlM_cons, settle_of_refused hbefore hholds h]
  rfl

/-- All arguments of a list are acceptable, or there is a first one that is refused. -/
theorem acceptable_or_first_refused (as : List WrittenArgument) :
    Acceptable as ∨ ∃ before a after e, as = before ++ a :: after ∧ Acceptable before ∧
      Refused before a e := by
  induction as using List.reverseRecOn with
  | nil => exact .inl ⟨nofun, .nil⟩
  | append_singleton before a ih =>
    obtain hbefore | ⟨first, b, after, e, rfl, hfirst, hrefused⟩ := ih
    · obtain h | ⟨e, h⟩ := acceptable_or_refused hbefore a
      · exact .inl h
      · exact .inr ⟨before, a, [], e, rfl, hbefore, h⟩
    · exact .inr ⟨first, b, after ++ [a], e, by simp, hfirst, hrefused⟩

theorem Acceptable.perm {as' : List WrittenArgument} (h : Acceptable as) (hperm : as.Perm as') :
    Acceptable as' where
  named a ha := h.named a (hperm.mem_iff.mpr ha)
  once := h.once.perm hperm fun h f hb ha => h f ha hb

/-! ## What is read -/

/-- The arguments of a marker have the values that are given, and else the standard ones. -/
structure Carries (arguments : Arguments) (as : List WrittenArgument) : Prop where
  given : ∀ a ∈ as, ∀ f, a.Names f → a.value? f = some (arguments.value f)
  standard : ∀ f, (∀ a ∈ as, ¬ a.Names f) → arguments.value f = Arguments.standard.value f

theorem Arguments.ext_value {arguments arguments' : Arguments}
    (h : ∀ f, arguments.value f = arguments'.value f) : arguments = arguments' := by
  obtain ⟨group, priority, flag⟩ := arguments
  obtain ⟨group', priority', flag'⟩ := arguments'
  have hgroup : group = group' := h .group
  have hpriority : priority = priority' := h .priority
  have hflag : flag = flag' := h .flag
  rw [hgroup, hpriority, hflag]

/-- The given values leave no choice, and their order does not matter. -/
theorem Carries.unique {arguments arguments' : Arguments} {as' : List WrittenArgument}
    (h : Carries arguments as) (h' : Carries arguments' as') (hmem : ∀ a, a ∈ as ↔ a ∈ as') :
    arguments = arguments' := by
  refine Arguments.ext_value fun f => ?_
  by_cases hnamed : ∃ a ∈ as, a.Names f
  · obtain ⟨a, ha, hname⟩ := hnamed
    exact Option.some.inj
      ((h.given a ha f hname).symm.trans (h'.given a ((hmem a).mp ha) f hname))
  · have hno : ∀ a ∈ as, ¬ a.Names f := fun a ha hname => hnamed ⟨a, ha, hname⟩
    rw [h.standard f hno, h'.standard f fun a ha => hno a ((hmem a).mpr ha)]

theorem Taken.Holds.carries (hholds : taken.Holds as) (h : Acceptable as) :
    Carries taken.finish as where
  given a ha f hname := by
    obtain ⟨f', hname', hvalue⟩ := h.named a ha
    obtain rfl := WrittenArgument.eq_of_names hname hname'
    obtain ⟨v, hv⟩ := Option.isSome_iff_exists.mp hvalue
    rw [taken.value_finish, (hholds f).1 a ha hname, hv]
    rfl
  standard f hno := by
    rw [taken.value_finish, (hholds f).2 hno]
    rfl

/-- What the trees of a list of arguments are read as. -/
structure Settled (as : List WrittenArgument) (ts : List Tree) : Prop where
  /-- The list is accepted iff each argument has a name of its own and a value for it. -/
  accepted : (∃ arguments, Arguments.ofTrees ts = .ok arguments) ↔ Acceptable as
  /-- What is read are the given values, and the standard ones for the other names. -/
  values : ∀ arguments, Arguments.ofTrees ts = .ok arguments → Carries arguments as
  /-- The order of the arguments makes no difference to what is read. -/
  permuted : ∀ as' ts' arguments, as.Perm as' → IsList as' ts' →
    Arguments.ofTrees ts = .ok arguments → Arguments.ofTrees ts' = .ok arguments
  /-- A comma behind the last argument makes no difference. -/
  comma : ∀ ts', IsList as ts' → Arguments.ofTrees ts' = Arguments.ofTrees ts
  /-- The first argument that is refused is reported, whatever stands behind its comma. -/
  refused : ∀ e, Arguments.ofTrees ts = .error e → ∃ before a after, as = before ++ a :: after ∧
    Acceptable before ∧ Refused before a e ∧
    ∀ after' ts', (∀ b ∈ after', IsExpression b.value) → IsList (before ++ a :: after') ts' →
      Arguments.ofTrees ts' = .error e

theorem ofTrees_of_acceptable {ts : List Tree} (hlist : IsList as ts)
    (hvalues : ∀ a ∈ as, IsExpression a.value) (h : Acceptable as) :
    ∃ arguments, Arguments.ofTrees ts = .ok arguments ∧ Carries arguments as := by
  obtain ⟨taken, hfold, hholds⟩ := foldlM_of_acceptable h
  refine ⟨taken.finish, ?_, hholds.carries h⟩
  rw [ofTrees_eq_foldlM hlist hvalues, hfold]
  rfl

theorem ofTrees_of_refused {ts : List Tree} {e : Error}
    (hlist : IsList (before ++ a :: after) ts)
    (hvalues : ∀ b ∈ before ++ a :: after, IsExpression b.value) (hbefore : Acceptable before)
    (h : Refused before a e) : Arguments.ofTrees ts = .error e := by
  rw [ofTrees_eq_foldlM hlist hvalues, foldlM_of_refused hbefore h]
  rfl

/-- A list of complete expressions behind names is accepted iff each name is one of the three, none
comes twice and each expression is a value for its name; it is read as those values, in any order
and with a comma at its end or without; else the first argument from the left that is at fault is
reported, for its name if that is at fault and else for its value. -/
theorem ofTrees_settled {ts : List Tree} (hlist : IsList as ts)
    (hvalues : ∀ a ∈ as, IsExpression a.value) : Settled as ts := by
  have hacceptable {arguments : Arguments} (hread : Arguments.ofTrees ts = .ok arguments) :
      Acceptable as := by
    obtain h | ⟨before, a, after, e, rfl, hbefore, hrefused⟩ := acceptable_or_first_refused as
    · exact h
    · rw [ofTrees_of_refused hlist hvalues hbefore hrefused] at hread
      cases hread
  have hcarries {arguments : Arguments} (hread : Arguments.ofTrees ts = .ok arguments) :
      Carries arguments as := by
    obtain ⟨arguments', hread', h⟩ := ofTrees_of_acceptable hlist hvalues (hacceptable hread)
    rw [hread] at hread'
    cases hread'
    exact h
  constructor
  case accepted =>
    constructor
    · exact fun ⟨_, hread⟩ => hacceptable hread
    · intro h
      obtain ⟨arguments, hread, -⟩ := ofTrees_of_acceptable hlist hvalues h
      exact ⟨arguments, hread⟩
  case values => exact fun _ => hcarries
  case permuted =>
    intro as' ts' arguments hperm hlist' hread
    have hvalues' : ∀ a ∈ as', IsExpression a.value :=
      fun a ha => hvalues a (hperm.mem_iff.mpr ha)
    obtain ⟨arguments', hread', h'⟩ :=
      ofTrees_of_acceptable hlist' hvalues' ((hacceptable hread).perm hperm)
    rw [hread', (hcarries hread).unique h' fun _ => hperm.mem_iff]
  case comma =>
    intro ts' hlist'
    rw [ofTrees_eq_foldlM hlist' hvalues, ofTrees_eq_foldlM hlist hvalues]
  case refused =>
    intro e hread
    obtain h | ⟨before, a, after, e', rfl, hbefore, hrefused⟩ := acceptable_or_first_refused as
    · obtain ⟨arguments, hread', -⟩ := ofTrees_of_acceptable hlist hvalues h
      rw [hread] at hread'
      cases hread'
    · have hread' := ofTrees_of_refused hlist hvalues hbefore hrefused
      rw [hread] at hread'
      cases hread'
      refine ⟨before, a, after, rfl, hbefore, hrefused, fun after' ts' hvalues' hlist' => ?_⟩
      refine ofTrees_of_refused hlist' (fun b hb => ?_) hbefore hrefused
      obtain hb | hb := List.mem_append.mp hb
      · exact hvalues b (List.mem_append_left _ hb)
      · obtain rfl | hb := List.mem_cons.mp hb
        · exact hvalues b (by simp)
        · exact hvalues' b hb

/-! ## A list of three arguments -/

/-- An argument with a single word for its name. -/
def plainArgument (name : String) (value : List Tree) : WrittenArgument :=
  ⟨⟨none, Position.start, name, []⟩, Position.start, false, value⟩

/-- The arguments `group = "ui"`, `priority = -5` and `flag = #[inline] 0b101`. -/
def sample : List WrittenArgument :=
  [plainArgument "group" [.leaf Position.start (.literal "\"ui\"")],
   plainArgument "priority" [.leaf Position.start (.mark '-' false),
      .leaf Position.start (.literal "5")],
   plainArgument "flag" (Grammar.attributeTrees ⟨false, ["inline"]⟩ [] none ++
      [.leaf Position.start (.literal "0b101")])]

/-- The tokens of the list, with a comma at its end. -/
def sampleTrees : List Tree :=
  sample.flatMap fun a => a.trees ++ [.leaf Position.start (.mark ',' false)]

theorem ofTrees_settled_sample :
    IsList sample sampleTrees ∧ (∀ a ∈ sample, IsExpression a.value) ∧
      Settled sample sampleTrees := by
  have hlist : IsList sample sampleTrees :=
    .cons _ _ _ (.cons _ _ _ (.cons _ _ _ .nil))
  have hplain : Grammar.Path.Plain ⟨false, ["inline"]⟩ := ⟨by decide, by decide⟩
  have hflag := (Grammar.isExpression_literal Position.start "0b101").attributed
    (show _ = some ⟨false, Position.start, 5⟩ by decide +kernel) hplain [] none
  have hvalues : ∀ a ∈ sample, IsExpression a.value := by
    intro a ha
    simp only [sample, List.mem_cons, List.not_mem_nil, or_false] at ha
    obtain rfl | rfl | rfl := ha
    · exact Grammar.isExpression_literal _ _
    · exact Grammar.isExpression_minus _ _ _ _
    · exact hflag.1
  exact ⟨hlist, hvalues, ofTrees_settled hlist hvalues⟩

example : Arguments.ofTrees sampleTrees = .ok ⟨"ui", -5, 5⟩ := by decide +kernel

end ReceiverLoader.Marker
