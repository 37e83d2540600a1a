import ReceiverLoader.Marker.Arguments
import ReceiverLoader.Proofs.Grammar.Integers

/-!
# Marker arguments as they are written

A list of arguments as it is written: a path, `=` and an expression each, with commas between them
and perhaps behind the last. What an argument is read as is settled by its path, by its expression
and by the names that were read before it; positions matter for the errors only.

* `WrittenPath`, `WrittenArgument`, `IsList`: paths, arguments and lists of them with their tokens.
* `text?`, `integer?`: the value that an expression is, for a field of either kind.
* `settle`: what an argument adds to those before it, or why it is refused.
-/

namespace ReceiverLoader.Marker

open Grammar (Ahead SignedLiteral textEnd)
open Token (Position Tree Literal)

/-! ## Paths -/

/-- The places of `::`. -/
structure DoubleColon where
  first : Position
  second : Position
  joint : Bool

namespace DoubleColon

/-- The tokens of `::`. -/
def trees (c : DoubleColon) : List Tree :=
  [.leaf c.first (.mark ':' true), .leaf c.second (.mark ':' c.joint)]

end DoubleColon

/-- A path as it is written in front of `=`: any words with `::` between them. -/
structure WrittenPath where
  /-- The `::` in front, if there is one. -/
  leading : Option DoubleColon
  position : Position
  first : String
  /-- The words behind the first, with the `::` in front of each. -/
  further : List (DoubleColon × Position × String)

namespace WrittenPath

/-- The tokens of the words behind the first. -/
def furtherTrees : List (DoubleColon × Position × String) → List Tree
  | [] => []
  | (c, p, w) :: further => c.trees ++ .leaf p (.word w) :: furtherTrees further

/-- The tokens of the path. -/
def trees (path : WrittenPath) : List Tree :=
  (path.leading.map DoubleColon.trees).getD [] ++
    .leaf path.position (.word path.first) :: furtherTrees path.further

/-- The path is the identifier `name` and nothing else. -/
structure IsPlain (path : WrittenPath) (name : String) : Prop where
  leading : path.leading = none
  first : path.first = name
  further : path.further = []

/-- The word that the path is, if it is a single word. -/
def plain? (path : WrittenPath) : Option String :=
  if path.leading.isSome || !path.further.isEmpty then none else some path.first

theorem isPlain_iff {path : WrittenPath} {name : String} :
    path.IsPlain name ↔ path.leading = none ∧ path.first = name ∧ path.further = [] :=
  ⟨fun ⟨hleading, hfirst, hfurther⟩ => ⟨hleading, hfirst, hfurther⟩,
    fun ⟨hleading, hfirst, hfurther⟩ => ⟨hleading, hfirst, hfurther⟩⟩

theorem plain?_eq_some {path : WrittenPath} {name : String} :
    path.plain? = some name ↔ path.IsPlain name := by
  obtain ⟨leading, position, first, further⟩ := path
  rw [isPlain_iff, plain?]
  cases leading <;> cases further <;> simp

end WrittenPath

/-! ## Values -/

namespace Field

/-- The type of a field's values. -/
@[reducible] def Value : Field → Type
  | group => String
  | priority => Int32
  | flag => Int32

theorem ofName?_eq_some {name : String} {f : Field} : ofName? name = some f ↔ name = f.name := by
  constructor
  · intro h
    have hname := @List.find?_some _ (fun f : Field => f.name == name) _ _ h
    exact (beq_iff_eq.mp hname).symm
  · rintro rfl
    exact ofName?_name f

end Field

/-- The value of a field. -/
def Arguments.value (arguments : Arguments) : (f : Field) → f.Value
  | .group => arguments.group
  | .priority => arguments.priority
  | .flag => arguments.flag

namespace Taken

/-- The value that has been read for a field. -/
def value? (taken : Taken) : (f : Field) → Option f.Value
  | .group => taken.group
  | .priority => taken.priority
  | .flag => taken.flag

/-- The arguments with one more. -/
def set (taken : Taken) : (f : Field) → f.Value → Taken
  | .group, value => { taken with group := some value }
  | .priority, value => { taken with priority := some value }
  | .flag, value => { taken with flag := some value }

theorem has_eq (taken : Taken) (f : Field) : taken.has f = (taken.value? f).isSome := by
  cases f <;> rfl

theorem value?_set (taken : Taken) (f : Field) (value : f.Value) :
    (taken.set f value).value? f = some value := by
  cases f <;> rfl

theorem value?_set_of_ne (taken : Taken) {f f' : Field} (hne : f' ≠ f) (value : f.Value) :
    (taken.set f value).value? f' = taken.value? f' := by
  cases f <;> cases f' <;> first | rfl | exact absurd rfl hne

theorem value_finish (taken : Taken) (f : Field) :
    taken.finish.value f = (taken.value? f).getD (Arguments.standard.value f) := by
  cases f <;> rfl

end Taken

/-- Where trees begin. -/
def beginning (ts : List Tree) : Position := (ts.head?.map Tree.position).getD textEnd

/-- The text that trees are. -/
def text? : List Tree → Option String
  | [.leaf _ (.literal w)] =>
    match Literal.ofWritten w with
    | .text value => some value
    | _ => none
  | _ => none

/-- Why an expression is refused that is no text: something follows a text, or there is none. -/
def textError (ts : List Tree) : Error :=
  if Ahead.textLiteral ts then ⟨beginning ts.tail, .grammar (.wanted (.mark ",") false)⟩
  else ⟨beginning ts, .grammar (.wanted .stringLiteral false)⟩

/-- The integer that trees are, if it has 32 bits. -/
def integer? (ts : List Tree) : Option Int32 := do int32? (← SignedLiteral.ofTrees? ts).value

/-- Why an expression is refused that is no integer of 32 bits. -/
def integerError (ts : List Tree) : Error :=
  match SignedLiteral.ofTrees? ts with
  | some l => if l.isNegative then ⟨beginning ts, .tooSmall⟩ else ⟨l.position, .tooLarge⟩
  | none => ⟨beginning ts, .noInteger⟩

theorem text?_eq_some {ts : List Tree} {v : String} :
    text? ts = some v ↔ ∃ p w, ts = [.leaf p (.literal w)] ∧ Literal.ofWritten w = .text v := by
  constructor
  · intro h
    unfold text? at h
    split at h
    · split at h
      · rename_i hw
        cases h
        exact ⟨_, _, rfl, hw⟩
      · cases h
    · cases h
  · rintro ⟨p, w, rfl, hw⟩
    unfold text?
    dsimp only
    rw [hw]

/-- The integers of 32 bits stand for themselves. -/
theorem int32?_eq_some {value : Int} {n : Int32} : int32? value = some n ↔ n.toInt = value := by
  unfold int32?
  split
  · rename_i hrange
    obtain ⟨hlow, hhigh⟩ := hrange
    rw [Option.some_inj]
    constructor
    · rintro rfl
      exact Int32.toInt_ofInt_of_le hlow (Int.lt_add_one_of_le hhigh)
    · rintro rfl
      exact Int32.ofInt_toInt n
  · rename_i hrange
    refine ⟨nofun, ?_⟩
    rintro rfl
    exact absurd ⟨n.minValue_le_toInt, n.toInt_le⟩ hrange

/-- Trees are an integer of 32 bits iff they are a literal, with a minus or without, of its
value. -/
theorem integer?_eq_some {ts : List Tree} {n : Int32} :
    integer? ts = some n ↔ ∃ l, SignedLiteral.ofTrees? ts = some l ∧ l.value = n.toInt := by
  unfold integer?
  rw [Option.bind_eq_bind, Option.bind_eq_some_iff]
  exact exists_congr fun l => and_congr_right fun _ => int32?_eq_some.trans eq_comm

/-! ## Arguments -/

/-- An argument as it is written. -/
structure WrittenArgument where
  path : WrittenPath
  /-- The place of `=`. -/
  equals : Position
  /-- Whether a mark follows the `=` directly. -/
  joint : Bool
  value : List Tree

namespace WrittenArgument

/-- The tokens of the argument. -/
def trees (a : WrittenArgument) : List Tree :=
  a.path.trees ++ .leaf a.equals (.mark '=' a.joint) :: a.value

theorem append_ne_nil (a : WrittenArgument) {rest : List Tree} : a.trees ++ rest ≠ [] := by
  simp [trees]

/-- The field that the argument names. -/
def field? (a : WrittenArgument) : Option Field := a.path.plain?.bind Field.ofName?

/-- The argument's name is that of the field. -/
def Names (a : WrittenArgument) (f : Field) : Prop := a.path.IsPlain f.name

theorem field?_eq_some {a : WrittenArgument} {f : Field} : a.field? = some f ↔ a.Names f := by
  unfold field? Names
  rw [Option.bind_eq_some_iff]
  constructor
  · rintro ⟨name, hplain, hname⟩
    rw [← Field.ofName?_eq_some.mp hname]
    exact WrittenPath.plain?_eq_some.mp hplain
  · exact fun h => ⟨f.name, WrittenPath.plain?_eq_some.mpr h, Field.ofName?_name f⟩

/-- What the argument's value is for a field. -/
def value? (a : WrittenArgument) : (f : Field) → Option f.Value
  | .group => text? a.value
  | .priority => integer? a.value
  | .flag => integer? a.value

/-- Why the argument's value is refused for a field. -/
def valueError (a : WrittenArgument) : Field → Error
  | .group => textError a.value
  | .priority => integerError a.value
  | .flag => integerError a.value

end WrittenArgument

/-- What is read with one argument more, or why it is refused: its name comes before its value. -/
def settle (taken : Taken) (a : WrittenArgument) : Except Error Taken :=
  match a.field? with
  | none => .error ⟨a.path.position, .unknown⟩
  | some f =>
    if taken.has f then .error ⟨a.path.position, .duplicate f⟩
    else
      match a.value? f with
      | some value => .ok (taken.set f value)
      | none => .error (a.valueError f)

/-- The trees are the arguments with commas between them. A comma behind the last is admitted. -/
inductive IsList : List WrittenArgument → List Tree → Prop
  | nil : IsList [] []
  | last (a : WrittenArgument) : IsList [a] a.trees
  | cons (a : WrittenArgument) (p : Position) (joint : Bool) {as : List WrittenArgument}
      {ts : List Tree} :
      IsList as ts → IsList (a :: as) (a.trees ++ .leaf p (.mark ',' joint) :: ts)

theorem WrittenArgument.sizeAll_value (a : WrittenArgument) (rest : List Tree) :
    Tree.sizeAll a.value + Tree.sizeAll rest < Tree.sizeAll (a.trees ++ rest) := by
  simp only [trees, Grammar.sizeAll_append, Tree.sizeAll, Tree.size]
  omega

theorem IsList.bounds {as : List WrittenArgument} {ts : List Tree} (hlist : IsList as ts) :
    as.length ≤ ts.length ∧ ∀ a ∈ as, Tree.sizeAll a.value ≤ Tree.sizeAll ts := by
  induction hlist with
  | nil => exact ⟨Nat.le_refl 0, nofun⟩
  | last a =>
    have hsize := a.sizeAll_value []
    rw [List.append_nil] at hsize
    refine ⟨List.length_pos_iff.mpr (List.append_nil a.trees ▸ a.append_ne_nil), ?_⟩
    rintro _ (_ | ⟨_, ⟨⟩⟩)
    omega
  | @cons a p joint as ts hlist ih =>
    obtain ⟨hlength, hsizes⟩ := ih
    have hsize := a.sizeAll_value (.leaf p (.mark ',' joint) :: ts)
    rw [Tree.sizeAll] at hsize
    refine ⟨by rw [List.length_append, List.length_cons, List.length_cons]; omega, ?_⟩
    intro b hb
    obtain rfl | hb := List.mem_cons.mp hb
    · omega
    · have := hsizes b hb
      omega

end ReceiverLoader.Marker
