import ReceiverLoader.Proofs.Grammar.Reading
import ReceiverLoader.Proofs.Grammar.Running

/-!
# Declarations with an attribute in front

The tokens of an attribute, and what a declaration is read as that they stand in front of.

* `attributeTrees`: the tokens of an outer attribute.
* `outerAttributes_cons`: they are read as that attribute.
* `readModule_attributed`: a declaration behind them is read as one that begins with the attribute.
-/

namespace ReceiverLoader.Grammar

open Token (Position Tree Delimiter)
open Grammar.Parser

/-! ## Paths -/

/-- The tokens of `::`. -/
def doubleColon : List Tree :=
  [.leaf Position.start (.mark ':' true), .leaf Position.start (.mark ':' false)]

/-- The tokens of words with `::` between them. -/
def segmentTrees : List String → List Tree
  | [] => []
  | [s] => [.leaf Position.start (.word s)]
  | s :: t :: rest => .leaf Position.start (.word s) :: (doubleColon ++ segmentTrees (t :: rest))

/-- Whether the word can be a segment of an attribute's path. -/
def isSegment (s : String) : Bool :=
  (Ahead.identifier.or Ahead.pathKeyword) [.leaf Position.start (.word s)]

namespace Path

/-- The tokens of a path. -/
def trees (p : Path) : List Tree :=
  (if p.leadingColon then doubleColon else []) ++ segmentTrees p.segments

/-- An attribute can have the path. -/
structure Plain (p : Path) : Prop where
  nonempty : p.segments ≠ []
  isSegment : ∀ s ∈ p.segments, isSegment s = true

end Path

variable {scopeEnd : Position} {stray : Option Stray} {written : List Tree}

/-- Reads a segment, and goes on behind `::`. -/
def segmentTurn (done : List String) : Parser (Turn (List String) (List String)) := do
  if ← ahead (Ahead.identifier.or Ahead.pathKeyword) then
    let segment ← word
    if ← mark? "::" then return .again (segment :: done)
    else return .done (segment :: done).reverse
  else if done.isEmpty then want .identifier
  else want .pathSegment

theorem modulePath_eq : modulePath = do
    let leadingColon ← mark? "::"
    let segments ← loop segmentTurn List.reverse []
    return ⟨leadingColon, segments⟩ := rfl

theorem segmentTurn_apply {s : String} (hs : isSegment s = true) (done : List String)
    (p : Position) (ts : List Tree) :
    segmentTurn done scopeEnd ⟨.leaf p (.word s) :: ts, stray, written⟩ =
      .ok (if Ahead.mark "::" ts then
        (.again (s :: done), (⟨ts, stray, .leaf p (.word s) :: written⟩ : Progress).past 2)
      else (.done (s :: done).reverse, ⟨ts, stray, .leaf p (.word s) :: written⟩)) := by
  have hahead : (Ahead.identifier.or Ahead.pathKeyword) (.leaf p (.word s) :: ts) = true := hs
  unfold segmentTurn
  rw [bind_of_ok (ahead_apply ..), hahead, if_pos rfl, bind_of_ok (word_apply ..), bind_apply,
    mark?_apply]
  cases hmark : Ahead.mark "::" ts <;> rfl

/-- Words with `::` between them are read to their end. -/
theorem loopFor_segmentTurn {rest : List Tree} (hrest : Ahead.mark "::" rest = false) :
    ∀ (ss : List String) (bound : List Tree) (done : List String) (written : List Tree),
      ss ≠ [] → (∀ s ∈ ss, isSegment s = true) → ss.length ≤ bound.length + 1 →
      loopFor segmentTurn List.reverse bound done scopeEnd
          ⟨segmentTrees ss ++ rest, stray, written⟩ =
        .ok (done.reverse ++ ss, ⟨rest, stray, (segmentTrees ss).reverse ++ written⟩)
  | [s], bound, done, written, _, hss, _ => by
    rw [loopFor_apply, segmentTrees, List.singleton_append,
      segmentTurn_apply (hss s List.mem_cons_self), hrest]
    simp
  | s :: t :: ss, [], done, written, _, _, hbound => by
    rw [List.length_cons, List.length_cons, List.length_nil] at hbound
    omega
  | s :: t :: ss, b :: bound, done, written, _, hss, hbound => by
    have ih := loopFor_segmentTurn hrest (t :: ss) bound (s :: done)
      (doubleColon.reverse ++ .leaf Position.start (.word s) :: written) (List.cons_ne_nil t ss)
      (fun s h => hss s (List.mem_cons_of_mem _ h)) (Nat.le_of_succ_le_succ hbound)
    rw [loopFor_apply, segmentTrees, List.cons_append,
      segmentTurn_apply (hss s List.mem_cons_self), List.append_assoc]
    refine ih.trans ?_
    simp

theorem length_le_segmentTrees : ∀ ss : List String, ss.length ≤ (segmentTrees ss).length
  | [] => Nat.le_refl 0
  | [_] => Nat.le_refl 1
  | s :: t :: ss => by
    have ih := length_le_segmentTrees (t :: ss)
    simp only [segmentTrees, List.length_cons, List.length_append] at ih ⊢
    omega

theorem mark_segmentTrees {ss : List String} (hne : ss ≠ []) (rest : List Tree) :
    Ahead.mark "::" (segmentTrees ss ++ rest) = false := by
  match ss with
  | [_] => rfl
  | _ :: _ :: _ => rfl

/-- The tokens of a path are read as that path. -/
theorem modulePath_trees {p : Path} (hp : p.Plain) {rest : List Tree}
    (hrest : Ahead.mark "::" rest = false) :
    modulePath scopeEnd ⟨p.trees ++ rest, stray, written⟩ =
      .ok (p, ⟨rest, stray, p.trees.reverse ++ written⟩) := by
  obtain ⟨leadingColon, ss⟩ := p
  obtain ⟨hne, hss⟩ := hp
  have hsegments (written : List Tree) :
      loop segmentTurn List.reverse [] scopeEnd ⟨segmentTrees ss ++ rest, stray, written⟩ =
        .ok (ss, ⟨rest, stray, (segmentTrees ss).reverse ++ written⟩) := by
    refine loopFor_segmentTurn hrest ss _ [] written hne hss ?_
    have := length_le_segmentTrees ss
    rw [List.length_append]
    omega
  unfold Path.trees
  rw [modulePath_eq, bind_apply, mark?_apply]
  cases leadingColon with
  | false =>
    simp only [Bool.false_eq_true, if_false, List.nil_append, mark_segmentTrees hne]
    rw [bind_of_ok (hsegments _)]
    rfl
  | true =>
    simp only [if_true, List.append_assoc]
    rw [if_pos (show Ahead.mark "::" (doubleColon ++ (segmentTrees ss ++ rest)) = true from rfl)]
    refine (bind_of_ok (hsegments (doubleColon.reverse ++ written))).trans ?_
    rw [List.reverse_append, List.append_assoc]
    rfl

theorem keyword_trees {w : String} (hw : isSegment w = false) {p : Path} (hp : p.Plain)
    (rest : List Tree) : Ahead.keyword w (p.trees ++ rest) = false := by
  obtain ⟨leadingColon, ss⟩ := p
  obtain ⟨hne, hss⟩ := hp
  have hfirst (s : String) (hs : isSegment s = true) : (s == w) = false :=
    beq_eq_false_iff_ne.mpr fun h => by rw [h, hw] at hs; cases hs
  cases leadingColon with
  | true => rfl
  | false =>
    match ss with
    | [s] => exact hfirst s (hss s List.mem_cons_self)
    | s :: _ :: _ => exact hfirst s (hss s List.mem_cons_self)

/-! ## Attributes -/

/-- The tokens of an attribute's arguments, if there are any. -/
def argumentTrees (arguments : List Tree) : Option Delimiter → List Tree
  | none => []
  | some d => [.group Position.start Position.start d arguments]

/-- What an attribute with these arguments carries. -/
def AttributeContent.of (arguments : List Tree) : Option Delimiter → AttributeContent
  | none => .nothing
  | some _ => .arguments Position.start arguments

/-- The tokens of an outer attribute. -/
def attributeTrees (p : Path) (arguments : List Tree) (delimiter? : Option Delimiter) :
    List Tree :=
  [.leaf Position.start (.mark '#' false),
    .group Position.start Position.start .bracket (p.trees ++ argumentTrees arguments delimiter?)]

theorem outerAttribute_eq_ok {g : Rules} {s s' : Progress} {a : Attribute}
    (h : g.outerAttribute scopeEnd s = .ok (a, s')) :
    ∃ p joint opens closes body,
      s.trees = .leaf p (.mark '#' joint) :: .group opens closes .bracket body :: s'.trees := by
  obtain ⟨_, s₁, hmark, hgroup⟩ := bind_eq_ok.mp h
  obtain ⟨hahead, rfl⟩ := mark_eq_ok hmark
  obtain ⟨p, joint, rest, hs⟩ := Ahead.markOf_singleton hahead
  obtain ⟨opens, closes, body, _, hrest, -⟩ := group_eq_ok hgroup
  rw [Progress.past, hs] at hrest
  exact ⟨p, joint, opens, closes, body, hs.trans (congrArg (_ :: ·) hrest)⟩

section Attribute

variable (g : Rules) {p : Path} (hp : p.Plain) (arguments : List Tree)
  (delimiter? : Option Delimiter)
include hp

theorem attributeInside_trees :
    g.attributeInside scopeEnd ⟨p.trees ++ argumentTrees arguments delimiter?, stray, written⟩ =
      .ok (⟨p, .of arguments delimiter?⟩,
        ⟨[], stray, (p.trees ++ argumentTrees arguments delimiter?).reverse ++ written⟩) := by
  have hpath : Ahead.mark "::" (argumentTrees arguments delimiter?) = false := by
    cases delimiter? <;> rfl
  unfold Rules.attributeInside
  rw [bind_of_ok (ahead_apply ..), keyword_trees (by decide) hp, if_neg Bool.false_ne_true,
    bind_of_ok (modulePath_trees hp hpath), List.reverse_append]
  cases delimiter? <;> rfl

theorem outerAttribute_trees (ts : List Tree) :
    g.outerAttribute scopeEnd ⟨attributeTrees p arguments delimiter? ++ ts, none, written⟩ =
      .ok (⟨p, .of arguments delimiter?⟩,
        ⟨ts, none, (attributeTrees p arguments delimiter?).reverse ++ written⟩) := by
  have hmark : mark "#" scopeEnd ⟨attributeTrees p arguments delimiter? ++ ts, none, written⟩ =
      .ok ((), (⟨attributeTrees p arguments delimiter? ++ ts, none, written⟩ : Progress).past 1) :=
    rfl
  have hopen : openGroup .bracket g.attributeInside scopeEnd
        ((⟨attributeTrees p arguments delimiter? ++ ts, none, written⟩ : Progress).past 1) =
      .ok ((⟨p, .of arguments delimiter?⟩, none),
        ⟨ts, none, (attributeTrees p arguments delimiter?).reverse ++ written⟩) := by
    refine (openGroup_apply ..).trans ?_
    rw [attributeInside_trees g hp, List.append_nil]
    dsimp only
    rw [List.reverse_reverse]
    rfl
  unfold Rules.outerAttribute group
  rw [bind_of_ok hmark, bind_of_ok hopen]
  rfl

omit hp in
theorem outerAttribute_consumes : Consumes (Ahead.mark "#") g.outerAttribute := by
  intro scopeEnd s a s' _ h
  obtain ⟨_, _, _, _, _, hs⟩ := outerAttribute_eq_ok h
  rw [hs, List.length_cons, List.length_cons]
  omega

/-- The tokens of an attribute are read as that attribute, with those behind it. -/
theorem outerAttributes_cons (ts : List Tree) :
    g.outerAttributes scopeEnd ⟨attributeTrees p arguments delimiter? ++ ts, none, written⟩ =
      (g.outerAttributes scopeEnd
        ⟨ts, none, (attributeTrees p arguments delimiter?).reverse ++ written⟩).map
        fun (as, s) => (⟨p, .of arguments delimiter?⟩ :: as, s) :=
  manyWhile_cons (outerAttribute_consumes g) rfl (outerAttribute_trees g hp arguments delimiter? ts)

end Attribute

/-! ## Declarations -/

/-- A declaration has the attributes that have been read before it, whatever they are. -/
theorem itemBehindRule_attributes {g : Rules} {as : List Attribute} {s s' : Progress}
    {d : TypeDeclaration} (h : g.itemBehindRule as scopeEnd s = .ok (some (.type d), s'))
    (bs : List Attribute) :
    g.itemBehindRule bs scopeEnd s = .ok (some (.type { d with attributes := bs }), s') := by
  obtain ⟨position, s₁, hhere, h⟩ := bind_eq_ok.mp h
  obtain ⟨isVisible, s₂, hvisibility, h⟩ := bind_eq_ok.mp h
  obtain ⟨item?, s₃, hbody, h⟩ := bind_eq_ok.mp h
  match item? with
  | some (.type d₀) =>
    cases h
    exact (bind_of_ok hhere).trans ((bind_of_ok hvisibility).trans (bind_of_ok hbody))
  | some (.trait _) | some (.implementation ..) | some (.module ..) | some (.use ..) | some .other
  | none => cases h

theorem itemRule_eq_type {g : Rules} {s s' : Progress} {d : TypeDeclaration} :
    g.itemRule scopeEnd s = .ok (.type d, s') ↔
      ∃ as s₁ d₀ s₂, g.outerAttributes scopeEnd { s with written := [] } = .ok (as, s₁) ∧
        g.itemBehind as scopeEnd s₁ = .ok (some (.type d₀), s₂) ∧
        d = { d₀ with trees := s₂.written.reverse } ∧
        s' = { s₂ with written := s₂.written ++ s.written } := by
  have htrees : trees scopeEnd s = .ok (s.trees, s) := rfl
  constructor
  · intro h
    unfold Rules.itemRule at h
    rw [bind_of_ok htrees] at h
    obtain ⟨⟨item?, normal⟩, _, hcapture, h⟩ := bind_eq_ok.mp h
    obtain ⟨s₂, hread, rfl, rfl⟩ := capture_eq_ok.mp hcapture
    obtain ⟨as, s₁, has, hitem⟩ := bind_eq_ok.mp hread
    match item? with
    | some (.type d₀) =>
      cases h
      refine ⟨as, s₁, d₀, s₂, has, hitem, rfl, ?_⟩
      rw [List.reverse_reverse]
    | some (.trait _) | some (.implementation ..) | some (.module ..) | some (.use ..)
    | some .other | none => cases h
  · rintro ⟨as, s₁, d₀, s₂, has, hitem, rfl, rfl⟩
    have hcapture : capture (do g.itemBehind (← g.outerAttributes)) scopeEnd s =
        .ok ((some (.type d₀), s₂.written.reverse), { s₂ with written := s.written }) :=
      capture_eq_ok.mpr ⟨s₂, (bind_of_ok has).trans hitem, rfl, rfl⟩
    have hemit : emit s₂.written.reverse scopeEnd { s₂ with written := s.written } =
        .ok ((), { s₂ with written := s₂.written ++ s.written }) := by
      change Except.ok ((), { s₂ with written := s₂.written.reverse.reverse ++ s.written }) = _
      rw [List.reverse_reverse]
    exact (bind_of_ok htrees).trans ((bind_of_ok hcapture).trans (bind_of_ok hemit))

theorem type_of_alike {d : TypeDeclaration} {item? : Option Item}
    (h : Alike (some (Item.type d)) item?) : ∃ d', item? = some (.type d') := by
  obtain ⟨h⟩ := h
  cases h with
  | some h =>
    cases h with
    | type => exact ⟨_, rfl⟩

/-- A declaration is read with an attribute in front of it where it is read without. -/
theorem item_attributed {n m : Nat} (hnm : n ≤ m) {p : Path} (hp : p.Plain)
    (arguments : List Tree) (delimiter? : Option Delimiter) {ts : List Tree} {d : TypeDeclaration}
    {s : Progress} (h : (rules (n + 2)).item scopeEnd ⟨ts, none, []⟩ = .ok (.type d, s)) :
    ∃ d' s', (rules (m + 2)).item scopeEnd
        ⟨attributeTrees p arguments delimiter? ++ ts, none, []⟩ = .ok (.type d', s') ∧
      d'.attributes.head? = some ⟨p, .of arguments delimiter?⟩ ∧ Alike s.trees s'.trees ∧
      Alike s.stray s'.stray := by
  obtain ⟨as, s₁, d₀, s₂, has, hitem, rfl, rfl⟩ := itemRule_eq_type.mp h
  have hrules := rules_refine (Nat.succ_le_succ hnm)
  have hframe : isBraced (attributeTrees p arguments delimiter?).reverse = false := rfl
  have hstart : Progress.AlikeUpTo (attributeTrees p arguments delimiter?).reverse ⟨ts, none, []⟩
      ⟨ts, none, (attributeTrees p arguments delimiter?).reverse⟩ :=
    ⟨inferInstance, inferInstance, [], inferInstance, rfl⟩
  -- The declaration's own attributes, behind the one in front.
  have hattributes : Refines (rules (n + 1)).outerAttributes (rules (m + 1)).outerAttributes :=
    inferInstance
  have hends := hattributes.ends hframe scopeEnd scopeEnd hstart
  rw [has] at hends
  obtain ⟨as', t₁, has', hlike, hst₁⟩ := hends.of_ok
  -- What follows the attributes.
  have hbehind : Refines ((rules (n + 1)).itemBehind as) ((rules (m + 1)).itemBehind as') :=
    inferInstance
  have hends := hbehind.ends hframe scopeEnd scopeEnd hst₁
  rw [hitem] at hends
  obtain ⟨item?, t₂, hitem', hlike', hst₂⟩ := hends.of_ok
  obtain ⟨e₀, rfl⟩ := type_of_alike hlike'
  have hall : (rules (m + 1)).outerAttributes scopeEnd
      ⟨attributeTrees p arguments delimiter? ++ ts, none, []⟩ =
        .ok (⟨p, .of arguments delimiter?⟩ :: as', t₁) := by
    rw [outerAttributes_cons (rules (m + 1)) hp, List.append_nil, has']
    rfl
  exact ⟨_, _, itemRule_eq_type.mpr ⟨_, t₁, _, t₂, hall, itemBehindRule_attributes hitem' _, rfl,
    rfl⟩, rfl, hst₂.trees, hst₂.stray⟩

/-! ## Modules -/

theorem readModule_of_item {ts : List Tree} {item : Item} {s : Progress} (hne : ts ≠ [])
    (hinner : ((Ahead.mark "#").and (Ahead.second (Ahead.mark "!"))) ts = false)
    (h : (rules (depthOf ts)).item textEnd (.start ts) = .ok (item, s)) (hs : s.trees = [])
    (hstray : s.stray = none) : readModule ts = .ok [item] := by
  have hsome : Ahead.nothing.not ts = true := by
    cases ts with
    | nil => exact absurd rfl hne
    | cons => rfl
  have hend : Ahead.nothing.not s.trees = false := by rw [hs]; rfl
  have hattributes :
      (rules (depthOf ts)).innerAttributes textEnd (.start ts) = .ok ([], .start ts) :=
    manyWhile_of_not _ hinner
  exact readAll_eq_ok.mpr
    ⟨s, (bind_of_ok hattributes).trans (manyWhile_single hne hsome h hend), hs, hstray⟩

theorem sizeAll_append (ts us : List Tree) :
    Tree.sizeAll (ts ++ us) = Tree.sizeAll ts + Tree.sizeAll us := by
  induction ts with
  | nil => exact (Nat.zero_add _).symm
  | cons t ts ih => rw [List.cons_append, Tree.sizeAll, Tree.sizeAll, ih, Nat.add_assoc]

/-- Where trees are read as a declaration, they are read as one with an attribute if its tokens
stand in front of them. -/
theorem readModule_attributed {p : Path} (hp : p.Plain) (arguments : List Tree)
    (delimiter? : Option Delimiter) {ts : List Tree} {d : TypeDeclaration}
    (h : readItem ts = .ok (.type d)) :
    ∃ d', readModule (attributeTrees p arguments delimiter? ++ ts) = .ok [.type d'] ∧
      d'.attributes.head? = some ⟨p, .of arguments delimiter?⟩ := by
  obtain ⟨s, hread, hs, hstray⟩ := readAll_eq_ok.mp h
  have hdepth (us : List Tree) : ∃ n, depthOf us = n + 2 :=
    ⟨depthOf us - 2, by unfold depthOf; omega⟩
  obtain ⟨n, hn⟩ := hdepth ts
  obtain ⟨m, hm⟩ := hdepth (attributeTrees p arguments delimiter? ++ ts)
  have hnm : n ≤ m := by
    unfold depthOf at hn hm
    rw [sizeAll_append] at hm
    omega
  rw [hn] at hread
  obtain ⟨d', s', hread', hhead, htrees, hstray'⟩ :=
    item_attributed hnm hp arguments delimiter? hread
  rw [← hm] at hread'
  obtain ⟨hend, hnone⟩ := finished_of_alike htrees hstray' hs hstray
  exact ⟨d', readModule_of_item (List.cons_ne_nil _ _) rfl hread' hend hnone, hhead⟩

end ReceiverLoader.Grammar
