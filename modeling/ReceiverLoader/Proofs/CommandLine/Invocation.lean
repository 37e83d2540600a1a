import Mathlib.Data.List.TakeWhile
import ReceiverLoader.CommandLine.Invocation

/-!
# What a command line asks for

* `optionOf_eq_some`: an option is a key that is not empty and has no `=`, and behind `=` a value.
* `asks_of_read`: arguments that are read as the command `generate` name it, and their switches say
  what it is to do.
* `asksForHelp_of_read`: help is given only where an argument asks for it.
* `read_argumentsFor`: whatever the command `generate` is to do can be asked for.
-/

namespace ReceiverLoader.CommandLine

/-! ## Options -/

theorem splitEquals_some {cs before behind : List Char}
    (h : splitEquals cs = (before, some behind)) :
    cs = before ++ '=' :: behind ∧ '=' ∉ before := by
  have hcut : cs.takeWhile (· != '=') ++ cs.dropWhile (· != '=') = cs :=
    List.takeWhile_append_dropWhile
  have hdrop : (cs.takeWhile (· != '=') ++ cs.dropWhile (· != '=')).drop
      (cs.takeWhile (· != '=')).length = cs.dropWhile (· != '=') := List.drop_left
  rw [hcut] at hdrop
  unfold splitEquals at h
  dsimp only at h
  rw [hdrop] at h
  split at h
  · cases h
  · rename_i c rest hrest
    cases h
    have hstop := List.head?_dropWhile_not (· != '=') cs
    rw [hrest] at hstop
    obtain rfl : c = '=' := by simpa using hstop
    rw [hrest] at hcut
    refine ⟨hcut.symm, fun hmem => ?_⟩
    have hne := List.mem_takeWhile_imp hmem
    simp at hne

/-- An option as the value of its switch. -/
def optionText (o : String × String) : String := o.1 ++ "=" ++ o.2

/-- An option is a key that is not empty and has no `=`, and behind `=` a value. -/
theorem optionOf_eq_some {value : String} {o : String × String} (h : optionOf value = some o) :
    value = optionText o ∧ o.1 ≠ "" ∧ '=' ∉ o.1.toList := by
  unfold optionOf at h
  split at h
  · cases h
  · cases h
  · rename_i key text hne hsplit
    cases h
    obtain ⟨hvalue, hkey⟩ := splitEquals_some hsplit
    refine ⟨String.toList_inj.mp ?_, fun hempty => ?_, ?_⟩
    · simpa [optionText] using hvalue
    · exact hne (String.ofList_eq_empty_iff.mp hempty)
    · rwa [String.toList_ofList]

/-- Where all results are there, each value is the one that its result was read from. -/
theorem traverse_eq_some {α β : Type} {f : α → Option β} {g : β → α} {good : β → Prop}
    (hf : ∀ a b, f a = some b → a = g b ∧ good b) {as : List α} {bs : List β}
    (h : traverse f as = some bs) : as = bs.map g ∧ ∀ b ∈ bs, good b := by
  induction as generalizing bs with
  | nil =>
    cases h
    exact ⟨rfl, fun b hb => absurd hb List.not_mem_nil⟩
  | cons a as ih =>
    unfold traverse at h
    split at h
    · rename_i b bs' hb hbs
      cases h
      obtain ⟨rfl, hgood⟩ := hf a b hb
      obtain ⟨rfl, hall⟩ := ih hbs
      exact ⟨rfl, List.forall_mem_cons.mpr ⟨hgood, hall⟩⟩
    · cases h

theorem pathOf_eq_some {value : String} {p : FilePath} (h : pathOf value = some p) :
    p.text = value ∧ value ≠ "" := by
  unfold pathOf at h
  split at h
  · cases h
  · rename_i hne
    cases h
    exact ⟨rfl, hne⟩

/-! ## Commands -/

/-- What the switches `given` behind the name of the command `generate` ask for. -/
structure Asks (given : List Occurrence) (source : SourceChoice) (out : FilePath)
    (options : List (String × String)) (lineEnding : LineEnding) : Prop where
  directory : source.directory.text = (valuesOf .source given).head?.getD "src"
  crate : (valuesOf .crateName given).head? = some source.crateName
  outDirectory : (valuesOf .out given).head? = some out.text
  outDirectory_ne : out.text ≠ ""
  /-- The options stand in the order of their switches. -/
  values : valuesOf .option given = options.map optionText
  keys : ∀ o ∈ options, o.1 ≠ "" ∧ '=' ∉ o.1.toList
  ending : LineEnding.ofName? ((valuesOf .lineEnding given).head?.getD "native") =
    some lineEnding

variable {source : SourceChoice} {out : FilePath} {options : List (String × String)}
  {lineEnding : LineEnding}

theorem asks_of_generateCommand {given : List Occurrence}
    (h : generateCommand given = some (.generate source out options lineEnding)) :
    Asks given source out options lineEnding := by
  simp only [generateCommand, sourceChoice, Option.bind_eq_bind, Option.bind_eq_some_iff,
    Option.pure_def, Option.some.injEq, Command.generate.injEq] at h
  obtain ⟨_, ⟨directory, hdirectory, crateName, hcrate, rfl⟩, outValue, hvalue, _, hpath, _,
    htraverse, _, hending, rfl, rfl, rfl, rfl⟩ := h
  obtain ⟨hdirectory, -⟩ := pathOf_eq_some hdirectory
  obtain ⟨rfl, hne⟩ := pathOf_eq_some hpath
  obtain ⟨hvalues, hkeys⟩ := traverse_eq_some (fun _ _ ho => optionOf_eq_some ho) htraverse
  exact ⟨hdirectory, hcrate, hvalue, hne, hvalues, hkeys, hending⟩

theorem asks_of_commandOf {name : String} {given : List Occurrence}
    (h : commandOf name given = some (.generate source out options lineEnding)) :
    name = "generate" ∧ Asks given source out options lineEnding := by
  unfold commandOf at h
  split at h
  · rename_i hname
    exact ⟨hname, asks_of_generateCommand h⟩
  · split at h
    · obtain ⟨_, _, heq⟩ := Option.map_eq_some_iff.mp h
      cases heq
    · cases h

variable {command : Command} {verbose : Bool}

theorem helpBehind_ne_run (switches : List Switch) (given : List Occurrence) :
    helpBehind switches given ≠ .run verbose command := by
  unfold helpBehind
  dsimp only
  split <;> nofun

theorem readHelp_ne_run (arguments : List String) :
    readHelp arguments ≠ .run verbose command := by
  unfold readHelp
  split
  · nofun
  · split <;> nofun
  · nofun

/-- A command that is run is the one of its name, and all its switches have been read. -/
theorem commandOf_of_readCommand {before : List Occurrence} {name : String} {rest : List String}
    (h : readCommand before name rest = .run verbose command) :
    ∃ given, readSwitches rest = some given ∧ commandOf name given = some command := by
  unfold readCommand at h
  split at h
  · rename_i switches given _ hgiven
    refine ⟨given, hgiven, ?_⟩
    split at h
    · exact absurd h (helpBehind_ne_run switches given)
    · split at h
      · split at h
        · cases h
        · rename_i hcommand
          cases h
          exact hcommand
      · cases h
  · cases h

/-- The command is named, and its switches stand behind its name. -/
theorem asks_of_readBeforeCommand {before : List Occurrence} {arguments : List String}
    (h : readBeforeCommand before arguments =
      .run verbose (.generate source out options lineEnding)) :
    ∃ front rest given, arguments = front ++ "generate" :: rest ∧ readSwitches rest = some given ∧
      Asks given source out options lineEnding := by
  induction arguments generalizing before with
  | nil => cases h
  | cons argument rest ih =>
    unfold readBeforeCommand at h
    split at h
    · split at h
      · exact absurd h (helpBehind_ne_run _ _)
      · split at h
        · obtain ⟨front, rest', given, rfl, hgiven, hasks⟩ := ih h
          exact ⟨argument :: front, rest', given, rfl, hgiven, hasks⟩
        · cases h
    · cases h
    · split at h
      · exact absurd h (readHelp_ne_run rest)
      · obtain ⟨given, hgiven, hcommand⟩ := commandOf_of_readCommand h
        obtain ⟨rfl, hasks⟩ := asks_of_commandOf hcommand
        exact ⟨[], rest, given, rfl, hgiven, hasks⟩

/-- Arguments that are read as the command `generate` name it, and the switches behind its name say
what it is to do. -/
theorem asks_of_read {arguments : List String}
    (h : read arguments = .run verbose (.generate source out options lineEnding)) :
    ∃ front rest given, arguments = front ++ "generate" :: rest ∧ readSwitches rest = some given ∧
      Asks given source out options lineEnding :=
  asks_of_readBeforeCommand h

/-! ## Help -/

/-- The argument is a switch that asks for help, or has such a letter. -/
def AsksForHelp (argument : String) : Prop :=
  ∃ r, readArgument argument = some r ∧ asksForHelp r.complete

theorem takesValue_of_readLong {cs : List Char} {r : Reading} (h : readLong cs = some r)
    {s : Switch} (hs : r.awaits = some s) : s.takesValue = true := by
  unfold readLong at h
  dsimp only at h
  split at h
  · cases h
  · split at h
    · cases h
      cases hs
    · cases h
    · cases h
      cases hs
    · rename_i htakes _
      cases h
      cases hs
      exact htakes

theorem takesValue_of_readShort {cs : List Char} {r : Reading} (h : readShort cs = some r)
    {s : Switch} (hs : r.awaits = some s) : s.takesValue = true := by
  fun_induction readShort cs generalizing r with
  | case1 | case3 | case6 | case7 =>
    cases h
    cases hs
  | case2 => cases h
  | case4 c cs hc ih =>
    obtain ⟨r', hr', rfl⟩ := Option.map_eq_some_iff.mp h
    exact ih hr' hs
  | case5 c s hhelp hverbose hc =>
    cases h
    cases hs
    cases s with
    | help => exact absurd rfl hhelp
    | verbose => exact absurd rfl hverbose
    | _ => rfl

theorem takesValue_of_readArgument {argument : String} {r : Reading}
    (h : readArgument argument = some r) {s : Switch} (hs : r.awaits = some s) :
    s.takesValue = true := by
  unfold readArgument at h
  split at h
  · exact takesValue_of_readLong h hs
  · exact takesValue_of_readShort h hs
  · cases h

/-- Help is among switches only where an argument asks for it. -/
theorem asksForHelp_of_readSwitches {arguments : List String} {given : List Occurrence}
    (h : readSwitches arguments = some given) (hhelp : asksForHelp given) :
    ∃ argument ∈ arguments, AsksForHelp argument := by
  fun_induction readSwitches arguments generalizing given with
  | case1 | case2 =>
    cases h
    cases hhelp
  | case3 | case4 | case8 | case9 => cases h
  | case5 argument rest hne complete hread hcomplete =>
    exact ⟨argument, List.mem_cons_self, _, hread, hcomplete⟩
  | case6 argument rest hne complete hread hcomplete ih =>
    obtain ⟨behind, hbehind, rfl⟩ := Option.map_eq_some_iff.mp h
    rw [asksForHelp, List.any_append, Bool.or_eq_true] at hhelp
    obtain ⟨other, hmem, hother⟩ := ih hbehind (hhelp.resolve_left hcomplete)
    exact ⟨other, List.mem_cons_of_mem argument hmem, hother⟩
  | case7 argument hne complete s hread value rest hvalue ih =>
    obtain ⟨behind, hbehind, rfl⟩ := Option.map_eq_some_iff.mp h
    rw [asksForHelp, List.any_append, List.any_cons, Bool.or_eq_true, Bool.or_eq_true] at hhelp
    rcases hhelp with hcomplete | hs | htail
    · exact ⟨argument, List.mem_cons_self, _, hread, hcomplete⟩
    · obtain rfl : s = .help := beq_iff_eq.mp hs
      cases takesValue_of_readArgument hread rfl
    · obtain ⟨other, hmem, hother⟩ := ih hbehind htail
      exact ⟨other, List.mem_cons_of_mem _ (List.mem_cons_of_mem _ hmem), hother⟩

/-- A command gives help only where an argument behind its name asks for it. -/
theorem asksForHelp_of_readCommand {before : List Occurrence} {name : String}
    {rest : List String} (h : readCommand before name rest = .help) :
    ∃ argument ∈ rest, AsksForHelp argument := by
  unfold readCommand at h
  split at h
  · rename_i given _ hgiven
    split at h
    · rename_i hhelp
      exact asksForHelp_of_readSwitches hgiven hhelp
    · split at h
      · split at h <;> cases h
      · cases h
  · cases h

/-- Help is given only where an argument asks for it, as a switch or as the command `help`. -/
theorem asksForHelp_of_read {arguments : List String} (h : read arguments = .help) :
    ∃ argument ∈ arguments, argument = "help" ∨ AsksForHelp argument := by
  suffices hbefore : ∀ before, readBeforeCommand before arguments = .help →
      ∃ argument ∈ arguments, argument = "help" ∨ AsksForHelp argument from hbefore [] h
  clear h
  induction arguments with
  | nil =>
    intro before h
    cases h
  | cons argument rest ih =>
    intro before h
    unfold readBeforeCommand at h
    split at h
    · rename_i complete hread
      split at h
      · rename_i hhelp
        exact ⟨argument, List.mem_cons_self, .inr ⟨_, hread, hhelp⟩⟩
      · split at h
        · obtain ⟨other, hmem, hother⟩ := ih _ h
          exact ⟨other, List.mem_cons_of_mem argument hmem, hother⟩
        · cases h
    · cases h
    · split at h
      · rename_i hname
        exact ⟨argument, List.mem_cons_self, .inl hname⟩
      · obtain ⟨other, hmem, hother⟩ := asksForHelp_of_readCommand h
        exact ⟨other, List.mem_cons_of_mem argument hmem, .inr hother⟩

-- The value of a switch asks for no help, and help is no value of a switch.
example : read ["generate", "--crate-name", "help", "--out", "gen", "-O", "MODULE_NAME=auth"] =
    .run false (.generate ⟨⟨"src"⟩, "help"⟩ ⟨"gen"⟩ [("MODULE_NAME", "auth")] .native) := by
  decide +kernel

example : read ["generate", "--out", "--help"] = .refused := by decide +kernel

/-! ## Writing a command line -/

/-- A switch in its long form, with its value behind `=`. -/
def longSwitch (name value : String) : String := "--" ++ name ++ "=" ++ value

/-- Arguments of the command `generate`. -/
def argumentsFor (source : SourceChoice) (out : FilePath) (options : List (String × String))
    (ending : String) : List String :=
  "generate" :: longSwitch "src" source.directory.text ::
    longSwitch "crate-name" source.crateName :: longSwitch "out" out.text ::
    longSwitch "line-ending" ending ::
    (options.map optionText).map (longSwitch "option")

theorem splitEquals_append {before : List Char} (h : '=' ∉ before) (behind : List Char) :
    splitEquals (before ++ '=' :: behind) = (before, some behind) := by
  have hall : ∀ c ∈ before, (c != '=') = true := fun c hc =>
    bne_iff_ne.mpr fun he => h (he ▸ hc)
  have htake : (before ++ '=' :: behind).takeWhile (· != '=') = before := by
    rw [List.takeWhile_append_of_pos hall, List.takeWhile_cons_of_neg (by simp), List.append_nil]
  rw [splitEquals, htake]
  simp

theorem toList_longSwitch (name value : String) :
    (longSwitch name value).toList = '-' :: '-' :: (name.toList ++ '=' :: value.toList) := by
  simp [longSwitch]

/-- A switch in its long form is read with its value, whatever that is. -/
theorem readArgument_longSwitch {name : String} {s : Switch} (hname : '=' ∉ name.toList)
    (hs : Switch.ofName? name = some s) (hvalue : s.takesValue = true) (value : String) :
    readArgument (longSwitch name value) = some ⟨[(s, some value)], none⟩ := by
  rw [readArgument, toList_longSwitch]
  change readLong (name.toList ++ '=' :: value.toList) = _
  rw [readLong, splitEquals_append hname]
  simp only [String.ofList_toList, hs, hvalue]

theorem readSwitches_longSwitch {name : String} {s : Switch} (hname : '=' ∉ name.toList)
    (hs : Switch.ofName? name = some s) (hvalue : s.takesValue = true) (value : String)
    (rest : List String) :
    readSwitches (longSwitch name value :: rest) =
      (readSwitches rest).map ((s, some value) :: ·) := by
  have hne : longSwitch name value ≠ "--" := by
    intro he
    have hlist := congrArg String.toList he
    rw [toList_longSwitch] at hlist
    simp at hlist
  have hhelp : s ≠ .help := by
    rintro rfl
    cases hvalue
  rw [readSwitches, if_neg hne, readArgument_longSwitch hname hs hvalue]
  simp [asksForHelp, hhelp]

theorem readSwitches_options (values : List String) :
    readSwitches (values.map (longSwitch "option")) =
      some (values.map fun value => (.option, some value)) := by
  induction values with
  | nil => rfl
  | cons value values ih =>
    rw [List.map_cons, readSwitches_longSwitch (s := .option) (by decide) rfl (by decide), ih]
    rfl

/-- Every option can be written as a switch. -/
theorem optionOf_optionText {o : String × String} (hne : o.1 ≠ "") (hkey : '=' ∉ o.1.toList) :
    optionOf (optionText o) = some o := by
  have hlist : (optionText o).toList = o.1.toList ++ '=' :: o.2.toList := by simp [optionText]
  have hnil : o.1.toList ≠ [] := fun he => hne (String.toList_eq_nil_iff.mp he)
  obtain ⟨c, cs, hcs⟩ := List.exists_cons_of_ne_nil hnil
  rw [optionOf, hlist, splitEquals_append hkey, hcs]
  change some (String.ofList (c :: cs), String.ofList o.2.toList) = some o
  rw [← hcs, String.ofList_toList, String.ofList_toList]

theorem traverse_map {α β : Type} {f : α → Option β} {g : β → α} {bs : List β}
    (h : ∀ b ∈ bs, f (g b) = some b) : traverse f (bs.map g) = some bs := by
  induction bs with
  | nil => rfl
  | cons b bs ih =>
    obtain ⟨hb, hbs⟩ := List.forall_mem_cons.mp h
    rw [List.map_cons, traverse, hb, ih hbs]

variable (source : SourceChoice) (out : FilePath) (options : List (String × String))

/-- The switches of the arguments of the command `generate`. -/
def givenFor (ending : String) : List Occurrence :=
  (.source, some source.directory.text) :: (.crateName, some source.crateName) ::
    (.out, some out.text) :: (.lineEnding, some ending) ::
    (options.map optionText).map fun value => (.option, some value)

theorem readSwitches_argumentsFor (ending : String) :
    readSwitches (argumentsFor source out options ending).tail =
      some (givenFor source out options ending) := by
  rw [argumentsFor, List.tail_cons,
    readSwitches_longSwitch (s := .source) (by decide) rfl (by decide),
    readSwitches_longSwitch (s := .crateName) (by decide) rfl (by decide),
    readSwitches_longSwitch (s := .out) (by decide) rfl (by decide),
    readSwitches_longSwitch (s := .lineEnding) (by decide) rfl (by decide), readSwitches_options]
  rfl

theorem filter_options {s : Switch} (hs : s ≠ .option) (values : List String) :
    (values.map fun value => ((.option, some value) : Occurrence)).filter (fun o => o.1 == s) =
      [] := by
  refine List.filter_eq_nil_iff.mpr fun o ho => ?_
  obtain ⟨value, -, rfl⟩ := List.mem_map.mp ho
  simpa using Ne.symm hs

/-- Each switch with a value but that of options stands once, and no other stands there. -/
theorem filter_givenFor (ending : String) :
    let given := givenFor source out options ending
    (given.filter fun o => o.1 == .verbose) = [] ∧
      (given.filter fun o => o.1 == .help) = [] ∧
      (given.filter fun o => o.1 == .source) = [(.source, some source.directory.text)] ∧
      (given.filter fun o => o.1 == .crateName) = [(.crateName, some source.crateName)] ∧
      (given.filter fun o => o.1 == .out) = [(.out, some out.text)] ∧
      (given.filter fun o => o.1 == .lineEnding) = [(.lineEnding, some ending)] := by
  refine ⟨?_, ?_, ?_, ?_, ?_, ?_⟩
  · exact filter_options (s := .verbose) nofun (options.map optionText)
  · exact filter_options (s := .help) nofun (options.map optionText)
  · exact congrArg _ (filter_options (s := .source) nofun (options.map optionText))
  · exact congrArg _ (filter_options (s := .crateName) nofun (options.map optionText))
  · exact congrArg _ (filter_options (s := .out) nofun (options.map optionText))
  · exact congrArg _ (filter_options (s := .lineEnding) nofun (options.map optionText))

/-- A switch that stands once has its value. -/
theorem head?_valuesOf {s : Switch} {value : String} {given : List Occurrence}
    (h : (given.filter fun o => o.1 == s) = [(s, some value)]) :
    (valuesOf s given).head? = some value := by
  rw [valuesOf, h]
  rfl

theorem valuesOf_option_givenFor (ending : String) :
    valuesOf .option (givenFor source out options ending) = options.map optionText := by
  have hkept : ∀ values : List String,
      valuesOf .option (values.map fun value => (.option, some value)) = values := by
    intro values
    induction values with
    | nil => rfl
    | cons value values ih => exact congrArg (value :: ·) ih
  exact hkept _

theorem asksForHelp_givenFor (ending : String) :
    asksForHelp (givenFor source out options ending) = false := by
  obtain ⟨-, hhelp, -⟩ := filter_givenFor source out options ending
  exact List.any_eq_false.mpr (List.filter_eq_nil_iff.mp hhelp)

theorem admits_givenFor (ending : String) :
    admits [.verbose, .source, .crateName, .out, .option, .lineEnding]
      (givenFor source out options ending) = true := by
  obtain ⟨hverbose, hhelp, hsource, hcrate, hout, hending⟩ :=
    filter_givenFor source out options ending
  rw [admits, List.all_eq_true]
  intro o ho
  have hne : o.1 ≠ .help := fun he =>
    List.filter_eq_nil_iff.mp hhelp o ho (beq_iff_eq.mpr he)
  rw [Bool.and_eq_true, Bool.not_eq_true', isRepeated]
  cases hs : o.1 with
  | verbose => simp [hverbose]
  | source => simp [hsource]
  | crateName => simp [hcrate]
  | out => simp [hout]
  | option => simp [Switch.repeats]
  | lineEnding => simp [hending]
  | help => exact absurd hs hne

variable {source out options}

theorem generateCommand_givenFor {ending : String} {lineEnding : LineEnding}
    (hsource : source.directory.text ≠ "") (hout : out.text ≠ "")
    (hkeys : ∀ o ∈ options, o.1 ≠ "" ∧ '=' ∉ o.1.toList)
    (hending : LineEnding.ofName? ending = some lineEnding) :
    generateCommand (givenFor source out options ending) =
      some (.generate source out options lineEnding) := by
  obtain ⟨-, -, hsources, hcrates, houts, hendings⟩ := filter_givenFor source out options ending
  have htraverse : traverse optionOf (valuesOf .option (givenFor source out options ending)) =
      some options := by
    rw [valuesOf_option_givenFor]
    exact traverse_map fun o ho => optionOf_optionText (hkeys o ho).1 (hkeys o ho).2
  have hdirectory := head?_valuesOf hsources
  have hcrate := head?_valuesOf hcrates
  have houtText := head?_valuesOf houts
  have hendingText := head?_valuesOf hendings
  simp [generateCommand, sourceChoice, htraverse, hdirectory, hcrate, houtText, hendingText, pathOf,
    hsource, hout, hending]

/-- Whatever is to be done can be asked for. -/
theorem read_argumentsFor {ending : String} {lineEnding : LineEnding}
    (hsource : source.directory.text ≠ "") (hout : out.text ≠ "")
    (hkeys : ∀ o ∈ options, o.1 ≠ "" ∧ '=' ∉ o.1.toList)
    (hending : LineEnding.ofName? ending = some lineEnding) :
    read (argumentsFor source out options ending) =
      .run false (.generate source out options lineEnding) := by
  have hswitches := readSwitches_argumentsFor source out options ending
  have hcommand := generateCommand_givenFor hsource hout hkeys hending
  have hname : readArgument "generate" = none := by decide
  obtain ⟨hnone, -⟩ := filter_givenFor source out options ending
  have hverbose : (givenFor source out options ending).any (fun o => o.1 == .verbose) = false :=
    List.any_eq_false.mpr (List.filter_eq_nil_iff.mp hnone)
  have hof : commandOf "generate" (givenFor source out options ending) =
      some (.generate source out options lineEnding) := by
    rw [commandOf, if_pos rfl, hcommand]
  rw [read, argumentsFor, readBeforeCommand, hname]
  change readCommand [] "generate" (argumentsFor source out options ending).tail = _
  rw [readCommand, switchesOf?, if_pos rfl, hswitches]
  simp only [asksForHelp_givenFor, admits_givenFor, hof, List.nil_append, hverbose,
    Bool.false_eq_true, if_false, if_true]

end ReceiverLoader.CommandLine
