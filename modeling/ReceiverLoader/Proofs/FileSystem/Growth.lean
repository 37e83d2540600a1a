import ReceiverLoader.Proofs.FileSystem.Writing

/-!
# What changes of a file system leave alone

* `Grows`: from one file system to another there came directories only, where nothing stood.
* `makeDirectories_grows`: the making of directories adds directories, also where it fails.
* `readText_of_kept`: what stands in a file is read as long as the file and the directories stay.
* `locate_eq_spelled`: a path leads to the route that its components spell, if it leads anywhere.
-/

namespace ReceiverLoader

namespace FileSystem

variable {fs fs' fs'' : FileSystem} {p : FilePath} {content : String}

/-! ## Directories that are added -/

/-- `fs'` is `fs` with further directories in places where nothing stood. -/
structure Grows (fs fs' : FileSystem) : Prop where
  workingDirectory : fs'.workingDirectory = fs.workingDirectory
  node? : ∀ route, fs'.node? route = fs.node? route ∨
    fs.node? route = none ∧ fs'.node? route = some .directory

namespace Grows

theorem refl (fs : FileSystem) : Grows fs fs := ⟨rfl, fun _ => Or.inl rfl⟩

theorem trans (h : Grows fs fs') (h' : Grows fs' fs'') : Grows fs fs'' := by
  refine ⟨h'.workingDirectory.trans h.workingDirectory, fun route => ?_⟩
  rcases h.node? route with hsame | ⟨hnone, hnew⟩
  · rcases h'.node? route with hsame' | ⟨hnone', hnew'⟩
    · exact Or.inl (hsame'.trans hsame)
    · exact Or.inr ⟨hsame ▸ hnone', hnew'⟩
  · rcases h'.node? route with hsame' | ⟨hnone', -⟩
    · exact Or.inr ⟨hnone, hsame'.trans hnew⟩
    · rw [hnew] at hnone'
      cases hnone'

/-- What stands somewhere stays. -/
theorem node?_eq_some (h : Grows fs fs') {route : Route} {node : Node}
    (hnode : fs.node? route = some node) : fs'.node? route = some node := by
  rcases h.node? route with hsame | ⟨hnone, -⟩
  · exact hsame.trans hnode
  · rw [hnode] at hnone
    cases hnone

/-- The files are the same. -/
theorem node?_eq_file (h : Grows fs fs') {route : Route} {bytes : ByteArray} :
    fs'.node? route = some (.file bytes) ↔ fs.node? route = some (.file bytes) := by
  refine ⟨fun hfile => ?_, h.node?_eq_some⟩
  rcases h.node? route with hsame | ⟨-, hnew⟩
  · exact hsame ▸ hfile
  · rw [hnew] at hfile
    cases hfile

end Grows

theorem put_grows {route : Route} (h : fs.node? route = none) :
    Grows fs (fs.put route .directory) := by
  have htop : route ≠ [] := by
    rintro rfl
    cases h
  refine ⟨rfl, fun other => ?_⟩
  by_cases hother : other = route
  · exact Or.inr ⟨hother ▸ h, hother ▸ node?_put_self htop fs .directory⟩
  · exact Or.inl (node?_put_of_ne hother fs .directory)

theorem makeDirectory_grows (h : fs.makeDirectory p = .ok fs') : Grows fs fs' := by
  unfold makeDirectory at h
  split at h
  · cases h
  · split at h
    · cases h
    · rename_i hnone
      cases h
      exact put_grows hnone

theorem makeEach_grows (fs : FileSystem) (ps : List FilePath) : Grows fs (fs.makeEach ps).1 := by
  induction ps generalizing fs with
  | nil => exact .refl fs
  | cons p ps ih =>
    unfold makeEach
    split
    · rename_i hmake
      exact (makeDirectory_grows hmake).trans (ih _)
    · split
      · exact ih fs
      · exact .refl fs

theorem makeMissing_grows (fs : FileSystem) (missing ps : List FilePath) :
    Grows fs (fs.makeMissing missing ps).1 := by
  induction ps generalizing missing with
  | nil => exact makeEach_grows fs missing
  | cons p ps ih =>
    unfold makeMissing
    split
    · rename_i hmake
      exact (makeDirectory_grows hmake).trans (makeEach_grows _ missing)
    · exact ih (p :: missing)
    · split
      · exact makeEach_grows fs missing
      · exact .refl fs

/-- The making of directories adds directories, also where it fails. -/
theorem makeDirectories_grows (fs : FileSystem) (cs : List Component) :
    Grows fs (fs.makeDirectories cs).1 :=
  makeMissing_grows fs [] _

/-! ## Files that stay -/

theorem readText_eq_ok :
    fs.readText p = .ok content ↔ ∃ route bytes, fs.locate p = .ok route ∧
      fs.node? route = some (.file bytes) ∧ String.fromUTF8? bytes = some content := by
  unfold readText find
  cases fs.locate p with
  | error e => simp
  | ok route =>
    cases hnode : fs.node? route with
    | none => simp [hnode]
    | some node =>
      cases node with
      | directory => simp [hnode]
      | file bytes => cases htext : String.fromUTF8? bytes <;> simp [hnode, htext]

/-- A path to a file leads there as long as the file and the directories stay. -/
theorem locate_of_kept (hstart : fs'.workingDirectory = fs.workingDirectory)
    (hkept : ∀ route, fs.node? route = some .directory → fs'.node? route = some .directory)
    {route : Route} {bytes : ByteArray} (h : fs.locate p = .ok route)
    (hnode : fs.node? route = some (.file bytes)) : fs'.locate p = .ok route := by
  obtain ⟨hnul, hempty, hlong, hfollow, hwants⟩ := locate_eq_ok.mp h
  refine locate_eq_ok.mpr ⟨hnul, hempty, hlong, ?_, fun _ _ => hwants bytes hnode⟩
  rw [hstart]
  exact follow_of_directories hkept hfollow

/-- What stands in a file is read as long as the file and the directories stay. -/
theorem readText_of_kept (hstart : fs'.workingDirectory = fs.workingDirectory)
    (hkept : ∀ route, fs.node? route = some .directory → fs'.node? route = some .directory)
    (hfile : ∀ route bytes, fs.locate p = .ok route → fs.node? route = some (.file bytes) →
      fs'.node? route = some (.file bytes))
    (h : fs.readText p = .ok content) : fs'.readText p = .ok content := by
  obtain ⟨route, bytes, hlocate, hnode, htext⟩ := readText_eq_ok.mp h
  exact readText_eq_ok.mpr ⟨route, bytes, locate_of_kept hstart hkept hlocate hnode,
    hfile route bytes hlocate hnode, htext⟩

theorem Grows.readText (hgrows : Grows fs fs') (h : fs.readText p = .ok content) :
    fs'.readText p = .ok content :=
  readText_of_kept hgrows.workingDirectory (fun _ => hgrows.node?_eq_some)
    (fun _ _ _ => hgrows.node?_eq_some) h

/-- A file that is put elsewhere, and in the place of no directory, leaves the text alone. -/
theorem readText_put {route : Route} (hroute : fs.node? route ≠ some .directory)
    (hne : fs.locate p ≠ .ok route) (node : Node) (h : fs.readText p = .ok content) :
    (fs.put route node).readText p = .ok content := by
  have hstart : (fs.put route node).workingDirectory = fs.workingDirectory := rfl
  refine readText_of_kept hstart (fun _ => node?_put_of_directory hroute node)
    (fun other bytes hlocate hfile => ?_) h
  have hother : other ≠ route := fun he => hne (he ▸ hlocate)
  rw [node?_put_of_ne hother, hfile]

/-! ## Where paths lead -/

/-- Components lead to the route that they spell, if they lead anywhere. -/
theorem follow_eq_spelled {cs : List Component} {start target : Route}
    (h : fs.follow start cs = .ok target) : target = Route.spelled start cs := by
  induction cs generalizing start with
  | nil =>
    cases h
    rfl
  | cons c cs ih =>
    unfold follow at h
    split at h
    · cases h
    · cases h
    · cases c with
      | root => exact ih h
      | here => exact ih h
      | parent => exact ih h
      | name n =>
        dsimp only at h
        split at h
        · cases h
        · exact ih h

/-- A path leads to the route that its components spell, if it leads anywhere. -/
theorem locate_eq_spelled {route : Route} (h : fs.locate p = .ok route) :
    route = Route.spelled fs.workingDirectory p.components :=
  follow_eq_spelled (locate_eq_ok.mp h).2.2.2.1

end FileSystem

/-- Names lead from a route to the route with these names behind it. -/
theorem Route.spelled_append_names (route : Route) (cs : List Component) (names : List String) :
    spelled route (cs ++ names.map .name) = spelled route cs ++ names := by
  unfold spelled
  rw [List.foldl_append, List.foldl_map]
  generalize cs.foldl step route = base
  induction names generalizing base with
  | nil => simp
  | cons n names ih =>
    rw [List.foldl_cons, ih]
    simp [step]

end ReceiverLoader
