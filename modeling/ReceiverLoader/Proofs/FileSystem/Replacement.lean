import ReceiverLoader.Proofs.FileSystem.Growth

/-!
# One file that changes

* `SameFile`: two file systems have the same file at a route, or none.
* `Replaces`: from one file system to another a single file has changed, and holds a given text.
* `Grows.replaces`: so it is where directories are made and then a file is written.
-/

namespace ReceiverLoader.FileSystem

variable {fs fs' fs'' : FileSystem} {p : FilePath} {text : String}

/-- The same file stands at the end of `route`, or in both there is none. -/
def SameFile (fs fs' : FileSystem) (route : Route) : Prop :=
  ∀ bytes, fs'.node? route = some (.file bytes) ↔ fs.node? route = some (.file bytes)

theorem SameFile.refl (fs : FileSystem) (route : Route) : SameFile fs fs route := fun _ => Iff.rfl

/-- Directories that are made leave the files as they were. -/
theorem Grows.sameFile (h : Grows fs fs') (route : Route) : SameFile fs fs' route :=
  fun _ => h.node?_eq_file

/-- From `fs` to `fs'` no file has changed but the one at the path `p`, which holds `text`. -/
structure Replaces (p : FilePath) (text : String) (fs fs' : FileSystem) : Prop where
  find : fs'.find p = .ok (Route.spelled fs.workingDirectory p.components, .file text.toUTF8)
  others : ∀ route, route ≠ Route.spelled fs.workingDirectory p.components → SameFile fs fs' route

/-- The text of the file is read at its path. -/
theorem Replaces.readText (h : Replaces p text fs fs') : fs'.readText p = .ok text :=
  readText_of_find h.find

theorem locate_of_find {route : Route} {node : Node} (h : fs.find p = .ok (route, node)) :
    fs.locate p = .ok route := by
  unfold FileSystem.find at h
  split at h
  · cases h
  · rename_i hlocate
    split at h
    · cases h
    · cases h
      exact hlocate

/-- Behind directories that are made, the writing of a file changes this file only. -/
theorem Grows.replaces (hgrows : Grows fs fs') (hwrite : fs'.writeFile p text = .ok fs'') :
    Replaces p text fs fs'' := by
  obtain ⟨route, -, rfl, hfind⟩ := find_writeFile hwrite
  have hroute : route = Route.spelled fs.workingDirectory p.components := by
    have hspelled := locate_eq_spelled (locate_of_find hfind)
    exact hspelled.trans (congrArg (Route.spelled · p.components) hgrows.workingDirectory)
  refine ⟨hroute ▸ hfind, fun other hother bytes => ?_⟩
  rw [node?_put_of_ne (hroute ▸ hother)]
  exact hgrows.node?_eq_file

end ReceiverLoader.FileSystem
