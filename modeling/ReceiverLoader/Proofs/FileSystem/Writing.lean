import ReceiverLoader.FileSystem

/-!
# What stands in a file that was written

* `locate_eq_ok`: when a path leads to a route.
* `find_writeFile`: a file that has been written stands at its path.
* `readText_writeFile`: a file that has been written holds the text.
-/

namespace ReceiverLoader.FileSystem

variable {fs fs' : FileSystem} {p : FilePath} {content : String}

/-- A text is read back from its bytes. -/
theorem fromUTF8?_toUTF8 (text : String) : String.fromUTF8? text.toUTF8 = some text := by
  have hvalid : text.toUTF8.IsValidUTF8 := text.isValidUTF8
  rw [String.fromUTF8?, dif_pos hvalid]
  rfl

theorem readText_of_find {route : Route} (h : fs.find p = .ok (route, .file content.toUTF8)) :
    fs.readText p = .ok content := by
  simp only [readText, h, fromUTF8?_toUTF8]

/-- A path leads to a route if the system can read it, its components lead there, and no file stands
where the path wants a directory. -/
theorem locate_eq_ok {route : Route} :
    fs.locate p = .ok route ↔
      p.text.toList.contains '\x00' = false ∧ p.text ≠ "" ∧ p.text.utf8ByteSize < pathLimit ∧
        fs.follow fs.workingDirectory p.components = .ok route ∧
        ∀ bytes, fs.node? route = some (.file bytes) → wantsDirectory p = false := by
  unfold locate
  by_cases hnul : p.text.toList.contains '\x00' = true
  · rw [if_pos hnul]
    exact iff_of_false (by simp) fun h => absurd hnul (Bool.eq_false_iff.mp h.1)
  by_cases hempty : p.text = ""
  · rw [if_neg hnul, if_pos hempty]
    exact iff_of_false (by simp) fun h => h.2.1 hempty
  by_cases hlong : pathLimit ≤ p.text.utf8ByteSize
  · rw [if_neg hnul, if_neg hempty, if_pos hlong]
    exact iff_of_false (by simp) fun h => Nat.not_lt.mpr hlong h.2.2.1
  rw [if_neg hnul, if_neg hempty, if_neg hlong]
  simp only [Bool.eq_false_iff.mpr hnul, hempty, Nat.lt_of_not_le hlong, ne_eq,
    not_false_eq_true, true_and]
  cases fs.follow fs.workingDirectory p.components with
  | error e => simp
  | ok target =>
    dsimp only
    split
    · rename_i bytes hnode
      by_cases hwants : wantsDirectory p = true
      · rw [if_pos hwants]
        refine iff_of_false (by simp) fun ⟨he, hfile⟩ => ?_
        cases he
        exact absurd hwants (Bool.eq_false_iff.mp (hfile bytes hnode))
      · rw [if_neg hwants]
        exact (and_iff_left fun _ _ => Bool.eq_false_iff.mpr hwants).symm
    · rename_i hnode
      refine (and_iff_left_of_imp fun he bytes hfile => ?_).symm
      cases he
      exact absurd hfile (hnode bytes)

/-- A file is put where no directory stands, and not at a path that only a directory could have. -/
theorem writeFile_eq_ok (h : fs.writeFile p content = .ok fs') :
    ∃ route, fs.locate p = .ok route ∧ fs.node? route ≠ some .directory ∧
      wantsDirectory p = false ∧ fs' = fs.put route (.file content.toUTF8) := by
  unfold writeFile at h
  split at h
  · cases h
  · rename_i route hlocate
    refine ⟨route, hlocate, ?_⟩
    obtain ⟨-, -, -, -, hfile⟩ := locate_eq_ok.mp hlocate
    split at h
    · cases h
    · rename_i bytes hnode
      cases h
      exact ⟨by simp [hnode], hfile bytes hnode, rfl⟩
    · rename_i hnode
      split at h
      · cases h
      · rename_i hwants
        cases h
        exact ⟨by simp [hnode], by simpa using hwants, rfl⟩

/-- What leads somewhere leads there as long as the directories stay. -/
theorem follow_of_directories
    (hkept : ∀ route, fs.node? route = some .directory → fs'.node? route = some .directory)
    {start target : Route} {cs : List Component} (h : fs.follow start cs = .ok target) :
    fs'.follow start cs = .ok target := by
  induction cs generalizing start with
  | nil => exact h
  | cons c cs ih =>
    unfold follow at h ⊢
    split at h
    · cases h
    · cases h
    · rename_i hstart
      rw [hkept start hstart]
      dsimp only
      cases c with
      | root => exact ih h
      | here => exact ih h
      | parent => exact ih h
      | name n =>
        dsimp only at h ⊢
        split at h
        · cases h
        · rename_i hn
          rw [if_neg hn]
          exact ih h

/-- A file in the place of no directory leaves the directories alone. -/
theorem node?_put_of_directory {route other : Route} (hroute : fs.node? route ≠ some .directory)
    (node : Node) (h : fs.node? other = some .directory) :
    (fs.put route node).node? other = some .directory := by
  have hne : other ≠ route := fun he => hroute (he ▸ h)
  rw [node?_put_of_ne hne, h]

/-- A file that has been written stands at its path. -/
theorem find_writeFile (h : fs.writeFile p content = .ok fs') :
    ∃ route, fs.node? route ≠ some .directory ∧
      fs' = fs.put route (.file content.toUTF8) ∧
      fs'.find p = .ok (route, .file content.toUTF8) := by
  obtain ⟨route, hlocate, hnode, hwants, rfl⟩ := writeFile_eq_ok h
  obtain ⟨hnul, hempty, hlong, hfollow, -⟩ := locate_eq_ok.mp hlocate
  have htop : route ≠ [] := fun he => hnode (he ▸ rfl)
  have hput : (fs.put route (.file content.toUTF8)).locate p = .ok route :=
    locate_eq_ok.mpr ⟨hnul, hempty, hlong,
      follow_of_directories (fun _ => node?_put_of_directory hnode _) hfollow, fun _ _ => hwants⟩
  refine ⟨route, hnode, rfl, ?_⟩
  simp only [find, hput, node?_put_self htop]

/-- A file that has been written holds the text. -/
theorem readText_writeFile (h : fs.writeFile p content = .ok fs') :
    fs'.readText p = .ok content := by
  obtain ⟨route, -, -, hfind⟩ := find_writeFile h
  exact readText_of_find hfind

end ReceiverLoader.FileSystem
