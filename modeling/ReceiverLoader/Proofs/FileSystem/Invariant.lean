import ReceiverLoader.FileSystem
import ReceiverLoader.Proofs.FilePath.Components

/-!
# Well-formed file systems

* `WellFormed`: every route is made of names, and one node stands at its end.
* `WellFormed.writeFile`, `WellFormed.makeDirectories`: what changes a file system leaves it
  well-formed, also where it fails.
* `WellFormed.mem_namesBelow`, `WellFormed.nodup_namesBelow`: the files below a route, each once.
-/

namespace ReceiverLoader

/-- Every step of a route is a name. -/
def Route.IsNamed (route : Route) : Prop := ∀ name ∈ route, FilePath.IsName name

instance (route : Route) : Decidable route.IsNamed :=
  inferInstanceAs (Decidable (∀ name ∈ route, FilePath.IsName name))

/-- The nodes stand at the ends of different routes, which are made of names; none stands in the
place of the top. -/
structure FileSystem.WellFormed (fs : FileSystem) : Prop where
  named : ∀ n ∈ fs.nodes, n.1 ≠ [] ∧ Route.IsNamed n.1
  nodup : (fs.nodes.map (·.1)).Nodup
  workingDirectory : Route.IsNamed fs.workingDirectory

namespace FileSystem

variable {fs : FileSystem}

instance (fs : FileSystem) : Decidable fs.WellFormed :=
  decidable_of_iff ((∀ n ∈ fs.nodes, n.1 ≠ [] ∧ Route.IsNamed n.1) ∧
      (fs.nodes.map (·.1)).Nodup ∧ Route.IsNamed fs.workingDirectory)
    ⟨fun ⟨h₁, h₂, h₃⟩ => ⟨h₁, h₂, h₃⟩, fun ⟨h₁, h₂, h₃⟩ => ⟨h₁, h₂, h₃⟩⟩

/-! ## Changes -/

theorem mem_putNode {route : Route} {node : Node} {ns : List (Route × Node)} {n : Route × Node}
    (h : n ∈ putNode route node ns) : n = (route, node) ∨ n ∈ ns := by
  induction ns with
  | nil => exact Or.inl (List.mem_singleton.mp h)
  | cons m ns ih =>
    unfold putNode at h
    split at h
    · exact (List.mem_cons.mp h).imp_right (List.mem_cons_of_mem m)
    · rcases List.mem_cons.mp h with rfl | h
      · exact Or.inr List.mem_cons_self
      · exact (ih h).imp_right (List.mem_cons_of_mem m)

theorem nodup_putNode {route : Route} {node : Node} {ns : List (Route × Node)}
    (h : (ns.map (·.1)).Nodup) : ((putNode route node ns).map (·.1)).Nodup := by
  induction ns with
  | nil => exact List.pairwise_singleton _ route
  | cons m ns ih =>
    obtain ⟨hm, hns⟩ := List.nodup_cons.mp h
    unfold putNode
    split
    · rename_i he
      exact he ▸ h
    · rename_i hne
      refine List.nodup_cons.mpr ⟨fun hmem => ?_, ih hns⟩
      obtain ⟨n, hn, he⟩ := List.mem_map.mp hmem
      rcases mem_putNode hn with rfl | hn
      · exact hne he.symm
      · exact hm (List.mem_map.mpr ⟨n, hn, he⟩)

namespace WellFormed

theorem put (wf : fs.WellFormed) {route : Route} (hne : route ≠ []) (h : route.IsNamed)
    (node : Node) : (fs.put route node).WellFormed where
  named n hn := by
    rcases mem_putNode hn with rfl | hn
    · exact ⟨hne, h⟩
    · exact wf.named n hn
  nodup := nodup_putNode wf.nodup
  workingDirectory := wf.workingDirectory

end WellFormed

theorem isNamed_of_follow {cs : List Component} (hcs : ∀ n, .name n ∈ cs → FilePath.IsName n)
    {route target : Route} (hroute : route.IsNamed) (h : fs.follow route cs = .ok target) :
    target.IsNamed := by
  induction cs generalizing route with
  | nil =>
    cases h
    exact hroute
  | cons c cs ih =>
    have hcs' : ∀ n, .name n ∈ cs → FilePath.IsName n := fun n hn =>
      hcs n (List.mem_cons_of_mem c hn)
    unfold follow at h
    split at h
    · cases h
    · cases h
    · split at h
      · exact ih hcs' (fun _ hn => absurd hn List.not_mem_nil) h
      · exact ih hcs' hroute h
      · exact ih hcs' (fun n hn => hroute n ((List.dropLast_sublist route).subset hn)) h
      · rename_i n
        split at h
        · cases h
        · refine ih hcs' (fun m hm => ?_) h
          rcases List.mem_append.mp hm with hm | hm
          · exact hroute m hm
          · rw [List.mem_singleton.mp hm]
            exact hcs n List.mem_cons_self

namespace WellFormed

theorem locate (wf : fs.WellFormed) {p : FilePath} {route : Route}
    (h : fs.locate p = .ok route) : route.IsNamed := by
  unfold FileSystem.locate at h
  repeat' split at h
  all_goals try cases h
  all_goals
    rename_i hfollow _
    exact isNamed_of_follow (fun n hn => FilePath.isName_of_mem_components hn) wf.workingDirectory
      (by assumption)

theorem makeDirectory (wf : fs.WellFormed) {p : FilePath} {fs' : FileSystem}
    (h : fs.makeDirectory p = .ok fs') : fs'.WellFormed := by
  unfold FileSystem.makeDirectory at h
  split at h
  · cases h
  · rename_i route hlocate
    split at h
    · cases h
    · rename_i hnone
      cases h
      refine wf.put ?_ (wf.locate hlocate) _
      rintro rfl
      cases hnone

theorem makeEach (wf : fs.WellFormed) (ps : List FilePath) : (fs.makeEach ps).1.WellFormed := by
  induction ps generalizing fs with
  | nil => exact wf
  | cons p ps ih =>
    unfold FileSystem.makeEach
    split
    · rename_i hmake
      exact ih (wf.makeDirectory hmake)
    · split
      · exact ih wf
      · exact wf

theorem makeMissing (wf : fs.WellFormed) (missing ps : List FilePath) :
    (fs.makeMissing missing ps).1.WellFormed := by
  induction ps generalizing missing with
  | nil => exact wf.makeEach missing
  | cons p ps ih =>
    unfold FileSystem.makeMissing
    split
    · rename_i hmake
      exact (wf.makeDirectory hmake).makeEach missing
    · exact ih (p :: missing)
    · split
      · exact wf.makeEach missing
      · exact wf

theorem makeDirectories (wf : fs.WellFormed) (cs : List Component) :
    (fs.makeDirectories cs).1.WellFormed :=
  wf.makeMissing [] _

theorem writeFile (wf : fs.WellFormed) {p : FilePath} {content : String} {fs' : FileSystem}
    (h : fs.writeFile p content = .ok fs') : fs'.WellFormed := by
  unfold FileSystem.writeFile at h
  split at h
  · cases h
  · rename_i route hlocate
    have hput : route ≠ [] → (fs.put route (.file content.toUTF8)).WellFormed := fun hne =>
      wf.put hne (wf.locate hlocate) _
    split at h
    · cases h
    · rename_i hnode
      cases h
      refine hput ?_
      rintro rfl
      cases hnode
    · rename_i hnode
      split at h
      · cases h
      · cases h
        refine hput ?_
        rintro rfl
        cases hnode

end WellFormed

/-! ## The files below a path -/

theorem find?_route {ns : List (Route × Node)} (h : (ns.map (·.1)).Nodup) {n : Route × Node}
    (hn : n ∈ ns) : ns.find? (fun m => m.1 == n.1) = some n := by
  induction ns with
  | nil => cases hn
  | cons m ns ih =>
    obtain ⟨hm, hns⟩ := List.nodup_cons.mp h
    rw [List.find?_cons]
    rcases List.mem_cons.mp hn with rfl | hn
    · simp
    · have hne : (m.1 == n.1) = false :=
        beq_eq_false_iff_ne.mpr fun e => hm (List.mem_map.mpr ⟨n, hn, e.symm⟩)
      simp only [hne]
      exact ih hns hn

theorem namesBelow_eq_some {root : Route} {n : Route × Node} {names : List String} :
    namesBelow root n = some names ↔ ∃ content, n = (root ++ names, .file content) := by
  obtain ⟨route, node⟩ := n
  cases node with
  | directory => simp [namesBelow]
  | file content =>
    simp only [namesBelow, List.isPrefixOf_iff_prefix, Option.ite_none_right_eq_some,
      Option.some.injEq]
    constructor
    · rintro ⟨⟨names', rfl⟩, h⟩
      rw [List.drop_left] at h
      exact ⟨content, by rw [h]⟩
    · rintro ⟨_, h⟩
      cases h
      exact ⟨⟨names, rfl⟩, List.drop_left⟩

namespace WellFormed

theorem node?_eq_file (wf : fs.WellFormed) {route : Route} {content : ByteArray} :
    fs.node? route = some (.file content) ↔ (route, .file content) ∈ fs.nodes := by
  unfold FileSystem.node?
  split
  · rename_i hempty
    refine iff_of_false (fun h => by simp at h) fun h => ?_
    exact (wf.named _ h).1 (List.isEmpty_iff.mp hempty)
  · rw [Option.map_eq_some_iff]
    constructor
    · rintro ⟨n, hfind, hnode⟩
      have hroute : n.1 = route := by simpa using List.find?_some hfind
      rw [← hroute, ← hnode]
      exact List.mem_of_find?_eq_some hfind
    · intro h
      exact ⟨_, find?_route wf.nodup h, rfl⟩

/-- The names that lead from `root` to a file below it. -/
theorem mem_namesBelow (wf : fs.WellFormed) {root : Route} {names : List String} :
    names ∈ fs.nodes.filterMap (namesBelow root) ↔
      ∃ content, fs.node? (root ++ names) = some (.file content) := by
  simp only [List.mem_filterMap, namesBelow_eq_some]
  constructor
  · rintro ⟨n, hn, content, rfl⟩
    exact ⟨content, wf.node?_eq_file.mpr hn⟩
  · rintro ⟨content, h⟩
    exact ⟨_, wf.node?_eq_file.mp h, content, rfl⟩

theorem nodup_namesBelow (wf : fs.WellFormed) (root : Route) :
    (fs.nodes.filterMap (namesBelow root)).Nodup := by
  refine List.pairwise_filterMap.mpr ((List.pairwise_map.mp wf.nodup).imp ?_)
  intro m n hne names hm names' hn he
  obtain ⟨_, rfl⟩ := namesBelow_eq_some.mp hm
  obtain ⟨_, rfl⟩ := namesBelow_eq_some.mp hn
  exact hne (by rw [he])

/-- The names that lead from `root` to a node below it are names. -/
theorem isName_of_node? (wf : fs.WellFormed) {root : Route} {names : List String}
    {content : ByteArray} (h : fs.node? (root ++ names) = some (.file content)) :
    ∀ n ∈ names, FilePath.IsName n :=
  fun n hn => (wf.named _ (wf.node?_eq_file.mp h)).2 n (List.mem_append_right root hn)

end WellFormed

end FileSystem

end ReceiverLoader
