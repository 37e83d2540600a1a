import ReceiverLoader.Proofs.FileSystem.Invariant
import ReceiverLoader.Proofs.OrderedList
import ReceiverLoader.Source.Tree

/-!
# The source files below a directory

* `mem_sourceFiles`: they are the files with the extension of sources.
* `ascending_sourceFiles`: each is listed once, in the order of the paths.
-/

namespace ReceiverLoader.Source

open FileSystem (namesBelow)
open OrderedList (Ascending)

variable {fs : FileSystem} {directory : FilePath} {files : List FilePath}

/-- A file stands below `directory` at the path `p`, which has the extension of sources. -/
def IsSourceFile (fs : FileSystem) (directory p : FilePath) : Prop :=
  ∃ root node names content, fs.find directory = .ok (root, node) ∧
    fs.node? (root ++ names) = some (.file content) ∧ p = directory.descend names ∧
      p.extension? = some "rs"

theorem text_ne_empty_of_find {p : FilePath} {root : Route} {node : Node}
    (h : fs.find p = .ok (root, node)) : p.text ≠ "" := by
  intro hp
  unfold FileSystem.find FileSystem.locate at h
  rw [hp] at h
  simp at h

/-- What the listing of a directory comes from. -/
theorem sourceFiles_eq_ok (h : sourceFiles fs directory = .ok files) :
    ∃ root node, fs.find directory = .ok (root, node) ∧
      files = (((fs.nodes.filterMap (namesBelow root)).map directory.descend).filter fun p =>
        p.extension? == some "rs").mergeSort fun p q => (p.order q).isLE := by
  unfold sourceFiles FileSystem.filesBelow at h
  split at h
  · cases h
  · rename_i paths hpaths
    split at hpaths
    · cases hpaths
    · rename_i root node hfind
      cases hpaths
      cases h
      exact ⟨root, node, hfind, rfl⟩

/-- The listing of a directory whose sources are in order. -/
theorem sourceFiles_of_filesBelow {paths : List FilePath}
    (hbelow : fs.filesBelow directory = .ok paths)
    (hfilter : (paths.filter fun p => p.extension? == some "rs") = files)
    (hsorted : files.Pairwise fun p q => (p.order q).isLE) :
    sourceFiles fs directory = .ok files := by
  rw [sourceFiles, hbelow]
  simp only [hfilter]
  rw [List.mergeSort_of_pairwise hsorted]

theorem mem_sourceFiles (wf : fs.WellFormed) (h : sourceFiles fs directory = .ok files)
    {p : FilePath} : p ∈ files ↔ IsSourceFile fs directory p := by
  obtain ⟨root, node, hfind, rfl⟩ := sourceFiles_eq_ok h
  simp only [List.mem_mergeSort, List.mem_filter, List.mem_map, wf.mem_namesBelow, beq_iff_eq]
  constructor
  · rintro ⟨⟨names, ⟨content, hnode⟩, rfl⟩, hext⟩
    exact ⟨root, node, names, content, hfind, hnode, rfl, hext⟩
  · rintro ⟨root', node', names, content, hfind', hnode, rfl, hext⟩
    rw [hfind] at hfind'
    cases hfind'
    exact ⟨⟨names, ⟨content, hnode⟩, rfl⟩, hext⟩

/-- Different names below a directory lead to paths that differ under the order. -/
theorem pairwise_descend (wf : fs.WellFormed) {root : Route} (hdirectory : directory.text ≠ "") :
    ((fs.nodes.filterMap (namesBelow root)).map directory.descend).Pairwise fun p q =>
      p.order q ≠ .eq := by
  refine List.pairwise_map.mpr ((wf.nodup_namesBelow root).imp_of_mem ?_)
  intro names names' hn hn' hne heq
  obtain ⟨_, hnode⟩ := wf.mem_namesBelow.mp hn
  obtain ⟨_, hnode'⟩ := wf.mem_namesBelow.mp hn'
  exact hne (FilePath.eq_of_descend hdirectory (wf.isName_of_node? hnode)
    (wf.isName_of_node? hnode') (FilePath.order_eq_eq_iff.mp heq))

theorem ascending_sourceFiles (wf : fs.WellFormed) (h : sourceFiles fs directory = .ok files) :
    Ascending FilePath.order files := by
  obtain ⟨root, node, hfind, rfl⟩ := sourceFiles_eq_ok h
  exact OrderedList.ascending_mergeSort
    ((pairwise_descend wf (text_ne_empty_of_find hfind)).filter _)

end ReceiverLoader.Source
