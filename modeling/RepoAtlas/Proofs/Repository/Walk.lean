import RepoAtlas.Proofs.Data.Entries
import RepoAtlas.Repository.Snapshot
import Mathlib.Data.List.Basic
import Mathlib.Data.List.Nodup
import Mathlib.Tactic.SplitIfs

/-!
# Paths of a walk

File systems let a name be almost anything: not empty, not one of the two that stand for the
directory itself and the one above it, and without a slash.  `DiskNode.IsLegal` says that a tree has
only such names, each once in its directory.

A walk writes the names on the way to a file with slashes between them.  Nothing gets lost: **the
names can be read off a path** (`namesTo_entryPath`), so files at different places have different
paths.  `Branch.IsWithin` is the invariant of the walk, about what one entry of a directory
contributes, and `DiskNode.isWithin_branch?` carries it from the entries of a directory to the
directory; what follows for a whole walk is `DiskNode.nodup_paths_filesBelow` and
`DiskNode.isPlainPath_of_mem_filesBelow`.
-/

namespace RepoAtlas

open List

/-! ## Names and paths -/

/-- A name that something in a directory may have. -/
def IsEntryName (name : String) : Prop := name ∉ ["", ".", ".."] ∧ '/' ∉ name.toList

instance (name : String) : Decidable (IsEntryName name) :=
  inferInstanceAs (Decidable (_ ∧ _))

/-- The names that a path from the top consists of. -/
def namesTo (path : String) : List String := if path = "" then [] else Text.segments '/' path

/-- A path of names of entries, at least one of them. -/
def IsPlainPath (path : String) : Prop :=
  path ≠ "" ∧ ∀ name ∈ Text.segments '/' path, IsEntryName name

variable {directory name path : String}

/-- **A path keeps the names on the way.** -/
lemma namesTo_entryPath (h : IsEntryName name) :
    namesTo (entryPath directory name) = namesTo directory ++ [name] := by
  have hname : name ≠ "" := fun hempty => h.1 (by simp [hempty])
  have hsplit : Text.segments '/' name = [name] := by
    simp [Text.segments, splitOn_eq_singleton h.2]
  by_cases htop : directory = ""
  · simp only [entryPath, namesTo, htop, if_true, if_neg hname, hsplit, nil_append]
  · have hpath : directory ++ "/" ++ name ≠ "" := by simp
    simp only [entryPath, namesTo, if_neg htop, if_neg hpath]
    rw [← hsplit]
    simp only [Text.segments, String.toList_append, append_assoc, ← map_append]
    exact congrArg (map String.ofList) (splitOn_append_cons_self directory.toList name.toList)

lemma isPlainPath_of_namesTo {names : List String} (h : namesTo path = names) (hsome : names ≠ [])
    (hnames : ∀ name ∈ names, IsEntryName name) : IsPlainPath path := by
  unfold namesTo at h
  split_ifs at h with hempty
  · exact absurd h.symm hsome
  · rw [← h] at hnames
    exact ⟨hempty, hnames⟩

/-! ## Trees -/

namespace DiskNode

/-- Every directory of the tree has legal names, each of them once. -/
inductive IsLegal : DiskNode → Prop
  | file (bytes : List UInt8) : IsLegal (.file bytes)
  | link (target : String) : IsLegal (.link target)
  | directory (entries : List (String × DiskNode)) (distinct : Entries.KeysDistinct entries)
      (names : ∀ entry ∈ entries, IsEntryName entry.1)
      (nodes : ∀ entry ∈ entries, IsLegal entry.2) : IsLegal (.directory entries)

/-- What is below a legal directory is legal. -/
lemma IsLegal.get? {node found : DiskNode} (h : node.IsLegal) {names : List String}
    (hfound : node.get? names = some found) : found.IsLegal := by
  induction names generalizing node with
  | nil =>
      cases node <;> cases hfound <;> exact h
  | cons name rest ih =>
      cases h with
      | file bytes => cases hfound
      | link target => cases hfound
      | directory entries distinct names nodes =>
          obtain ⟨child, hchild, hbelow⟩ := Option.bind_eq_some_iff.1 hfound
          obtain ⟨before, after, rfl, -⟩ := List.lookup_eq_some_iff.1 hchild
          exact ih (nodes (name, child) (by simp)) hbelow

end DiskNode

/-! ## Branches -/

namespace Branch

def paths (branch : Branch) : List String := branch.files.map (·.1)

/-- What a branch contributes lies at or below the entry it is made from, in a directory that is
reached by the names `above`. -/
structure IsWithin (above : List String) (branch : Branch) : Prop where
  placed : ∀ path ∈ branch.paths, ∃ below, namesTo path = above ++ branch.name :: below ∧
    ∀ name ∈ branch.name :: below, IsEntryName name
  distinct : branch.paths.Nodup

variable {above : List String} {branches : List Branch}

lemma paths_inOrder_perm (branches : List Branch) :
    ((inOrder branches).map (·.1)).Perm (branches.flatMap paths) := by
  rw [inOrder, map_flatMap]
  exact (mergeSort_perm branches precedes).flatMap_right paths

/-- **Entries with different names contribute different files.** -/
lemma nodup_paths_inOrder (h : ∀ branch ∈ branches, branch.IsWithin above)
    (hnames : (branches.map (·.name)).Nodup) : ((inOrder branches).map (·.1)).Nodup := by
  rw [(paths_inOrder_perm branches).nodup_iff, nodup_flatMap]
  refine ⟨fun branch hbranch => (h branch hbranch).distinct, ?_⟩
  refine (pairwise_map.1 hnames).imp_of_mem fun {a b} ha hb hne path hpatha hpathb => hne ?_
  obtain ⟨_, hnamesa, -⟩ := (h a ha).placed path hpatha
  obtain ⟨_, hnamesb, -⟩ := (h b hb).placed path hpathb
  have hrest := append_cancel_left (hnamesa.symm.trans hnamesb)
  exact (cons.inj hrest).1

end Branch

/-! ## The walk -/

namespace DiskNode

variable {rules : List IgnoreRule} {node : DiskNode} {entries : List (String × DiskNode)}
  {branch : Branch}

lemma name_branch? (h : branch? rules directory name node = some branch) : branch.name = name := by
  cases node with
  | link target => cases h
  | file bytes =>
      obtain ⟨-, h⟩ := Option.ite_none_right_eq_some.1 h
      cases h
      rfl
  | directory entries =>
      obtain ⟨-, h⟩ := Option.ite_none_right_eq_some.1 h
      cases h
      rfl

lemma mem_branchesOf : branch ∈ branchesOf rules directory entries ↔
    ∃ entry ∈ entries, branch? rules directory entry.1 entry.2 = some branch := by
  induction entries with
  | nil => simp [branchesOf]
  | cons entry rest ih => simp [branchesOf, ih]

lemma names_branchesOf_sublist : ((branchesOf rules directory entries).map (·.name)).Sublist
    (entries.map (·.1)) := by
  induction entries with
  | nil => simp [branchesOf]
  | cons entry rest ih =>
      obtain ⟨name, node⟩ := entry
      rw [branchesOf]
      cases hbranch : branch? rules directory name node with
      | none => exact ih.cons name
      | some branch =>
          have hname := name_branch? hbranch
          simpa [hname] using ih

lemma IsLegal.nodup_names_branchesOf (h : (DiskNode.directory entries).IsLegal) :
    ((branchesOf rules directory entries).map (·.name)).Nodup := by
  cases h with
  | directory _ distinct names nodes => exact distinct.sublist names_branchesOf_sublist

/-- **What an entry contributes lies within it**, by induction on the tree: what the entries of a
directory contribute starts with the name of the directory, and they differ by their own names. -/
lemma isWithin_branch? (h : node.IsLegal) (hname : IsEntryName name)
    (hbranch : branch? rules directory name node = some branch) :
    branch.IsWithin (namesTo directory) := by
  induction h generalizing directory name branch with
  | file bytes =>
      obtain ⟨-, hbranch⟩ := Option.ite_none_right_eq_some.1 hbranch
      cases hbranch
      refine ⟨fun path hpath => ?_, nodup_singleton _⟩
      obtain rfl := mem_singleton.1 hpath
      exact ⟨[], namesTo_entryPath hname, by simpa using hname⟩
  | link target => cases hbranch
  | directory entries distinct names nodes ih =>
      obtain ⟨-, hbranch⟩ := Option.ite_none_right_eq_some.1 hbranch
      cases hbranch
      have hwithin : ∀ branch ∈ branchesOf rules (entryPath directory name) entries,
          branch.IsWithin (namesTo directory ++ [name]) := by
        intro branch hbranch
        obtain ⟨entry, hentry, hbranch⟩ := mem_branchesOf.1 hbranch
        rw [← namesTo_entryPath hname]
        exact ih entry hentry (names entry hentry) hbranch
      constructor
      case placed =>
        intro path hpath
        obtain ⟨branch, hbranch, hpath⟩ :=
          mem_flatMap.1 ((Branch.paths_inOrder_perm _).mem_iff.1 hpath)
        obtain ⟨below, hnames, hlegal⟩ := (hwithin branch hbranch).placed path hpath
        refine ⟨branch.name :: below, by simpa using hnames, ?_⟩
        rw [forall_mem_cons]
        exact ⟨hname, hlegal⟩
      case distinct =>
        exact Branch.nodup_paths_inOrder hwithin
          (IsLegal.directory entries distinct names nodes).nodup_names_branchesOf

/-- What the entries of the top contribute. -/
lemma IsLegal.isWithin_of_mem_branchesOf (h : node.IsLegal)
    (hbranch : branch ∈ branchesOf rules "" node.entries) : branch.IsWithin [] := by
  obtain ⟨entry, hentry, hcontributes⟩ := mem_branchesOf.1 hbranch
  cases h with
  | file bytes => cases hentry
  | link target => cases hentry
  | directory entries distinct names nodes =>
      exact isWithin_branch? (nodes entry hentry) (names entry hentry) hcontributes

/-- **No walk meets a path twice.** -/
lemma nodup_paths_filesBelow (h : node.IsLegal) (rules : List IgnoreRule) :
    ((filesBelow rules node).map (·.1)).Nodup := by
  refine Branch.nodup_paths_inOrder (fun _ => h.isWithin_of_mem_branchesOf) ?_
  cases h with
  | file bytes => exact nodup_nil
  | link target => exact nodup_nil
  | directory entries distinct names nodes =>
      exact (IsLegal.directory entries distinct names nodes).nodup_names_branchesOf

/-- **Every walk writes plain paths.** -/
lemma isPlainPath_of_mem_filesBelow (h : node.IsLegal) {path : String}
    (hpath : path ∈ (filesBelow rules node).map (·.1)) : IsPlainPath path := by
  obtain ⟨branch, hbranch, hpath⟩ := mem_flatMap.1 ((Branch.paths_inOrder_perm _).mem_iff.1 hpath)
  obtain ⟨below, hnames, hlegal⟩ := (h.isWithin_of_mem_branchesOf hbranch).placed path hpath
  exact isPlainPath_of_namesTo hnames (cons_ne_nil _ _) hlegal

end DiskNode

end RepoAtlas
