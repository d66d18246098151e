/-
This file models `getRdmaDeviceFromSysfs` of `pkg/driver/rdmadevice_test.go`, the sysfs
lookup of the RDMA device behind a network interface, over an arbitrary file system.

`os.ReadDir` returns a directory's entries sorted by name, in whatever order the system
lists them; its sort is `slices.SortFunc` under `bytealg.CompareString`, given here by its
contract. The lookup therefore returns the least name among the subdirectories, and which
one it returns does not depend on the order of the listing.
-/

import Dranet.Engine

namespace Dranet

namespace Driver

/-! ### `os.ReadDir` -/

/-- `os.DirEntry`, with what the driver reads of it. -/
structure DirEntry where
  name : String
  isDir : Bool
  deriving DecidableEq, Repr

/-- The file system as `os.ReadDir` reads it. -/
structure FileSystem where
  /-- `File.ReadDir(-1)` on the opened directory: its entries in the order the system lists
  them, or the error of opening or reading it. -/
  list : String → Except GoError (List DirEntry)
  /-- The `slices.SortFunc` that `os.ReadDir` sorts with. -/
  sortFunc : SortFunc DirEntry

/-- `bytealg.CompareString` of the entries' names. Byte order on UTF-8 is the order of code
points, which is Lean's order on `String`. -/
def compareNames (a b : DirEntry) : Int :=
  if a.name < b.name then -1 else if b.name < a.name then 1 else 0

/-- `os.ReadDir`: the directory's entries sorted by name. -/
def readDir (fs : FileSystem) (name : String) : Except GoError (List DirEntry) :=
  (fs.list name).map (fs.sortFunc.sort compareNames)

theorem compareNames_nonpos_iff (a b : DirEntry) : compareNames a b ≤ 0 ↔ a.name ≤ b.name := by
  unfold compareNames
  split_ifs with below above
  · exact iff_of_true (by decide) below.le
  · exact iff_of_false (by decide) (not_le.mpr above)
  · exact iff_of_true le_rfl (not_lt.mp above)

/-- `os.ReadDir`'s sort leaves the entries sorted by name. -/
theorem sort_sorted (sortFunc : SortFunc DirEntry) (listed : List DirEntry) :
    (sortFunc.sort compareNames listed).Sorted fun a b => a.name ≤ b.name := by
  have total a b : compareNames a b ≤ 0 ∨ compareNames b a ≤ 0 := by
    simp only [compareNames_nonpos_iff]
    exact le_total _ _
  have transitive a b c (first : compareNames a b ≤ 0) (second : compareNames b c ≤ 0) :
      compareNames a c ≤ 0 := by
    rw [compareNames_nonpos_iff] at *
    exact first.trans second
  simpa only [compareNames_nonpos_iff] using sortFunc.sorted _ listed total transitive

/-! ### `getRdmaDeviceFromSysfs` -/

/-- The directory `getRdmaDeviceFromSysfs` reads:
`filepath.Join(basePath, ifName, "device/infiniband")`. -/
def rdmaDir (basePath ifName : String) : String :=
  ⟨Path.join [basePath.toList, ifName.toList, "device/infiniband".toList]⟩

/-- `getRdmaDeviceFromSysfs`: the name of the first directory among the sorted entries of
`basePath/ifName/device/infiniband`. -/
def getRdmaDeviceFromSysfs (fs : FileSystem) (basePath ifName : String) :
    Except GoError String :=
  match readDir fs (rdmaDir basePath ifName) with
  | .error err => .error (.wrapped ("no RDMA device for " ++ ifName) err)
  | .ok entries =>
    match entries.find? (·.isDir) with
    | some entry => .ok entry.name
    | none => .error (.text ("no RDMA device found for " ++ ifName))

/-- `name` is the least name, in byte order, of a directory among `entries`. -/
def IsLeastDirectory (entries : List DirEntry) (name : String) : Prop :=
  (∃ entry ∈ entries, entry.isDir ∧ entry.name = name) ∧
    ∀ entry ∈ entries, entry.isDir → name ≤ entry.name

/-- In a list sorted by name, the first directory has the least name of the directories. -/
theorem find?_isDir_least {entries : List DirEntry}
    (sorted : entries.Sorted fun a b => a.name ≤ b.name) {first : DirEntry}
    (found : entries.find? (·.isDir) = some first) :
    IsLeastDirectory entries first.name := by
  induction entries with
  | nil => cases found
  | cons entry rest inductionHypothesis =>
    rw [List.sorted_cons] at sorted
    by_cases directory : entry.isDir
    · rw [List.find?_cons_of_pos _ directory, Option.some.injEq] at found
      subst found
      refine ⟨⟨entry, List.mem_cons_self _ _, directory, rfl⟩, fun other member _ => ?_⟩
      rcases List.mem_cons.mp member with rfl | later
      · exact le_rfl
      · exact sorted.1 other later
    · rw [List.find?_cons_of_neg _ directory] at found
      obtain ⟨⟨other, member, isDir, named⟩, least⟩ := inductionHypothesis sorted.2 found
      refine ⟨⟨other, List.mem_cons_of_mem _ member, isDir, named⟩, fun another member' isDir' => ?_⟩
      rcases List.mem_cons.mp member' with rfl | later
      · exact absurd isDir' directory
      · exact least another later isDir'

/-- Being the least directory depends on the entries, not on their order. -/
theorem IsLeastDirectory.of_perm {entries listed : List DirEntry} (same : entries.Perm listed)
    {name : String} (least : IsLeastDirectory entries name) : IsLeastDirectory listed name :=
  ⟨least.1.imp fun _ found => ⟨same.subset found.1, found.2⟩,
    fun entry member => least.2 entry (same.symm.subset member)⟩

/-- Two least directories have one name. -/
theorem IsLeastDirectory.unique {entries : List DirEntry} {name other : String}
    (least : IsLeastDirectory entries name) (otherLeast : IsLeastDirectory entries other) :
    name = other := by
  obtain ⟨⟨entry, member, isDir, rfl⟩, below⟩ := least
  obtain ⟨⟨entry', member', isDir', rfl⟩, below'⟩ := otherLeast
  exact le_antisymm (below entry' member' isDir') (below' entry member isDir)

/-- `getRdmaDeviceFromSysfs` reads `basePath/ifName/device/infiniband` and, whatever file
system and whatever order the system lists the directory in, fails with the error of the
read wrapped when the directory cannot be read; otherwise it returns the least name, in byte
order, among the directory's subdirectories, and fails with "not found" exactly when there
is none, whatever files the directory holds. -/
theorem getRdmaDeviceFromSysfs_least_directory (fs : FileSystem) (basePath ifName : String) :
    match fs.list (rdmaDir basePath ifName) with
    | .error err =>
      getRdmaDeviceFromSysfs fs basePath ifName =
        .error (.wrapped ("no RDMA device for " ++ ifName) err)
    | .ok listed =>
      (∀ name, getRdmaDeviceFromSysfs fs basePath ifName = .ok name ↔
        IsLeastDirectory listed name) ∧
      (getRdmaDeviceFromSysfs fs basePath ifName =
          .error (.text ("no RDMA device found for " ++ ifName)) ↔
        ∀ entry ∈ listed, entry.isDir = false) := by
  unfold getRdmaDeviceFromSysfs readDir
  rcases listing : fs.list (rdmaDir basePath ifName) with err | listed
  · rfl
  dsimp only [Except.map]
  have same := fs.sortFunc.perm compareNames listed
  rcases found : (fs.sortFunc.sort compareNames listed).find? (·.isDir) with _ | first
  · rw [found]
    dsimp only
    have noDirectory : ∀ entry ∈ listed, entry.isDir = false := fun entry member => by
      simpa using List.find?_eq_none.mp found entry (same.symm.subset member)
    refine ⟨fun name => iff_of_false (by simp) fun least => ?_, iff_of_true rfl noDirectory⟩
    obtain ⟨entry, member, isDir, -⟩ := least.1
    exact absurd (noDirectory entry member) (by simp [isDir])
  · rw [found]
    dsimp only
    have least := (find?_isDir_least (sort_sorted _ listed) found).of_perm same
    refine ⟨fun name => ⟨fun returned => ?_, fun other => ?_⟩, iff_of_false (by simp) ?_⟩
    · cases returned
      exact least
    · rw [least.unique other]
    · obtain ⟨entry, member, isDir, -⟩ := least.1
      exact fun noDirectory => absurd (noDirectory entry member) (by simp [isDir])

end Driver

end Dranet
