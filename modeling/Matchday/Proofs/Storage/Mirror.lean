import Matchday.Proofs.Storage.Folder
import Matchday.Proofs.Storage.Memory

/-!
# Disks that mirror a memory

A memory keeps files under paths as they are given.  A folder of a disk mirrors it when the files
below the folder are those of the memory.  It goes on to do so as long as the paths of the written
files fit: each of them must be the path of a file from the folder, and none of them may lead
through another one.

## Main definitions

* `Path.Fit`: paths below a folder that can all be files at the same time.
* `Disk.Mirrors`: the files below a folder of a disk are those of a memory.

## Main results

* `Disk.Mirrors.write`: a file with a fitting path is written to the folder as to the memory.
* `Disk.Mirrors.perm_filesBelow`: the files below the folder, with their paths.
* `Disk.fit_of_perm`: paths fit when the files below the folder are those of a memory.
-/

namespace Matchday

/-- Paths below a folder that can all be files at the same time: they have proper names only, they
are short enough, and none of them leads through another one. -/
structure Path.Fit (folder : String) (paths : List String) : Prop where
  plain : ∀ path ∈ paths, IsPlain path
  nul_notMem : ∀ path ∈ paths, '\x00' ∉ path.toList
  name_size : ∀ path ∈ paths, ∀ name ∈ pieces path, name.utf8ByteSize ≤ Disk.maxName
  size : ∀ path ∈ paths, (join folder path).utf8ByteSize ≤ Disk.maxPath
  apart : ∀ path ∈ paths, ∀ path' ∈ paths, pieces path <+: pieces path' → path = path'

theorem Path.fit_iff {folder : String} {paths : List String} :
    Fit folder paths ↔ ∀ path ∈ paths, (IsPlain path ∧ '\x00' ∉ path.toList ∧
      (∀ name ∈ pieces path, name.utf8ByteSize ≤ Disk.maxName) ∧
      (join folder path).utf8ByteSize ≤ Disk.maxPath) ∧
      ∀ path' ∈ paths, pieces path <+: pieces path' → path = path' := by
  constructor
  · intro h path hpath
    exact ⟨⟨h.plain path hpath, h.nul_notMem path hpath, h.name_size path hpath,
      h.size path hpath⟩, h.apart path hpath⟩
  · intro h
    exact ⟨fun path hpath => (h path hpath).1.1, fun path hpath => (h path hpath).1.2.1,
      fun path hpath => (h path hpath).1.2.2.1, fun path hpath => (h path hpath).1.2.2.2,
      fun path hpath => (h path hpath).2⟩

instance (folder : String) (paths : List String) : Decidable (Path.Fit folder paths) :=
  decidable_of_iff' _ Path.fit_iff

theorem Path.Fit.mono {folder : String} {paths paths' : List String} (h : Fit folder paths)
    (hsubset : ∀ path ∈ paths', path ∈ paths) : Fit folder paths' where
  plain path hpath := h.plain path (hsubset path hpath)
  nul_notMem path hpath := h.nul_notMem path (hsubset path hpath)
  name_size path hpath := h.name_size path (hsubset path hpath)
  size path hpath := h.size path (hsubset path hpath)
  apart path hpath path' hpath' := h.apart path (hsubset path hpath) path' (hsubset path' hpath')

namespace Disk

variable {disk disk' : Disk} {folder : Place} {memory : Memory} {base : String}
  {paths : List String}

/-- The files below a folder of a disk are those of a memory, and the folders below it are on the
way to them. -/
structure Mirrors (disk : Disk) (folder : Place) (memory : Memory) : Prop where
  isTree : disk.IsTree
  file_iff : ∀ names content, disk.find? (folder ++ names) = some (.file content) ↔
    ∃ path, memory.get? path = some content ∧ Path.pieces path = names
  of_folder : ∀ names, disk.find? (folder ++ names) = some .folder →
    names = [] ∨ ∃ path ∈ memory.keys, names <+: Path.pieces path ∧ names ≠ Path.pieces path

namespace Mirrors

/-- A folder with nothing below it mirrors an empty memory. -/
theorem of_empty (htree : disk.IsTree) (hfolder : disk.find? folder = some .folder)
    (hempty : ∀ names, names ≠ [] → disk.find? (folder ++ names) = none) :
    disk.Mirrors folder .empty := by
  refine ⟨htree, fun names content => ?_, fun names hnames => ?_⟩
  · refine iff_of_false (fun hfile => ?_) fun ⟨path, hpath, _⟩ => nomatch hpath
    by_cases hnil : names = []
    · rw [hnil, List.append_nil, hfolder] at hfile
      exact nomatch hfile
    · rw [hempty names hnil] at hfile
      exact nomatch hfile
  · by_cases hnil : names = []
    · exact Or.inl hnil
    · rw [hempty names hnil] at hnames
      contradiction

section Write

variable {path : String}

/-- No stored file is in the way of a fitting path. -/
theorem find?_ne_file (h : disk.Mirrors folder memory) (hfit : Path.Fit base paths)
    (hkeys : ∀ path ∈ memory.keys, path ∈ paths) (hpath : path ∈ paths) {names : List String}
    (hfront : names <+: Path.pieces path) (hne : names ≠ Path.pieces path) (content : ByteArray) :
    disk.find? (folder ++ names) ≠ some (.file content) := by
  intro hfile
  obtain ⟨path', hget, hpieces⟩ := (h.file_iff names content).1 hfile
  have hkey : path' ∈ memory.keys := Table.mem_keys_iff.2 (by rw [hget]; rfl)
  rw [← hpieces] at hfront hne
  exact hne (congrArg Path.pieces (hfit.apart path' (hkeys path' hkey) path hpath hfront))

/-- No folder has the place of a fitting path. -/
theorem find?_ne_folder (h : disk.Mirrors folder memory) (hfit : Path.Fit base paths)
    (hkeys : ∀ path ∈ memory.keys, path ∈ paths) (hpath : path ∈ paths) :
    disk.find? (folder ++ Path.pieces path) ≠ some .folder := by
  intro hfolder
  rcases h.of_folder _ hfolder with hnil | ⟨path', hkey, hfront, hne⟩
  · exact Path.pieces_ne_nil path hnil
  · exact hne (congrArg Path.pieces (hfit.apart path hpath path' (hkeys path' hkey) hfront))

/-- More folders on the way to a file, and then the file. -/
theorem put (h : disk.Mirrors folder memory) {outer : List String} {name : String}
    (hmakes : disk.MakesFolders folder outer disk') (hname : IsEntryName name)
    (hpieces : Path.pieces path = outer ++ [name])
    (hfile : disk.find? (folder ++ Path.pieces path) ≠ some .folder) (content : ByteArray) :
    (disk'.put (folder ++ outer ++ [name]) (.file content)).Mirrors folder
      (memory.writeFile path content) := by
  have hne : folder ++ outer ++ [name] ≠ [] :=
    List.append_ne_nil_of_right_ne_nil _ (List.cons_ne_nil _ _)
  have hplace (names : List String) :
      folder ++ outer ++ [name] = folder ++ names ↔ Path.pieces path = names := by
    rw [hpieces, List.append_assoc, List.append_cancel_left_eq]
  refine ⟨hmakes.isTree.put hname hmakes.find?_eq_folder fun hfolder => ?_, fun names c => ?_,
    fun names hfolder => ?_⟩
  · rw [hmakes.find?_concat, List.append_assoc, ← hpieces] at hfolder
    exact absurd hfolder hfile
  · rw [find?_put hne]
    simp only [Memory.writeFile, Table.get?_insert]
    by_cases hnames : Path.pieces path = names
    · rw [if_pos ((hplace names).2 hnames), Option.some.injEq, Entry.file.injEq]
      constructor
      · exact fun hc => ⟨path, by rw [if_pos rfl, hc], hnames⟩
      · rintro ⟨path', hget, hpath'⟩
        rw [if_pos (Path.pieces_injective (hnames.trans hpath'.symm))] at hget
        exact Option.some.inj hget
    · rw [if_neg (mt (hplace names).1 hnames), hmakes.find?_eq_file_iff, h.file_iff]
      refine exists_congr fun path' => and_congr_left fun hpath' => ?_
      rw [if_neg]
      rintro rfl
      exact hnames hpath'
  · rw [find?_put hne] at hfolder
    split at hfolder
    next => exact Entry.noConfusion (Option.some.inj hfolder)
    next hother =>
      rcases hmakes.find?_cases (folder ++ names) with hsame | ⟨-, -, ns, hns, heq⟩
      · rw [hsame] at hfolder
        refine (h.of_folder names hfolder).imp_right ?_
        rintro ⟨path', hkey, hfront⟩
        exact ⟨path', Table.mem_keys_insert.2 (Or.inr hkey), hfront⟩
      · rw [List.append_cancel_left_eq] at heq
        subst heq
        refine Or.inr ⟨path, Table.mem_keys_insert.2 (Or.inl rfl), ?_, ?_⟩
        · rw [hpieces]
          exact hns.trans (List.prefix_append ..)
        · exact fun heq => hother ((hplace names).2 heq.symm)

/-- **A file with a fitting path is written** to a folder that mirrors a memory as it is written to
the memory. -/
theorem write (h : disk.Mirrors folder memory) (hbase : disk.Leads base folder [])
    (hfit : Path.Fit base paths) (hkeys : ∀ path ∈ memory.keys, path ∈ paths)
    (hpath : path ∈ paths) (content : ByteArray) :
    ∃ disk', ((Storage.folder fileSystem base).write path content).run disk =
        pure (.ok (), disk') ∧
      disk'.Mirrors folder (memory.writeFile path content) ∧ disk'.Leads base folder [] := by
  have hfile := h.find?_ne_folder hfit hkeys hpath
  obtain ⟨disk', outer, name, hpieces, hname, hmakes, hrun⟩ :=
    hbase.run_write h.isTree (hfit.plain path hpath) (hfit.nul_notMem path hpath)
      (hfit.name_size path hpath) (hfit.size path hpath)
      (fun _ => h.find?_ne_file hfit hkeys hpath) hfile content
  refine ⟨_, hrun, h.put hmakes hname hpieces hfile content, hbase.mono ?_⟩
  rw [hpieces, ← List.append_assoc] at hfile
  refine hmakes.keeps.trans (keepsFolders_put ?_ fun hfolder => ?_)
  · exact List.append_ne_nil_of_right_ne_nil _ (List.cons_ne_nil _ _)
  · rw [hmakes.find?_concat] at hfolder
    contradiction

end Write

end Mirrors

/-! ### The files below a folder -/

/-- The path of an entry from a folder above it, and its content, if it is a file. -/
def fileBelow? (folder : Place) : Place × Entry → Option (String × ByteArray)
  | (_, .folder) => none
  | (place, .file content) =>
    if folder.isPrefixOf place then some ("/".intercalate (place.drop folder.length), content)
    else none

theorem filesBelow_eq (disk : Disk) (folder : Place) :
    disk.filesBelow folder = disk.entries.filterMap (fileBelow? folder) := by
  refine congrArg (disk.entries.filterMap ·) (funext fun ⟨place, entry⟩ => ?_)
  cases entry <;> rfl

theorem fileBelow?_eq_some_iff {e : Place × Entry} {path : String} {content : ByteArray} :
    fileBelow? folder e = some (path, content) ↔
      ∃ names, e = (folder ++ names, .file content) ∧ "/".intercalate names = path := by
  obtain ⟨place, entry⟩ := e
  cases entry with
  | folder => simp [fileBelow?]
  | file c =>
    rw [fileBelow?]
    constructor
    · intro h
      split at h
      next hfront =>
        obtain ⟨names, rfl⟩ := List.isPrefixOf_iff_prefix.1 hfront
        rw [List.drop_left, Option.some.injEq, Prod.mk.injEq] at h
        exact ⟨names, by rw [h.2], h.1⟩
      next => exact nomatch h
    · rintro ⟨names, heq, rfl⟩
      obtain ⟨rfl, hc⟩ := Prod.mk.inj heq
      obtain rfl := Entry.file.inj hc
      rw [if_pos (List.isPrefixOf_iff_prefix.2 (List.prefix_append ..)), List.drop_left]

theorem mem_filesBelow_iff (htree : disk.IsTree) {path : String} {content : ByteArray} :
    (path, content) ∈ disk.filesBelow folder ↔
      ∃ names, disk.find? (folder ++ names) = some (.file content) ∧
        "/".intercalate names = path := by
  rw [filesBelow_eq, List.mem_filterMap]
  constructor
  · rintro ⟨e, hmem, hsome⟩
    obtain ⟨names, rfl, hpath⟩ := fileBelow?_eq_some_iff.1 hsome
    exact ⟨names, (htree.mem_entries_iff.1 hmem).2, hpath⟩
  · rintro ⟨names, hfile, hpath⟩
    have hne : folder ++ names ≠ [] := by
      intro hnil
      rw [hnil, find?_nil] at hfile
      exact nomatch hfile
    exact ⟨_, htree.mem_entries_iff.2 ⟨hne, hfile⟩,
      fileBelow?_eq_some_iff.2 ⟨names, rfl, hpath⟩⟩

/-- The pieces of the path of a file below a folder are its names from there. -/
theorem pieces_intercalate_of_file (htree : disk.IsTree)
    (hfolder : disk.find? folder = some .folder) {names : List String} {content : ByteArray}
    (hfile : disk.find? (folder ++ names) = some (.file content)) :
    Path.pieces ("/".intercalate names) = names := by
  refine Path.pieces_intercalate ?_ fun name hname => ?_
  · rintro rfl
    rw [List.append_nil, hfolder] at hfile
    exact nomatch hfile
  · exact (htree.isEntryName_of_mem hfile name (List.mem_append_right _ hname)).2.1

theorem nodup_filesBelow (htree : disk.IsTree) (hfolder : disk.find? folder = some .folder) :
    (disk.filesBelow folder).Nodup := by
  rw [filesBelow_eq, List.Nodup, List.pairwise_filterMap]
  refine (List.Nodup.of_map Prod.fst htree.nodup).imp_of_mem ?_
  rintro e e' he he' hne ⟨path, content⟩ hpath _ hpath' rfl
  obtain ⟨names, rfl, hnames⟩ := fileBelow?_eq_some_iff.1 hpath
  obtain ⟨names', rfl, hnames'⟩ := fileBelow?_eq_some_iff.1 hpath'
  have hpieces := pieces_intercalate_of_file htree hfolder (htree.mem_entries_iff.1 he).2
  have hpieces' := pieces_intercalate_of_file htree hfolder (htree.mem_entries_iff.1 he').2
  rw [hnames] at hpieces
  rw [hnames', hpieces] at hpieces'
  exact hne (by rw [hpieces'])

/-- **The files below a folder** that mirrors a memory are those of the memory. -/
theorem Mirrors.perm_filesBelow (h : disk.Mirrors folder memory)
    (hfolder : disk.find? folder = some .folder) :
    (disk.filesBelow folder).Perm memory.toList := by
  refine (List.perm_ext_iff_of_nodup (nodup_filesBelow h.isTree hfolder) ?_).2 ?_
  · exact List.Nodup.of_map Prod.fst memory.nodup_keys
  · rintro ⟨path, content⟩
    rw [mem_filesBelow_iff h.isTree, Table.mem_toList_iff]
    constructor
    · rintro ⟨names, hfile, rfl⟩
      obtain ⟨path, hget, rfl⟩ := (h.file_iff names content).1 hfile
      rwa [Path.intercalate_pieces]
    · intro hget
      exact ⟨_, (h.file_iff _ content).2 ⟨path, hget, rfl⟩, Path.intercalate_pieces path⟩

/-- **Paths fit** when the files below a folder are those of a memory that holds the paths. -/
theorem fit_of_perm (htree : disk.IsTree) (hfolder : disk.find? folder = some .folder)
    (hperm : (disk.filesBelow folder).Perm memory.toList)
    (hkeys : ∀ path ∈ paths, path ∈ memory.keys)
    (hsize : ∀ path ∈ paths, IsShort (Path.join base path)) :
    Path.Fit base paths := by
  have hfile : ∀ path ∈ paths, ∃ content,
      disk.find? (folder ++ Path.pieces path) = some (.file content) := by
    intro path hpath
    obtain ⟨⟨_, content⟩, hmem, rfl⟩ := List.mem_map.1 (hkeys path hpath)
    obtain ⟨names, hfile, rfl⟩ := (mem_filesBelow_iff htree).1 (hperm.mem_iff.2 hmem)
    exact ⟨content, by rwa [pieces_intercalate_of_file htree hfolder hfile]⟩
  have hnames : ∀ path ∈ paths, ∀ name ∈ Path.pieces path, IsEntryName name := by
    intro path hpath name hname
    obtain ⟨content, hfile⟩ := hfile path hpath
    exact htree.isEntryName_of_mem hfile name (List.mem_append_right _ hname)
  have hplain : ∀ path ∈ paths, Path.IsPlain path := fun path hpath name hname =>
    (hnames path hpath name hname).1
  refine ⟨hplain, fun path hpath hnul => ?_, fun path hpath name hname => ?_,
    fun path hpath => (hsize path hpath).2, fun path hpath path' hpath' hfront => ?_⟩
  · refine (hsize path hpath).1 ((Path.mem_join_iff (by decide) ?_).2 (Or.inr hnul))
    exact (hplain path hpath).isAbsolute_eq
  · exact (hnames path hpath name hname).2.2
  · obtain ⟨rest, hrest⟩ := hfront
    by_cases hnil : rest = []
    · rw [hnil, List.append_nil] at hrest
      exact Path.pieces_injective hrest
    · obtain ⟨content, hplace⟩ := hfile path hpath
      obtain ⟨content', hplace'⟩ := hfile path' hpath'
      rw [← hrest, ← List.append_assoc] at hplace'
      rw [htree.find?_eq_folder hnil hplace'] at hplace
      exact nomatch hplace

end Disk

end Matchday
