import Matchday.Proofs.Storage.Folder

/-!
# Writing inside a folder

What is written to a folder of a disk under plain paths stays inside the folder.  Every folder that
is made on the way is inside it too, also when the file itself cannot be written.

## Main definitions

* `Disk.SameOutside`: two disks are the same outside a folder.

## Main results

* `Disk.Leads.isPrefix_of_resolve`: a plain path below a folder names nothing outside it.
* `Disk.keeps_write_inside`: writing a file with a plain path changes nothing outside the folder.
-/

namespace Matchday.Disk

variable {disk disk' : Disk} {path base name : String} {folder place : Place} {names : List String}

namespace Leads

/-- **Names below a folder** lead to nothing outside it. -/
theorem isPrefix_of_resolve {entry : Entry} (h : disk.Leads path folder names)
    (hnames : ∀ n ∈ names, Path.IsName n) (hresolve : disk.resolve path = .ok (place, entry)) :
    folder <+: place := by
  obtain ⟨-, start, lead, -, hbegin, hfollow⟩ := h
  obtain ⟨start', ps, hbegin', hps, -⟩ := resolve_eq_ok_iff.1 hresolve
  obtain ⟨rfl, rfl⟩ := Prod.mk.inj (Except.ok.inj (hbegin.symm.trans hbegin'))
  rw [follow_append, hfollow] at hps
  rw [eq_append_of_follow hnames hps]
  exact List.prefix_append ..

theorem isDir (h : disk.Leads path folder []) : disk.isDir path = true := by
  obtain ⟨hfolder, start, lead, -, hbegin, hfollow⟩ := h
  rw [List.append_nil] at hbegin
  exact isDir_eq_true_iff.2 ⟨folder, resolve_eq_ok_iff.2 ⟨start, lead, hbegin, hfollow, hfolder⟩⟩

/-- What is made or written at the end of names below a folder is inside it. -/
theorem isPrefix_of_resolveLast {inner : Place} {last : String}
    (h : disk.Leads path folder (names ++ [name])) (hnames : ∀ n ∈ names ++ [name], Path.IsName n)
    (hlast : disk.resolveLast path = .ok (inner, some last)) : folder <+: inner := by
  rw [List.forall_mem_append, List.forall_mem_singleton] at hnames
  rw [h.resolveLast_eq hnames.2, follow_append] at hlast
  cases hfollow : disk.follow folder names with
  | error e => rw [hfollow] at hlast; exact nomatch hlast
  | ok place =>
    have hplace := eq_append_of_follow hnames.1 hfollow
    have hblank : (disk.follow place [""]).map (fun folder => (folder, some name)) =
        .ok (inner, some last) := by
      rwa [hfollow] at hlast
    cases hend : disk.follow place [""] with
    | error e => rw [hend] at hblank; exact nomatch hblank
    | ok end' =>
      rw [hend] at hblank
      obtain ⟨rfl, -⟩ := follow_blank_eq_ok_iff.1 hend
      obtain ⟨rfl, -⟩ := Prod.mk.inj (Except.ok.inj hblank)
      rw [hplace]
      exact List.prefix_append ..

end Leads

/-- Nothing outside a folder is different, and a path still leads to the folder. -/
structure SameOutside (disk : Disk) (base : String) (folder : Place) (disk' : Disk) : Prop where
  leads : disk'.Leads base folder []
  find?_eq : ∀ place, ¬ folder <+: place → disk'.find? place = disk.find? place

/-- An entry inside the folder. -/
theorem SameOutside.put (h : disk.SameOutside base folder disk') {inner : Place} {entry : Entry}
    (hinner : folder <+: inner)
    (hentry : disk'.find? (inner ++ [name]) = some .folder → entry = .folder) :
    disk.SameOutside base folder (disk'.put (inner ++ [name]) entry) := by
  have hne : inner ++ [name] ≠ [] :=
    List.append_ne_nil_of_right_ne_nil _ (List.cons_ne_nil _ _)
  refine ⟨h.leads.mono (keepsFolders_put hne hentry), fun place hplace => ?_⟩
  rw [find?_put hne, if_neg, h.find?_eq place hplace]
  rintro rfl
  exact hplace (hinner.trans (List.prefix_append ..))

section Inside

variable (disk folder) (content : ByteArray)

theorem keeps_makeDir_inside (hextends : Path.Extends base path names)
    (hnames : ∀ n ∈ names, Path.IsName n) :
    Keeps (disk.SameOutside base folder) (fileSystem.makeDir path) := by
  refine keeps_attempt fun disk' disk'' h hmake => ?_
  obtain ⟨hdir, inner, last, hlast, rfl, -, -, -⟩ := makeDir_spec hmake
  obtain ⟨start, outer, blanks, hbegin, -⟩ := resolveLast_spec hlast
  have hleads := h.leads.of_extends hextends hbegin
  rcases List.eq_nil_or_concat names with rfl | ⟨outer, name, rfl⟩
  · rw [hleads.isDir] at hdir
    contradiction
  · rw [List.concat_eq_append] at hleads hnames
    exact h.put (hleads.isPrefix_of_resolveLast hnames hlast) fun _ => rfl

/-- A path that leads to the folder itself is not reported as missing. -/
theorem run_ensureDir_ne_noEntry (h : disk.Leads base folder [])
    (hextends : Path.Extends base path []) :
    ((fileSystem.ensureDir path).run disk).1 ≠ .error .noEntry := by
  cases hbegin : disk.begin? path with
  | ok p =>
    rw [run_ensureDir_of_isDir (h.of_extends hextends hbegin).isDir]
    intro hrun
    cases hrun
  | error e =>
    have hmake : disk.makeDir path = .error e := by
      rw [makeDir, resolveLast, hbegin]
      rfl
    have he : e ≠ .noEntry := by
      rintro rfl
      rw [begin?] at hbegin
      split at hbegin
      · cases hbegin
      · split at hbegin
        · cases hbegin
        · split at hbegin
          next hempty => exact hextends.ne_empty (String.isEmpty_iff.1 hempty)
          next => cases hbegin
    rw [run_ensureDir, hmake]
    dsimp only
    split
    · intro hrun
      cases hrun
    · exact fun heq => he (Except.error.inj heq)

theorem keeps_makeDirs_inside (hextends : Path.Extends base path names)
    (hnames : ∀ n ∈ names, Path.IsName n) :
    Keeps (disk.SameOutside base folder) (fileSystem.makeDirs path) := by
  let inside (path : String) : Prop :=
    ∃ names, Path.Extends base path names ∧ ∀ n ∈ names, Path.IsName n
  refine keeps_makeDirsWithin (P := inside) ?_ ?_ _ ⟨names, hextends, hnames⟩
  · rintro path ⟨names, hextends, hnames⟩
    exact keeps_makeDir_inside disk folder hextends hnames
  · rintro path disk' ⟨names, hextends, hnames⟩ h hmissing parent hparent
    -- The folder itself is there, so only folders inside it can be missing.
    have hne : names ≠ [] := by
      rintro rfl
      exact run_ensureDir_ne_noEntry disk' folder h.leads hextends hmissing
    obtain ⟨outer, name, rfl⟩ := (List.eq_nil_or_concat names).resolve_left hne
    rw [List.concat_eq_append] at hextends hnames
    obtain ⟨parent', hparent', hup⟩ := hextends.parent hnames
    obtain rfl := Option.some.inj (hparent'.symm.trans hparent)
    exact ⟨outer, hup, fun n hn => hnames n (List.mem_append_left _ hn)⟩

theorem keeps_writeFile_inside (hextends : Path.Extends base path (names ++ [name]))
    (hnames : ∀ n ∈ names ++ [name], Path.IsName n) :
    Keeps (disk.SameOutside base folder) (fileSystem.writeFile path content) := by
  refine keeps_attempt fun disk' disk'' h hwrite => ?_
  obtain ⟨-, inner, last, hlast, rfl, -, -, hfile⟩ := writeFile_spec hwrite
  obtain ⟨start, outer, blanks, hbegin, -⟩ := resolveLast_spec hlast
  have hleads := h.leads.of_extends hextends hbegin
  exact h.put (hleads.isPrefix_of_resolveLast hnames hlast) fun hfind => absurd hfind hfile

/-- **Writing a file with a plain path changes nothing outside the folder**, whether or not the file
can be written. -/
theorem keeps_write_inside {file : String} (hbase : base ≠ "") (hplain : Path.IsPlain file) :
    Keeps (disk.SameOutside base folder)
      ((Storage.folder fileSystem base).write file content) := by
  have hextends := Path.extends_join hbase hplain
  obtain ⟨outer, name, houter⟩ :=
    (List.eq_nil_or_concat (Path.pieces file)).resolve_left (Path.pieces_ne_nil file)
  rw [List.concat_eq_append] at houter
  rw [Path.IsPlain, houter] at hplain
  rw [houter] at hextends
  obtain ⟨parent, hparent, hup⟩ := hextends.parent hplain
  refine keeps_write (fun parent' hparent' => ?_)
    (keeps_writeFile_inside disk folder content hextends hplain)
  obtain rfl := Option.some.inj (hparent.symm.trans hparent')
  exact keeps_makeDirs_inside disk folder hup fun n hn => hplain n (List.mem_append_left _ hn)

end Inside

end Matchday.Disk
