import Matchday.Storage.Folder
import Matchday.Proofs.Storage.Tree

/-!
# Files written to a folder of a disk

A file is written below a folder of a disk whenever its path is plain and short enough, no file is
in the way and no folder has its place.

## Main definitions

* `Disk.MakesFolders`: one disk has more folders than another one, on the way to a certain folder.
* `Disk.IsGrown`: a tree in which nothing that was there is gone.

## Main results

* `Disk.makeDir_spec`, `Disk.writeFile_spec`: what a folder that is made, or a file that is written,
  does to a disk.
* `Disk.Leads.run_makeDirs`: the folders on the way are made.
* `Disk.Leads.run_write`: a file is written when nothing is in the way.
* `Disk.keeps_makeDirsWithin`, `Disk.keeps_write`: what stays when single folders are made and files
  are written stays when a file is written below a folder.
* `Disk.keeps_isGrown_write`: whatever is written, a tree stays a tree and no folder goes away.
-/

namespace Matchday.Disk

variable {disk disk' : Disk} {path name : String} {folder : Place} {names : List String}
  {content : ByteArray}

/-! ### Single operations -/

/-- What is known about the last name of a path. -/
theorem resolveLast_spec (h : disk.resolveLast path = .ok (folder, some name)) :
    ∃ start outer blanks, disk.begin? path = .ok (start, outer ++ name :: blanks) ∧
      (∀ b ∈ blanks, b = "") ∧ Path.IsName name ∧ '/' ∉ name.toList ∧
      disk.follow start outer = .ok folder ∧ disk.find? folder = some .folder := by
  obtain ⟨⟨start, ps⟩, hbegin, h⟩ := bind_eq_ok_iff.1 h
  dsimp only at h
  split at h
  next => exact nomatch (Prod.mk.inj (Except.ok.inj h)).2
  next last outer hdrop =>
    obtain ⟨place, hfollow, h⟩ := bind_eq_ok_iff.1 h
    split at h
    next => exact nomatch (Prod.mk.inj (Except.ok.inj h)).2
    next hdots =>
      obtain ⟨rfl, hlast⟩ := Prod.mk.inj (Except.ok.inj h)
      obtain rfl := Option.some.inj hlast
      have hname : Path.IsName last := by
        have hhead := List.head?_dropWhile_not (· == "") ps.reverse
        rw [hdrop] at hhead
        simp only [Bool.or_eq_true, beq_iff_eq, not_or] at hdots
        exact ⟨by simpa using hhead, hdots⟩
      have hps : ps = outer.reverse ++ last :: (ps.reverse.takeWhile (· == "")).reverse := by
        have hsplit := List.takeWhile_append_dropWhile (p := (· == "")) (l := ps.reverse)
        rw [hdrop] at hsplit
        simpa using (congrArg List.reverse hsplit).symm
      have hlast : last ∈ Path.pieces path := by
        rw [(begin?_eq_ok_iff.1 hbegin).2.2, hps]
        simp
      have hslash : '/' ∉ last.toList := Path.slash_notMem_of_mem_pieces hlast
      rw [follow_append] at hfollow
      obtain ⟨here, houter, hblank⟩ := bind_eq_ok_iff.1 hfollow
      obtain ⟨rfl, hfolder⟩ := follow_blank_eq_ok_iff.1 hblank
      refine ⟨start, outer.reverse, _, hps ▸ hbegin, ?_, hname, hslash, houter, hfolder⟩
      intro b hb
      simpa using List.mem_takeWhile_imp (List.mem_reverse.1 hb)

/-- A path whose last name is missing names no folder. -/
theorem isDir_eq_false_of_resolveLast (h : disk.resolveLast path = .ok (folder, some name))
    (hlong : name.utf8ByteSize ≤ maxName) (hnone : disk.find? (folder ++ [name]) = none) :
    disk.isDir path = false := by
  obtain ⟨start, outer, blanks, hbegin, hblanks, hname, hslash, houter, hfolder⟩ :=
    resolveLast_spec h
  rw [Bool.eq_false_iff, Ne, isDir_eq_true_iff]
  rintro ⟨place, hplace⟩
  obtain ⟨start', ps, hbegin', hfollow, hfind⟩ := resolve_eq_ok_iff.1 hplace
  obtain ⟨rfl, rfl⟩ := Prod.mk.inj (Except.ok.inj (hbegin.symm.trans hbegin'))
  rw [follow_append, houter] at hfollow
  have hsteps : Path.steps (name :: blanks) = [name] := by
    have hidle : Path.steps blanks = [] := by
      refine List.filter_eq_nil_iff.2 fun b hb => ?_
      rw [hblanks b hb]
      decide
    change Path.steps ([name] ++ blanks) = [name]
    rw [Path.steps_append, hidle, List.append_nil, Path.steps, List.filter_singleton,
      hname.isIdle_eq]
    rfl
  have hend : disk.follow folder [name] = .ok place := by
    rw [← hsteps, ← follow_eq_ok_iff_steps hfind]
    exact hfollow
  rw [follow_cons_of_isEntryName hfolder ⟨hname, hslash, hlong⟩] at hend
  obtain rfl := Except.ok.inj hend
  rw [hnone] at hfind
  contradiction

/-- **A new folder** is an entry that was not there before. -/
theorem makeDir_spec (h : disk.makeDir path = .ok disk') :
    disk.isDir path = false ∧ ∃ folder name, disk.resolveLast path = .ok (folder, some name) ∧
      disk' = disk.put (folder ++ [name]) .folder ∧ IsEntryName name ∧
        disk.find? folder = some .folder ∧ disk.find? (folder ++ [name]) = none := by
  obtain ⟨⟨folder, name?⟩, hlast, h⟩ := bind_eq_ok_iff.1 h
  cases name? with
  | none => contradiction
  | some name =>
    dsimp only at h
    split at h
    next => contradiction
    next hlong =>
      split at h
      next => contradiction
      next hnone =>
        obtain rfl := Except.ok.inj h
        obtain ⟨-, -, -, -, -, hname, hslash, -, hfolder⟩ := resolveLast_spec hlast
        have hentry : IsEntryName name := ⟨hname, hslash, Nat.not_lt.1 hlong⟩
        exact ⟨isDir_eq_false_of_resolveLast hlast hentry.2.2 hnone, folder, name, hlast, rfl,
          hentry, hfolder, hnone⟩

/-- **A written file** is in a folder, and it does not take the place of one. -/
theorem writeFile_spec (h : disk.writeFile path content = .ok disk') :
    IsShort path ∧ ∃ folder name, disk.resolveLast path = .ok (folder, some name) ∧
      disk' = disk.put (folder ++ [name]) (.file content) ∧ IsEntryName name ∧
        disk.find? folder = some .folder ∧ disk.find? (folder ++ [name]) ≠ some .folder := by
  obtain ⟨⟨folder, name?⟩, hlast, h⟩ := bind_eq_ok_iff.1 h
  cases name? with
  | none => contradiction
  | some name =>
    dsimp only at h
    split at h
    next => contradiction
    next =>
      split at h
      next => contradiction
      next hlong =>
        split at h
        next => contradiction
        next hfile =>
          obtain rfl := Except.ok.inj h
          obtain ⟨start, outer, blanks, hbegin, -, hname, hslash, -, hfolder⟩ :=
            resolveLast_spec hlast
          exact ⟨(begin?_eq_ok_iff.1 hbegin).1.1, folder, name, hlast, rfl,
            ⟨hname, hslash, Nat.not_lt.1 hlong⟩, hfolder, fun hfind => hfile hfind⟩

namespace Leads

/-- A path that leads to a name in a folder that exists. -/
theorem resolveLast_of_folder (h : disk.Leads path folder (names ++ [name])) (htree : disk.IsTree)
    (hname : Path.IsName name) (hfolder : disk.find? (folder ++ names) = some .folder) :
    disk.resolveLast path = .ok (folder ++ names, some name) := by
  rw [h.resolveLast_eq hname, htree.follow_names hfolder]
  rfl

theorem makeDir_of_folder (h : disk.Leads path folder (names ++ [name])) (htree : disk.IsTree)
    (hname : IsEntryName name) (hfolder : disk.find? (folder ++ names) = some .folder)
    (hnone : disk.find? (folder ++ names ++ [name]) = none) :
    disk.makeDir path = .ok (disk.put (folder ++ names ++ [name]) .folder) := by
  rw [makeDir, h.resolveLast_of_folder htree hname.1 hfolder]
  simp only [bind, Except.bind, if_neg (Nat.not_lt.2 hname.2.2), hnone]
  rfl

theorem makeDir_of_eq_none (h : disk.Leads path folder (names ++ [name]))
    (hnames : ∀ n ∈ names ++ [name], IsEntryName n)
    (hfree : ∀ ns, ns <+: names → ∀ content, disk.find? (folder ++ ns) ≠ some (.file content))
    (hnone : disk.find? (folder ++ names) = none) : disk.makeDir path = .error .noEntry := by
  rw [List.forall_mem_append, List.forall_mem_singleton] at hnames
  rw [makeDir, h.resolveLast_eq hnames.2.1, follow_names_of_eq_none hnames.1 hfree hnone]
  rfl

theorem writeFile_of_folder (h : disk.Leads path folder (names ++ [name])) (htree : disk.IsTree)
    (hname : IsEntryName name) (hfolder : disk.find? (folder ++ names) = some .folder)
    (hfile : disk.find? (folder ++ names ++ [name]) ≠ some .folder) (content : ByteArray) :
    disk.writeFile path content =
      .ok (disk.put (folder ++ names ++ [name]) (.file content)) := by
  obtain ⟨-, start, lead, -, hbegin, -⟩ := id h
  have hpieces := (begin?_eq_ok_iff.1 hbegin).2.2
  have hslash : endsInSlash (Path.pieces path) = false := by
    rw [hpieces, endsInSlash, ← List.append_assoc, List.getLast?_concat]
    simpa using hname.1.1
  rw [writeFile, h.resolveLast_of_folder htree hname.1 hfolder]
  simp only [bind, Except.bind, hslash, if_neg (Nat.not_lt.2 hname.2.2)]
  cases hfind : disk.find? (folder ++ names ++ [name]) with
  | none => rfl
  | some entry =>
    cases entry with
    | folder => exact absurd hfind hfile
    | file _ => rfl

/-- A path that leads to names is a folder exactly when there is one of these names. -/
theorem isDir_iff (h : disk.Leads path folder names) (htree : disk.IsTree)
    (hnames : ∀ n ∈ names, IsEntryName n) :
    disk.isDir path = true ↔ disk.find? (folder ++ names) = some .folder := by
  obtain ⟨-, start, lead, -, hbegin, hlead⟩ := h
  have hfollow (place : Place) : disk.follow start (lead ++ names) = .ok place ↔
      disk.follow folder names = .ok place := by
    rw [follow_append, hlead]
    rfl
  rw [isDir_eq_true_iff]
  constructor
  · rintro ⟨place, hplace⟩
    obtain ⟨start', ps, hbegin', hps, hfind⟩ := resolve_eq_ok_iff.1 hplace
    obtain ⟨rfl, rfl⟩ := Prod.mk.inj (Except.ok.inj (hbegin.symm.trans hbegin'))
    rwa [← eq_append_of_follow (fun n hn => (hnames n hn).1) ((hfollow place).1 hps)]
  · intro hfind
    have hend := htree.follow_names hfind
    rw [follow_append] at hend
    obtain ⟨place, hplace, hblank⟩ := bind_eq_ok_iff.1 hend
    obtain ⟨rfl, -⟩ := follow_blank_eq_ok_iff.1 hblank
    exact ⟨_, resolve_eq_ok_iff.2 ⟨start, _, hbegin, (hfollow _).2 hplace, hfind⟩⟩

end Leads

/-! ### Making folders -/

/-- Folders are made on the way to a certain one, and nothing else is changed. -/
structure MakesFolders (disk : Disk) (folder : Place) (names : List String) (disk' : Disk) :
    Prop where
  isTree : disk'.IsTree
  keeps : disk.KeepsFolders disk'
  find?_eq_folder : disk'.find? (folder ++ names) = some .folder
  find?_cases : ∀ place, disk'.find? place = disk.find? place ∨
    disk.find? place = none ∧ disk'.find? place = some .folder ∧
      ∃ ns, ns <+: names ∧ place = folder ++ ns

namespace MakesFolders

theorem refl (htree : disk.IsTree) (h : disk.find? (folder ++ names) = some .folder) :
    disk.MakesFolders folder names disk :=
  ⟨htree, .refl disk, h, fun _ => Or.inl rfl⟩

/-- One more folder is made. -/
theorem concat (h : disk.MakesFolders folder names disk') (hname : IsEntryName name)
    (hnone : disk'.find? (folder ++ names ++ [name]) = none) :
    disk.MakesFolders folder (names ++ [name])
      (disk'.put (folder ++ names ++ [name]) .folder) := by
  have hne : folder ++ names ++ [name] ≠ [] :=
    List.append_ne_nil_of_right_ne_nil _ (List.cons_ne_nil _ _)
  refine ⟨h.isTree.put hname h.find?_eq_folder fun _ => rfl,
    h.keeps.trans (keepsFolders_put hne fun _ => rfl), ?_, fun place => ?_⟩
  · rw [← List.append_assoc, find?_put hne, if_pos rfl]
  · rw [find?_put hne]
    split
    next heq =>
      subst heq
      have hold : disk.find? (folder ++ names ++ [name]) = none :=
        (h.find?_cases _).elim (fun hsame => hsame ▸ hnone) (·.1)
      exact Or.inr ⟨hold, rfl, names ++ [name], List.prefix_rfl, List.append_assoc ..⟩
    next =>
      refine (h.find?_cases place).imp_right ?_
      rintro ⟨hold, hnew, ns, hns, hplace⟩
      exact ⟨hold, hnew, ns, hns.trans (List.prefix_append ..), hplace⟩

/-- What is inside the last folder stays as it is. -/
theorem find?_concat (h : disk.MakesFolders folder names disk') (name : String) :
    disk'.find? (folder ++ names ++ [name]) = disk.find? (folder ++ names ++ [name]) := by
  rcases h.find?_cases (folder ++ names ++ [name]) with hsame | ⟨-, -, ns, hns, heq⟩
  · exact hsame
  · rw [List.append_assoc, List.append_cancel_left_eq] at heq
    have hlength := hns.length_le
    rw [← heq, List.length_append, List.length_singleton] at hlength
    omega

/-- Files stay as they are. -/
theorem find?_eq_file_iff (h : disk.MakesFolders folder names disk') {place : Place} :
    disk'.find? place = some (.file content) ↔ disk.find? place = some (.file content) := by
  rcases h.find?_cases place with hsame | ⟨hold, hnew, -⟩
  · rw [hsame]
  · rw [hold, hnew]
    exact iff_of_false nofun nofun

end MakesFolders

theorem run_attempt (operation : Disk → Except OsError Disk) (disk : Disk) :
    (attempt operation).run disk =
      match operation disk with
      | .ok disk' => pure (.ok (), disk')
      | .error e => pure (.error e, disk) :=
  rfl

theorem run_ensureDir (disk : Disk) (path : String) :
    (fileSystem.ensureDir path).run disk =
      match disk.makeDir path with
      | .ok disk' => pure (.ok (), disk')
      | .error e => if disk.isDir path then pure (.ok (), disk) else pure (.error e, disk) := by
  cases hmake : disk.makeDir path with
  | ok disk' =>
    simp only [FileSystem.ensureDir, fileSystem, StateT.run_bind, run_attempt, hmake, pure_bind]
    rfl
  | error e =>
    simp only [FileSystem.ensureDir, fileSystem, StateT.run_bind, run_attempt, hmake, pure_bind]
    cases hdir : disk.isDir path <;> simp [hdir]

theorem run_ensureDir_of_isDir (h : disk.isDir path = true) :
    (fileSystem.ensureDir path).run disk = pure (.ok (), disk) := by
  rw [run_ensureDir]
  cases hmake : disk.makeDir path with
  | ok disk' =>
    rw [(makeDir_spec hmake).1] at h
    contradiction
  | error e => exact if_pos h

theorem run_makeDirsWithin_succ (disk : Disk) (fuel : Nat) (hpath : path ≠ "") :
    (fileSystem.makeDirsWithin (fuel + 1) path).run disk =
      ((fileSystem.ensureDir path).run disk >>= fun p =>
        match p.1 with
        | .error .noEntry =>
          match Path.parent? path with
          | none => pure (.error .noEntry, p.2)
          | some parent =>
            (fileSystem.makeDirsWithin fuel parent).run p.2 >>= fun q =>
              match q.1 with
              | .error e => pure (.error e, q.2)
              | .ok () => (fileSystem.ensureDir path).run q.2
        | result => pure (result, p.2)) := by
  have hempty : ¬ path.isEmpty = true := by rwa [String.isEmpty_iff]
  rw [FileSystem.makeDirsWithin, if_neg hempty, StateT.run_bind]
  refine bind_congr fun p => ?_
  obtain ⟨result, disk'⟩ := p
  cases result with
  | ok => rfl
  | error e =>
    cases e with
    | noEntry =>
      dsimp only
      cases Path.parent? path with
      | none => rfl
      | some parent =>
        dsimp only
        rw [StateT.run_bind]
        refine bind_congr fun q => ?_
        obtain ⟨result, disk''⟩ := q
        cases result <;> rfl
    | _ => rfl

namespace Leads

theorem run_ensureDir_of_folder (h : disk.Leads path folder (names ++ [name]))
    (htree : disk.IsTree) (hname : IsEntryName name)
    (hfolder : disk.find? (folder ++ names) = some .folder)
    (hnone : disk.find? (folder ++ names ++ [name]) = none) :
    (fileSystem.ensureDir path).run disk =
      pure (.ok (), disk.put (folder ++ names ++ [name]) .folder) := by
  rw [run_ensureDir, h.makeDir_of_folder htree hname hfolder hnone]

/-- A folder is not made as long as the one above it is missing. -/
theorem run_ensureDir_of_eq_none (h : disk.Leads path folder (names ++ [name]))
    (htree : disk.IsTree) (hnames : ∀ n ∈ names ++ [name], IsEntryName n)
    (hfree : ∀ ns, ns <+: names → ∀ content, disk.find? (folder ++ ns) ≠ some (.file content))
    (hfolder : disk.find? (folder ++ names) = none)
    (hnone : disk.find? (folder ++ names ++ [name]) = none) :
    (fileSystem.ensureDir path).run disk = pure (.error .noEntry, disk) := by
  have hdir : ¬ disk.isDir path = true := by
    rw [h.isDir_iff htree hnames, ← List.append_assoc, hnone]
    exact nofun
  rw [run_ensureDir, h.makeDir_of_eq_none hnames hfree hfolder]
  exact if_neg hdir

/-- **The folders on the way to a certain one are made**, if no file is in the way. -/
theorem run_makeDirsWithin (h : disk.Leads path folder names) (htree : disk.IsTree)
    (hnames : ∀ n ∈ names, IsEntryName n)
    (hfree : ∀ ns, ns <+: names → ∀ content, disk.find? (folder ++ ns) ≠ some (.file content))
    {fuel : Nat} (hfuel : names.length < fuel) :
    ∃ disk', (fileSystem.makeDirsWithin fuel path).run disk = pure (.ok (), disk') ∧
      disk.MakesFolders folder names disk' := by
  induction fuel generalizing path names with
  | zero => contradiction
  | succ fuel ih =>
    have hpath : path ≠ "" := by
      obtain ⟨-, start, lead, -, hbegin, -⟩ := h
      exact (begin?_eq_ok_iff.1 hbegin).1.2
    rw [run_makeDirsWithin_succ disk fuel hpath]
    cases hfind : disk.find? (folder ++ names) with
    | some entry =>
      cases entry with
      | file content => exact absurd hfind (hfree names List.prefix_rfl content)
      | folder =>
        rw [run_ensureDir_of_isDir ((h.isDir_iff htree hnames).2 hfind), pure_bind]
        exact ⟨disk, rfl, .refl htree hfind⟩
    | none =>
      rcases List.eq_nil_or_concat names with rfl | ⟨outer, name, rfl⟩
      · rw [List.append_nil, h.1] at hfind
        contradiction
      rw [List.concat_eq_append] at *
      rw [← List.append_assoc] at hfind
      have hname := hnames name (List.mem_append_right _ List.mem_cons_self)
      have houterfree : ∀ ns, ns <+: outer →
          ∀ content, disk.find? (folder ++ ns) ≠ some (.file content) :=
        fun ns hns => hfree ns (hns.trans (List.prefix_append ..))
      cases houter : disk.find? (folder ++ outer) with
      | some entry =>
        cases entry with
        | file content => exact absurd houter (houterfree outer List.prefix_rfl content)
        | folder =>
          rw [h.run_ensureDir_of_folder htree hname houter hfind, pure_bind]
          exact ⟨_, rfl, (MakesFolders.refl htree houter).concat hname hfind⟩
      | none =>
        obtain ⟨parent, hparent, hleads⟩ := h.parent fun n hn => (hnames n hn).1
        rw [List.length_append, List.length_singleton] at hfuel
        obtain ⟨disk', hrun, hmakes⟩ := ih hleads
          (fun n hn => hnames n (List.mem_append_left _ hn)) houterfree
          (Nat.lt_of_succ_lt_succ hfuel)
        have hnone : disk'.find? (folder ++ outer ++ [name]) = none := by
          rw [hmakes.find?_concat, hfind]
        rw [h.run_ensureDir_of_eq_none htree hnames houterfree houter hfind]
        simp only [pure_bind, hparent, hrun]
        rw [(h.mono hmakes.keeps).run_ensureDir_of_folder hmakes.isTree hname
          hmakes.find?_eq_folder hnone]
        exact ⟨_, rfl, hmakes.concat hname hnone⟩

theorem run_makeDirs (h : disk.Leads path folder names) (htree : disk.IsTree)
    (hnames : ∀ n ∈ names, IsEntryName n)
    (hfree : ∀ ns, ns <+: names → ∀ content, disk.find? (folder ++ ns) ≠ some (.file content)) :
    ∃ disk', (fileSystem.makeDirs path).run disk = pure (.ok (), disk') ∧
      disk.MakesFolders folder names disk' := by
  refine h.run_makeDirsWithin htree hnames hfree ?_
  obtain ⟨-, start, lead, hlead, hbegin, -⟩ := h
  have hlength := Path.length_pieces_le path
  have hpos := List.length_pos_iff.2 hlead
  rw [(begin?_eq_ok_iff.1 hbegin).2.2, List.length_append] at hlength
  omega

/-! ### Writing files -/

/-- **A file with a plain path is written**, if the path is short enough, no file is in the way and
no folder has its place.  The folders above it are made first. -/
theorem run_write (h : disk.Leads path folder []) (htree : disk.IsTree) {inner : String}
    (hplain : Path.IsPlain inner) (hnul : '\x00' ∉ inner.toList)
    (hnames : ∀ n ∈ Path.pieces inner, n.utf8ByteSize ≤ maxName)
    (hsize : (Path.join path inner).utf8ByteSize ≤ maxPath)
    (hfree : ∀ ns, ns <+: Path.pieces inner → ns ≠ Path.pieces inner →
      ∀ content, disk.find? (folder ++ ns) ≠ some (.file content))
    (hfile : disk.find? (folder ++ Path.pieces inner) ≠ some .folder) (content : ByteArray) :
    ∃ disk' outer name, Path.pieces inner = outer ++ [name] ∧ IsEntryName name ∧
      disk.MakesFolders folder outer disk' ∧
      ((Storage.folder fileSystem path).write inner content).run disk =
        pure (.ok (), disk'.put (folder ++ outer ++ [name]) (.file content)) := by
  have hleads := h.join hplain hnul hsize
  have hentries : ∀ n ∈ Path.pieces inner, IsEntryName n := fun n hn =>
    ⟨hplain n hn, Path.slash_notMem_of_mem_pieces hn, hnames n hn⟩
  obtain ⟨outer, name, houter⟩ :=
    (List.eq_nil_or_concat (Path.pieces inner)).resolve_left (Path.pieces_ne_nil inner)
  rw [List.concat_eq_append] at houter
  rw [houter] at hleads hentries hfree hfile
  rw [← List.append_assoc] at hfile
  have hname := hentries name (List.mem_append_right _ List.mem_cons_self)
  obtain ⟨parent, hparent, hup⟩ := hleads.parent fun n hn => (hentries n hn).1
  obtain ⟨disk', hrun, hmakes⟩ := hup.run_makeDirs htree
    (fun n hn => hentries n (List.mem_append_left _ hn)) fun ns hns content => by
      refine hfree ns (hns.trans (List.prefix_append ..)) ?_ content
      rintro rfl
      have hlength := hns.length_le
      rw [List.length_append, List.length_singleton] at hlength
      omega
  have hwrite := (hleads.mono hmakes.keeps).writeFile_of_folder hmakes.isTree hname
    hmakes.find?_eq_folder (by rwa [hmakes.find?_concat]) content
  refine ⟨disk', outer, name, houter, hname, hmakes, ?_⟩
  have hmake : (Storage.makeParent fileSystem (Path.join path inner)).run disk =
      pure (.ok (), disk') := by
    rw [Storage.makeParent, hparent]
    simp only [StateT.run_bind, hrun, pure_bind]
    rfl
  simp only [Storage.folder, StateT.run_bind, hmake, pure_bind]
  simp only [fileSystem, run_attempt, hwrite, pure_bind]
  rfl

end Leads

/-! ### Whatever is written -/

section Keeps

variable {I : Disk → Prop}

theorem keeps_attempt {operation : Disk → Except OsError Disk}
    (h : ∀ disk disk', I disk → operation disk = .ok disk' → I disk') :
    Keeps I (attempt operation) := by
  intro disk hdisk
  rw [run_attempt]
  cases hrun : operation disk with
  | error e => exact hdisk
  | ok disk' => exact h disk disk' hdisk hrun

theorem keeps_ensureDir (h : Keeps I (fileSystem.makeDir path)) :
    Keeps I (fileSystem.ensureDir path) := by
  refine h.bind fun result => ?_
  cases result with
  | ok => exact Keeps.pure _
  | error e =>
    refine Keeps.bind (fun _ h => h) fun found => ?_
    cases found <;> exact Keeps.pure _

/-- **What stays when single folders are made** also stays when a folder is made with all folders
above it.  Only the parents of missing folders are ever made. -/
theorem keeps_makeDirsWithin {P : String → Prop}
    (hmake : ∀ path, P path → Keeps I (fileSystem.makeDir path))
    (hparent : ∀ path disk, P path → I disk →
      ((fileSystem.ensureDir path).run disk).1 = .error .noEntry →
        ∀ parent, Path.parent? path = some parent → P parent)
    (fuel : Nat) (hpath : P path) : Keeps I (fileSystem.makeDirsWithin fuel path) := by
  induction fuel generalizing path with
  | zero => exact Keeps.pure _
  | succ fuel ih =>
    have hensure := keeps_ensureDir (hmake path hpath)
    rw [FileSystem.makeDirsWithin]
    split
    · exact Keeps.pure _
    · refine hensure.bind_of (P := fun result => result = .error .noEntry →
        ∀ parent, Path.parent? path = some parent → P parent)
        (fun disk hdisk => hparent path disk hpath hdisk) fun result hup => ?_
      split
      · split
        · exact Keeps.pure _
        next parent heq =>
          refine (ih (hup rfl parent heq)).bind fun made => ?_
          cases made with
          | error e => exact Keeps.pure _
          | ok => exact hensure
      · exact Keeps.pure _

/-- What stays when the folders above a file are made and the file is written. -/
theorem keeps_write {inner : String}
    (hmake : ∀ parent, Path.parent? (Path.join path inner) = some parent →
      Keeps I (fileSystem.makeDirs parent))
    (hwrite : Keeps I (fileSystem.writeFile (Path.join path inner) content)) :
    Keeps I ((Storage.folder fileSystem path).write inner content) := by
  refine Keeps.bind ?_ fun made => ?_
  · rw [Storage.makeParent]
    split
    · exact Keeps.pure _
    next parent heq => exact (hmake parent heq).bind fun _ => Keeps.pure _
  · cases made with
    | error e => exact Keeps.pure _
    | ok => exact hwrite.bind fun _ => Keeps.pure _

end Keeps

/-- Folders of a disk are still there, and the disk is a tree. -/
def IsGrown (disk disk' : Disk) : Prop :=
  disk'.IsTree ∧ disk.KeepsFolders disk'

theorem IsGrown.put {entry : Entry} (h : disk.IsGrown disk') (hname : IsEntryName name)
    (hfolder : disk'.find? folder = some .folder)
    (hentry : disk'.find? (folder ++ [name]) = some .folder → entry = .folder) :
    disk.IsGrown (disk'.put (folder ++ [name]) entry) :=
  ⟨h.1.put hname hfolder hentry, h.2.trans
    (keepsFolders_put (List.append_ne_nil_of_right_ne_nil _ (List.cons_ne_nil _ _)) hentry)⟩

/-- **Whatever is written to a folder**, a tree stays a tree, and no folder goes away. -/
theorem keeps_isGrown_write (disk : Disk) (path inner : String) (content : ByteArray) :
    Keeps disk.IsGrown ((Storage.folder fileSystem path).write inner content) := by
  have hmake (path : String) : Keeps disk.IsGrown (fileSystem.makeDir path) := by
    refine keeps_attempt fun disk' disk'' h hmake => ?_
    obtain ⟨-, folder, name, -, rfl, hname, hfolder, -⟩ := makeDir_spec hmake
    exact h.put hname hfolder fun _ => rfl
  refine keeps_write (fun parent _ => ?_) (keeps_attempt fun disk' disk'' h hwrite => ?_)
  · exact keeps_makeDirsWithin (P := fun _ => True) (fun path _ => hmake path)
      (fun _ _ _ _ _ _ _ => trivial) _ trivial
  · obtain ⟨-, folder, name, -, rfl, hname, hfolder, hfile⟩ := writeFile_spec hwrite
    exact h.put hname hfolder fun hfind => absurd hfind hfile

/-- A file that is written to a folder has a short path. -/
theorem gives_write (path inner : String) (content : ByteArray) :
    Gives (fun result => result = .ok () → IsShort (Path.join path inner))
      ((Storage.folder fileSystem path).write inner content) := by
  refine (Gives.trivial _).bind fun made _ => ?_
  cases made with
  | error e => exact Gives.pure nofun
  | ok =>
    have hwrite : Gives (fun result => result = .ok () → IsShort (Path.join path inner))
        (fileSystem.writeFile (Path.join path inner) content) := by
      intro disk hok
      change ((attempt fun disk => disk.writeFile _ content).run disk).1 = .ok () at hok
      rw [run_attempt] at hok
      cases hrun : disk.writeFile (Path.join path inner) content with
      | error e => rw [hrun] at hok; exact nomatch hok
      | ok disk' => exact (writeFile_spec hrun).1
    refine hwrite.bind fun result h => Gives.pure fun hok => h ?_
    cases result with
    | error e => exact nomatch hok
    | ok => rfl

end Matchday.Disk
