import Matchday.Storage.Disk
import Matchday.Proofs.Effect
import Matchday.Proofs.Storage.Path
import Mathlib.Data.List.Nodup

/-!
# Disks as trees

On a disk that is a tree every entry stands in a folder.  A path leads to the same place as long as
no folder goes away.

## Main definitions

* `Disk.IsTree`: every entry has a proper name and stands in a folder.
* `Disk.KeepsFolders`: no folder goes away from one disk to another.
* `Disk.Leads`: a path leads to names below a folder, whether or not they exist.
* `Disk.out`: a disk with nothing but an empty folder.

## Main results

* `Disk.IsTree.put`: a tree with one more entry in a folder.
* `Disk.Leads.join`, `Disk.Leads.parent`: joined paths, and parents, of paths that lead somewhere.
* `Disk.Leads.resolveLast_eq`: what is found at the end of such a path.
-/

namespace Matchday.Disk

variable {disk disk' : Disk} {place folder : Place} {entry : Entry}

/-! ### Entries -/

@[simp] theorem find?_nil (disk : Disk) : disk.find? [] = some .folder := rfl

theorem find?_of_ne_nil (disk : Disk) (h : place ≠ []) :
    disk.find? place = lookup place disk.entries :=
  if_neg h

theorem lookup_replace (place place' : Place) (entry : Entry) (entries : List (Place × Entry)) :
    lookup place' (replace place entry entries) =
      if place = place' then some entry else lookup place' entries := by
  induction entries with
  | nil => rfl
  | cons e entries ih =>
    obtain ⟨p, e⟩ := e
    rw [replace]
    split
    next hp =>
      rw [lookup, lookup, hp]
      split <;> rfl
    next hp =>
      rw [lookup, lookup, ih]
      by_cases hp' : p = place'
      · subst hp'
        rw [if_pos rfl, if_pos rfl, if_neg (Ne.symm hp)]
      · rw [if_neg hp', if_neg hp']

/-- **What a disk holds after an entry is put on it.** -/
theorem find?_put (hplace : place ≠ []) (place' : Place) :
    (disk.put place entry).find? place' =
      if place = place' then some entry else disk.find? place' := by
  by_cases h : place' = []
  · rw [h, find?_nil, find?_nil, if_neg hplace]
  · rw [find?_of_ne_nil _ h, find?_of_ne_nil _ h, put, lookup_replace]

/-- The folders of one disk are also on the other, which has the same current folder. -/
structure KeepsFolders (disk disk' : Disk) : Prop where
  current_eq : disk'.current = disk.current
  find?_eq : ∀ place, disk.find? place = some .folder → disk'.find? place = some .folder

theorem KeepsFolders.refl (disk : Disk) : disk.KeepsFolders disk :=
  ⟨rfl, fun _ => id⟩

theorem KeepsFolders.trans {disk'' : Disk} (h : disk.KeepsFolders disk')
    (h' : disk'.KeepsFolders disk'') : disk.KeepsFolders disk'' :=
  ⟨h'.current_eq.trans h.current_eq,
    fun place hplace => h'.find?_eq place (h.find?_eq place hplace)⟩

/-- Only a file that takes the place of a folder makes it go away. -/
theorem keepsFolders_put (hplace : place ≠ [])
    (hentry : disk.find? place = some .folder → entry = .folder) :
    disk.KeepsFolders (disk.put place entry) := by
  refine ⟨rfl, fun place' hfolder => ?_⟩
  rw [find?_put hplace]
  split
  next heq => rw [hentry (heq ▸ hfolder)]
  next => exact hfolder

theorem map_fst_replace (place : Place) (entry : Entry) (entries : List (Place × Entry)) :
    (replace place entry entries).map Prod.fst =
      if place ∈ entries.map Prod.fst then entries.map Prod.fst
      else entries.map Prod.fst ++ [place] := by
  induction entries with
  | nil => rfl
  | cons e entries ih =>
    obtain ⟨p, e⟩ := e
    rw [replace]
    split
    next hp => simp [hp]
    next hp =>
      rw [List.map_cons, List.map_cons, ih]
      by_cases hmem : place ∈ entries.map Prod.fst <;> simp [hmem, Ne.symm hp]

theorem lookup_eq_some_iff {entries : List (Place × Entry)}
    (h : (entries.map Prod.fst).Nodup) :
    lookup place entries = some entry ↔ (place, entry) ∈ entries := by
  induction entries with
  | nil => simp [lookup]
  | cons e entries ih =>
    obtain ⟨p, e⟩ := e
    rw [List.map_cons, List.nodup_cons] at h
    rw [lookup, List.mem_cons, Prod.mk.injEq]
    split
    next hp =>
      subst hp
      have hnotMem : (p, entry) ∉ entries := fun hmem =>
        h.1 (List.mem_map.2 ⟨_, hmem, rfl⟩)
      simp [hnotMem, eq_comm]
    next hp => rw [ih h.2, or_iff_right fun h => hp h.1.symm]

/-! ### Trees -/

/-- A name that an entry may have. -/
def IsEntryName (name : String) : Prop :=
  Path.IsName name ∧ '/' ∉ name.toList ∧ name.utf8ByteSize ≤ maxName

instance (name : String) : Decidable (IsEntryName name) :=
  inferInstanceAs (Decidable (_ ∧ _ ∧ _))

/-- No place has two entries, and every entry has a proper name and stands in a folder. -/
structure IsTree (disk : Disk) : Prop where
  nodup : (disk.entries.map Prod.fst).Nodup
  stands : ∀ e ∈ disk.entries, ∃ folder name, e.1 = folder ++ [name] ∧ IsEntryName name ∧
    disk.find? folder = some .folder

namespace IsTree

theorem mem_entries_iff (h : disk.IsTree) :
    (place, entry) ∈ disk.entries ↔ place ≠ [] ∧ disk.find? place = some entry := by
  constructor
  · intro hmem
    obtain ⟨folder, name, hplace, -⟩ := h.stands _ hmem
    have hne : place ≠ [] :=
      hplace.trans_ne (List.append_ne_nil_of_right_ne_nil _ (List.cons_ne_nil _ _))
    rw [find?_of_ne_nil _ hne, lookup_eq_some_iff h.nodup]
    exact ⟨hne, hmem⟩
  · rintro ⟨hne, hfind⟩
    rwa [find?_of_ne_nil _ hne, lookup_eq_some_iff h.nodup] at hfind

theorem of_find?_concat (h : disk.IsTree) {name : String}
    (hfind : disk.find? (folder ++ [name]) = some entry) :
    IsEntryName name ∧ disk.find? folder = some .folder := by
  have hne : folder ++ [name] ≠ [] :=
    List.append_ne_nil_of_right_ne_nil _ (List.cons_ne_nil _ _)
  obtain ⟨folder', name', heq, hname, hfolder⟩ := h.stands _ (h.mem_entries_iff.2 ⟨hne, hfind⟩)
  obtain ⟨rfl, hnames⟩ := List.append_inj' heq rfl
  obtain rfl := List.head_eq_of_cons_eq hnames
  exact ⟨hname, hfolder⟩

/-- Everything above an entry is a folder. -/
theorem find?_eq_folder (h : disk.IsTree) {rest : List String} (hrest : rest ≠ [])
    (hfind : disk.find? (place ++ rest) = some entry) : disk.find? place = some .folder := by
  induction rest using List.reverseRecOn generalizing entry with
  | nil => contradiction
  | append_singleton rest name ih =>
    rw [← List.append_assoc] at hfind
    have hfolder := (h.of_find?_concat hfind).2
    by_cases hnil : rest = []
    · rwa [hnil, List.append_nil] at hfolder
    · exact ih hnil hfolder

theorem isEntryName_of_mem (h : disk.IsTree) (hfind : disk.find? place = some entry) :
    ∀ name ∈ place, IsEntryName name := by
  induction place using List.reverseRecOn generalizing entry with
  | nil => exact fun _ hmem => absurd hmem List.not_mem_nil
  | append_singleton place name ih =>
    obtain ⟨hname, hfolder⟩ := h.of_find?_concat hfind
    rw [List.forall_mem_append, List.forall_mem_singleton]
    exact ⟨ih hfolder, hname⟩

/-- **One more entry in a folder keeps a tree**, unless a file takes the place of a folder. -/
theorem put (h : disk.IsTree) {name : String} (hname : IsEntryName name)
    (hfolder : disk.find? folder = some .folder)
    (hentry : disk.find? (folder ++ [name]) = some .folder → entry = .folder) :
    (disk.put (folder ++ [name]) entry).IsTree := by
  have hkeep : disk.KeepsFolders (disk.put (folder ++ [name]) entry) :=
    keepsFolders_put (List.append_ne_nil_of_right_ne_nil _ (List.cons_ne_nil _ _)) hentry
  refine ⟨?_, ?_⟩
  · change ((replace _ _ _).map Prod.fst).Nodup
    rw [map_fst_replace]
    split
    next => exact h.nodup
    next hnotMem =>
      refine List.Nodup.append h.nodup (List.nodup_singleton _) ?_
      rwa [List.disjoint_singleton]
  · intro e he
    have hmem : e.1 ∈ (replace (folder ++ [name]) entry disk.entries).map Prod.fst :=
      List.mem_map_of_mem he
    rw [map_fst_replace] at hmem
    have hplace : e.1 = folder ++ [name] ∨ e.1 ∈ disk.entries.map Prod.fst := by
      split at hmem
      · exact Or.inr hmem
      · exact (List.mem_append.1 hmem).symm.imp_left List.mem_singleton.1
    rcases hplace with heq | hold
    · exact ⟨folder, name, heq, hname, hkeep.find?_eq _ hfolder⟩
    · obtain ⟨old, hold, heq⟩ := List.mem_map.1 hold
      obtain ⟨folder', name', hplace, hname', hfolder'⟩ := h.stands old hold
      exact ⟨folder', name', heq ▸ hplace, hname', hkeep.find?_eq _ hfolder'⟩

end IsTree

/-! ### Following pieces -/

section Follow

variable {here : Place} {ps : List String}

theorem follow_cons_of_folder (h : disk.find? here = some .folder) (p : String) :
    disk.follow here (p :: ps) =
      if Path.isIdle p then disk.follow here ps
      else if p = ".." then disk.follow here.dropLast ps
      else if maxName < p.utf8ByteSize then .error .nameTooLong
      else disk.follow (here ++ [p]) ps := by
  rw [follow, h]

theorem find?_of_follow_cons {p : String} (h : disk.follow here (p :: ps) = .ok place) :
    disk.find? here = some .folder := by
  rw [follow] at h
  cases hfind : disk.find? here with
  | none => simp [hfind] at h
  | some e =>
    cases e with
    | folder => rfl
    | file content => simp [hfind] at h

/-- What leads to a folder begins in one. -/
theorem find?_of_follow (h : disk.follow here ps = .ok place)
    (hplace : disk.find? place = some .folder) : disk.find? here = some .folder := by
  cases ps with
  | nil =>
    obtain rfl := Except.ok.inj h
    exact hplace
  | cons p ps => exact find?_of_follow_cons h

theorem follow_blank_eq_ok_iff :
    disk.follow here [""] = .ok place ↔ here = place ∧ disk.find? here = some .folder := by
  constructor
  · intro h
    have hhere := find?_of_follow_cons h
    rw [follow_cons_of_folder hhere] at h
    exact ⟨Except.ok.inj h, hhere⟩
  · rintro ⟨rfl, hhere⟩
    rw [follow_cons_of_folder hhere]
    rfl

theorem follow_append (ps qs : List String) :
    disk.follow here (ps ++ qs) =
      (disk.follow here ps >>= fun place => disk.follow place qs) := by
  induction ps generalizing here with
  | nil => rfl
  | cons p ps ih =>
    rw [List.cons_append, follow, follow]
    split
    · rfl
    · rfl
    · split
      · exact ih
      split
      · exact ih
      split
      · rfl
      · exact ih

theorem follow_cons_imp {p : String} {qs : List String}
    (hkeeps : disk.KeepsFolders disk')
    (htail : ∀ here, disk.follow here ps = .ok place → disk'.follow here qs = .ok place)
    (h : disk.follow here (p :: ps) = .ok place) : disk'.follow here (p :: qs) = .ok place := by
  have hhere := find?_of_follow_cons h
  rw [follow_cons_of_folder hhere] at h
  rw [follow_cons_of_folder (hkeeps.find?_eq _ hhere)]
  split at h
  next hidle => rw [if_pos hidle]; exact htail _ h
  next hidle =>
    rw [if_neg hidle]
    split at h
    next hup => rw [if_pos hup]; exact htail _ h
    next hup =>
      rw [if_neg hup]
      split at h
      next => contradiction
      next hlong => rw [if_neg hlong]; exact htail _ h

/-- **As long as no folder goes away**, pieces lead to the same place. -/
theorem follow_mono (hkeeps : disk.KeepsFolders disk') (h : disk.follow here ps = .ok place) :
    disk'.follow here ps = .ok place := by
  induction ps generalizing here with
  | nil => exact h
  | cons p ps ih => exact follow_cons_imp hkeeps (fun _ => ih) h

/-- Pieces that lead nowhere do not matter on the way to a folder. -/
theorem follow_eq_ok_iff_steps (hplace : disk.find? place = some .folder) :
    disk.follow here ps = .ok place ↔ disk.follow here (Path.steps ps) = .ok place := by
  induction ps generalizing here with
  | nil => rfl
  | cons p ps ih =>
    cases hp : Path.isIdle p with
    | true =>
      have hsteps : Path.steps (p :: ps) = Path.steps ps :=
        List.filter_cons_of_neg (by rw [hp]; exact Bool.false_ne_true)
      rw [hsteps, ← ih]
      constructor
      · intro h
        rwa [follow_cons_of_folder (find?_of_follow_cons h), if_pos hp] at h
      · intro h
        rwa [follow_cons_of_folder (find?_of_follow h hplace), if_pos hp]
    | false =>
      have hsteps : Path.steps (p :: ps) = p :: Path.steps ps :=
        List.filter_cons_of_pos (by rw [hp]; rfl)
      rw [hsteps]
      exact ⟨follow_cons_imp (.refl disk) fun _ => ih.1,
        follow_cons_imp (.refl disk) fun _ => ih.2⟩

theorem follow_cons_of_isEntryName (hhere : disk.find? here = some .folder) {name : String}
    (hname : IsEntryName name) :
    disk.follow here (name :: ps) = disk.follow (here ++ [name]) ps := by
  have hidle : ¬ Path.isIdle name = true := by
    rw [hname.1.isIdle_eq]
    exact Bool.false_ne_true
  rw [follow_cons_of_folder hhere, if_neg hidle, if_neg hname.1.2.2,
    if_neg (Nat.not_lt.2 hname.2.2)]

variable {names : List String}

/-- Names lead straight down. -/
theorem eq_append_of_follow (hnames : ∀ name ∈ names, Path.IsName name)
    (h : disk.follow here names = .ok place) : place = here ++ names := by
  induction names generalizing here with
  | nil => rw [List.append_nil, Except.ok.inj h]
  | cons name names ih =>
    rw [List.forall_mem_cons] at hnames
    have hidle : ¬ Path.isIdle name = true := by
      rw [hnames.1.isIdle_eq]
      exact Bool.false_ne_true
    rw [follow_cons_of_folder (find?_of_follow_cons h), if_neg hidle, if_neg hnames.1.2.2] at h
    split at h
    next => contradiction
    next => rw [List.append_cons, ih hnames.2 h]

/-- Names lead into a folder that exists. -/
theorem IsTree.follow_names (h : disk.IsTree)
    (hfolder : disk.find? (here ++ names) = some .folder) :
    disk.follow here (names ++ [""]) = .ok (here ++ names) := by
  induction names generalizing here with
  | nil =>
    rw [List.append_nil] at hfolder ⊢
    exact follow_blank_eq_ok_iff.2 ⟨rfl, hfolder⟩
  | cons name names ih =>
    have hname := h.isEntryName_of_mem hfolder name (by simp)
    have hhere := h.find?_eq_folder (List.cons_ne_nil _ _) hfolder
    rw [List.append_cons here name names] at hfolder ⊢
    rw [List.cons_append, follow_cons_of_isEntryName hhere hname, ih hfolder]

/-- Names that lead to nothing are reported as such, if no file is in the way. -/
theorem follow_names_of_eq_none (hnames : ∀ name ∈ names, IsEntryName name)
    (hfree : ∀ ns, ns <+: names → ∀ content, disk.find? (here ++ ns) ≠ some (.file content))
    (hnone : disk.find? (here ++ names) = none) :
    disk.follow here (names ++ [""]) = .error .noEntry := by
  induction names generalizing here with
  | nil =>
    rw [List.append_nil] at hnone
    rw [List.nil_append, follow, hnone]
  | cons name names ih =>
    rw [List.cons_append]
    cases hhere : disk.find? here with
    | none => rw [follow, hhere]
    | some entry =>
      cases entry with
      | file content =>
        exact absurd (by rwa [List.append_nil]) (hfree [] List.nil_prefix content)
      | folder =>
        rw [follow_cons_of_isEntryName hhere (hnames name List.mem_cons_self)]
        refine ih (fun n hn => hnames n (List.mem_cons_of_mem _ hn)) ?_ ?_
        · intro ns hns content
          rw [← List.append_cons]
          exact hfree (name :: ns) ((List.prefix_cons_inj name).2 hns) content
        · rwa [← List.append_cons]

end Follow

/-! ### Paths that lead to names below a folder -/

/-- A path that may be followed, unless it is empty. -/
def IsShort (path : String) : Prop :=
  '\x00' ∉ path.toList ∧ path.utf8ByteSize ≤ maxPath

theorem begin?_eq_ok_iff {path : String} {start : Place} {ps : List String} :
    disk.begin? path = .ok (start, ps) ↔ (IsShort path ∧ path ≠ "") ∧
      (if Path.isAbsolute path then [] else disk.current) = start ∧ Path.pieces path = ps := by
  rw [begin?, IsShort, String.contains_char_eq, ← Nat.not_lt, Ne, ← String.isEmpty_iff]
  split
  next h => exact iff_of_false nofun fun h' => h'.1.1.1 (by simpa using h)
  next h =>
    split
    next h' => exact iff_of_false nofun fun h'' => h''.1.1.2 h'
    next h' =>
      split
      next h'' => exact iff_of_false nofun fun hpath => hpath.1.2 h''
      next h'' =>
        rw [Except.ok.injEq, Prod.mk.injEq]
        exact (and_iff_right ⟨⟨by simpa using h, h'⟩, h''⟩).symm

/-- A beginning of a path that may be followed may be followed too. -/
theorem begin?_of_isPrefix {path path' : String} {start : Place} {ps : List String}
    (h : disk.begin? path = .ok (start, ps)) (hfront : path'.toList <+: path.toList)
    (hne : path' ≠ "") : disk.begin? path' = .ok (start, Path.pieces path') := by
  obtain ⟨⟨⟨hnul, hsize⟩, -⟩, hstart, -⟩ := begin?_eq_ok_iff.1 h
  refine begin?_eq_ok_iff.2 ⟨⟨⟨fun hmem => hnul (hfront.subset hmem), ?_⟩, hne⟩, ?_, rfl⟩
  · obtain ⟨cs, hcs⟩ := hfront
    have happend : path = path' ++ String.ofList cs := by
      rw [← String.toList_inj, String.toList_append, String.toList_ofList, hcs]
    rw [happend, String.utf8ByteSize_append] at hsize
    omega
  · rw [Path.isAbsolute_of_isPrefix hfront hne, hstart]

theorem resolve_eq_ok_iff {path : String} :
    disk.resolve path = .ok (place, entry) ↔ ∃ start ps, disk.begin? path = .ok (start, ps) ∧
      disk.follow start ps = .ok place ∧ disk.find? place = some entry := by
  constructor
  · intro h
    obtain ⟨⟨start, ps⟩, hbegin, h⟩ := bind_eq_ok_iff.1 h
    obtain ⟨place', hfollow, h⟩ := bind_eq_ok_iff.1 h
    split at h
    next entry' hfind =>
      obtain ⟨rfl, rfl⟩ := Prod.mk.inj (Except.ok.inj h)
      exact ⟨start, ps, hbegin, hfollow, hfind⟩
    next => contradiction
  · rintro ⟨start, ps, hbegin, hfollow, hfind⟩
    refine bind_eq_ok_iff.2 ⟨_, hbegin, bind_eq_ok_iff.2 ⟨_, hfollow, ?_⟩⟩
    rw [hfind]
    rfl

theorem isDir_eq_true_iff {path : String} :
    disk.isDir path = true ↔ ∃ place, disk.resolve path = .ok (place, .folder) := by
  rw [isDir]
  split
  next place h => exact iff_of_true rfl ⟨place, h⟩
  next h => exact iff_of_false Bool.false_ne_true fun ⟨place, hplace⟩ => h place hplace

/-- A path that leads to names below a folder, whether or not they exist. -/
def Leads (disk : Disk) (path : String) (folder : Place) (names : List String) : Prop :=
  disk.find? folder = some .folder ∧
    ∃ start lead, lead ≠ [] ∧ disk.begin? path = .ok (start, lead ++ names) ∧
      disk.follow start lead = .ok folder

namespace Leads

variable {path name : String} {names : List String}

theorem of_resolve (h : disk.resolve path = .ok (folder, .folder)) :
    disk.Leads path folder [] := by
  obtain ⟨start, ps, hbegin, hfollow, hfolder⟩ := resolve_eq_ok_iff.1 h
  have hps : ps ≠ [] := by
    rw [← (begin?_eq_ok_iff.1 hbegin).2.2]
    exact Path.pieces_ne_nil path
  exact ⟨hfolder, start, ps, hps, by rw [List.append_nil, hbegin], hfollow⟩

/-- Paths lead to the same names as long as no folder goes away. -/
theorem mono (h : disk.Leads path folder names) (hkeeps : disk.KeepsFolders disk') :
    disk'.Leads path folder names := by
  obtain ⟨hfolder, start, lead, hlead, hbegin, hfollow⟩ := h
  refine ⟨hkeeps.find?_eq _ hfolder, start, lead, hlead, ?_, follow_mono hkeeps hfollow⟩
  rwa [begin?_eq_ok_iff, hkeeps.current_eq, ← begin?_eq_ok_iff]

/-- What extends a path by names leads to these names. -/
theorem of_extends {inner : String} {start : Place} {ps : List String}
    (h : disk.Leads path folder []) (hinner : Path.Extends path inner names)
    (hbegin : disk.begin? inner = .ok (start, ps)) : disk.Leads inner folder names := by
  obtain ⟨hfolder, start', lead, -, hbegin', hfollow⟩ := h
  obtain ⟨-, hstart, hpieces⟩ := begin?_eq_ok_iff.1 hbegin'
  obtain ⟨-, hstart', hpieces'⟩ := begin?_eq_ok_iff.1 hbegin
  rw [List.append_nil] at hpieces
  obtain ⟨lead', hlead', hsteps, hlead⟩ := hinner.pieces_eq
  refine ⟨hfolder, start, lead', hlead', ?_, ?_⟩
  · rw [hbegin, ← hpieces', hlead]
  · rw [hinner.isAbsolute_eq, hstart] at hstart'
    rw [follow_eq_ok_iff_steps hfolder, hsteps, hpieces, ← follow_eq_ok_iff_steps hfolder,
      ← hstart']
    exact hfollow

/-- **A plain path below a folder** leads to its pieces. -/
theorem join {inner : String} (h : disk.Leads path folder []) (hplain : Path.IsPlain inner)
    (hnul : '\x00' ∉ inner.toList) (hsize : (Path.join path inner).utf8ByteSize ≤ maxPath) :
    disk.Leads (Path.join path inner) folder (Path.pieces inner) := by
  obtain ⟨-, start, lead, -, hbegin, -⟩ := id h
  obtain ⟨⟨⟨hnul', -⟩, hne⟩, -⟩ := begin?_eq_ok_iff.1 hbegin
  have hextends := Path.extends_join hne hplain
  refine h.of_extends hextends (begin?_eq_ok_iff.2 ⟨⟨⟨?_, hsize⟩, hextends.ne_empty⟩, rfl, rfl⟩)
  rw [Path.mem_join_iff (by decide) hplain.isAbsolute_eq, not_or]
  exact ⟨hnul', hnul⟩

/-- **The parent of a path that leads to names** leads to all of them but the last. -/
theorem parent (h : disk.Leads path folder (names ++ [name]))
    (hnames : ∀ n ∈ names ++ [name], Path.IsName n) :
    ∃ parent, Path.parent? path = some parent ∧ disk.Leads parent folder names := by
  obtain ⟨hfolder, start, lead, hlead, hbegin, hfollow⟩ := h
  have hpieces := (begin?_eq_ok_iff.1 hbegin).2.2
  obtain ⟨parent, hparent, hne, hfront, lead', hlead', hsteps, hpieces'⟩ :=
    Path.exists_parent?_eq hpieces hlead hnames
  refine ⟨parent, hparent, hfolder, start, lead', hlead', ?_, ?_⟩
  · rw [← hpieces']
    exact begin?_of_isPrefix hbegin hfront hne
  · rw [follow_eq_ok_iff_steps hfolder, hsteps, ← follow_eq_ok_iff_steps hfolder]
    exact hfollow

theorem resolveLast_eq (h : disk.Leads path folder (names ++ [name])) (hname : Path.IsName name) :
    disk.resolveLast path =
      (disk.follow folder (names ++ [""])).map fun folder => (folder, some name) := by
  obtain ⟨-, start, lead, -, hbegin, hfollow⟩ := h
  have hlast : (lead ++ (names ++ [name])).reverse.dropWhile (· == "") =
      name :: (lead ++ names).reverse := by
    rw [← List.append_assoc, List.reverse_append, List.reverse_singleton, List.singleton_append,
      List.dropWhile_cons_of_neg (by simpa using hname.1)]
  have hdots : ¬ (name == "." || name == "..") = true := by simp [hname.2.1, hname.2.2]
  have hlead :
      disk.follow start (lead ++ (names ++ [""])) = disk.follow folder (names ++ [""]) := by
    rw [follow_append, hfollow]
    rfl
  rw [resolveLast, hbegin]
  simp only [bind, Except.bind, hlast, List.reverse_reverse, List.append_assoc, if_neg hdots, hlead]
  cases disk.follow folder (names ++ [""]) <;> rfl

end Leads

/-! ### A disk with one folder -/

/-- A disk with nothing but an empty folder. -/
def out : Disk where
  entries := [(["out"], .folder)]

theorem isTree_out : out.IsTree := by
  refine ⟨by decide, fun e he => ?_⟩
  obtain rfl := List.mem_singleton.1 he
  exact ⟨[], "out", rfl, by decide, rfl⟩

theorem resolve_out : out.resolve "out" = .ok (["out"], .folder) := by
  refine resolve_eq_ok_iff.2 ⟨[], ["out"], begin?_eq_ok_iff.2 ⟨?_, rfl, by decide⟩, rfl, rfl⟩
  exact ⟨⟨by decide, by decide⟩, by decide⟩

theorem find?_out_append {names : List String} (h : names ≠ []) :
    out.find? (["out"] ++ names) = none := by
  have hne : ["out"] ≠ "out" :: names := by simpa using h.symm
  exact if_neg hne

end Matchday.Disk
