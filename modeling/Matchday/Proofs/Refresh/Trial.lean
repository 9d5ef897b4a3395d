import Matchday.Proofs.Config.Valid
import Matchday.Proofs.Refresh.Published
import Matchday.Proofs.Storage.Attempt
import Matchday.Proofs.Storage.Mirror

/-!
# Trial runs

A trial run writes to a memory what another run writes to a folder of a disk.  Both first fetch the
same fixtures, and what they do then is the conclusion of the run, which needs the storage alone.

## Main definitions

* `Storage.aside`: a storage with a state of its own, inside a run with another state.
* `refreshInMemory`, `refreshOnDisk`: a run that writes to a memory, and one that writes to a disk.

## Main results

* `run_refresh_aside`: a run with a storage beside it, from its conclusion.
* `agree_conclude`: two storages that go hand in hand give the same run.
* `refresh_trial_iff`: when a trial run tells what becomes of the folder.
-/

namespace Matchday

variable {m : Type → Type} [Monad m] {σ τ : Type}

/-- A storage with a state of its own, beside other computations. -/
def Storage.aside (storage : Storage (StateM τ)) : Storage (StateT τ m) where
  read path := Matchday.aside (storage.read path)
  write path content := Matchday.aside (storage.write path content)

theorem Memory.storage_eq_aside :
    (Memory.storage : Storage (StateT Memory (StateM σ))) = (Memory.storage (m := Id)).aside :=
  rfl

section Aside

variable [LawfulMonad m] (storage : Storage (StateM τ))

theorem publishSite_aside (output : OutputSettings) (site : Site) :
    publishSite (m := StateT τ m) storage.aside output site =
      aside (publishSite storage output site) := by
  have hpages : writePages (m := StateT τ m) storage.aside output.siteDir site.pages =
      aside (writePages storage output.siteDir site.pages) := by
    rw [writePages, writePages, aside_mapM]
    refine congrArg (site.pages.mapM ·) (funext fun page => ?_)
    rw [writePage, writePage]
    exact (aside_bind ..).symm
  have hmodel (path : String) : writeModel (m := StateT τ m) storage.aside site path =
      aside (writeModel storage site path) :=
    (aside_bind ..).symm
  rw [publishSite, publishSite, aside_bind, hpages]
  refine bind_congr fun pages => ?_
  cases output.modelFile with
  | none => rfl
  | some path =>
    dsimp only
    rw [hmodel, aside_bind]
    rfl

theorem Plan.carryOut_aside (output : OutputSettings) (plan : Plan) :
    plan.carryOut (m := StateT τ m) storage.aside output =
      aside (plan.carryOut storage output) := by
  cases plan with
  | publish site => exact publishSite_aside storage output site
  | belowThreshold => rfl
  | reject site diagnostics => rfl

theorem conclude_aside (rules : RuleSet) (config : Config) (fetched : List FetchedCountry) :
    conclude (m := StateT τ m) rules storage.aside config fetched =
      aside (conclude rules storage config fetched) := by
  rw [conclude_eq, conclude_eq, Plan.carryOut_aside, aside_bind]
  rfl

end Aside

/-- A run with a storage beside it has fetched before it writes. -/
theorem run_refresh_aside (rules : RuleSet) (client : FixtureClient (StateM σ))
    (storage : Storage (StateM τ)) (config : Config) (t : τ) (s : σ) :
    ((refresh rules client.beside storage.aside config).run t).run s =
      (let fetched := (fetchAll client config.fetch).run s
       ((conclude rules storage config fetched.1).run t, fetched.2)) := by
  rw [refresh_eq_bind, StateT.run_bind, run_fetchAll_beside, bind_map_left]
  simp only [conclude_aside]
  rfl

/-! ### Two storages -/

section Agree

variable {ρ : Type} {R : σ → τ → Prop} {storage : Storage (StateM σ)}
  {storage' : Storage (StateM τ)}

theorem agree_publishSite {output : OutputSettings} {site : Site}
    (h : ∀ file ∈ site.files output,
      Agree R (storage.write file.1 file.2) (storage'.write file.1 file.2)) :
    Agree R (publishSite storage output site) (publishSite storage' output site) := by
  rw [Site.files, List.forall_mem_append] at h
  have hpages : ∀ page ∈ site.pages, Agree R (writePage storage output.siteDir page)
      (writePage storage' output.siteDir page) := by
    intro page hpage
    have hwrite := h.1 (page.file output.siteDir) (List.mem_map_of_mem hpage)
    dsimp only [Page.file] at hwrite
    dsimp only [writePage]
    exact hwrite.bind fun _ => .pure _
  refine (Agree.mapM hpages).bind fun pages => ?_
  cases hmodel : output.modelFile with
  | none => exact .pure _
  | some path =>
    have hwrite := h.2 (path, site.modelText.toUTF8) (by simp [hmodel])
    exact (hwrite.bind fun _ => .pure _).bind fun _ => .pure _

/-- **Two storages that go hand in hand on the files of a plan** give the same run. -/
theorem agree_conclude (rules : RuleSet) (config : Config) (fetched : List FetchedCountry)
    (h : ∀ file ∈ (Plan.of rules config fetched).files config.output,
      Agree R (storage.write file.1 file.2) (storage'.write file.1 file.2)) :
    Agree R (conclude rules storage config fetched) (conclude rules storage' config fetched) := by
  rw [conclude_eq, conclude_eq]
  refine Agree.bind ?_ fun written => .pure _
  cases hplan : Plan.of rules config fetched with
  | publish site =>
    rw [hplan] at h
    exact agree_publishSite h
  | belowThreshold => exact .pure _
  | reject site diagnostics => exact .pure _

end Agree

/-! ### What is written -/

theorem exists_of_forall₂ {α β : Type} {P : α → β → Prop} {xs : List α} {ys : List β}
    (h : List.Forall₂ P xs ys) {x : α} (hx : x ∈ xs) : ∃ y ∈ ys, P x y := by
  induction h with
  | nil => contradiction
  | @cons a b _ _ hab _ ih =>
    rcases List.mem_cons.1 hx with rfl | hx
    · exact ⟨b, List.mem_cons_self, hab⟩
    · obtain ⟨y, hy, hxy⟩ := ih hx
      exact ⟨y, List.mem_cons_of_mem _ hy, hxy⟩

/-- What a storage answers for each file shows in the attempts. -/
theorem gives_conclude {P : String → Except SiteError Unit → Prop}
    {storage : Storage (StateM σ)}
    (h : ∀ path content, Gives (P path) (storage.write path content))
    (rules : RuleSet) (config : Config) (fetched : List FetchedCountry) :
    Gives (fun r => List.Forall₂ (fun file a => P file.1 a.result)
        ((Plan.of rules config fetched).files config.output) r.written.attempts)
      (conclude rules storage config fetched) := by
  have hwritten : Gives (fun written => List.Forall₂ (fun file a => P file.1 a.result)
        ((Plan.of rules config fetched).files config.output) written.attempts)
      ((Plan.of rules config fetched).carryOut storage config.output) := by
    cases Plan.of rules config fetched with
    | publish site => exact fun s => (gives_publishSite h config.output site s).attempts
    | belowThreshold => exact .pure .nil
    | reject site diagnostics => exact .pure .nil
  rw [conclude_eq]
  exact hwritten.bind fun _ hattempts => .pure hattempts

/-! ### Memory and disk -/

section Trial

variable (rules : RuleSet) (config : Config) (fetched : List FetchedCountry)

/-- A memory stores the files of the plan. -/
theorem run_conclude_memory (memory : Memory) :
    ((conclude (m := StateM Memory) rules Memory.storage config fetched).run memory).2 =
      memory.store (fun _ => false) ((Plan.of rules config fetched).files config.output) := by
  have htracks := Storage.tracks_refusing (m := Id) fun _ => false
  rw [conclude_eq]
  exact congrArg Prod.snd (htracks.run_carryOut config.output (Plan.of rules config fetched) memory)

theorem mem_keys_conclude_memory {path : String} :
    path ∈ ((conclude (m := StateM Memory) rules Memory.storage config fetched).run
        .empty).2.keys ↔
      path ∈ ((Plan.of rules config fetched).files config.output).map Prod.fst := by
  have hempty : path ∉ (Table.empty (α := ByteArray)).keys := List.not_mem_nil
  rw [run_conclude_memory, Memory.mem_keys_store, or_iff_right hempty, and_iff_right rfl]

/-- What is reported about the files of a run is what became of them. -/
theorem writeErrors_conclude (storage : Storage (StateM τ)) (t : τ) :
    ((conclude rules storage config fetched).run t).1.result.writeErrors =
      ((conclude rules storage config fetched).run t).1.written.failures :=
  congrArg (fun r : RefreshRun => r.result.writeErrors)
    (gives_conclude_ended rules storage config fetched t)

/-- Nothing fails in a trial run. -/
theorem writeErrors_conclude_memory (memory : Memory) :
    ((conclude (m := StateM Memory) rules Memory.storage config fetched).run
      memory).1.result.writeErrors = [] := by
  rw [writeErrors_conclude]
  have hwrite (path : String) (content : ByteArray) :
      Gives (· = .ok ()) ((Memory.storage (m := Id)).write path content) := fun _ => rfl
  have hattempts := gives_conclude (P := fun _ result => result = .ok ()) hwrite rules config
    fetched memory
  refine Written.failures_eq_nil_iff.2 fun a ha => ?_
  obtain ⟨_, -, hok⟩ := exists_of_forall₂ hattempts.flip ha
  exact hok

variable {disk : Disk} {folder : Place} {base : String}

/-- **When all paths fit**, the folder goes through a run as the memory does. -/
theorem conclude_of_fit (htree : disk.IsTree) (hbase : disk.Leads base folder [])
    (hempty : ∀ names, names ≠ [] → disk.find? (folder ++ names) = none)
    (hfit : Path.Fit base
      (((Plan.of rules config fetched).files config.output).map Prod.fst)) :
    let trial := (conclude (m := StateM Memory) rules Memory.storage config fetched).run .empty
    let real := (conclude rules (Storage.folder Disk.fileSystem base) config fetched).run disk
    trial.1 = real.1 ∧ (real.2.filesBelow folder).Perm trial.2.toList := by
  let paths := ((Plan.of rules config fetched).files config.output).map Prod.fst
  let related (memory : Memory) (disk : Disk) : Prop :=
    disk.Mirrors folder memory ∧ disk.Leads base folder [] ∧ ∀ path ∈ memory.keys, path ∈ paths
  have hwrites : ∀ file ∈ (Plan.of rules config fetched).files config.output,
      Agree related ((Memory.storage (m := Id)).write file.1 file.2)
        ((Storage.folder Disk.fileSystem base).write file.1 file.2) := by
    rintro file hfile memory disk ⟨hmirrors, hleads, hkeys⟩
    have hpath : file.1 ∈ paths := List.mem_map_of_mem hfile
    obtain ⟨disk', hrun, hmirrors', hleads'⟩ :=
      hmirrors.write hleads hfit hkeys hpath file.2
    rw [hrun]
    refine ⟨rfl, hmirrors', hleads', fun path hkey => ?_⟩
    rcases Table.mem_keys_insert.1 hkey with rfl | hkey
    · exact hpath
    · exact hkeys path hkey
  obtain ⟨hresult, hmirrors, hleads, -⟩ := agree_conclude rules config fetched hwrites .empty disk
    ⟨.of_empty htree hbase.1 hempty, hbase, fun _ hkey => absurd hkey List.not_mem_nil⟩
  exact ⟨hresult, hmirrors.perm_filesBelow hleads.1⟩

/-- **When the folder ends up with the files of the memory** and nothing failed, all paths fit. -/
theorem fit_of_conclude (htree : disk.IsTree) (hbase : disk.Leads base folder [])
    (hresult : ((conclude rules (Storage.folder Disk.fileSystem base) config fetched).run
      disk).1.written.failures = [])
    (hperm : (((conclude rules (Storage.folder Disk.fileSystem base) config fetched).run
      disk).2.filesBelow folder).Perm
      ((conclude (m := StateM Memory) rules Memory.storage config fetched).run .empty).2.toList) :
    Path.Fit base (((Plan.of rules config fetched).files config.output).map Prod.fst) := by
  have hkeeps := agree_conclude rules config fetched
    (fun file _ => Agree.of_keeps (Disk.keeps_isGrown_write disk base file.1 file.2)) disk disk
    ⟨rfl, htree, .refl disk⟩
  obtain ⟨-, -, htree', hgrown⟩ := hkeeps
  refine Disk.fit_of_perm htree' (hgrown.find?_eq _ hbase.1) hperm
    (fun path hpath => (mem_keys_conclude_memory rules config fetched).2 hpath) fun path hpath => ?_
  obtain ⟨file, hfile, rfl⟩ := List.mem_map.1 hpath
  have hattempts := gives_conclude (Disk.gives_write base) rules config fetched disk
  obtain ⟨attempt, hattempt, hshort⟩ := exists_of_forall₂ hattempts hfile
  exact hshort (Written.failures_eq_nil_iff.1 hresult attempt hattempt)

end Trial

section Runs

variable (rules : RuleSet) (client : FixtureClient (StateM σ)) (config : Config)

/-- A run that writes to an empty memory. -/
def refreshInMemory (s : σ) : RefreshRun × Memory :=
  (((refresh rules client.beside Memory.storage config).run .empty).run s).1

/-- A run that writes to the output folder on a disk. -/
def refreshOnDisk (disk : Disk) (s : σ) : RefreshRun × Disk :=
  (((refresh rules client.beside
    (Storage.folder Disk.fileSystem config.output.path).aside config).run disk).run s).1

theorem mem_keys_refreshInMemory (s : σ) (path : String) :
    path ∈ (refreshInMemory rules client config s).2.keys ↔
      path ∈ ((Plan.of rules config ((fetchAll client config.fetch).run s).1).files
        config.output).map Prod.fst := by
  rw [refreshInMemory, Memory.storage_eq_aside, run_refresh_aside]
  exact mem_keys_conclude_memory ..

section Folder

variable {disk : Disk} {folder : Place} (s : σ)

/-- The paths in the memory fit when the folder ends up like the memory. -/
theorem fit_of_refresh (htree : disk.IsTree)
    (hfolder : disk.resolve config.output.path = .ok (folder, .folder))
    (hresult : (refreshInMemory rules client config s).1.result =
      (refreshOnDisk rules client config disk s).1.result)
    (hperm : ((refreshOnDisk rules client config disk s).2.filesBelow folder).Perm
      (refreshInMemory rules client config s).2.toList) :
    Path.Fit config.output.path (refreshInMemory rules client config s).2.keys := by
  have hkeys (path : String) := (mem_keys_refreshInMemory rules client config s path).1
  rw [refreshInMemory, refreshOnDisk, Memory.storage_eq_aside, run_refresh_aside,
    run_refresh_aside] at hresult hperm
  have hfailures := (writeErrors_conclude rules config _ _ disk).symm.trans
    ((congrArg RefreshResult.writeErrors hresult).symm.trans
      (writeErrors_conclude_memory rules config _ .empty))
  exact (fit_of_conclude rules config _ htree (.of_resolve hfolder) hfailures hperm).mono hkeys

/-- The folder ends up like the memory when the paths in the memory fit. -/
theorem refresh_of_fit (htree : disk.IsTree)
    (hfolder : disk.resolve config.output.path = .ok (folder, .folder))
    (hempty : ∀ names, names ≠ [] → disk.find? (folder ++ names) = none)
    (hfit : Path.Fit config.output.path (refreshInMemory rules client config s).2.keys) :
    (refreshInMemory rules client config s).1.result =
        (refreshOnDisk rules client config disk s).1.result ∧
      ((refreshOnDisk rules client config disk s).2.filesBelow folder).Perm
        (refreshInMemory rules client config s).2.toList := by
  have hkeys (path : String) := (mem_keys_refreshInMemory rules client config s path).2
  obtain ⟨hrun, hperm⟩ := conclude_of_fit rules config _ htree (.of_resolve hfolder) hempty
    (hfit.mono hkeys)
  rw [refreshInMemory, refreshOnDisk, Memory.storage_eq_aside, run_refresh_aside,
    run_refresh_aside]
  exact ⟨congrArg RefreshRun.result hrun, hperm⟩

/-- **When a trial run tells what becomes of a folder.**  A run that writes to an empty folder of a
disk gives the same result as the trial run, and leaves the files of the memory there, exactly when
the paths in the memory fit: they have proper names only, they are short enough, and none of them
leads through another one. -/
theorem refresh_trial_iff (htree : disk.IsTree)
    (hfolder : disk.resolve config.output.path = .ok (folder, .folder))
    (hempty : ∀ names, names ≠ [] → disk.find? (folder ++ names) = none) :
    (refreshInMemory rules client config s).1.result =
          (refreshOnDisk rules client config disk s).1.result ∧
        ((refreshOnDisk rules client config disk s).2.filesBelow folder).Perm
          (refreshInMemory rules client config s).2.toList ↔
      Path.Fit config.output.path (refreshInMemory rules client config s).2.keys :=
  ⟨fun h => fit_of_refresh rules client config s htree hfolder h.1 h.2,
    refresh_of_fit rules client config s htree hfolder hempty⟩

end Folder

end Runs

/-! ### A trial run of one league -/

/-- A run of one league with a memory. -/
def oneLeagueInMemory : RefreshRun × Memory :=
  refreshInMemory (σ := Unit) .standard (.constantly (.ok [.played])) .oneLeague ()

/-- A run of one league with a disk. -/
def oneLeagueOnDisk : RefreshRun × Disk :=
  refreshOnDisk (σ := Unit) .standard (.constantly (.ok [.played])) .oneLeague .out ()

/-- The trial run of one league tells what becomes of the folder. -/
theorem oneLeague_trial :
    Disk.out.IsTree ∧ Disk.out.resolve "out" = .ok (["out"], .folder) ∧
      oneLeagueInMemory.2.keys =
        ["site/index.json", "site/spain/index.json", "site/spain/la-liga/index.json"] ∧
      oneLeagueInMemory.1.result = oneLeagueOnDisk.1.result ∧
      (oneLeagueOnDisk.2.filesBelow ["out"]).Perm oneLeagueInMemory.2.toList := by
  have hkeys : oneLeagueInMemory.2.keys =
      ["site/index.json", "site/spain/index.json", "site/spain/la-liga/index.json"] := by
    decide +kernel
  have hfit : Path.Fit "out" oneLeagueInMemory.2.keys := by
    rw [hkeys]
    decide +kernel
  refine ⟨Disk.isTree_out, Disk.resolve_out, hkeys, ?_⟩
  rw [oneLeagueInMemory] at hfit ⊢
  rw [oneLeagueOnDisk]
  exact (refresh_trial_iff .standard _ .oneLeague () Disk.isTree_out Disk.resolve_out
    fun _ => Disk.find?_out_append).2 hfit

/-! ### A model text in the place of the pages -/

/-- Settings that call for a model text in the place of the folder of the pages. -/
def Config.modelAmongPages : Config where
  site := oneLeague.site
  api := oneLeague.api
  fetch := {
    season := 2025
    fallbackToSample := true
    countries := [{ name := "Spain", code := "ES", leagues := [] }] }
  output := { path := "out", modelFile := some "site" }

theorem Config.validate_modelAmongPages : modelAmongPages.validate = .ok () := by
  have hsite : Text.HasInk modelAmongPages.site.name :=
    Text.isAllBlank_eq_false_iff.1 (by decide +kernel)
  have hapi : modelAmongPages.api.validate = .ok () := by decide +kernel
  have hfetch : modelAmongPages.fetch.validate = .ok () := by decide +kernel
  have houtput : modelAmongPages.output.Valid := by
    refine ⟨⟨by decide, by decide⟩, ⟨by decide, by decide⟩, ?_⟩
    rintro _ ⟨⟩
    exact ⟨by decide, by decide⟩
  exact validate_eq_ok_iff.2 ⟨hsite, hapi, FetchSettings.validate_eq_ok_iff.1 hfetch, houtput⟩

/-- A run with these settings and a memory. -/
def modelAmongPagesInMemory : RefreshRun × Memory :=
  refreshInMemory (σ := Unit) .standard (.constantly (.ok [])) .modelAmongPages ()

/-- A run with these settings and a disk. -/
def modelAmongPagesOnDisk : RefreshRun × Disk :=
  refreshOnDisk (σ := Unit) .standard (.constantly (.ok [])) .modelAmongPages .out ()

/-- A trial run with valid settings succeeds, but a folder cannot hold the files of the memory. -/
theorem modelAmongPages_trial_differs :
    Config.modelAmongPages.validate = .ok () ∧ Disk.out.IsTree ∧
      Disk.out.resolve "out" = .ok (["out"], .folder) ∧
      (∀ names, names ≠ [] → Disk.out.find? (["out"] ++ names) = none) ∧
      modelAmongPagesInMemory.1.result.outcome = .success ∧
      "site" ∈ modelAmongPagesInMemory.2.keys ∧
      "site/index.json" ∈ modelAmongPagesInMemory.2.keys ∧
      ¬ (modelAmongPagesInMemory.1.result = modelAmongPagesOnDisk.1.result ∧
        (modelAmongPagesOnDisk.2.filesBelow ["out"]).Perm modelAmongPagesInMemory.2.toList) := by
  obtain ⟨houtcome, hmodel, hindex⟩ : modelAmongPagesInMemory.1.result.outcome = .success ∧
      "site" ∈ modelAmongPagesInMemory.2.keys ∧
      "site/index.json" ∈ modelAmongPagesInMemory.2.keys := by decide +kernel
  refine ⟨Config.validate_modelAmongPages, Disk.isTree_out, Disk.resolve_out,
    fun _ => Disk.find?_out_append, houtcome, hmodel, hindex, ?_⟩
  rintro ⟨hresult, hperm⟩
  rw [modelAmongPagesInMemory] at hmodel hindex hresult hperm
  rw [modelAmongPagesOnDisk] at hresult hperm
  have hfit := fit_of_refresh .standard _ .modelAmongPages () Disk.isTree_out Disk.resolve_out
    hresult hperm
  have hfront : Path.pieces "site" <+: Path.pieces "site/index.json" := by decide +kernel
  exact absurd (hfit.apart _ hmodel _ hindex hfront) (by decide)

end Matchday
