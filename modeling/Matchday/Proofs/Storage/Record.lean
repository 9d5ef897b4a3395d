import Matchday.Page.Compile
import Matchday.Proofs.Effect
import Matchday.Proofs.Storage.Memory
import Matchday.Refresh.Run

/-!
# The files that a storage is handed

A site is published by handing files to a storage, each with its path and content.  What they are
depends on the site alone: the answers of the storage have no influence on them.

A storage with a state of its own answers as another storage does, and each file that it is handed
changes its state.  Such a storage may only note the files, or it may keep them.

## Main definitions

* `Site.files`: the files that a site is published as.
* `Storage.Tracks`: a storage with a state of its own beside another storage.
* `Storage.noting`: notes the files that another storage is handed.

## Main results

* `Storage.Tracks.run_publishSite`: publishing a site changes the state by the files of the site.
-/

namespace Matchday

/-- The file of a page in a folder. -/
def Page.file (folder : String) (p : Page) : String × ByteArray :=
  (p.pathIn folder, p.content)

namespace Site

/-- The files of the pages. -/
def pageFiles (folder : String) (s : Site) : List (String × ByteArray) :=
  s.pages.map (Page.file folder)

/-- The files of the pages and, if wanted, of the model text. -/
def files (output : OutputSettings) (s : Site) : List (String × ByteArray) :=
  s.pageFiles output.siteDir ++ output.modelFile.toList.map fun path => (path, s.modelText.toUTF8)

theorem mem_map_fst_files_iff {output : OutputSettings} {s : Site} {path : String} :
    path ∈ (s.files output).map Prod.fst ↔
      (∃ page ∈ s.pages, page.pathIn output.siteDir = path) ∨ output.modelFile = some path := by
  simp [files, pageFiles, Page.file]

end Site

variable {m : Type → Type} [Monad m] {τ : Type}

namespace Storage

/-- A storage that answers as another one does; each file that it is handed changes its state. -/
def Tracks (storage : Storage (StateT τ m)) (base : Storage m)
    (note : τ → String × ByteArray → τ) : Prop :=
  ∀ path content t,
    (storage.write path content).run t = (fun r => (r, note t (path, content))) <$>
      base.write path content

/-- Notes the files that a storage is handed, before what became of them. -/
def noting (storage : Storage m) : Storage (StateT (List (String × ByteArray)) m) where
  read path := liftM (storage.read path)
  write path content := do
    modify fun files => files ++ [(path, content)]
    liftM (storage.write path content)

/-- A storage that keeps nothing and refuses some paths. -/
def answering (refuses : String → Bool) : Storage m where
  read path := return .error (.io s!"File not found: {path}")
  write path _ := return if refuses path then .error (.write path "disk full") else .ok ()

theorem tracks_noting [LawfulMonad m] (storage : Storage m) :
    Tracks storage.noting storage fun files file => files ++ [file] := by
  intro path content files
  simp [noting]

theorem tracks_refusing [LawfulMonad m] (refuses : String → Bool) :
    Tracks (m := m) (Memory.storage.refusing refuses) (answering refuses)
      (Memory.attempt refuses) := by
  intro path content memory
  by_cases h : refuses path <;> simp [refusing, answering, Memory.storage, Memory.attempt, h]

namespace Tracks

variable [LawfulMonad m] {storage : Storage (StateT τ m)} {base : Storage m}
  {note : τ → String × ByteArray → τ}

theorem run_writePage (h : storage.Tracks base note) (folder : String) (p : Page) (t : τ) :
    (writePage storage folder p).run t =
      (fun a => (a, note t (p.file folder))) <$> writePage base folder p := by
  simp only [writePage, StateT.run_bind, h _ _ _, StateT.run_pure, bind_map_left, map_bind,
    map_pure, Page.file]

theorem run_writePages (h : storage.Tracks base note) (folder : String) (pages : List Page)
    (t : τ) : (writePages storage folder pages).run t =
      (fun attempts => (attempts, (pages.map (Page.file folder)).foldl note t)) <$>
        writePages base folder pages := by
  simp only [List.foldl_map]
  exact run_mapM_of_run (h.run_writePage folder) pages t

theorem run_writeModel (h : storage.Tracks base note) (s : Site) (path : String) (t : τ) :
    (writeModel storage s path).run t =
      (fun a => (a, note t (path, s.modelText.toUTF8))) <$> writeModel base s path := by
  simp only [writeModel, StateT.run_bind, h _ _ _, StateT.run_pure, bind_map_left, map_bind,
    map_pure]

/-- **Publishing a site changes the state by the files of the site, one after another.** -/
theorem run_publishSite (h : storage.Tracks base note) (output : OutputSettings) (s : Site)
    (t : τ) : (publishSite storage output s).run t =
      (fun written => (written, (s.files output).foldl note t)) <$>
        publishSite base output s := by
  simp only [publishSite, StateT.run_bind, h.run_writePages, Site.files, Site.pageFiles,
    List.foldl_append]
  cases output.modelFile with
  | none => simp
  | some path => simp [h.run_writeModel]

end Tracks

end Storage

end Matchday
