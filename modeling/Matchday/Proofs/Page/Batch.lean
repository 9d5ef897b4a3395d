import Matchday.Proofs.Json.Spelling
import Matchday.Proofs.Page.Stored
import Matchday.Proofs.Storage.Attempt

/-!
# Batches of pages

Pages are written to a memory some of whose paths fail.  A page with a failing path is reported and
leaves the memory as it is, and the pages behind it are written all the same.  So what has happened
after the first pages of a batch is what would have happened without those that failed.

## Main definitions

* `Storage.IsFlaky`: a storage on a memory that fails for certain paths and stores all else.
* `Page.WritesBatch`: what a batch of pages does to a memory and what is reported.

## Main results

* `writePages_slashes`: slashes around the folder make no difference.
* `Storage.IsFlaky.writesBatch`: batches of pages on flaky storages.
-/

namespace Matchday

/-! ### Flaky storages -/

/-- A storage on a memory that fails exactly for the paths that a test selects.  A write that fails
leaves the memory as it is, whatever the failure is, and any other write stores the file. -/
structure Storage.IsFlaky (fails : String → Bool) (storage : Storage (StateM Memory)) : Prop where
  failsAt : storage.FailsAt fails
  memory_eq : ∀ path content memory,
    ((storage.write path content).run memory).2 = memory.attempt fails (path, content)

/-- A memory that is full for some paths is flaky. -/
theorem Storage.isFlaky_refusing (fails : String → Bool) :
    ((Memory.storage (m := Id)).refusing fails).IsFlaky fails where
  failsAt := failsAt_refusing fails
  memory_eq path content memory :=
    congrArg Prod.snd (tracks_refusing (m := Id) fails path content memory)

/-- What a batch of pages does to a memory, and what is reported of it, when certain paths fail.

The paths of the pages split in order into those that are written and those of the failures.  The
memory holds for each written path the JSON text of the data of the last page there, and is
otherwise as it was.  So it is what it would be without the pages that fail, and at each path that
does not fail it holds what it would hold if none failed. -/
structure Page.WritesBatch (fails : String → Bool) (folder : String) (pages : List Page)
    (before : Memory) (report : WriteReport) (after : Memory) : Prop where
  written_eq : report.written = (pages.map (pathIn folder)).filter (!fails ·)
  failures_led : List.Forall₂ IsLedInBy ((pages.map (pathIn folder)).filter fails) report.failures
  length_add : report.written.length + report.failures.length = pages.length
  get?_last : ∀ earlier page later, pages = earlier ++ page :: later →
    fails (page.pathIn folder) = false → page.pathIn folder ∉ later.map (pathIn folder) →
    after.get? (page.pathIn folder) = some (Json.object page.data).pretty.toUTF8
  isText_pretty : ∀ page ∈ pages, (Json.object page.data).IsText (Json.object page.data).pretty
  get?_kept : ∀ path, fails path = true ∨ path ∉ pages.map (pathIn folder) →
    after.get? path = before.get? path
  eq_without : after = ((writePages (m := StateM Memory) Memory.storage folder
    (pages.filter fun page => !fails (page.pathIn folder))).run before).2
  get?_eq : ∀ path, fails path = false → after.get? path =
    ((writePages (m := StateM Memory) Memory.storage folder pages).run before).2.get? path

namespace Storage.IsFlaky

variable {fails : String → Bool} {storage : Storage (StateM Memory)}

/-- Each page of a batch changes the memory as its file does. -/
theorem run_writePages_snd (h : storage.IsFlaky fails) (folder : String) (pages : List Page)
    (memory : Memory) : ((writePages storage folder pages).run memory).2 =
      memory.store fails (pages.map (Page.file folder)) := by
  induction pages generalizing memory with
  | nil => rfl
  | cons page pages ih =>
    have hpage : ((writePage storage folder page).run memory).2 =
        memory.attempt fails (page.file folder) :=
      h.memory_eq (page.pathIn folder) page.content memory
    rw [writePages, List.mapM_cons, StateT.run_bind]
    change ((writePages storage folder pages).run
      ((writePage storage folder page).run memory).2).2 = _
    rw [hpage, ih, List.map_cons, Memory.store, Memory.store, List.foldl_cons]

/-- Each page of a batch is attempted at its path, and the attempt fails where the storage does. -/
theorem forall₂_writePages (h : storage.IsFlaky fails) (folder : String) (pages : List Page)
    (memory : Memory) :
    List.Forall₂ (WriteAttempt.IsAt fun path result => fails path = !result.isOk)
      (pages.map (Page.pathIn folder)) ((writePages storage folder pages).run memory).1 := by
  have hpage (page : Page) : Gives (WriteAttempt.IsAt (fun path result => fails path = !result.isOk)
      (page.pathIn folder)) (writePage storage folder page) :=
    (h.failsAt _ _).bind fun _ hanswer => .pure (WriteAttempt.isAt_mk hanswer)
  exact List.forall₂_map_left_iff.2 (Gives.mapM hpage pages memory)

end Storage.IsFlaky

/-! ### Folders with slashes around -/

/-- A number of slashes. -/
def Text.slashes (n : Nat) : String :=
  String.ofList (List.replicate n '/')

/-- Slashes around a text do not count when they are trimmed. -/
theorem Text.trimOf_slashes (front back : Nat) (s : String) :
    Text.trimOf '/' (slashes front ++ s ++ slashes back) = Text.trimOf '/' s := by
  have hfront (n : Nat) (cs : List Char) :
      trimWhile (· == '/') (List.replicate n '/' ++ cs) = trimWhile (· == '/') cs := by
    induction n with
    | zero => rfl
    | succ n ih => rw [List.replicate_succ, List.cons_append, trimWhile_cons (by decide), ih]
  have hback (n : Nat) (cs : List Char) :
      trimWhile (· == '/') (cs ++ List.replicate n '/') = trimWhile (· == '/') cs := by
    induction n with
    | zero => rw [List.replicate_zero, List.append_nil]
    | succ n ih => rw [List.replicate_succ', ← List.append_assoc, trimWhile_concat (by decide), ih]
  rw [trimOf, trimOf, String.toList_append, String.toList_append, slashes, slashes,
    String.toList_ofList, String.toList_ofList, hback, hfront]

theorem Page.pathIn_slashes (front back : Nat) (folder : String) :
    Page.pathIn (Text.slashes front ++ folder ++ Text.slashes back) = Page.pathIn folder := by
  funext page
  rw [pathIn, pathIn, Text.trimOf_slashes]

theorem writePages_slashes {m : Type → Type} [Monad m] (storage : Storage m) (front back : Nat)
    (folder : String) : writePages storage (Text.slashes front ++ folder ++ Text.slashes back) =
      writePages storage folder := by
  funext pages
  have hpage : writePage storage (Text.slashes front ++ folder ++ Text.slashes back) =
      writePage storage folder := by
    funext page
    rw [writePage, writePage, Page.pathIn_slashes]
  rw [writePages, writePages, hpage]

/-! ### Batches on flaky storages -/

theorem Page.fst_file (folder : String) (page : Page) :
    (page.file folder).1 = page.pathIn folder := by
  rw [file]

theorem Page.map_fst_file (folder : String) (pages : List Page) :
    (pages.map (file folder)).map Prod.fst = pages.map (pathIn folder) := by
  rw [List.map_map]
  exact List.map_congr_left fun page _ => fst_file folder page

/-- **A batch of pages on a flaky storage.**  Whichever paths fail, whatever the memory holds before
and even when pages share a path, the batch is written and reported page by page.  Slashes around
the folder make no difference. -/
theorem Storage.IsFlaky.writesBatch {fails : String → Bool} {storage : Storage (StateM Memory)}
    (h : storage.IsFlaky fails) (folder : String) (pages : List Page) (memory : Memory) :
    let run := (writePages storage folder pages).run memory
    Page.WritesBatch fails folder pages memory (.ofAttempts run.1) run.2 ∧
      ∀ front back, writePages storage (Text.slashes front ++ folder ++ Text.slashes back) pages =
        writePages storage folder pages := by
  intro run
  have hattempts : List.Forall₂ (WriteAttempt.IsAt fun path result => fails path = !result.isOk)
      (pages.map (Page.pathIn folder)) run.1 := h.forall₂_writePages folder pages memory
  have hstore : run.2 = memory.store fails (pages.map (Page.file folder)) :=
    h.run_writePages_snd folder pages memory
  refine ⟨⟨?written, ?failures, ?length, ?last, fun _ _ => Json.isText_pretty _, ?kept, ?without,
    ?nonfailing⟩, fun front back => ?_⟩
  case written => exact filterMap_written?_eq hattempts
  case failures => exact forall₂_filterMap_failure? hattempts
  case length => rw [WriteReport.length_add_length, ← hattempts.length_eq, List.length_map]
  case last =>
    rintro earlier page later rfl hfails hlast
    rw [← Page.map_fst_file] at hlast
    rw [hstore, List.map_append, List.map_cons]
    exact Memory.get?_store_append_cons hfails hlast
  case kept =>
    rintro path (hfails | hpath)
    · rw [hstore, Memory.get?_store, if_pos hfails]
    · rw [← Page.map_fst_file] at hpath
      rw [hstore, Memory.get?_store_of_notMem hpath]
  case without =>
    have hfile : (fun file : String × ByteArray => !fails file.1) ∘ Page.file folder =
        fun page => !fails (page.pathIn folder) :=
      funext fun page => congrArg (!fails ·) (page.fst_file folder)
    rw [hstore, Page.run_writePages_memory, Memory.store_eq_store_filter, List.filter_map, hfile]
  case nonfailing =>
    intro path hfails
    rw [hstore, Page.run_writePages_memory, Memory.get?_store, Memory.get?_store, hfails]
  · rw [writePages_slashes]

/-- Whether a file is that of the page of Spain. -/
def isPageOfSpain (path : String) : Bool :=
  path == "site/spain/index.json"

/-- A memory that is full for the page of Spain. -/
def Storage.fullForSpain : Storage (StateM Memory) :=
  Memory.storage.refusing isPageOfSpain

/-- A page of Spain from before. -/
def Memory.oldSpain : Memory :=
  Table.empty.insert "site/spain/index.json" ByteArray.empty

/-- Two leagues share a path and are both written, although the page of their country fails. -/
theorem Site.twoSpellings_writesBatch :
    Storage.fullForSpain.IsFlaky isPageOfSpain ∧
      (let run := (writePages Storage.fullForSpain "/site" twoSpellings.pages).run Memory.oldSpain
       Page.WritesBatch isPageOfSpain "/site" twoSpellings.pages Memory.oldSpain
        (.ofAttempts run.1) run.2) ∧
      (twoSpellings.pages.map (Page.pathIn "/site")).filter (!isPageOfSpain ·) =
        ["site/index.json", "site/spain/la-liga/index.json", "site/spain/la-liga/index.json"] := by
  have hflaky : Storage.fullForSpain.IsFlaky isPageOfSpain := Storage.isFlaky_refusing isPageOfSpain
  have hbatch := Storage.IsFlaky.writesBatch hflaky "/site" twoSpellings.pages Memory.oldSpain
  exact ⟨hflaky, hbatch.1, by decide +kernel⟩

end Matchday
