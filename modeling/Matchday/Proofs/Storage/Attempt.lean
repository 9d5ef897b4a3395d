import Matchday.Proofs.Storage.Record
import Mathlib.Data.List.Forall2

/-!
# Attempts to write files

Each file of a site is attempted once, whatever became of the files before it.  What the storage
answers for a path shows in the attempt for that path.

## Main definitions

* `Site.pagePaths`: the paths of the pages in a folder.
* `WriteAttempt.IsAt`: an attempt for a path with an answer that is possible there.
* `Written.IsFor`: what became of the files of a site, as far as the answers tell.
* `Storage.FailsAt`: a storage that fails for certain paths.

## Main results

* `gives_publishSite`: publishing a site attempts each of its files.
* `filterMap_written?_eq`, `forall₂_filterMap_failure?`: what is reported about attempts.
-/

namespace Matchday

variable {σ : Type}

namespace Site

/-- The paths of the pages in a folder, in the order of the pages. -/
def pagePaths (folder : String) (s : Site) : List String :=
  s.pages.map (Page.pathIn folder)

theorem length_pagePaths (folder : String) (s : Site) :
    (s.pagePaths folder).length = 1 + s.countries.length + s.leagues.length := by
  rw [pagePaths, List.length_map, pages_length]

theorem map_fst_files (output : OutputSettings) (s : Site) :
    (s.files output).map Prod.fst = s.pagePaths output.siteDir ++ output.modelFile.toList := by
  simp [files, pageFiles, pagePaths, Page.file, Function.comp_def]

end Site

/-! ### What a storage answers -/

/-- An attempt for a path, with an answer that is possible there. -/
def WriteAttempt.IsAt (P : String → Except SiteError Unit → Prop) (path : String)
    (a : WriteAttempt) : Prop :=
  a.path = path ∧ P path a.result

theorem WriteAttempt.isAt_mk {P : String → Except SiteError Unit → Prop} {path : String}
    {size : Nat} {result : Except SiteError Unit} (h : P path result) :
    WriteAttempt.IsAt P path { path, size, result } :=
  ⟨rfl, h⟩

/-- The attempts to write the files, pages first. -/
def Written.attempts (w : Written) : List WriteAttempt :=
  w.pages ++ w.model.toList

/-- Each file of a site is attempted once, pages first, with an answer that is possible for its
path. -/
structure Written.IsFor (P : String → Except SiteError Unit → Prop) (output : OutputSettings)
    (site : Site) (w : Written) : Prop where
  pages : List.Forall₂ (WriteAttempt.IsAt P) (site.pagePaths output.siteDir) w.pages
  model : List.Forall₂ (WriteAttempt.IsAt P) output.modelFile.toList w.model.toList

theorem Written.IsFor.attempts {P : String → Except SiteError Unit → Prop}
    {output : OutputSettings} {site : Site} {w : Written} (h : w.IsFor P output site) :
    List.Forall₂ (fun file a => P file.1 a.result) (site.files output) w.attempts := by
  have hpaths : List.Forall₂ (WriteAttempt.IsAt P)
      (site.pagePaths output.siteDir ++ output.modelFile.toList) w.attempts :=
    List.rel_append h.pages h.model
  rw [← Site.map_fst_files, List.forall₂_map_left_iff] at hpaths
  exact hpaths.imp fun _ _ hanswer => hanswer.2

theorem Written.failures_eq_nil_iff {w : Written} :
    w.failures = [] ↔ ∀ a ∈ w.attempts, a.result = .ok () := by
  have hfailures : w.failures = w.attempts.filterMap WriteAttempt.failure? :=
    (List.filterMap_append ..).symm
  rw [hfailures, List.filterMap_eq_nil_iff]
  refine forall₂_congr fun a _ => ?_
  rw [WriteAttempt.failure?]
  cases a.result <;> simp

/-- **Publishing a site attempts each of its files**, and what the storage answers for a path shows
in the attempt for it. -/
theorem gives_publishSite {P : String → Except SiteError Unit → Prop}
    {storage : Storage (StateM σ)}
    (h : ∀ path content, Gives (P path) (storage.write path content))
    (output : OutputSettings) (site : Site) :
    Gives (Written.IsFor P output site) (publishSite storage output site) := by
  have hpage (page : Page) : Gives (WriteAttempt.IsAt P (page.pathIn output.siteDir))
      (writePage storage output.siteDir page) :=
    (h _ _).bind fun _ hanswer => .pure (WriteAttempt.isAt_mk hanswer)
  have hmodel (path : String) : Gives (WriteAttempt.IsAt P path) (writeModel storage site path) :=
    (h _ _).bind fun _ hanswer => .pure (WriteAttempt.isAt_mk hanswer)
  refine (Gives.mapM hpage site.pages).bind fun pages hpages => ?_
  have hattempts : List.Forall₂ (WriteAttempt.IsAt P) (site.pagePaths output.siteDir) pages :=
    List.forall₂_map_left_iff.2 hpages
  cases hpath : output.modelFile with
  | none => exact .pure ⟨hattempts, hpath ▸ .nil⟩
  | some path =>
    exact (hmodel path).bind fun _ hattempt => .pure ⟨hattempts, hpath ▸ .cons hattempt .nil⟩

/-! ### What fails -/

/-- A storage that fails exactly for the paths that a test selects, whatever its state is and
whatever the file holds. -/
def Storage.FailsAt (fails : String → Bool) (storage : Storage (StateM σ)) : Prop :=
  ∀ path content, Gives (fun result => fails path = !result.isOk) (storage.write path content)

/-- A storage that is full for some paths and never fails otherwise. -/
theorem Storage.failsAt_refusing (fails : String → Bool) :
    ((Memory.storage (m := Id)).refusing fails).FailsAt fails := by
  intro path content memory
  by_cases h : fails path <;> simp [refusing, h] <;> rfl

section Report

variable {fails : String → Bool} {paths : List String} {attempts : List WriteAttempt}

/-- The files that are written have the paths that do not fail. -/
theorem filterMap_written?_eq (h : List.Forall₂
      (WriteAttempt.IsAt fun path result => fails path = !result.isOk) paths attempts) :
    attempts.filterMap WriteAttempt.written? = paths.filter (!fails ·) := by
  induction h with
  | nil => rfl
  | @cons path a _ _ hattempt _ ih =>
    obtain ⟨rfl, hfails⟩ := hattempt
    rw [List.filterMap_cons, List.filter_cons, hfails, ih, WriteAttempt.written?]
    cases a.result <;> rfl

/-- A line about a path. -/
def IsLedInBy (path line : String) : Prop :=
  ∃ message, line = path ++ ": " ++ message

/-- There is one failure for each path that fails, and it names the path. -/
theorem forall₂_filterMap_failure? (h : List.Forall₂
      (WriteAttempt.IsAt fun path result => fails path = !result.isOk) paths attempts) :
    List.Forall₂ IsLedInBy (paths.filter fails) (attempts.filterMap WriteAttempt.failure?) := by
  induction h with
  | nil => exact .nil
  | @cons path a _ _ hattempt _ ih =>
    obtain ⟨rfl, hfails⟩ := hattempt
    rw [List.filterMap_cons, List.filter_cons, hfails, WriteAttempt.failure?]
    cases a.result with
    | ok _ => exact ih
    | error e => exact .cons ⟨e.message, rfl⟩ ih

end Report

end Matchday
