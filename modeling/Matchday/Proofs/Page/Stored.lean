import Matchday.Proofs.Page.Folder
import Matchday.Proofs.Storage.Record

/-!
# Stored pages

Each page of a site has a file of its own exactly when the folders of the pages are different.  The
rules keep names apart, but the folders come from the slugs of the names, so two leagues of a valid
site may share a file.

## Main definitions

* `Site.twoSpellings`: a valid site with two leagues in one folder.

## Main results

* `Page.length_keys_writePages_eq_iff`: when an empty memory gets one path for each page.
* `Site.outputFile_nodup_iff_of_pagesIfValid`: when no page of a valid site overwrites another.
-/

namespace Matchday

namespace Page

theorem pathIn_eq_iff {folder : String} {p q : Page} :
    p.pathIn folder = q.pathIn folder ↔ p.outputFile = q.outputFile := by
  simp only [pathIn]
  split
  · rfl
  · rw [String.append_right_inj]

/-- Writing pages stores their files. -/
theorem run_writePages_memory (folder : String) (pages : List Page) (memory : Memory) :
    ((writePages (m := StateM Memory) Memory.storage folder pages).run memory).2 =
      memory.store (fun _ => false) (pages.map (Page.file folder)) := by
  have htracks := Storage.tracks_refusing (m := Id) fun _ => false
  exact congrArg Prod.snd (htracks.run_writePages folder pages memory)

/-- An empty memory gets one path for each page exactly when the pages have different files. -/
theorem length_keys_writePages_eq_iff {folder : String} {pages : List Page} :
    ((writePages (m := StateM Memory) Memory.storage folder pages).run .empty).2.keys.length =
      pages.length ↔ (pages.map outputFile).Nodup := by
  have hpaths : ((pages.map (Page.file folder)).map Prod.fst).Nodup ↔
      (pages.map outputFile).Nodup := by
    simp only [List.Nodup, List.pairwise_map, file, ne_eq, pathIn_eq_iff]
  have hlength : (pages.map (Page.file folder)).length = pages.length := List.length_map _
  rw [run_writePages_memory, ← hpaths, ← Memory.length_keys_store_eq_iff, hlength]

end Page

namespace Site

theorem pagesIfValid_eq_ok_iff {rules : RuleSet} {s : Site} {pages : List Page} :
    s.pagesIfValid rules = .ok pages ↔ rules.evaluate s = [] ∧ s.pages = pages := by
  rw [pagesIfValid]
  split
  next hevaluate => simp [hevaluate]
  next hevaluate => simpa using fun h => absurd h hevaluate

/-- **No page of a valid site overwrites another exactly when the folders of its pages are
different**, and exactly then each page gets a path of its own below any folder.  For this no name
may be empty and the slugs in each list of names must be different; for names without slashes that
is enough. -/
theorem outputFile_nodup_iff_of_pagesIfValid {s : Site} {pages : List Page}
    (h : s.pagesIfValid .standard = .ok pages) :
    ((pages.map Page.outputFile).Nodup ↔ s.folders.Nodup) ∧
      (∀ folder,
        ((writePages (m := StateM Memory) Memory.storage folder pages).run .empty).2.keys.length =
          1 + s.countries.length + s.leagues.length ↔ (pages.map Page.outputFile).Nodup) ∧
      ((pages.map Page.outputFile).Nodup → s.KeepsSlugsApart) ∧
      (s.HasNoSlash → s.KeepsSlugsApart → (pages.map Page.outputFile).Nodup) := by
  obtain ⟨-, rfl⟩ := pagesIfValid_eq_ok_iff.1 h
  have hfiles : (s.pages.map Page.outputFile).Nodup ↔ s.folders.Nodup := by
    rw [Page.nodup_outputFile_iff, map_folder_pages]
  refine ⟨hfiles, fun folder => ?_, fun hnodup => ?_, fun hslash hapart => ?_⟩
  · rw [← s.pages_length, Page.length_keys_writePages_eq_iff]
  · exact keepsSlugsApart_of_nodup_folders (hfiles.1 hnodup)
  · exact hfiles.2 ((nodup_folders_iff hslash).2 hapart)

/-- The built-in site is valid, and each of its pages has a file of its own. -/
theorem sample_outputFile_nodup :
    (sample "Results").pagesIfValid .standard = .ok (sample "Results").pages ∧
      ((sample "Results").pages.map Page.outputFile).Nodup := by
  have hpages : (sample "Results").pagesIfValid .standard = .ok (sample "Results").pages :=
    pagesIfValid_eq_ok_iff.2 ⟨by decide +kernel, rfl⟩
  exact ⟨hpages, (outputFile_nodup_iff_of_pagesIfValid hpages).1.2 (by decide +kernel)⟩

/-! ### Leagues with one slug -/

/-- A site whose two leagues are spelt differently but have one slug. -/
def twoSpellings : Site :=
  let game : Match := {
    date := "2026-02-15"
    time := "21:00"
    homeTeam := "Real Madrid"
    homeCity := "Madrid"
    awayTeam := "FC Barcelona"
    awayCity := "Barcelona"
    homeScore := 3
    awayScore := 2
    stadium := "Santiago Bernabéu" }
  ofCountries "Results" [{
    name := "Spain"
    leagues := [{ name := "LaLiga", season := "2025-2026", games := [game] },
      { name := "La-Liga", season := "2025-2026", games := [game] }] }]

/-- The rules accept two leagues with one slug; their pages have one file, so that only three of the
four pages remain. -/
theorem twoSpellings_overwrites :
    ∃ pages, twoSpellings.pagesIfValid .standard = .ok pages ∧
      ¬ (pages.map Page.outputFile).Nodup ∧
      ((writePages (m := StateM Memory) Memory.storage "" pages).run .empty).2.keys.length = 3 ∧
      1 + twoSpellings.countries.length + twoSpellings.leagues.length = 4 := by
  refine ⟨twoSpellings.pages, pagesIfValid_eq_ok_iff.2 ⟨by decide +kernel, rfl⟩, ?_, ?_, rfl⟩
  · decide +kernel
  · decide +kernel

end Site

end Matchday
