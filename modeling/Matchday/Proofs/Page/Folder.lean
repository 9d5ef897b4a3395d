import Matchday.Page.Compile
import Matchday.Proofs.Page.Slug
import Matchday.Proofs.Text.Blank
import Mathlib.Data.List.Nodup

/-!
# Folders of pages

The file of a page stands in a folder that is named by the slugs of its country and its league.
Two pages have one file exactly when they have one folder.

Different names may have one slug, a name without characters has no folder of its own, and a slash
in a name is one in the folder.  So the folders of a site are not always different.

## Main definitions

* `Page.folder`, `Site.folders`: the folder of a page, and the folders of all pages.
* `Site.KeepsSlugsApart`: no name is empty, and the slugs in each list of names are different.

## Main results

* `Page.outputFile_eq_iff`: two pages have one file exactly when they have one folder.
* `Site.map_folder_pages`: the folders of the pages, from the names alone.
* `Site.nodup_folders_iff`: for names without slashes, when the folders are different.
-/

namespace Matchday

namespace Page

/-- The folder of a page, its path without the slashes at both ends. -/
def folder (p : Page) : String :=
  Text.trimOf '/' p.path

theorem outputFile_eq_iff {p q : Page} : p.outputFile = q.outputFile ↔ p.folder = q.folder := by
  have hne (s : String) : s ++ "/index.json" ≠ "index.json" := by
    intro h
    have hlength := congrArg String.length h
    rw [String.length_append] at hlength
    change s.length + 11 = 10 at hlength
    omega
  simp only [outputFile, folder, String.isEmpty_iff]
  split <;> split
  next hp hq => simp [hp, hq]
  next hp hq => simp [hp, (hne _).symm, Ne.symm hq]
  next hp hq => simp [hq, hne, hp]
  next => rw [String.append_left_inj]

theorem nodup_outputFile_iff {pages : List Page} :
    (pages.map outputFile).Nodup ↔ (pages.map folder).Nodup := by
  simp only [List.Nodup, List.pairwise_map, ne_eq, outputFile_eq_iff]

end Page

theorem Text.trimOf_slash_surrounded (s : String) :
    Text.trimOf '/' ("/" ++ s ++ "/") = Text.trimOf '/' s := by
  rw [Text.trimOf, String.toList_append, String.toList_append, Text.trimOf]
  refine congrArg String.ofList ?_
  change Text.trimWhile _ ('/' :: s.toList ++ ['/']) = _
  rw [Text.trimWhile_concat (by decide), Text.trimWhile_cons (by decide)]

theorem Text.trimOf_slash_eq_self {s : String} (h : '/' ∉ s.toList) : Text.trimOf '/' s = s := by
  rw [Text.trimOf, Text.trimWhile_eq_self_of_forall, String.ofList_toList]
  intro d hd hslash
  rw [beq_iff_eq.1 hslash] at hd
  exact h hd

/-- A slash between two texts is not at an end. -/
theorem Text.trimOf_slash_between {a b : String} (ha : '/' ∉ a.toList) (hb : '/' ∉ b.toList)
    (hane : a ≠ "") (hbne : b ≠ "") : Text.trimOf '/' (a ++ "/" ++ b) = a ++ "/" ++ b := by
  rw [Ne, ← String.toList_eq_nil_iff] at hane hbne
  rw [Text.trimOf, Text.trimWhile_eq_self, String.ofList_toList]
  · intro d hd hslash
    rw [beq_iff_eq.1 hslash, String.toList_append, String.toList_append, List.append_assoc,
      List.head?_append_of_ne_nil _ hane] at hd
    exact ha (List.mem_of_head? hd)
  · intro d hd hslash
    rw [beq_iff_eq.1 hslash, String.toList_append, List.getLast?_append_of_ne_nil _ hbne] at hd
    exact hb (List.mem_of_getLast? hd)

namespace Site

/-- The folder of the page of a country. -/
def countryFolder (c : Country) : String :=
  Text.trimOf '/' (slug c.name)

/-- The folder of the page of a league. -/
def leagueFolder (c : Country) (l : League) : String :=
  Text.trimOf '/' (slug c.name ++ "/" ++ slug l.name)

/-- The folders of the pages of a site. -/
def folders (s : Site) : List String :=
  "" :: s.countries.flatMap fun c => countryFolder c :: c.leagues.map (leagueFolder c)

theorem map_folder_pages (s : Site) : s.pages.map Page.folder = s.folders := by
  have hleague (c : Country) (l : League) : (s.leaguePage c l).folder = leagueFolder c l := by
    have hpath : (s.leaguePage c l).path = "/" ++ (slug c.name ++ "/" ++ slug l.name) ++ "/" := by
      change "/" ++ slug c.name ++ "/" ++ slug l.name ++ "/" = _
      simp only [String.append_assoc]
    rw [Page.folder, hpath, Text.trimOf_slash_surrounded, leagueFolder]
  have hcountry (c : Country) : (s.countryPage c).folder = countryFolder c :=
    Text.trimOf_slash_surrounded (slug c.name)
  have hindex : s.indexPage.folder = "" := (by decide : Text.trimOf '/' "/" = "")
  simp only [pages, folders, countryPages, List.map_cons, List.map_flatMap, List.map_map,
    Function.comp_def, hindex, hcountry, hleague]

/-! ### Names without slashes -/

/-- No name of a country or a league has a slash. -/
def HasNoSlash (s : Site) : Prop :=
  ∀ c ∈ s.countries, '/' ∉ c.name.toList ∧ ∀ l ∈ c.leagues, '/' ∉ l.name.toList

/-- No name is empty, the countries have different slugs, and so have the leagues of each
country. -/
structure KeepsSlugsApart (s : Site) : Prop where
  country_name_ne : ∀ c ∈ s.countries, c.name ≠ ""
  league_name_ne : ∀ c ∈ s.countries, ∀ l ∈ c.leagues, l.name ≠ ""
  country_slugs : (s.countries.map fun c => slug c.name).Nodup
  league_slugs : ∀ c ∈ s.countries, (c.leagues.map fun l => slug l.name).Nodup

theorem countryFolder_of_name_eq {c : Country} (h : c.name = "") : countryFolder c = "" := by
  rw [countryFolder, h, slug_eq_empty_iff.2 rfl]
  decide

theorem leagueFolder_of_name_eq {c : Country} {l : League} (h : l.name = "") :
    leagueFolder c l = countryFolder c := by
  rw [leagueFolder, h, slug_eq_empty_iff.2 rfl, String.append_empty, countryFolder, Text.trimOf,
    String.toList_append, Text.trimOf]
  exact congrArg String.ofList (Text.trimWhile_concat (by decide))

section NoSlash

variable {c : Country} {l : League}

theorem slash_notMem_slug {name : String} (h : '/' ∉ name.toList) : '/' ∉ (slug name).toList := by
  rwa [mem_slug_iff (by decide) (by decide)]

theorem countryFolder_eq (h : '/' ∉ c.name.toList) : countryFolder c = slug c.name :=
  Text.trimOf_slash_eq_self (slash_notMem_slug h)

theorem leagueFolder_eq (hc : '/' ∉ c.name.toList) (hl : '/' ∉ l.name.toList)
    (hcne : c.name ≠ "") (hlne : l.name ≠ "") :
    leagueFolder c l = slug c.name ++ "/" ++ slug l.name :=
  Text.trimOf_slash_between (slash_notMem_slug hc) (slash_notMem_slug hl)
    (mt slug_eq_empty_iff.1 hcne) (mt slug_eq_empty_iff.1 hlne)

/-- The folders of a country begin with its slug. -/
theorem takeWhile_of_mem_folders (hc : '/' ∉ c.name.toList)
    (hleagues : ∀ l ∈ c.leagues, '/' ∉ l.name.toList ∧ l.name ≠ "") (hcne : c.name ≠ "")
    {folder : String} (h : folder ∈ countryFolder c :: c.leagues.map (leagueFolder c)) :
    folder.toList.takeWhile (· != '/') = (slug c.name).toList := by
  have hall : ∀ d ∈ (slug c.name).toList, d != '/' := by
    intro d hd
    rw [bne_iff_ne]
    rintro rfl
    exact slash_notMem_slug hc hd
  rcases List.mem_cons.1 h with rfl | h
  · rw [countryFolder_eq hc]
    exact List.takeWhile_eq_self_iff.2 hall
  · obtain ⟨l, hl, rfl⟩ := List.mem_map.1 h
    rw [leagueFolder_eq hc (hleagues l hl).1 hcne (hleagues l hl).2, String.append_assoc,
      String.toList_append, List.takeWhile_append_of_pos hall, String.toList_append]
    exact List.append_nil _

/-- The folders of one country are different when the names of its leagues have different slugs. -/
theorem nodup_countryFolders (hc : '/' ∉ c.name.toList)
    (hleagues : ∀ l ∈ c.leagues, '/' ∉ l.name.toList ∧ l.name ≠ "") (hcne : c.name ≠ "")
    (hslugs : (c.leagues.map fun l => slug l.name).Nodup) :
    (countryFolder c :: c.leagues.map (leagueFolder c)).Nodup := by
  have hfolder : ∀ l ∈ c.leagues, leagueFolder c l = slug c.name ++ "/" ++ slug l.name :=
    fun l hl => leagueFolder_eq hc (hleagues l hl).1 hcne (hleagues l hl).2
  refine List.nodup_cons.2 ⟨?_, ?_⟩
  · intro hmem
    obtain ⟨l, hl, heq⟩ := List.mem_map.1 hmem
    rw [hfolder l hl, countryFolder_eq hc] at heq
    have hslash : '/' ∈ (slug c.name ++ "/" ++ slug l.name).toList := by
      rw [String.toList_append, String.toList_append]
      exact List.mem_append_left _ (List.mem_append_right _ (by decide))
    rw [heq] at hslash
    exact slash_notMem_slug hc hslash
  · rw [List.Nodup, List.pairwise_map] at hslugs ⊢
    refine hslugs.imp_of_mem fun {l l'} hl hl' hne heq => hne ?_
    rw [hfolder l hl, hfolder l' hl'] at heq
    exact (String.append_right_inj _).1 heq

end NoSlash

/-- When the folders of a site are different, so are the slugs. -/
theorem keepsSlugsApart_of_nodup_folders {s : Site} (h : s.folders.Nodup) :
    s.KeepsSlugsApart := by
  obtain ⟨hindex, hflat⟩ := List.nodup_cons.1 h
  obtain ⟨hcountry, hdisjoint⟩ := List.nodup_flatMap.1 hflat
  refine ⟨?_, ?_, ?_, ?_⟩
  · intro c hc hname
    refine hindex (List.mem_flatMap.2 ⟨c, hc, ?_⟩)
    rw [countryFolder_of_name_eq hname]
    exact List.mem_cons_self
  · intro c hc l hl hname
    refine (List.nodup_cons.1 (hcountry c hc)).1 (List.mem_map.2 ⟨l, hl, ?_⟩)
    exact leagueFolder_of_name_eq hname
  · rw [List.Nodup, List.pairwise_map]
    refine hdisjoint.imp fun {c c'} hcc' hslug => ?_
    have hmem (c : Country) : countryFolder c ∈ countryFolder c :: c.leagues.map (leagueFolder c) :=
      List.mem_cons_self
    have hfolder : countryFolder c = countryFolder c' := congrArg (Text.trimOf '/') hslug
    exact hcc' (hmem c) (by rw [hfolder]; exact hmem c')
  · intro c hc
    have hleagues := (List.nodup_cons.1 (hcountry c hc)).2
    refine List.Nodup.of_map (fun name => Text.trimOf '/' (slug c.name ++ "/" ++ name)) ?_
    rwa [List.map_map]

/-- **For names without slashes, the folders of a site are different exactly when its slugs
are.** -/
theorem nodup_folders_iff {s : Site} (h : s.HasNoSlash) : s.folders.Nodup ↔ s.KeepsSlugsApart := by
  refine ⟨keepsSlugsApart_of_nodup_folders, fun hs => ?_⟩
  have hbegin : ∀ c ∈ s.countries, ∀ folder ∈ countryFolder c :: c.leagues.map (leagueFolder c),
      folder.toList.takeWhile (· != '/') = (slug c.name).toList := fun c hc folder hfolder =>
    takeWhile_of_mem_folders (h c hc).1
      (fun l hl => ⟨(h c hc).2 l hl, hs.league_name_ne c hc l hl⟩) (hs.country_name_ne c hc) hfolder
  refine List.nodup_cons.2 ⟨?_, List.nodup_flatMap.2 ⟨?_, ?_⟩⟩
  · intro hmem
    obtain ⟨c, hc, hfolder⟩ := List.mem_flatMap.1 hmem
    have hslug : slug c.name = "" := String.toList_eq_nil_iff.1 (hbegin c hc _ hfolder).symm
    exact hs.country_name_ne c hc (slug_eq_empty_iff.1 hslug)
  · intro c hc
    exact nodup_countryFolders (h c hc).1
      (fun l hl => ⟨(h c hc).2 l hl, hs.league_name_ne c hc l hl⟩) (hs.country_name_ne c hc)
      (hs.league_slugs c hc)
  · refine (List.pairwise_map.1 hs.country_slugs).imp_of_mem fun {c c'} hc hc' hne => ?_
    intro folder hfolder hfolder'
    refine hne (String.toList_injective ?_)
    rw [← hbegin c hc folder hfolder, hbegin c' hc' folder hfolder']

end Site

end Matchday
