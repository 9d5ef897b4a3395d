import Matchday.Command.Publish
import Matchday.Document.Sample
import Matchday.Proofs.Page.Folder
import Matchday.Proofs.Rule.Meaning
import Matchday.Proofs.Storage.Inside

/-!
# Sites inside a folder

The files of a site are named after the site, its countries and its leagues.  A slash in a name is
one in the path, and so are the dots between two slashes.  No rule looks at either, so whether the
files stay inside the output folder is up to the names.

## Main definitions

* `Site.outputFiles`: the files that a site is written to.
* `Path.LeadsDown`, `Site.NamesLeadDown`: names that lead to nothing above a folder.

## Main results

* `Site.isPlain_outputFiles_iff`: the files have plain paths exactly when the names lead down.
* `Site.namesLeadDown_of_hasNoSlash`: for a valid site, names without slashes lead down.
* `Site.outputFiles_inside`: which valid sites stay inside every folder that they are written to.
-/

namespace Matchday

/-! ### Paths that lead down -/

namespace Path

/-- A path that leads to the folder where it begins, or to something inside it.  The slashes at its
ends do not count. -/
def LeadsDown (path : String) : Prop :=
  Text.trimOf '/' path = "" ∨ IsPlain (Text.trimOf '/' path)

instance (path : String) : Decidable (LeadsDown path) :=
  inferInstanceAs (Decidable (_ ∨ _))

/-- Dots alone are special, so one other character makes a name. -/
theorem isName_of_mem {piece : String} {c : Char} (h : c ∈ piece.toList) (hc : c ≠ '.') :
    IsName piece := by
  refine ⟨?_, ?_, ?_⟩
  · rintro rfl
    contradiction
  · rintro rfl
    exact hc (List.mem_singleton.1 h)
  · rintro rfl
    have hdots : c ∈ List.replicate 2 '.' := h
    exact hc (List.eq_of_mem_replicate hdots)

theorem isPlain_append_slash_append {a b : String} :
    IsPlain (a ++ "/" ++ b) ↔ IsPlain a ∧ IsPlain b := by
  rw [IsPlain, pieces_append_slash_append, List.forall_mem_append, IsPlain, IsPlain]

theorem isPlain_of_notMem {piece : String} (h : '/' ∉ piece.toList) :
    IsPlain piece ↔ IsName piece := by
  rw [IsPlain, pieces_of_notMem h, List.forall_mem_singleton]

/-- An extension other than dots makes the last piece of a path a name. -/
theorem isPlain_append_iff {path extension : String} {c : Char} (hslash : '/' ∉ extension.toList)
    (h : c ∈ extension.toList) (hc : c ≠ '.') :
    IsPlain (path ++ extension) ↔ ∀ piece ∈ (pieces path).dropLast, IsName piece := by
  obtain ⟨ps, last, hps⟩ := (List.eq_nil_or_concat (pieces path)).resolve_left (pieces_ne_nil path)
  rw [List.concat_eq_append] at hps
  have hpiece : ∀ p ∈ ps ++ [last], '/' ∉ p.toList := fun p hp =>
    slash_notMem_of_mem_pieces (hps ▸ hp)
  rw [List.forall_mem_append, List.forall_mem_singleton] at hpiece
  have hlast : '/' ∉ (last ++ extension).toList := by
    rw [String.toList_append, List.mem_append, not_or]
    exact ⟨hpiece.2, hslash⟩
  have hname : IsName (last ++ extension) := by
    refine isName_of_mem ?_ hc
    rw [String.toList_append]
    exact List.mem_append_right _ h
  have hpieces : pieces (path ++ extension) = ps ++ [last ++ extension] := by
    by_cases hnil : ps = []
    · rw [hnil, List.nil_append] at hps
      rw [← intercalate_pieces path, hps, String.intercalate_singleton, pieces_of_notMem hlast,
        hnil, List.nil_append]
    · rw [← intercalate_pieces path, hps, intercalate_append hnil (List.cons_ne_nil _ _),
        String.intercalate_singleton, String.append_assoc, pieces_append_slash_append,
        pieces_intercalate hnil hpiece.1, pieces_of_notMem hlast]
  rw [IsPlain, hpieces, hps, List.dropLast_concat, List.forall_mem_append,
    List.forall_mem_singleton, and_iff_left hname]

/-! Names without slashes. -/

theorem leadsDown_of_notMem {name : String} (h : '/' ∉ name.toList)
    (hname : name ≠ "" → IsName name) : LeadsDown name := by
  rw [LeadsDown, Text.trimOf_slash_eq_self h, isPlain_of_notMem h]
  exact or_iff_not_imp_left.2 hname

theorem leadsDown_append_slash_append {a b : String} (ha : '/' ∉ a.toList) (hb : '/' ∉ b.toList)
    (haname : a ≠ "" → IsName a) (hbname : b ≠ "" → IsName b) : LeadsDown (a ++ "/" ++ b) := by
  by_cases hane : a = ""
  · have htrim : Text.trimOf '/' (a ++ "/" ++ b) = Text.trimOf '/' b := by
      rw [hane, Text.trimOf, String.toList_append, Text.trimOf]
      exact congrArg String.ofList (Text.trimWhile_cons (c := '/') (by decide))
    rw [LeadsDown, htrim]
    exact leadsDown_of_notMem hb hbname
  by_cases hbne : b = ""
  · have htrim : Text.trimOf '/' (a ++ "/" ++ b) = Text.trimOf '/' a := by
      rw [hbne, String.append_empty, Text.trimOf, String.toList_append, Text.trimOf]
      exact congrArg String.ofList (Text.trimWhile_concat (by decide))
    rw [LeadsDown, htrim]
    exact leadsDown_of_notMem ha haname
  rw [LeadsDown, Text.trimOf_slash_between ha hb hane hbne, isPlain_append_slash_append,
    isPlain_of_notMem ha, isPlain_of_notMem hb]
  exact Or.inr ⟨haname hane, hbname hbne⟩

end Path

theorem leadsDown_slug_iff {name : String} : Path.LeadsDown (slug name) ↔ Path.LeadsDown name := by
  rw [Path.LeadsDown, trimOf_slug, slug_eq_empty_iff, isPlain_slug_iff, Path.LeadsDown]

namespace Page

theorem pathIn_empty (p : Page) : p.pathIn "" = p.outputFile := by
  rw [pathIn, (by decide : Text.trimOf '/' "" = "")]
  exact if_pos rfl

theorem isPlain_outputFile_iff {p : Page} :
    Path.IsPlain p.outputFile ↔ p.folder = "" ∨ Path.IsPlain p.folder := by
  rw [outputFile, ← folder]
  split
  next hempty =>
    rw [String.isEmpty_iff] at hempty
    exact iff_of_true (by decide) (Or.inl hempty)
  next hne =>
    have hfile : p.folder ++ "/index.json" = p.folder ++ "/" ++ "index.json" := by
      rw [String.append_assoc]
      rfl
    rw [String.isEmpty_iff] at hne
    rw [hfile, Path.isPlain_append_slash_append, or_iff_right hne]
    exact and_iff_left (by decide)

end Page

namespace Site

/-- The files that a site is written to, those of its pages and the one of its model text. -/
def outputFiles (s : Site) : List String :=
  s.pages.map Page.outputFile ++ [s.name ++ ".fb"]

/-- The names of countries, and those of leagues behind them, lead down.  So does the name of the
site, whose last piece is no matter because an extension follows. -/
structure NamesLeadDown (s : Site) : Prop where
  country : ∀ c ∈ s.countries, Path.LeadsDown c.name
  league : ∀ c ∈ s.countries, ∀ l ∈ c.leagues, Path.LeadsDown (c.name ++ "/" ++ l.name)
  site : ∀ piece ∈ (Path.pieces s.name).dropLast, Path.IsName piece

/-- **The files of a site have plain paths exactly when its names lead down.** -/
theorem isPlain_outputFiles_iff {s : Site} :
    (∀ file ∈ s.outputFiles, Path.IsPlain file) ↔ s.NamesLeadDown := by
  have hcountry (c : Country) : (countryFolder c = "" ∨ Path.IsPlain (countryFolder c)) ↔
      Path.LeadsDown c.name := leadsDown_slug_iff
  have hleague (c : Country) (l : League) :
      (leagueFolder c l = "" ∨ Path.IsPlain (leagueFolder c l)) ↔
        Path.LeadsDown (c.name ++ "/" ++ l.name) := by
    rw [leagueFolder, ← slug_append_slash_append]
    exact leadsDown_slug_iff
  have hpages : (∀ p ∈ s.pages, Path.IsPlain p.outputFile) ↔
      ∀ c ∈ s.countries, Path.LeadsDown c.name ∧
        ∀ l ∈ c.leagues, Path.LeadsDown (c.name ++ "/" ++ l.name) := by
    have hfolders : (∀ p ∈ s.pages, Path.IsPlain p.outputFile) ↔
        ∀ folder ∈ s.folders, folder = "" ∨ Path.IsPlain folder := by
      rw [← map_folder_pages, List.forall_mem_map]
      exact forall₂_congr fun p _ => Page.isPlain_outputFile_iff
    rw [hfolders, folders, List.forall_mem_cons, List.forall_mem_flatMap,
      and_iff_right (Or.inl rfl)]
    refine forall₂_congr fun c _ => ?_
    rw [List.forall_mem_cons, List.forall_mem_map, hcountry]
    exact and_congr_right fun _ => forall₂_congr fun l _ => hleague c l
  have hmodel : Path.IsPlain (s.name ++ ".fb") ↔
      ∀ piece ∈ (Path.pieces s.name).dropLast, Path.IsName piece :=
    Path.isPlain_append_iff (c := 'f') (by decide) (by decide) (by decide)
  rw [outputFiles, List.forall_mem_append, List.forall_mem_map, List.forall_mem_singleton, hpages,
    hmodel]
  exact ⟨fun h => ⟨fun c hc => (h.1 c hc).1, fun c hc => (h.1 c hc).2, h.2⟩,
    fun h => ⟨fun c hc => ⟨h.country c hc, h.league c hc⟩, h.site⟩⟩

/-- A name that begins with an uppercase letter is not made of dots. -/
theorem isName_of_startsUppercase {name : String} (h : Shape.StartsUppercase name)
    (hne : name ≠ "") : Path.IsName name := by
  rw [Ne, ← String.toList_eq_nil_iff] at hne
  obtain ⟨c, cs, hcs⟩ := List.exists_cons_of_ne_nil hne
  have hupper : Text.isUppercase c = true := h c (by rw [hcs]; rfl)
  refine Path.isName_of_mem (c := c) (by rw [hcs]; exact List.mem_cons_self) ?_
  rintro rfl
  exact absurd hupper (by decide)

/-- **For a valid site, names without slashes lead down.** -/
theorem namesLeadDown_of_hasNoSlash {s : Site} (hvalid : RuleSet.standard.evaluate s = [])
    (h : s.HasNoSlash) (hsite : '/' ∉ s.name.toList) : s.NamesLeadDown := by
  have hrules : ∀ c ∈ s.countries, Shape.StartsUppercase c.name ∧
      ∀ l ∈ c.leagues, Shape.StartsUppercase l.name := by
    have hholds := RuleSet.standard_silent_iff.1 hvalid
    exact fun c hc => ⟨hholds (.country .nameStartsUppercase) c hc, fun l hl =>
      hholds (.league .nameStartsUppercase) l (List.mem_flatMap.2 ⟨c, hc, hl⟩)⟩
  refine ⟨fun c hc => ?_, fun c hc l hl => ?_, ?_⟩
  · exact Path.leadsDown_of_notMem (h c hc).1 (isName_of_startsUppercase (hrules c hc).1)
  · exact Path.leadsDown_append_slash_append (h c hc).1 ((h c hc).2 l hl)
      (isName_of_startsUppercase (hrules c hc).1) (isName_of_startsUppercase ((hrules c hc).2 l hl))
  · rw [Path.pieces_of_notMem hsite]
    exact List.forall_mem_nil _

/-! ### Writing -/

section Write

variable (disk : Disk) {base : String} (folder : Place)

theorem keeps_writePages_inside {pages : List Page} (hbase : base ≠ "")
    (h : ∀ p ∈ pages, Path.IsPlain p.outputFile) :
    Keeps (disk.SameOutside base folder)
      (writePages (Storage.folder Disk.fileSystem base) "" pages) := by
  rw [writePages]
  refine Keeps.mapM fun p hp => ?_
  rw [writePage, Page.pathIn_empty]
  exact (Disk.keeps_write_inside disk folder p.content hbase (h p hp)).bind fun _ => Keeps.pure _

theorem keeps_writeModel_inside (s : Site) {file : String} (hbase : base ≠ "")
    (h : Path.IsPlain file) :
    Keeps (disk.SameOutside base folder)
      (writeModel (Storage.folder Disk.fileSystem base) s file) := by
  rw [writeModel]
  exact (Disk.keeps_write_inside disk folder _ hbase h).bind fun _ => Keeps.pure _

theorem keeps_generate_inside (emitModel : Bool) {s : Site} (hbase : base ≠ "")
    (h : ∀ file ∈ s.outputFiles, Path.IsPlain file) :
    Keeps (disk.SameOutside base folder)
      (generate (Storage.folder Disk.fileSystem base) emitModel s) := by
  rw [outputFiles, List.forall_mem_append, List.forall_mem_map, List.forall_mem_singleton] at h
  rw [generate]
  refine (keeps_writePages_inside disk folder hbase h.1).bind fun pages => ?_
  split
  · exact (keeps_writeModel_inside disk folder s hbase h.2).bind fun _ => Keeps.pure _
  · exact Keeps.pure _

end Write

/-- **Which valid sites stay inside a folder.**  The files of a site have relative paths without
empty pieces and without dots exactly when its names lead down, as they do when none of them has a
slash.  Then the files name nothing outside the folder that they are written to, and writing them
changes nothing there. -/
theorem outputFiles_inside {s : Site} (hvalid : RuleSet.standard.evaluate s = []) :
    ((∀ file ∈ s.outputFiles, Path.IsPlain file) ↔ s.NamesLeadDown) ∧
    (s.HasNoSlash → '/' ∉ s.name.toList → s.NamesLeadDown) ∧
    (s.NamesLeadDown → ∀ (disk : Disk) (base : String) (folder : Place),
      disk.resolve base = .ok (folder, .folder) →
        (∀ file ∈ s.outputFiles, ∀ place entry,
          disk.resolve (Path.join base file) = .ok (place, entry) → folder <+: place) ∧
        ∀ emitModel, disk.SameOutside base folder
          ((generate (Storage.folder Disk.fileSystem base) emitModel s).run disk).2) := by
  refine ⟨isPlain_outputFiles_iff, namesLeadDown_of_hasNoSlash hvalid, ?_⟩
  intro hdown disk base folder hresolve
  have hplain := isPlain_outputFiles_iff.2 hdown
  have hleads := Disk.Leads.of_resolve hresolve
  have hbase : base ≠ "" := by
    obtain ⟨start, ps, hbegin, -⟩ := Disk.resolve_eq_ok_iff.1 hresolve
    exact (Disk.begin?_eq_ok_iff.1 hbegin).1.2
  refine ⟨fun file hfile place entry hplace => ?_, fun emitModel => ?_⟩
  · obtain ⟨start, ps, hbegin, -⟩ := Disk.resolve_eq_ok_iff.1 hplace
    have hfileLeads := hleads.of_extends (Path.extends_join hbase (hplain file hfile)) hbegin
    exact hfileLeads.isPrefix_of_resolve (hplain file hfile) hplace
  · exact keeps_generate_inside disk folder emitModel hbase hplain disk ⟨hleads, fun _ _ => rfl⟩

/-- The built-in site stays inside the folder that it is written to. -/
theorem sample_outputFiles_inside :
    RuleSet.standard.evaluate (sample "Results") = [] ∧
      (∀ file ∈ (sample "Results").outputFiles, Path.IsPlain file) ∧
      Disk.out.SameOutside "out" ["out"]
        ((generate (Storage.folder Disk.fileSystem "out") true (sample "Results")).run Disk.out).2
    := by
  have hvalid : RuleSet.standard.evaluate (sample "Results") = [] := by decide +kernel
  have hslash : (sample "Results").HasNoSlash := by
    unfold HasNoSlash
    decide +kernel
  obtain ⟨hplain, hdown, hinside⟩ := outputFiles_inside hvalid
  have hnames := hdown hslash (by decide)
  exact ⟨hvalid, hplain.2 hnames, (hinside hnames .out "out" ["out"] Disk.resolve_out).2 true⟩

/-- A site whose name leads up, and so does the name of its country. -/
def climbing : Site :=
  ofCountries "../evil" [{ sampleSpain with name := "Spain/../.." }]

/-- A valid site with files outside the folder that it is written to. -/
theorem climbing_leaves :
    RuleSet.standard.evaluate climbing = [] ∧
      "spain/../../index.json" ∈ climbing.outputFiles ∧ ¬ Path.IsPlain "spain/../../index.json" ∧
      "../evil.fb" ∈ climbing.outputFiles ∧ ¬ Path.IsPlain "../evil.fb" := by
  decide +kernel

end Site

end Matchday
