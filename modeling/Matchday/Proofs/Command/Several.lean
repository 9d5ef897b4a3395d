import Matchday.Command.Publish
import Matchday.Proofs.Document.RoundTrip
import Matchday.Proofs.Storage.Tree

/-!
# Publishing several documents

Several documents are published as if each of them were published by itself, one after another.
The faults of a document end the command only when it is the single one; in either case they leave
all files as they are.

## Main definitions

* `FileSystem.ReadsFaithfully`: reading changes nothing.
* `FileSystem.IsFaulty`: a document cannot be read or breaks a rule.
* `PublishOptions.forOne`, `PublishOptions.forAll`: the same options for one document, or several.
* `afterOne`, `afterAll`: the files after one document is published, or several.

## Main results

* `publish_several`: several documents are published like single ones, one after another.
-/

namespace Matchday

variable {σ : Type}

/-- Reading a file changes nothing. -/
def FileSystem.ReadsFaithfully (fs : FileSystem (StateM σ)) : Prop :=
  ∀ path s, ((fs.readFile path).run s).2 = s

/-- A document cannot be read, or it breaks a rule. -/
def FileSystem.IsFaulty (fs : FileSystem (StateM σ)) (s : σ) (path : String) : Prop :=
  ∀ site, (((Storage.folder fs "").loadSite path).run s).1 = .ok site →
    RuleSet.standard.evaluate site ≠ []

namespace PublishOptions

/-- The options for a single document, which has to be valid. -/
def forOne (o : PublishOptions) (path : String) : PublishOptions :=
  { o with source := .single path }

/-- The options for several documents. -/
def forAll (o : PublishOptions) (paths : List String) : PublishOptions :=
  { o with source := .several paths }

end PublishOptions

section Publish

variable (fs : FileSystem (StateM σ)) (o : PublishOptions)

/-- The files after a document has been published, with whatever result. -/
def afterOne (s : σ) (path : String) : σ :=
  ((publish fs (o.forOne path)).run s).2

/-- The files after several documents have been published. -/
def afterAll (s : σ) (paths : List String) : σ :=
  ((publish fs (o.forAll paths)).run s).2

theorem afterOne_eq (s : σ) (path : String) :
    afterOne fs o s path = ((publishDocument fs o path).run s).2 :=
  rfl

theorem afterAll_eq (s : σ) (paths : List String) :
    afterAll fs o s paths = ((paths.mapM (publishDocument fs o)).run s).2 :=
  rfl

/-- **Several documents change the files as single ones do**, one after another. -/
theorem afterAll_eq_foldl (s : σ) (paths : List String) :
    afterAll fs o s paths = paths.foldl (afterOne fs o) s := by
  induction paths generalizing s with
  | nil => rfl
  | cons path paths ih =>
    rw [List.foldl_cons, ← ih, afterAll_eq, afterAll_eq, afterOne_eq, List.mapM_cons]
    rfl

variable {fs}

/-- A document with faults leaves all files as they are. -/
theorem afterOne_of_isFaulty (hread : fs.ReadsFaithfully) {s : σ} {path : String}
    (hfaulty : fs.IsFaulty s path) : afterOne fs o s path = s := by
  have hload : Keeps (· = s) ((Storage.folder fs "").loadSite path) :=
    fun s' hs => (hread _ s').trans hs
  have hresult (s' : σ) (hs : s' = s) : ∀ site,
      (((Storage.folder fs "").loadSite path).run s').1 = .ok site →
        RuleSet.standard.evaluate site ≠ [] := by
    rw [hs]
    exact hfaulty
  have hkeeps : Keeps (· = s) (publishDocument fs o path) := by
    refine hload.bind_of (P := fun result => ∀ site, result = .ok site →
      RuleSet.standard.evaluate site ≠ []) hresult fun result hresult => ?_
    cases result with
    | error e => exact Keeps.pure _
    | ok site =>
      dsimp only
      split
      next hsilent => exact absurd hsilent (hresult site rfl)
      next => exact Keeps.pure _
  rw [afterOne_eq]
  exact hkeeps s rfl

/-- **Several documents are published as if each were published by itself.**  The files are those
after single documents, one after another; a document with faults changes no file, whether it is
the single one or one of several, and the command for several documents never fails. -/
theorem publish_several (hread : fs.ReadsFaithfully) (s : σ) (paths : List String) :
    afterAll fs o s paths = paths.foldl (afterOne fs o) s ∧
      (∀ path, fs.IsFaulty s path → afterOne fs o s path = s) ∧
      (∀ before path after, paths = before ++ path :: after →
        fs.IsFaulty (afterAll fs o s before) path →
          afterAll fs o s paths = afterAll fs o s (before ++ after)) ∧
      ((publish fs (o.forAll paths)).run s).1.exitCode = 0 := by
  refine ⟨afterAll_eq_foldl fs o s paths, fun path => afterOne_of_isFaulty o hread, ?_, rfl⟩
  rintro before path after rfl hfaulty
  rw [afterAll_eq_foldl] at hfaulty
  rw [afterAll_eq_foldl, afterAll_eq_foldl, List.foldl_append, List.foldl_append, List.foldl_cons,
    afterOne_of_isFaulty o hread hfaulty]

end Publish

/-! ### A disk with faulty documents -/

/-- Documents are published to a folder, with their model texts. -/
def PublishOptions.toOut : PublishOptions where
  source := .several []
  output := "out"
  emitModel := true
  verbose := false

namespace Disk

theorem readsFaithfully_fileSystem : fileSystem.ReadsFaithfully :=
  fun _ _ => rfl

/-- Documents are read from where their paths lead. -/
theorem loadSite_of_resolve {disk : Disk} {path : String} {place : Place} {content : ByteArray}
    (h : disk.resolve path = .ok (place, .file content)) :
    (((Storage.folder fileSystem "").loadSite path).run disk).1 = Site.ofFile path content := by
  have hjoin : Path.join "" path = path := if_pos (Bool.or_true _)
  have hread : (((Storage.folder fileSystem "").read path).run disk).1 = .ok content := by
    change (disk.readFile (Path.join "" path)).mapError _ = _
    rw [hjoin, readFile, h]
    rfl
  exact Storage.run_loadSite hread

/-- A disk with an empty folder, a document that cannot be read and one without a name. -/
def faulty : Disk where
  entries := [(["out"], .folder), (["broken.json"], .file "Results".toUTF8),
    (["unnamed.json"], .file (Site.json { name := "" }).compact.toUTF8)]

theorem isFaulty_broken : fileSystem.IsFaulty faulty "broken.json" := by
  have hresolve : faulty.resolve "broken.json" = .ok (["broken.json"], .file "Results".toUTF8) :=
    resolve_eq_ok_iff.2 ⟨[], ["broken.json"],
      begin?_eq_ok_iff.2 ⟨⟨⟨by decide, by decide⟩, by decide⟩, rfl, rfl⟩, rfl, rfl⟩
  have hbroken : (Site.ofJson "Results".toUTF8).isOk = false := by decide +kernel
  intro site hload
  rw [loadSite_of_resolve hresolve, Site.ofFile] at hload
  cases hread : Site.ofJson "Results".toUTF8 with
  | error e =>
    rw [hread] at hload
    cases hload
  | ok site' =>
    rw [hread] at hbroken
    cases hbroken

theorem isFaulty_unnamed : fileSystem.IsFaulty faulty "unnamed.json" := by
  have hresolve : faulty.resolve "unnamed.json" =
      .ok (["unnamed.json"], .file (Site.json { name := "" }).compact.toUTF8) :=
    resolve_eq_ok_iff.2 ⟨[], ["unnamed.json"],
      begin?_eq_ok_iff.2 ⟨⟨⟨by decide, by decide⟩, by decide⟩, rfl, rfl⟩, rfl, rfl⟩
  intro site hload
  rw [loadSite_of_resolve hresolve, Site.ofFile,
    Site.ofJson_eq_ok (.refl _ _) (Json.isText_compact _)] at hload
  obtain rfl := Except.ok.inj hload
  decide

/-- Documents with faults leave the disk as it is. -/
theorem publish_faulty :
    afterAll fileSystem .toOut faulty ["broken.json", "unnamed.json"] = faulty ∧
      ((publish fileSystem (PublishOptions.toOut.forAll ["broken.json", "unnamed.json"])).run
        faulty).1.exitCode = 0 := by
  obtain ⟨hfold, hone, -, hexit⟩ := publish_several .toOut readsFaithfully_fileSystem faulty
    ["broken.json", "unnamed.json"]
  refine ⟨?_, hexit⟩
  rw [hfold, List.foldl_cons, hone _ isFaulty_broken, List.foldl_cons, hone _ isFaulty_unnamed,
    List.foldl_nil]

end Disk

end Matchday
