import Matchday.Proofs.Effect
import Matchday.Proofs.Storage.Memory
import Mathlib.Logic.Relation

/-!
# Histories of shared memories

Requests reach a pool through handles, which it numbers as it gives them out.  Handles that were
cloned from one another share a memory, and no others do.  So a file that is read holds the bytes of
the latest write to its path through a handle that shares the memory, and the files of a memory are
those that were written this way.

A handle keeps its place for good, and what stands in a place is changed by writes to it only.
These two facts are proved for one request and carried along a history; the rest is read off the
last request that matters.

## Main definitions

* `Pool.Request`, `Pool.Reply`, `Pool.serve`: what can be asked of a pool, and what it replies.
* `Pool.after`, `Pool.replies`: the pool after requests, and the replies to them.
* `Pool.areIssued`: all requests go through handles that were given out before.
* `Pool.Shares`: two handles stem from one another by cloning.
* `Pool.IsLatest`, `Pool.IsWritten`: the latest write to a path, and whether there is one.
* `Pool.Answers`: a reply that fits the requests before it.

## Main results

* `Pool.place?_eq_iff_shares`: handles name the same memory when they share it.
* `Pool.content?_after`: what stands in a place was put there by the latest write to it.
* `Pool.replies_answer`: every reply in a history fits the requests before it.
-/

namespace Matchday.Pool

/-- A request to a pool.  Handles are numbered in the order in which they are given out. -/
inductive Request where
  | create
  | clone (handle : Nat)
  | write (handle : Nat) (path : String) (content : ByteArray)
  | read (handle : Nat) (path : String)
  | get (handle : Nat) (path : String)
  | paths (handle : Nat)

/-- What a call to the memories gives back. -/
inductive Reply where
  | handle (number : Nat)
  | written
  | content (result : Except SiteError ByteArray)
  | found (content : Option ByteArray)
  | listing (paths : List String)

/-- The reply to a request, and the pool after it. -/
def serve (pool : Pool) : Request → Reply × Pool
  | .create => (.handle pool.handles.length, pool.create)
  | .clone handle => (.handle pool.handles.length, pool.clone handle)
  | .write handle path content => (.written, pool.write handle path content)
  | .read handle path => (.content (pool.read handle path), pool)
  | .get handle path => (.found (pool.get? handle path), pool)
  | .paths handle => (.listing (pool.paths handle), pool)

/-- The replies to requests, one after another. -/
def replies (pool : Pool) : List Request → List Reply
  | [] => []
  | r :: rs => (pool.serve r).1 :: replies (pool.serve r).2 rs

/-- The pool after requests to an empty one. -/
def after (requests : List Request) : Pool :=
  requests.foldl (fun pool r => (pool.serve r).2) {}

/-! ### What histories say -/

/-- Whether a request is answered by a new handle. -/
def Request.isOpening : Request → Bool
  | create | clone _ => true
  | _ => false

/-- The handle that a request goes through. -/
def Request.handle? : Request → Option Nat
  | create => none
  | clone h | write h _ _ | read h _ | get h _ | paths h => some h

/-- The number of handles that are given out. -/
def handleCount (requests : List Request) : Nat :=
  requests.countP Request.isOpening

/-- Whether all requests go through handles that were given out before, of which there are `given`
at the start. -/
def areIssued (given : Nat) : List Request → Bool
  | [] => true
  | r :: rs => r.handle?.all (· < given) && areIssued (given + handleCount [r]) rs

/-- A handle was given out as a clone of another one. -/
def ClonedFrom (requests : List Request) (handle source : Nat) : Prop :=
  ∃ earlier later, requests = earlier ++ .clone source :: later ∧ handle = handleCount earlier

/-- Two handles stem from one another by cloning, over any number of other handles. -/
def Shares (requests : List Request) : Nat → Nat → Prop :=
  Relation.EqvGen (ClonedFrom requests)

/-- The latest write to a path through a handle, or through one that shares its memory. -/
def IsLatest (requests : List Request) (handle : Nat) (path : String) (content : ByteArray) :
    Prop :=
  ∃ earlier h later, requests = earlier ++ .write h path content :: later ∧
    Shares requests h handle ∧
    ∀ h' content', .write h' path content' ∈ later → ¬ Shares requests h' handle

/-- There is a write to a path through a handle, or through one that shares its memory. -/
def IsWritten (requests : List Request) (handle : Nat) (path : String) : Prop :=
  ∃ h content, .write h path content ∈ requests ∧ Shares requests h handle

/-- A reply that fits the requests before it. -/
def Answers (earlier : List Request) : Request → Reply → Prop
  | .create, .handle number | .clone _, .handle number => number = handleCount earlier
  | .write _ _ _, .written => True
  | .read h path, .content (.ok content) => IsLatest earlier h path content
  | .read h path, .content (.error e) =>
    ¬ IsWritten earlier h path ∧ e = .io s!"File not found: {path}"
  | .get h path, .found (some content) => IsLatest earlier h path content
  | .get h path, .found none => ¬ IsWritten earlier h path
  | .paths h, .listing paths =>
    paths.Pairwise (· < ·) ∧ ∀ path, path ∈ paths ↔ IsWritten earlier h path
  | _, _ => False

/-! ### Handles -/

variable {pool : Pool} {requests rs : List Request} {r : Request} {given h k : Nat}

theorem after_concat (requests : List Request) (r : Request) :
    after (requests ++ [r]) = ((after requests).serve r).2 :=
  List.foldl_concat ..

theorem handleCount_append (requests rs : List Request) :
    handleCount (requests ++ rs) = handleCount requests + handleCount rs :=
  List.countP_append

theorem areIssued_append : areIssued given (requests ++ rs) =
    (areIssued given requests && areIssued (given + handleCount requests) rs) := by
  induction requests generalizing given with
  | nil => simp [areIssued, handleCount]
  | cons r requests ih =>
    have hcount : handleCount (r :: requests) = handleCount [r] + handleCount requests :=
      handleCount_append [r] requests
    rw [List.cons_append, areIssued, areIssued, ih, hcount, Nat.add_assoc, Bool.and_assoc]

theorem areIssued_concat : areIssued 0 (requests ++ [r]) ↔
    areIssued 0 requests ∧ ∀ h, r.handle? = some h → h < handleCount requests := by
  simp [areIssued_append, areIssued, Option.all_eq_true]

/-- A request in a history goes through a handle that is given out in it. -/
theorem lt_handleCount_of_mem (hissued : areIssued 0 requests) (hr : r ∈ requests)
    (hh : r.handle? = some h) : h < handleCount requests := by
  induction requests using List.reverseRecOn with
  | nil => exact absurd hr List.not_mem_nil
  | append_singleton requests last ih =>
    obtain ⟨hearlier, hlast⟩ := areIssued_concat.1 hissued
    rw [handleCount_append]
    rcases List.mem_append.1 hr with hr | hr
    · exact Nat.lt_add_right _ (ih hearlier hr)
    · obtain rfl := List.mem_singleton.1 hr
      exact Nat.lt_add_right _ (hlast h hh)

theorem exists_place? (hh : h < pool.handles.length) : ∃ i, pool.place? h = some i :=
  ⟨_, List.getElem?_eq_getElem hh⟩

theorem length_handles_serve (hr : ∀ h, r.handle? = some h → h < pool.handles.length) :
    (pool.serve r).2.handles.length = pool.handles.length + handleCount [r] := by
  cases r with
  | clone h =>
    obtain ⟨i, hi⟩ := exists_place? (hr h rfl)
    simp [serve, clone, hi, handleCount, Request.isOpening]
  | _ => simp [serve, create, write, handleCount, Request.isOpening]

/-- The handles are those that were given out. -/
theorem length_handles_after (hissued : areIssued 0 requests) :
    (after requests).handles.length = handleCount requests := by
  induction requests using List.reverseRecOn with
  | nil => rfl
  | append_singleton requests r ih =>
    obtain ⟨hearlier, hr⟩ := areIssued_concat.1 hissued
    rw [after_concat, handleCount_append, length_handles_serve, ih hearlier]
    rwa [ih hearlier]

/-! ### Places -/

/-- **A handle keeps its place.** -/
theorem place?_serve (hh : h < pool.handles.length) :
    (pool.serve r).2.place? h = pool.place? h := by
  cases r with
  | create => exact List.getElem?_append_left hh
  | clone _ => exact List.getElem?_append_left hh
  | _ => rfl

theorem place?_after_concat (hissued : areIssued 0 requests) (hh : h < handleCount requests) :
    (after (requests ++ [r])).place? h = (after requests).place? h := by
  rw [after_concat]
  exact place?_serve (by rwa [length_handles_after hissued])

/-- Handles name memories that are there. -/
theorem lt_length_memories (hh : (after requests).place? h = some k) :
    k < (after requests).memories.length := by
  replace hh := List.mem_of_getElem? hh
  induction requests using List.reverseRecOn with
  | nil => exact absurd hh List.not_mem_nil
  | append_singleton requests r ih =>
    rw [after_concat] at hh ⊢
    cases r with
    | create =>
      rw [serve, create, List.mem_append, List.mem_singleton] at hh
      rw [serve, create, List.length_append, List.length_singleton]
      rcases hh with hh | rfl
      · exact Nat.lt_succ_of_lt (ih hh)
      · exact Nat.lt_succ_self _
    | clone source =>
      rw [serve, clone, List.mem_append, Option.mem_toList] at hh
      rcases hh with hh | hh
      · exact ih hh
      · exact ih (List.mem_of_getElem? hh)
    | write handle path content =>
      rw [serve, write]
      split
      · rw [List.length_modify]
        exact ih hh
      · exact ih hh
    | _ => exact ih hh

theorem place?_create : pool.create.place? pool.handles.length = some pool.memories.length := by
  simp [create, place?]

theorem place?_clone (hh : h < pool.handles.length) :
    (pool.clone h).place? pool.handles.length = pool.place? h := by
  obtain ⟨i, hi⟩ := exists_place? hh
  rw [place?, clone, hi]
  simp

/-! ### Memories that are shared -/

theorem clonedFrom_concat_iff : ClonedFrom (requests ++ [r]) h k ↔
    ClonedFrom requests h k ∨ r = .clone k ∧ h = handleCount requests := by
  constructor
  · rintro ⟨earlier, later, heq, rfl⟩
    rcases List.eq_nil_or_concat later with rfl | ⟨later, last, rfl⟩
    · obtain ⟨rfl, hr⟩ := List.append_inj' heq rfl
      exact .inr ⟨List.singleton_inj.1 hr, rfl⟩
    · rw [List.concat_eq_append, ← List.cons_append, ← List.append_assoc] at heq
      exact .inl ⟨earlier, later, (List.append_inj' heq rfl).1, rfl⟩
  · rintro (⟨earlier, later, rfl, rfl⟩ | ⟨rfl, rfl⟩)
    · exact ⟨earlier, later ++ [r], by simp, rfl⟩
    · exact ⟨requests, [], rfl, rfl⟩

theorem ClonedFrom.lt_handleCount (hissued : areIssued 0 requests)
    (hcloned : ClonedFrom requests h k) : h < handleCount requests ∧ k < handleCount requests := by
  obtain ⟨earlier, later, rfl, rfl⟩ := hcloned
  refine ⟨?_, lt_handleCount_of_mem hissued (by simp) (r := .clone k) rfl⟩
  rw [handleCount_append]
  exact Nat.lt_add_of_pos_right (List.countP_pos_iff.2 ⟨.clone k, List.mem_cons_self, rfl⟩)

theorem Shares.concat (r : Request) (hshares : Shares requests h k) :
    Shares (requests ++ [r]) h k :=
  Relation.EqvGen.mono (fun _ _ hcloned => clonedFrom_concat_iff.2 (.inl hcloned)) _ _ hshares

/-- A clone names the memory that its source names. -/
theorem place?_eq_of_clonedFrom (hissued : areIssued 0 requests)
    (hcloned : ClonedFrom requests h k) :
    (after requests).place? h = (after requests).place? k := by
  induction requests using List.reverseRecOn with
  | nil =>
    obtain ⟨earlier, later, heq, -⟩ := hcloned
    simp at heq
  | append_singleton requests r ih =>
    obtain ⟨hearlier, hr⟩ := areIssued_concat.1 hissued
    rcases clonedFrom_concat_iff.1 hcloned with hcloned | ⟨rfl, rfl⟩
    · obtain ⟨hh, hk⟩ := hcloned.lt_handleCount hearlier
      rw [place?_after_concat hearlier hh, place?_after_concat hearlier hk, ih hearlier hcloned]
    · have hk : k < handleCount requests := hr k rfl
      rw [place?_after_concat hearlier hk, after_concat, ← length_handles_after hearlier]
      exact place?_clone (by rwa [length_handles_after hearlier])

/-- The handle of a new memory has a place of its own. -/
theorem place?_after_create (hissued : areIssued 0 requests) :
    (after (requests ++ [.create])).place? (handleCount requests) =
      some (after requests).memories.length := by
  rw [after_concat, ← length_handles_after hissued]
  exact place?_create

/-- A new memory is named by no older handle. -/
theorem place?_after_create_ne (hissued : areIssued 0 requests) (hh : h < handleCount requests) :
    (after (requests ++ [.create])).place? h ≠
      (after (requests ++ [.create])).place? (handleCount requests) := by
  rw [place?_after_concat hissued hh, place?_after_create hissued]
  exact fun hplace => Nat.lt_irrefl _ (lt_length_memories hplace)

/-- When a handle is cloned, each handle shares its memory with one that was there before. -/
theorem exists_older_of_clone (hissued : areIssued 0 (requests ++ [.clone k]))
    (hh : h < handleCount requests + 1) :
    ∃ older < handleCount requests,
      (after (requests ++ [.clone k])).place? h = (after requests).place? older ∧
        Shares (requests ++ [.clone k]) h older := by
  obtain ⟨hearlier, hr⟩ := areIssued_concat.1 hissued
  rcases Nat.lt_succ_iff_lt_or_eq.1 hh with hh | rfl
  · exact ⟨h, hh, place?_after_concat hearlier hh, .refl h⟩
  · have hk : k < handleCount requests := hr k rfl
    have hcloned : ClonedFrom (requests ++ [.clone k]) (handleCount requests) k :=
      ⟨requests, [], rfl, rfl⟩
    refine ⟨k, hk, ?_, .rel _ _ hcloned⟩
    rw [place?_eq_of_clonedFrom hissued hcloned, place?_after_concat hearlier hk]

/-- Handles that name the same memory share it. -/
theorem shares_of_place?_eq (hissued : areIssued 0 requests) (hh : h < handleCount requests)
    (hk : k < handleCount requests)
    (heq : (after requests).place? h = (after requests).place? k) : Shares requests h k := by
  induction requests using List.reverseRecOn generalizing h k with
  | nil => exact absurd hh (Nat.not_lt_zero h)
  | append_singleton requests r ih =>
    have hearlier := (areIssued_concat.1 hissued).1
    -- Two handles that were there before share their memory already.
    have hold {a b : Nat} (ha : a < handleCount requests) (hb : b < handleCount requests)
        (hab : (after requests).place? a = (after requests).place? b) :
        Shares (requests ++ [r]) a b := (ih hearlier ha hb hab).concat r
    rw [handleCount_append] at hh hk
    cases r with
    | create =>
      rcases Nat.lt_succ_iff_lt_or_eq.1 hh with hh | rfl <;>
        rcases Nat.lt_succ_iff_lt_or_eq.1 hk with hk | rfl
      · rw [place?_after_concat hearlier hh, place?_after_concat hearlier hk] at heq
        exact hold hh hk heq
      · exact absurd heq (place?_after_create_ne hearlier hh)
      · exact absurd heq.symm (place?_after_create_ne hearlier hk)
      · exact .refl _
    | clone source =>
      obtain ⟨a, ha, hplace, hshares⟩ := exists_older_of_clone hissued hh
      obtain ⟨b, hb, hplace', hshares'⟩ := exists_older_of_clone hissued hk
      rw [hplace, hplace'] at heq
      exact .trans _ _ _ hshares (.trans _ _ _ (hold ha hb heq) (.symm _ _ hshares'))
    | _ =>
      rw [place?_after_concat hearlier hh, place?_after_concat hearlier hk] at heq
      exact hold hh hk heq

/-- **Handles name the same memory exactly when they share it.** -/
theorem place?_eq_iff_shares (hissued : areIssued 0 requests) (hh : h < handleCount requests)
    (hk : k < handleCount requests) :
    (after requests).place? h = (after requests).place? k ↔ Shares requests h k := by
  refine ⟨shares_of_place?_eq hissued hh hk, fun hshares => ?_⟩
  have hequivalence : Equivalence fun a b : Nat =>
      (after requests).place? a = (after requests).place? b :=
    ⟨fun _ => rfl, Eq.symm, Eq.trans⟩
  exact hequivalence.eqvGen_iff.1
    (Relation.EqvGen.mono (fun _ _ => place?_eq_of_clonedFrom hissued) _ _ hshares)

/-! ### Contents -/

/-- What a request puts under a path into the memory at a place. -/
def written? (pool : Pool) (place : Nat) (path : String) : Request → Option ByteArray
  | .write handle p content =>
    if pool.place? handle = some place ∧ p = path then some content else none
  | _ => none

/-- What stands under a path in the memory at a place. -/
def content? (pool : Pool) (place : Nat) (path : String) : Option ByteArray :=
  pool.memories[place]?.bind (·.get? path)

variable {place : Nat} {path : String} {content : ByteArray}

theorem get?_eq_bind (pool : Pool) (handle : Nat) (path : String) :
    pool.get? handle path = (pool.place? handle).bind (pool.content? · path) := by
  rw [get?, memory]
  cases pool.place? handle with
  | none => rfl
  | some i =>
    rw [Option.bind_some, Option.bind_some, content?]
    cases pool.memories[i]? <;> rfl

theorem read_of_get?_eq_some {handle : Nat} (h : pool.get? handle path = some content) :
    pool.read handle path = .ok content := by
  rw [get?] at h
  rw [read, Memory.readFile, h]

theorem read_of_get?_eq_none {handle : Nat} (h : pool.get? handle path = none) :
    pool.read handle path = .error (.io s!"File not found: {path}") := by
  rw [get?] at h
  rw [read, Memory.readFile, h]

theorem written?_eq_some_iff : pool.written? place path r = some content ↔
    ∃ handle, r = .write handle path content ∧ pool.place? handle = some place := by
  cases r with
  | write handle p c =>
    simp only [written?, Option.ite_none_right_eq_some, Option.some.injEq, Request.write.injEq]
    constructor
    · rintro ⟨⟨hplace, rfl⟩, rfl⟩
      exact ⟨handle, ⟨rfl, rfl, rfl⟩, hplace⟩
    · rintro ⟨_, ⟨rfl, rfl, rfl⟩, hplace⟩
      exact ⟨⟨hplace, rfl⟩, rfl⟩
  | _ => simp [written?]

/-- **One request changes what it writes**, and nothing else in any place. -/
theorem content?_serve (hplaces : ∀ h i, pool.place? h = some i → i < pool.memories.length) :
    (pool.serve r).2.content? place path =
      (pool.written? place path r).or (pool.content? place path) := by
  cases r with
  | create =>
    change (pool.create.memories[place]?).bind _ = (pool.memories[place]?).bind _
    rw [create, List.getElem?_append]
    split
    next => rfl
    next hge =>
      rw [List.getElem?_eq_none (Nat.not_lt.1 hge), List.getElem?_singleton]
      split <;> rfl
  | write handle p content =>
    rw [written?, content?, content?, serve, write]
    cases hplace : pool.place? handle with
    | none => simp
    | some i =>
      simp only [List.getElem?_modify, Option.some.injEq]
      by_cases hi : i = place
      · subst hi
        rw [List.getElem?_eq_getElem (hplaces handle i hplace)]
        by_cases hp : p = path <;> simp [Memory.writeFile, Table.get?_insert, hp]
      · simp [hi]
  | _ => rfl

theorem written?_congr {pool' : Pool}
    (hplace : ∀ h, r.handle? = some h → pool.place? h = pool'.place? h) :
    pool.written? place path r = pool'.written? place path r := by
  cases r with
  | write handle p content => rw [written?, written?, hplace handle rfl]
  | _ => rfl

/-- **What stands in a place was put there by the latest write to it**, where handles name the
places that they name in the end. -/
theorem content?_after {final : Pool} (hissued : areIssued 0 requests)
    (hfinal : ∀ h < handleCount requests, final.place? h = (after requests).place? h) :
    (after requests).content? place path =
      requests.reverse.findSome? (final.written? place path) := by
  induction requests using List.reverseRecOn with
  | nil => rfl
  | append_singleton requests r ih =>
    obtain ⟨hearlier, hr⟩ := areIssued_concat.1 hissued
    have hplace : ∀ h < handleCount requests, final.place? h = (after requests).place? h := by
      intro h hh
      rw [hfinal h (by rw [handleCount_append]; omega), place?_after_concat hearlier hh]
    have hlast : (after requests).written? place path r = final.written? place path r :=
      written?_congr fun h hh => (hplace h (hr h hh)).symm
    rw [List.reverse_concat, List.findSome?_cons, after_concat,
      content?_serve fun _ _ => lt_length_memories, ih hearlier hplace, hlast]
    cases final.written? place path r <;> rfl

/-! ### What is read -/

variable {handle : Nat}

/-- What a request of a history puts under a path into the memory of a handle. -/
theorem written?_after_eq_some_iff (hissued : areIssued 0 requests)
    (hhandle : handle < handleCount requests)
    (hplace : (after requests).place? handle = some place) (hr : r ∈ requests) :
    (after requests).written? place path r = some content ↔
      ∃ h, r = .write h path content ∧ Shares requests h handle := by
  rw [written?_eq_some_iff, ← hplace]
  refine exists_congr fun h => and_congr_right ?_
  rintro rfl
  exact place?_eq_iff_shares hissued (lt_handleCount_of_mem hissued hr rfl) hhandle

/-- The first hit from the end of a list is the last one. -/
theorem findSome?_reverse_eq_some_iff {α β : Type} {f : α → Option β} {l : List α} {b : β} :
    l.reverse.findSome? f = some b ↔
      ∃ front a back, l = front ++ a :: back ∧ f a = some b ∧ ∀ x ∈ back, f x = none := by
  rw [List.findSome?_eq_some_iff]
  constructor
  · rintro ⟨back, a, front, heq, ha, hback⟩
    refine ⟨front.reverse, a, back.reverse, ?_, ha, fun x hx => hback x (List.mem_reverse.1 hx)⟩
    rw [← l.reverse_reverse, heq]
    simp
  · rintro ⟨front, a, back, rfl, ha, hback⟩
    exact ⟨back.reverse, a, front.reverse, by simp, ha, fun x hx =>
      hback x (List.mem_reverse.1 hx)⟩

/-- **What is found under a path is the latest write to it.** -/
theorem get?_after_eq_some_iff (hissued : areIssued 0 requests)
    (hhandle : handle < handleCount requests) :
    (after requests).get? handle path = some content ↔ IsLatest requests handle path content := by
  obtain ⟨place, hplace⟩ := exists_place? (by rwa [length_handles_after hissued])
  rw [get?_eq_bind, hplace, Option.bind_some, content?_after hissued fun _ _ => rfl,
    findSome?_reverse_eq_some_iff]
  constructor
  · rintro ⟨earlier, r, later, hsplit, hwritten, hlater⟩
    have hr : r ∈ requests := by simp [hsplit]
    obtain ⟨h, rfl, hshares⟩ := (written?_after_eq_some_iff hissued hhandle hplace hr).1 hwritten
    refine ⟨earlier, h, later, hsplit, hshares, fun h' content' hmem hshares' => ?_⟩
    have hmem' : .write h' path content' ∈ requests := by simp [hsplit, hmem]
    have hwritten' :=
      (written?_after_eq_some_iff hissued hhandle hplace hmem').2 ⟨h', rfl, hshares'⟩
    cases (hlater _ hmem).symm.trans hwritten'
  · rintro ⟨earlier, h, later, hsplit, hshares, hlater⟩
    refine ⟨earlier, _, later, hsplit, ?_, fun q hq => ?_⟩
    · exact (written?_after_eq_some_iff hissued hhandle hplace (by simp [hsplit])).2
        ⟨h, rfl, hshares⟩
    · rw [Option.eq_none_iff_forall_ne_some]
      intro content' hcontent'
      obtain ⟨h', rfl, hshares'⟩ := (written?_after_eq_some_iff hissued hhandle hplace
        (by simp [hsplit, hq])).1 hcontent'
      exact hlater h' content' hq hshares'

/-- Nothing is found under a path that was not written. -/
theorem get?_after_eq_none_iff (hissued : areIssued 0 requests)
    (hhandle : handle < handleCount requests) :
    (after requests).get? handle path = none ↔ ¬ IsWritten requests handle path := by
  obtain ⟨place, hplace⟩ := exists_place? (by rwa [length_handles_after hissued])
  rw [get?_eq_bind, hplace, Option.bind_some, content?_after hissued fun _ _ => rfl,
    List.findSome?_eq_none_iff]
  constructor
  · rintro hnone ⟨h, content, hmem, hshares⟩
    have hwritten := (written?_after_eq_some_iff hissued hhandle hplace hmem).2 ⟨h, rfl, hshares⟩
    cases (hnone _ (List.mem_reverse.2 hmem)).symm.trans hwritten
  · intro hunwritten q hq
    rw [Option.eq_none_iff_forall_ne_some]
    intro content hcontent
    obtain ⟨h, rfl, hshares⟩ := (written?_after_eq_some_iff hissued hhandle hplace
      (List.mem_reverse.1 hq)).1 hcontent
    exact hunwritten ⟨h, content, List.mem_reverse.1 hq, hshares⟩

/-- **The files of a memory are those that were written**, in ascending order. -/
theorem mem_paths_after_iff (hissued : areIssued 0 requests)
    (hhandle : handle < handleCount requests) :
    path ∈ (after requests).paths handle ↔ IsWritten requests handle path := by
  rw [paths, Table.mem_keys_iff]
  change ((after requests).get? handle path).isSome ↔ _
  rw [Option.isSome_iff_ne_none, Ne, get?_after_eq_none_iff hissued hhandle, not_not]

theorem pairwise_paths (pool : Pool) (handle : Nat) : (pool.paths handle).Pairwise (· < ·) :=
  List.pairwise_map.2 (pool.memory handle).ascending

/-! ### Replies -/

/-- A request is served by the pool that the requests before it leave. -/
theorem getElem?_replies (earlier later : List Request) (r : Request) :
    (replies {} (earlier ++ r :: later))[earlier.length]? = some ((after earlier).serve r).1 :=
  getElem?_replies_of_cons (fun _ _ _ => rfl) ({} : Pool) earlier later r

/-- **One reply**: a pool replies to a request as the requests before it demand. -/
theorem answers_serve (hissued : areIssued 0 (requests ++ [r])) :
    Answers requests r ((after requests).serve r).1 := by
  obtain ⟨hearlier, hr⟩ := areIssued_concat.1 hissued
  cases r with
  | create => exact length_handles_after hearlier
  | clone source => exact length_handles_after hearlier
  | write handle path content => exact trivial
  | read handle path =>
    have hhandle : handle < handleCount requests := hr handle rfl
    rw [serve]
    cases hget : (after requests).get? handle path with
    | some content =>
      rw [read_of_get?_eq_some hget]
      exact (get?_after_eq_some_iff hearlier hhandle).1 hget
    | none =>
      rw [read_of_get?_eq_none hget]
      exact ⟨(get?_after_eq_none_iff hearlier hhandle).1 hget, rfl⟩
  | get handle path =>
    have hhandle : handle < handleCount requests := hr handle rfl
    rw [serve]
    cases hget : (after requests).get? handle path with
    | some content => exact (get?_after_eq_some_iff hearlier hhandle).1 hget
    | none => exact (get?_after_eq_none_iff hearlier hhandle).1 hget
  | paths handle =>
    exact ⟨pairwise_paths _ _, fun path => mem_paths_after_iff hearlier (hr handle rfl)⟩

/-- **Every reply in a history fits the requests before it**: a file that is read or found holds the
bytes of the latest write to its path through the same handle or through one that shares its memory,
no file is read or found that was not written this way, and the paths are in strictly ascending
order those that were. -/
theorem replies_answer {earlier later : List Request} {r : Request}
    (hissued : areIssued 0 (earlier ++ r :: later)) :
    ∃ reply, (replies {} (earlier ++ r :: later))[earlier.length]? = some reply ∧
      Answers earlier r reply := by
  refine ⟨_, getElem?_replies earlier later r, answers_serve ?_⟩
  rw [List.append_cons, areIssued_append, Bool.and_eq_true] at hissued
  exact hissued.1

/-- A file that is written again through a clone, next to one of the same name in another memory. -/
def overwritten : List Request :=
  [.create, .create, .write 0 "a.json" ⟨#[1]⟩, .clone 0, .write 1 "a.json" ⟨#[2]⟩,
    .write 2 "a.json" ⟨#[3]⟩, .write 0 "b.json" ⟨#[4]⟩]

theorem overwritten_answer :
    (replies {} (overwritten ++ [.get 0 "a.json", .paths 1]))[7]? =
        some (.found (some ⟨#[3]⟩)) ∧
      IsLatest overwritten 0 "a.json" ⟨#[3]⟩ := by
  have hissued : areIssued 0 (overwritten ++ .get 0 "a.json" :: [.paths 1]) := by decide
  obtain ⟨reply, hreply, hanswers⟩ := replies_answer hissued
  have hfound : (after overwritten).get? 0 "a.json" = some ⟨#[3]⟩ := by decide +kernel
  have hserved := getElem?_replies overwritten [.paths 1] (.get 0 "a.json")
  rw [serve, hfound] at hserved
  obtain rfl := Option.some.inj (hserved.symm.trans hreply)
  exact ⟨hserved, hanswers⟩

end Matchday.Pool
