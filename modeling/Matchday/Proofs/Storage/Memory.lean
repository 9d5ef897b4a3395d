import Matchday.Storage.Memory
import Mathlib.Data.List.Dedup
import Mathlib.Data.List.Induction

/-!
# Files stored in a memory

Files are written to a memory one after another, and some paths may be refused.  A path that is not
among those of the files keeps what it had.

## Main definitions

* `Memory.attempt`, `Memory.store`: a memory after the attempt to write a file, or several.

## Main results

* `Memory.get?_store_of_notMem`: the other paths of a memory keep their bytes.
* `Memory.get?_store`, `Memory.store_store`: the last file with a path counts, so that files may be
  stored again.
* `Memory.store_eq_store_filter`: files that are refused may as well be left out.
* `Memory.length_keys_store`: how many paths an empty memory has afterwards.
-/

namespace Matchday

namespace Table

variable {α : Type}

theorem nodup_keys (t : Table α) : t.keys.Nodup := by
  rw [keys, List.Nodup, List.pairwise_map]
  refine t.ascending.imp fun {a b} hlt heq => ?_
  rw [heq] at hlt
  exact String.lt_irrefl _ hlt

theorem mem_keys_iff {t : Table α} {key : String} : key ∈ t.keys ↔ (t.get? key).isSome := by
  rw [keys, get?]
  induction t.toList with
  | nil => simp [find?]
  | cons e rest ih =>
    obtain ⟨k, x⟩ := e
    by_cases hk : k = key
    · simp [find?, hk]
    · simp [find?, hk, Ne.symm hk, ih]

theorem mem_toList_iff {t : Table α} {key : String} {x : α} :
    (key, x) ∈ t.toList ↔ t.get? key = some x := by
  have hnodup := t.nodup_keys
  rw [keys] at hnodup
  rw [get?]
  generalize t.toList = l at hnodup ⊢
  induction l with
  | nil => simp [find?]
  | cons e rest ih =>
    obtain ⟨k, y⟩ := e
    rw [List.map_cons, List.nodup_cons] at hnodup
    have hrest : (key, x) ∈ rest ↔ find? key rest = some x := ih hnodup.2
    rw [find?, List.mem_cons, Prod.mk.injEq, hrest]
    split
    next hk =>
      subst hk
      have hother : find? k rest ≠ some x := fun h =>
        hnodup.1 (List.mem_map.2 ⟨_, hrest.2 h, rfl⟩)
      simp [hother, eq_comm]
    next hk => rw [or_iff_right fun h => hk h.1.symm]

theorem mem_keys_insert {t : Table α} {key k : String} {x : α} :
    k ∈ (t.insert key x).keys ↔ key = k ∨ k ∈ t.keys := by
  rw [mem_keys_iff, mem_keys_iff, get?_insert]
  split <;> simp [*]

end Table

namespace Memory

/-- A memory after the attempt to write a file. -/
def attempt (refuses : String → Bool) (memory : Memory) (file : String × ByteArray) : Memory :=
  if refuses file.1 then memory else memory.writeFile file.1 file.2

/-- A memory after the attempts to write files, one after another. -/
def store (refuses : String → Bool) (memory : Memory) (files : List (String × ByteArray)) :
    Memory :=
  files.foldl (attempt refuses) memory

variable {refuses : String → Bool} {memory : Memory} {path : String}

/-! ### One file -/

theorem get?_attempt_of_ne {file : String × ByteArray} (h : file.1 ≠ path) :
    (memory.attempt refuses file).get? path = memory.get? path := by
  rw [attempt]
  split
  · rfl
  · rw [writeFile, Table.get?_insert, if_neg h]

theorem mem_keys_attempt {file : String × ByteArray} :
    path ∈ (memory.attempt refuses file).keys ↔
      path ∈ memory.keys ∨ refuses path = false ∧ file.1 = path := by
  rw [attempt]
  split
  next hrefuses =>
    refine ⟨Or.inl, ?_⟩
    rintro (h | ⟨h, rfl⟩)
    · exact h
    · rw [hrefuses] at h
      contradiction
  next hrefuses =>
    rw [writeFile, Table.mem_keys_insert]
    constructor
    · rintro (rfl | h)
      · exact Or.inr ⟨Bool.eq_false_iff.2 hrefuses, rfl⟩
      · exact Or.inl h
    · rintro (h | ⟨-, h⟩)
      · exact Or.inr h
      · exact Or.inl h

/-! ### Several files -/

/-- **A path that is not among those of the stored files keeps its bytes.** -/
theorem get?_store_of_notMem {files : List (String × ByteArray)} (h : path ∉ files.map Prod.fst) :
    (memory.store refuses files).get? path = memory.get? path := by
  induction files generalizing memory with
  | nil => rfl
  | cons file files ih =>
    rw [List.map_cons, List.mem_cons, not_or] at h
    exact (ih h.2).trans (get?_attempt_of_ne (Ne.symm h.1))

theorem mem_keys_store {files : List (String × ByteArray)} :
    path ∈ (memory.store refuses files).keys ↔
      path ∈ memory.keys ∨ refuses path = false ∧ path ∈ files.map Prod.fst := by
  induction files generalizing memory with
  | nil => simp [store]
  | cons file files ih =>
    change path ∈ (store refuses (memory.attempt refuses file) files).keys ↔ _
    rw [ih, mem_keys_attempt, List.map_cons, List.mem_cons, or_assoc, ← and_or_left,
      eq_comm (a := path)]

/-- **What a memory holds under a path after files are stored**: the bytes of the last file with
this path, or what it held before when there is none or the path is refused. -/
theorem get?_store {files : List (String × ByteArray)} :
    (memory.store refuses files).get? path =
      if refuses path then memory.get? path
      else (files.reverse.lookup path).or (memory.get? path) := by
  induction files using List.reverseRecOn with
  | nil => simp [store]
  | append_singleton files file ih =>
    obtain ⟨key, content⟩ := file
    rw [store, List.foldl_concat, ← store, List.reverse_concat, List.lookup_cons]
    by_cases hkey : key = path
    · subst hkey
      cases hrefuses : refuses key with
      | true => simpa [attempt, hrefuses] using ih
      | false => simp [attempt, hrefuses, writeFile, Table.get?_insert]
    · rw [get?_attempt_of_ne hkey, ih, beq_false_of_ne (Ne.symm hkey)]

/-- **The last file with a path that is not refused is what a memory holds there.** -/
theorem get?_store_append_cons {before after : List (String × ByteArray)} {content : ByteArray}
    (hpath : refuses path = false) (hlast : path ∉ after.map Prod.fst) :
    (memory.store refuses (before ++ (path, content) :: after)).get? path = some content := by
  rw [store, List.foldl_append, List.foldl_cons]
  change (store refuses _ after).get? path = _
  rw [get?_store_of_notMem hlast, attempt, hpath]
  exact (Table.get?_insert ..).trans (if_pos rfl)

/-- **Files that are refused may as well be left out.** -/
theorem store_eq_store_filter (memory : Memory) (files : List (String × ByteArray)) :
    memory.store refuses files =
      memory.store (fun _ => false) (files.filter fun file => !refuses file.1) := by
  induction files generalizing memory with
  | nil => rfl
  | cons file files ih =>
    change store refuses (memory.attempt refuses file) files = _
    rw [ih, List.filter_cons, attempt]
    cases refuses file.1 <;> rfl

/-- Storing the same files again changes nothing. -/
theorem store_store (files : List (String × ByteArray)) :
    (memory.store refuses files).store refuses files = memory.store refuses files := by
  refine Table.ext_get? fun path => ?_
  rw [get?_store, get?_store]
  split
  · rfl
  · rw [← Option.or_assoc, Option.or_self]

/-- An empty memory gets as many paths as the stored files have. -/
theorem length_keys_store (files : List (String × ByteArray)) :
    (store (fun _ => false) .empty files).keys.length = (files.map Prod.fst).dedup.length := by
  refine List.Perm.length_eq ((List.perm_ext_iff_of_nodup (Table.nodup_keys _) ?_).2 ?_)
  · exact List.nodup_dedup _
  · intro path
    rw [mem_keys_store, List.mem_dedup]
    simp [Table.keys, Table.empty]

/-- An empty memory has a path for each stored file exactly when the paths of the files are
different. -/
theorem length_keys_store_eq_iff {files : List (String × ByteArray)} :
    (store (fun _ => false) .empty files).keys.length = files.length ↔
      (files.map Prod.fst).Nodup := by
  rw [length_keys_store, ← (List.length_map Prod.fst : (files.map Prod.fst).length = files.length)]
  constructor
  · intro h
    rw [← (List.dedup_sublist _).eq_of_length h]
    exact List.nodup_dedup _
  · intro h
    rw [List.dedup_eq_self.2 h]

end Memory

end Matchday
