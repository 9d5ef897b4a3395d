/-!
# Cutting text by bytes

Positions in a text count the bytes of its UTF-8 form.  A position inside a character is no place
to cut.

## Main definitions

* `Text.splitBytes?`: a text in two parts, the first of a given number of bytes.
* `Text.slice?`: the part of a text between two positions.

## Main results

* `Text.splitBytes?_eq_some`: the parts make up the text, and the first has the given size.
-/

namespace Matchday.Text

/-- The number of bytes of some characters. -/
def byteSize : List Char → Nat
  | [] => 0
  | c :: cs => c.utf8Size + byteSize cs

/-- Cuts a text behind its first `n` bytes. -/
def splitBytes? : Nat → List Char → Option (List Char × List Char)
  | 0, cs => some ([], cs)
  | _ + 1, [] => none
  | n + 1, c :: cs =>
    if c.utf8Size ≤ n + 1 then
      (splitBytes? (n + 1 - c.utf8Size) cs).map fun (before, after) => (c :: before, after)
    else none

/-- The part of a text from byte `start` to byte `stop`. -/
def slice? (start stop : Nat) (s : String) : Option String := do
  let (_, rest) ← splitBytes? start s.toList
  let (part, _) ← splitBytes? (stop - start) rest
  return String.ofList part

theorem splitBytes?_eq_some {n : Nat} {cs before after : List Char}
    (h : splitBytes? n cs = some (before, after)) :
    cs = before ++ after ∧ byteSize before = n := by
  induction cs generalizing n before with
  | nil =>
    cases n with
    | zero => simp [splitBytes?] at h; simp [h, byteSize]
    | succ n => simp [splitBytes?] at h
  | cons c cs ih =>
    cases n with
    | zero => simp [splitBytes?] at h; simp [h, byteSize]
    | succ n =>
      simp only [splitBytes?] at h
      split at h
      next hc =>
        obtain ⟨⟨b, a⟩, hb, heq⟩ := Option.map_eq_some_iff.1 h
        obtain ⟨rfl, rfl⟩ := Prod.mk.inj heq
        obtain ⟨rfl, hsize⟩ := ih hb
        refine ⟨rfl, ?_⟩
        simp only [byteSize] at hsize ⊢
        omega
      next => simp at h

end Matchday.Text
