import Matchday.Text.Bytes
import Mathlib.Data.List.Basic

/-!
# Where a text can be cut

A text can be cut behind some bytes exactly when it is made of two texts, the first of which has
that many bytes.  The part between two positions is the text that the bytes there encode.

## Main results

* `splitBytes?_eq_some_iff`: the two parts of a text.
* `slice?_eq_some_iff`: the part between two positions.
* `slice?_zero_isSome`: a part from the start of a text ends where a character ends.
* `slice?_eq_some_iff_toUTF8`: the part between two positions by its bytes.
-/

namespace Matchday.Text

theorem byteSize_toList (s : String) : byteSize s.toList = s.utf8ByteSize := by
  have hlist (cs : List Char) : byteSize cs = (String.ofList cs).utf8ByteSize := by
    induction cs with
    | nil => rfl
    | cons c cs ih =>
      rw [byteSize, ih, String.ofList_cons, String.utf8ByteSize_append,
        String.utf8ByteSize_singleton]
  rw [hlist, String.ofList_toList]

theorem byteSize_append (cs ds : List Char) :
    byteSize (cs ++ ds) = byteSize cs + byteSize ds := by
  induction cs with
  | nil => rw [List.nil_append, byteSize, Nat.zero_add]
  | cons c cs ih => rw [List.cons_append, byteSize, byteSize, ih, Nat.add_assoc]

theorem splitBytes?_append (before after : List Char) :
    splitBytes? (byteSize before) (before ++ after) = some (before, after) := by
  induction before with
  | nil => cases after <;> rfl
  | cons c before ih =>
    obtain ⟨n, hn⟩ := Nat.exists_eq_add_of_lt c.utf8Size_pos
    have hsize : byteSize (c :: before) = n + byteSize before + 1 := by
      rw [byteSize]
      omega
    rw [hsize, List.cons_append, splitBytes?, if_pos (by omega),
      show n + byteSize before + 1 - c.utf8Size = byteSize before by omega, ih]
    rfl

/-- A text is cut behind its first `n` bytes. -/
theorem splitBytes?_eq_some_iff {n : Nat} {cs before after : List Char} :
    splitBytes? n cs = some (before, after) ↔ cs = before ++ after ∧ byteSize before = n := by
  refine ⟨splitBytes?_eq_some, ?_⟩
  rintro ⟨rfl, rfl⟩
  exact splitBytes?_append before after

/-- **The part of a text between two positions.** -/
theorem slice?_eq_some_iff {start stop : Nat} {s part : String} :
    slice? start stop s = some part ↔ ∃ before after, s = before ++ part ++ after ∧
      before.utf8ByteSize = start ∧ part.utf8ByteSize = stop - start := by
  constructor
  · intro h
    obtain ⟨⟨before, rest⟩, hbefore, h⟩ := Option.bind_eq_some_iff.1 h
    obtain ⟨⟨inner, after⟩, hinner, h⟩ := Option.bind_eq_some_iff.1 h
    obtain rfl := Option.some.inj h
    obtain ⟨hs, hstart⟩ := splitBytes?_eq_some hbefore
    obtain ⟨rfl, hstop⟩ := splitBytes?_eq_some hinner
    refine ⟨.ofList before, .ofList after, ?_, ?_, ?_⟩
    · rw [← String.toList_inj, hs]
      simp
    · rw [← byteSize_toList, String.toList_ofList, hstart]
    · rw [← byteSize_toList, String.toList_ofList, hstop]
  · rintro ⟨before, after, rfl, hstart, hstop⟩
    rw [← byteSize_toList] at hstart hstop
    have hbefore : splitBytes? start (before ++ part ++ after).toList =
        some (before.toList, part.toList ++ after.toList) :=
      splitBytes?_eq_some_iff.2 ⟨by simp, hstart⟩
    have hinner : splitBytes? (stop - start) (part.toList ++ after.toList) =
        some (part.toList, after.toList) :=
      splitBytes?_eq_some_iff.2 ⟨rfl, hstop⟩
    rw [slice?, hbefore]
    simp [hinner]

/-- **A part from the start of a text** is there exactly when a character ends behind its bytes. -/
theorem slice?_zero_isSome (n : Nat) (s : String) :
    (slice? 0 n s).isSome = String.Pos.Raw.isValid s ⟨n⟩ := by
  rw [Bool.eq_iff_iff, Option.isSome_iff_exists, String.Pos.Raw.isValid_eq_true_iff,
    String.Pos.Raw.isValid_iff_exists_append]
  constructor
  · rintro ⟨part, h⟩
    obtain ⟨before, after, rfl, hbefore, hpart⟩ := slice?_eq_some_iff.1 h
    have hsize : n = (before ++ part).utf8ByteSize := by
      rw [String.utf8ByteSize_append]
      omega
    exact ⟨before ++ part, after, rfl, congrArg String.Pos.Raw.mk hsize⟩
  · rintro ⟨part, after, rfl, hpos⟩
    have hsize : n = part.utf8ByteSize := congrArg String.Pos.Raw.byteIdx hpos
    exact ⟨part, slice?_eq_some_iff.2 ⟨"", after, by rw [String.empty_append], rfl, hsize.symm⟩⟩

/-! ### Bytes -/

theorem extract_toUTF8_append (before part after : String) :
    (before ++ part ++ after).toUTF8.extract before.utf8ByteSize
      (before.utf8ByteSize + part.utf8ByteSize) = part.toUTF8 := by
  simp only [String.toUTF8_eq_toByteArray, String.append_assoc, String.toByteArray_append]
  have hbefore : (before.toByteArray ++ (part.toByteArray ++ after.toByteArray)).extract
      (before.utf8ByteSize + 0) (before.utf8ByteSize + part.utf8ByteSize) =
      (part.toByteArray ++ after.toByteArray).extract 0 part.utf8ByteSize :=
    ByteArray.extract_append_size_add
  rw [Nat.add_zero] at hbefore
  rw [hbefore]
  exact ByteArray.extract_append_eq_left rfl

/-- A text that can be cut at two positions has a part between them. -/
theorem exists_append_of_isValid {start stop : Nat} {s : String} (h : start ≤ stop)
    (hstart : String.Pos.Raw.IsValid s ⟨start⟩) (hstop : String.Pos.Raw.IsValid s ⟨stop⟩) :
    ∃ before part after, s = before ++ part ++ after ∧ before.utf8ByteSize = start ∧
      part.utf8ByteSize = stop - start := by
  obtain ⟨before, rest, rfl, hbefore⟩ := String.Pos.Raw.isValid_iff_exists_append.1 hstart
  obtain rfl : start = before.utf8ByteSize := congrArg String.Pos.Raw.byteIdx hbefore
  rcases String.Pos.Raw.isValid_append.1 hstop with hinside | ⟨-, hrest⟩
  · -- The second position is not behind the first one.
    have hle : stop ≤ before.utf8ByteSize := hinside.le_utf8ByteSize
    refine ⟨before, "", rest, by simp, rfl, ?_⟩
    rw [String.utf8ByteSize_empty]
    omega
  · obtain ⟨part, after, rfl, hpart⟩ := String.Pos.Raw.isValid_iff_exists_append.1 hrest
    have hsize : stop - before.utf8ByteSize = part.utf8ByteSize :=
      congrArg String.Pos.Raw.byteIdx hpart
    exact ⟨before, part, after, by rw [String.append_assoc], rfl, hsize.symm⟩

/-- **The part between two positions is what the bytes there encode**, and it is there exactly when
the text can be cut at both positions. -/
theorem slice?_eq_some_iff_toUTF8 {start stop : Nat} {s part : String} (h : start ≤ stop) :
    slice? start stop s = some part ↔
      String.Pos.Raw.IsValid s ⟨start⟩ ∧ String.Pos.Raw.IsValid s ⟨stop⟩ ∧
        part.toUTF8 = s.toUTF8.extract start stop := by
  rw [slice?_eq_some_iff]
  constructor
  · rintro ⟨before, after, rfl, rfl, hpart⟩
    obtain rfl : stop = before.utf8ByteSize + part.utf8ByteSize := by omega
    refine ⟨?_, ?_, (extract_toUTF8_append before part after).symm⟩
    · exact String.Pos.Raw.isValid_iff_exists_append.2
        ⟨before, part ++ after, by rw [String.append_assoc], rfl⟩
    · refine String.Pos.Raw.isValid_iff_exists_append.2 ⟨before ++ part, after, rfl, ?_⟩
      rw [← String.utf8ByteSize_append]
      rfl
  · rintro ⟨hstart, hstop, hpart⟩
    obtain ⟨before, part', after, rfl, rfl, hsize⟩ := exists_append_of_isValid h hstart hstop
    obtain rfl : stop = before.utf8ByteSize + part'.utf8ByteSize := by omega
    rw [extract_toUTF8_append, String.toUTF8_eq_toByteArray, String.toUTF8_eq_toByteArray,
      String.toByteArray_inj] at hpart
    subst hpart
    exact ⟨before, after, rfl, rfl, hsize⟩

end Matchday.Text
