import Matchday.Proofs.Json.Field

/-!
# Integers of any length

An integer is written by its decimal digits and may have any number of them.  The reader of numbers
keeps what fits 64 bits; beyond that it gives a floating-point number or an error, and neither is an
integer of any type.  So a reader of integers gives the integer that is written or fails, and the
integers that it gives are those that the type has.  The same holds of a whole text that leads to
the integer.

## Main definitions

* `Has64Bits`: the integers of a type are among those of 64 bits.
* `textWith`: a text with an integer in it.

## Main results

* `exists_float_of_number_repr`: an integer beyond 64 bits is never read as an integer.
* `integer_repr_eq_ok`, `exists_error_of_integer_repr`: what a reader of integers makes of one.
* `Way.document_integer`: an integer of any length in the place of a number.
-/

namespace Matchday.Json

variable {α β : Type}

/-- Of the digits of a number beyond 64 bits some are left. -/
theorem significand_snd_ne_nil {n : Nat} {ds : List Char} (hn : n < 18446744073709551616)
    (hds : 18446744073709551616 ≤ Nat.ofDigitChars 10 ds n) : (significand n ds).2 ≠ [] := by
  induction ds generalizing n with
  | nil => exact absurd hn (Nat.not_lt.2 hds)
  | cons d ds ih =>
    rw [Nat.ofDigitChars_cons] at hds
    rw [significand]
    split
    next hlt => exact ih hlt hds
    next => exact List.cons_ne_nil d ds

/-- Digits beyond 64 bits give a floating-point number, if they give one at all. -/
theorem exists_float_of_unsignedNumber {n : Nat} (hn : 18446744073709551616 ≤ n) {rest : Source}
    (hrest : rest.EndsValue) {negative : Bool} {x : Number} {rest' : Source}
    (h : unsignedNumber negative ((Nat.toDigits 10 n).map some ++ rest) = .ok (x, rest')) :
    ∃ y, x = .float y := by
  have hvalue : Nat.ofDigitChars 10 (Nat.toDigits 10 n) 0 = n := Nat.ofDigitChars_ten_toDigits
  have hleft : (significand 0 (Nat.toDigits 10 n)).2 ≠ [] :=
    significand_snd_ne_nil (by decide) (hvalue.symm ▸ hn)
  rw [unsignedNumber_toDigits_of_pos (by omega) hrest, afterWhole_of_ne_nil hrest _ _ hleft] at h
  exact (exists_float_of_withExponent h).1

/-- **An integer beyond 64 bits is never read as an integer.** -/
theorem exists_float_of_number_repr {n : Int}
    (hn : n < -9223372036854775808 ∨ 18446744073709551616 ≤ n) {rest : Source}
    (hrest : rest.EndsValue) {x : Number} {rest' : Source}
    (h : number (n.repr.toList.map some ++ rest) = .ok (x, rest')) : ∃ y, x = .float y := by
  cases n with
  | ofNat m =>
    rw [number_repr_ofNat] at h
    have hm : 18446744073709551616 ≤ (m : Int) := by
      change (m : Int) < _ ∨ _ ≤ (m : Int) at hn
      omega
    exact exists_float_of_unsignedNumber (by omega) hrest h
  | negSucc m =>
    rw [number_repr_negSucc] at h
    by_cases hm : m + 1 < 18446744073709551616
    · -- Below zero there is one bit less, and what fits only without a sign is floating.
      rw [unsignedNumber_toDigits hm hrest, afterWhole_eq hrest, Bool.not_true,
        if_neg Bool.false_ne_true, if_pos (by simp; omega)] at h
      cases h
      exact ⟨_, rfl⟩
    · exact exists_float_of_unsignedNumber (Nat.not_lt.1 hm) hrest h

/-- The integers of a type are among those of 64 bits, signed below zero and unsigned above. -/
def Has64Bits (convert : Int → Option α) : Prop :=
  ∀ n, (convert n).isSome → -9223372036854775808 ≤ n ∧ n < 18446744073709551616

theorem has64Bits_toInt32? : Has64Bits toInt32? := by
  intro n h
  rw [toInt32?] at h
  split at h
  next hn => omega
  next => exact absurd h Bool.false_ne_true

theorem has64Bits_toUInt32? : Has64Bits toUInt32? := by
  intro n h
  rw [toUInt32?] at h
  split at h
  next hn => omega
  next => exact absurd h Bool.false_ne_true

section Integer

variable {wanted : String} {convert : Int → Option α} {n : Int} {rest : Source}

/-- An integer that a type has is read, however it is reached. -/
theorem integer_repr_eq_ok (hbits : Has64Bits convert) {x : α} (hx : convert n = some x)
    (hrest : rest.EndsValue) :
    integer wanted convert (n.repr.toList.map some ++ rest) = .ok (x, rest) := by
  obtain ⟨hlow, hhigh⟩ := hbits n (hx ▸ rfl)
  exact reads_integer hlow hhigh hx (.int n) isBlank_nil hrest

/-- **An integer that a type does not have is an error**, of however many digits it is. -/
theorem exists_error_of_integer_repr (hn : convert n = none) (hrest : rest.EndsValue) :
    ∃ e, integer wanted convert (n.repr.toList.map some ++ rest) = .error e := by
  have hread := integer_repr wanted convert n isBlank_nil rest
  rw [List.map_nil, List.nil_append] at hread
  rw [hread]
  cases hnumber : number (n.repr.toList.map some ++ rest) with
  | error e => exact ⟨e, bind_apply_of_eq_error hnumber⟩
  | ok read =>
    obtain ⟨x, rest'⟩ := read
    rw [bind_apply_of_eq_ok hnumber]
    by_cases hbits : -9223372036854775808 ≤ n ∧ n < 18446744073709551616
    · rw [number_repr hbits.1 hbits.2 hrest] at hnumber
      cases hnumber
      rw [ofNumber, hn]
      exact ⟨_, rfl⟩
    · obtain ⟨y, rfl⟩ := exists_float_of_number_repr (by omega) hrest hnumber
      exact ⟨_, rfl⟩

end Integer

/-! ### Integers at the end of a way -/

/-- A text with an integer in it. -/
def textWith (front : List Char) (n : Int) (back : List Char) : String :=
  String.ofList (front ++ n.repr.toList ++ back)

theorem startsValue_repr (n : Int) (rest : Source) :
    Source.StartsValue (n.repr.toList.map some ++ rest) := by
  obtain ⟨c, cs, hcons, hspace, hfirst⟩ := exists_repr_eq_cons n
  refine ⟨c, cs.map some ++ rest, by rw [hcons]; rfl, hspace, ?_⟩
  rintro rfl
  exact absurd hfirst (by decide)

namespace Way

variable {read : Reader α} {wanted : String} {convert : Int → Option β} {b u back : List Char}

/-- The integer of a text is read next at the end of a way, and then what follows it. -/
theorem exists_read_textWith (hskips : SkipsBlanks read) (w : Way read (integer wanted convert))
    (hb : IsBlank b) (hu : w.IsText u) (back : List Char) :
    ∃ next, w.place.Carries next ∧ ∀ n, read (.ofString (textWith (b ++ u) n back)) =
      (integer wanted convert >>= next) (n.repr.toList.map some ++ back.map some) := by
  obtain ⟨next, hnext, hread⟩ := (w.leads hu).exists_next
  refine ⟨next, hnext, fun n => ?_⟩
  have htext : Source.ofString (textWith (b ++ u) n back) =
      b.map some ++ (u.map some ++ (n.repr.toList.map some ++ back.map some)) := by
    simp [Source.ofString, textWith]
  rw [htext, hskips hb, hread (startsValue_repr n _)]

/-- **An integer of any length in the place of a number.**  If a text is read with some integer in
this place, then with every integer of the type, and the value differs in this place only.  With an
integer that the type does not have the text is not read. -/
theorem document_integer (hskips : SkipsBlanks read) (hbits : Has64Bits convert)
    (w : Way read (integer wanted convert)) (hb : IsBlank b) (hu : w.IsText u)
    (hback : Source.EndsValue (back.map some)) {m : Int} {x : α}
    (hvalid : document read (.ofString (textWith (b ++ u) m back)) = .ok x) (n : Int) :
    (∀ y, convert n = some y →
      document read (.ofString (textWith (b ++ u) n back)) = .ok (w.place.set y x) ∧
        w.place.get? (w.place.set y x) = some y) ∧
    (convert n = none →
      ∃ e, document read (.ofString (textWith (b ++ u) n back)) = .error e) := by
  obtain ⟨next, hnext, hread⟩ := w.exists_read_textWith hskips hb hu back
  have hnone {n : Int} (hn : convert n = none) :
      ∃ e, read (.ofString (textWith (b ++ u) n back)) = .error e := by
    obtain ⟨e, he⟩ := exists_error_of_integer_repr hn hback
    exact ⟨e, (hread n).trans (bind_apply_of_eq_error he)⟩
  have hsome {n : Int} {y : β} (hn : convert n = some y) :
      read (.ofString (textWith (b ++ u) n back)) = next y (back.map some) :=
    (hread n).trans (bind_apply_of_eq_ok (integer_repr_eq_ok hbits hn hback))
  obtain ⟨rest, hx, hblank⟩ := document_eq_ok_iff.1 hvalid
  -- The integer that the text is read with is one of the type.
  obtain ⟨y₀, hy₀⟩ : ∃ y₀, convert m = some y₀ := by
    refine Option.ne_none_iff_exists'.1 fun hm => ?_
    obtain ⟨e, he⟩ := hnone hm
    exact nomatch he.symm.trans hx
  refine ⟨fun y hy => ?_, fun hn => ?_⟩
  · have hy' := hnext.next_eq_ok ((hsome hy₀).symm.trans hx) y
    exact ⟨document_eq_ok_iff.2 ⟨rest, (hsome hy).trans hy', hblank⟩, hnext.get?_eq hy'⟩
  · obtain ⟨e, he⟩ := hnone hn
    refine ⟨e, ?_⟩
    rw [document, he]
    rfl

end Way

end Matchday.Json
