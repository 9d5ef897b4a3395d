import Matchday.Json.Basic
import Matchday.Json.Reader
import Matchday.Proofs.Effect
import Mathlib.Data.List.Basic
import Mathlib.Tactic.IntervalCases

/-!
# Texts and integers read back

A quoted text is read as the text that was quoted, and an integer of up to 64 bits as the integer
that was written.  Both readers stop where the value ends.

## Main definitions

* `Source.EndsValue`: what may stand behind a value.

## Main results

* `textTail_quoted`: reading a quoted text.
* `number_repr`: reading an integer.
-/

namespace Matchday.Json

/-! ### Texts -/

theorem hexDigit?_digitChar {n : Nat} (h : n < 16) : hexDigit? (some n.digitChar) = some n := by
  interval_cases n <;> rfl

/-- Four hexadecimal digits are read as the number that they write. -/
theorem quad_hexQuad {n : Nat} (h : n < 65536) (src : Source) :
    quad ((hexQuad n).map some ++ src) = .ok n := by
  have hdigits : ((hexQuad n).map some ++ src).take 4 = (hexQuad n).map some := rfl
  have hvalue : ((n / 4096 % 16 * 16 + n / 256 % 16) * 16 + n / 16 % 16) * 16 + n % 16 = n := by
    omega
  rw [quad, hdigits]
  simp only [hexQuad, List.map_cons, List.map_nil, hexDigit?_digitChar (Nat.mod_lt _ (by decide)),
    hvalue]

/-- An escaped control character is read as the character. -/
theorem escape_hexQuad {c : Char} (h : c.toNat < 32) (src : Source) :
    escape (some 'u' :: ((hexQuad c.toNat).map some ++ src)) = .ok (c, 5) := by
  have htrailing : isTrailingSurrogate c.toNat = false := by
    simp only [isTrailingSurrogate, Bool.and_eq_false_iff, decide_eq_false_iff_not]
    omega
  have hleading : isLeadingSurrogate c.toNat = false := by
    simp only [isLeadingSurrogate, Bool.and_eq_false_iff, decide_eq_false_iff_not]
    omega
  have hunicode : unicodeEscape ((hexQuad c.toNat).map some ++ src) = .ok (c, 4) := by
    rw [unicodeEscape, quad_hexQuad (by omega)]
    refine bind_eq_ok_iff.2 ⟨_, rfl, ?_⟩
    rw [htrailing, hleading, Char.ofNat_toNat]
    rfl
  rw [escape, hunicode]
  rfl

/-- An escape is passed over once its character is known. -/
theorem textUnits_escape {c : Char} (skipped : List Char) (src : Source)
    (h : escape (skipped.map some ++ src) = .ok (c, skipped.length)) :
    textUnits 0 (some '\\' :: (skipped.map some ++ src)) =
      (textUnits 0 src).map fun (inner, rest) => (some c :: inner, rest) := by
  have hskip : textUnits skipped.length (skipped.map some ++ src) = textUnits 0 src := by
    clear h
    induction skipped with
    | nil => rfl
    | cons d skipped ih => exact ih
  rw [textUnits, if_neg (by decide), if_pos rfl, h]
  change (do
    let (inner, rest) ← textUnits skipped.length (skipped.map some ++ src)
    return (some c :: inner, rest) : Except ReadError (Source × Source)) = _
  rw [hskip]
  cases textUnits 0 src <;> rfl

/-- A character of a quoted text is read back, whatever follows it. -/
theorem textUnits_escapeChar (c : Char) (src : Source) :
    textUnits 0 ((escapeChar c).map some ++ src) =
      (textUnits 0 src).map fun (inner, rest) => (some c :: inner, rest) := by
  rw [escapeChar]
  split_ifs with hquote hbackslash hb hf hn hr ht hcontrol
  · subst hquote; exact textUnits_escape ['"'] src rfl
  · subst hbackslash; exact textUnits_escape ['\\'] src rfl
  · subst hb; exact textUnits_escape ['b'] src rfl
  · subst hf; exact textUnits_escape ['f'] src rfl
  · subst hn; exact textUnits_escape ['n'] src rfl
  · subst hr; exact textUnits_escape ['r'] src rfl
  · subst ht; exact textUnits_escape ['t'] src rfl
  · exact textUnits_escape ('u' :: hexQuad c.toNat) src (escape_hexQuad hcontrol src)
  · have hplain : isControl (some c) = false := by
      rw [isControl, decide_eq_false_iff_not]
      exact hcontrol
    rw [List.map_cons, List.map_nil, List.singleton_append, textUnits,
      if_neg fun h => hquote (Option.some.inj h), if_neg fun h => hbackslash (Option.some.inj h),
      hplain, if_neg Bool.false_ne_true]
    cases textUnits 0 src <;> rfl

/-- The characters of a quoted text are read back up to the closing quote. -/
theorem textUnits_flatMap_escapeChar (cs : List Char) (rest : Source) :
    textUnits 0 ((cs.flatMap escapeChar).map some ++ some '"' :: rest) =
      .ok (cs.map some, rest) := by
  induction cs with
  | nil => rfl
  | cons c cs ih =>
    rw [List.flatMap_cons, List.map_append, List.append_assoc, textUnits_escapeChar, ih]
    rfl

theorem units?_map_some (cs : List Char) : units? (cs.map some) = some cs := by
  induction cs with
  | nil => rfl
  | cons c cs ih => rw [List.map_cons, units?, ih, Option.map_some]

/-- **A quoted text is read back**, its first quote being gone. -/
theorem textTail_quoted (s : String) (rest : Source) :
    textTail ((quoted s).tail.map some ++ rest) = .ok (s, rest) := by
  have htail : (quoted s).tail.map some ++ rest =
      (s.toList.flatMap escapeChar).map some ++ some '"' :: rest := by
    simp [quoted]
  rw [htail, textTail, textUnits_flatMap_escapeChar]
  refine bind_eq_ok_iff.2 ⟨_, rfl, ?_⟩
  dsimp only
  rw [units?_map_some]
  exact congrArg (fun t => Except.ok (t, rest)) (String.ofList_toList)

/-! ### Integers -/

/-- The characters that may follow a value. -/
def endMarks : List Char :=
  [' ', '\n', '\t', '\r', ',', ']', '\x7d']

/-- What stands behind a value: nothing, or a blank or a mark that ends it. -/
def Source.EndsValue (rest : Source) : Prop :=
  ∀ c ∈ rest.head?, ∃ mark ∈ endMarks, c = some mark

theorem Source.endsValue_nil : EndsValue [] :=
  nofun

theorem Source.endsValue_cons {mark : Char} (h : mark ∈ endMarks) (src : Source) :
    EndsValue (some mark :: src) := by
  rintro _ ⟨⟩
  exact ⟨mark, h, rfl⟩

theorem Source.EndsValue.isDigit_eq {rest : Source} (h : rest.EndsValue) {c : Option Char}
    (hc : c ∈ rest.head?) : isDigit c = false := by
  obtain ⟨mark, hmark, rfl⟩ := h c hc
  simp only [endMarks, List.mem_cons, List.not_mem_nil, or_false] at hmark
  rcases hmark with rfl | rfl | rfl | rfl | rfl | rfl | rfl <;> rfl

section Digits

variable {ds : List Char} {rest : Source}

theorem takeWhile_isDigit (hds : ∀ d ∈ ds, d.isDigit) (hrest : rest.EndsValue) :
    (ds.map some ++ rest).takeWhile isDigit = ds.map some := by
  have hstop : rest.takeWhile isDigit = [] := by
    cases rest with
    | nil => rfl
    | cons c rest => rw [List.takeWhile_cons, hrest.isDigit_eq rfl, if_neg Bool.false_ne_true]
  rw [List.takeWhile_append_of_pos, hstop, List.append_nil]
  rw [List.forall_mem_map]
  exact hds

theorem dropWhile_isDigit (hds : ∀ d ∈ ds, d.isDigit) (hrest : rest.EndsValue) :
    (ds.map some ++ rest).dropWhile isDigit = rest := by
  have hsplit := List.takeWhile_append_dropWhile (p := isDigit) (l := ds.map some ++ rest)
  rw [takeWhile_isDigit hds hrest] at hsplit
  exact List.append_cancel_left hsplit

theorem digits_eq (hds : ∀ d ∈ ds, d.isDigit) (hrest : rest.EndsValue) :
    digits (ds.map some ++ rest) = ds := by
  rw [digits, takeWhile_isDigit hds hrest, List.filterMap_map]
  exact List.filterMap_some

end Digits

theorem le_ofDigitChars (n : Nat) (ds : List Char) : n ≤ Nat.ofDigitChars 10 ds n := by
  induction ds generalizing n with
  | nil => exact le_rfl
  | cons d ds ih =>
    rw [Nat.ofDigitChars_cons]
    exact le_trans (by omega) (ih _)

/-- All digits of a number that fits 64 bits are used. -/
theorem significand_eq {n : Nat} {ds : List Char}
    (h : Nat.ofDigitChars 10 ds n < 18446744073709551616) :
    significand n ds = (Nat.ofDigitChars 10 ds n, []) := by
  induction ds generalizing n with
  | nil => rfl
  | cons d ds ih =>
    rw [Nat.ofDigitChars_cons] at h ⊢
    rw [significand, if_pos ((le_ofDigitChars _ ds).trans_lt h), ih h]

theorem exists_toDigits_eq_cons (n : Nat) :
    ∃ d ds, Nat.toDigits 10 n = d :: ds ∧ d.isDigit = true := by
  obtain ⟨d, ds, hcons⟩ := List.exists_cons_of_ne_nil (Nat.toDigits_ne_nil (n := n) (b := 10))
  exact ⟨d, ds, hcons,
    Nat.isDigit_of_mem_toDigits (by decide) (by decide) (hcons ▸ List.mem_cons_self)⟩

/-- Only zero is written with a zero in front. -/
theorem head?_toDigits_ne {n : Nat} (h : 0 < n) : (Nat.toDigits 10 n).head? ≠ some '0' := by
  induction n using Nat.strong_induction_on with
  | h n ih =>
    by_cases hn : n < 10
    · rw [Nat.toDigits_of_lt_base hn]
      interval_cases n <;> decide
    · rw [Nat.toDigits_of_base_le (by decide) (by omega),
        List.head?_append_of_ne_nil _ Nat.toDigits_ne_nil]
      exact ih (n / 10) (by omega) (by omega)

/-- A number whose digits end at the end of a value. -/
theorem afterWhole_eq {rest : Source} (hrest : rest.EndsValue) (negative : Bool) (n : Nat) :
    afterWhole negative n [] rest =
      if !negative then .ok (.int n, rest)
      else if n = 0 || 9223372036854775808 < n then .ok (.float (-Float.ofNat n), rest)
      else .ok (.int (-n), rest) := by
  cases rest with
  | nil => rfl
  | cons c rest =>
    obtain ⟨mark, hmark, rfl⟩ := hrest c rfl
    simp only [endMarks, List.mem_cons, List.not_mem_nil, or_false] at hmark
    rcases hmark with rfl | rfl | rfl | rfl | rfl | rfl | rfl <;> rfl

/-- Digits beyond 64 bits stand before a power of ten, even if no exponent is written. -/
theorem afterWhole_of_ne_nil {rest : Source} (hrest : rest.EndsValue) (negative : Bool) (n : Nat)
    {left : List Char} (hleft : left ≠ []) :
    afterWhole negative n left rest = withExponent negative n left.length rest := by
  cases rest with
  | nil => exact if_pos hleft
  | cons c rest =>
    obtain ⟨mark, hmark, rfl⟩ := hrest c rfl
    simp only [endMarks, List.mem_cons, List.not_mem_nil, or_false] at hmark
    rcases hmark with rfl | rfl | rfl | rfl | rfl | rfl | rfl <;> exact if_pos hleft

/-- The digits of a positive number are used as far as they fit 64 bits. -/
theorem unsignedNumber_toDigits_of_pos {n : Nat} (hpos : 0 < n) {rest : Source}
    (hrest : rest.EndsValue) (negative : Bool) :
    unsignedNumber negative ((Nat.toDigits 10 n).map some ++ rest) =
      afterWhole negative (significand 0 (Nat.toDigits 10 n)).1
        (significand 0 (Nat.toDigits 10 n)).2 rest := by
  have hdigits : ∀ d ∈ Nat.toDigits 10 n, d.isDigit := fun d hd =>
    Nat.isDigit_of_mem_toDigits (by decide) (by decide) hd
  obtain ⟨d, ds, hcons, hdigit⟩ := exists_toDigits_eq_cons n
  have hd : some d ≠ some '0' := by
    have hhead := head?_toDigits_ne hpos
    rwa [hcons] at hhead
  have hall := digits_eq hdigits hrest
  have hend : (ds.map some ++ rest).dropWhile isDigit = rest :=
    dropWhile_isDigit (fun d hd => hdigits d (hcons ▸ List.mem_cons_of_mem _ hd)) hrest
  rw [hcons] at hall ⊢
  rw [List.map_cons, List.cons_append] at hall ⊢
  rw [unsignedNumber.eq_def]
  dsimp only
  rw [if_neg hd, if_pos (show isDigit (some d) = true from hdigit), hall, hend]

/-- The digits of a number that fits 64 bits. -/
theorem unsignedNumber_toDigits {n : Nat} (hn : n < 18446744073709551616) {rest : Source}
    (hrest : rest.EndsValue) (negative : Bool) :
    unsignedNumber negative ((Nat.toDigits 10 n).map some ++ rest) =
      afterWhole negative n [] rest := by
  rcases Nat.eq_zero_or_pos n with rfl | hpos
  · rw [Nat.toDigits_zero]
    cases rest with
    | nil => rfl
    | cons c rest =>
      change (if isDigit c then _ else _) = _
      rw [hrest.isDigit_eq rfl, if_neg Bool.false_ne_true]
      rfl
  · have hvalue : Nat.ofDigitChars 10 (Nat.toDigits 10 n) 0 = n := Nat.ofDigitChars_ten_toDigits
    rw [unsignedNumber_toDigits_of_pos hpos hrest, significand_eq (hvalue.trans_lt hn), hvalue]

theorem toList_repr_negSucc (m : Nat) :
    (Int.negSucc m).repr.toList = '-' :: Nat.toDigits 10 (m + 1) := by
  change ("-" ++ (m + 1).repr).toList = _
  rw [String.toList_append, Nat.toList_repr]
  rfl

/-- A sign is read before the digits of a number below zero only. -/
theorem number_repr_ofNat (m : Nat) (rest : Source) :
    number ((Int.ofNat m).repr.toList.map some ++ rest) =
      unsignedNumber false ((Nat.toDigits 10 m).map some ++ rest) := by
  have hdigits : (Int.ofNat m).repr.toList = Nat.toDigits 10 m := Nat.toList_repr
  obtain ⟨d, ds, hcons, hdigit⟩ := exists_toDigits_eq_cons m
  have hd : d ≠ '-' := by
    rintro rfl
    exact absurd hdigit (by decide)
  rw [hdigits, hcons, List.map_cons, List.cons_append, number.eq_def]
  split
  next heq => exact absurd (Option.some.inj (List.cons.inj heq).1) hd
  next => rfl

theorem number_repr_negSucc (m : Nat) (rest : Source) :
    number ((Int.negSucc m).repr.toList.map some ++ rest) =
      unsignedNumber true ((Nat.toDigits 10 (m + 1)).map some ++ rest) := by
  rw [toList_repr_negSucc]
  rfl

/-- **An integer of 64 bits is read back**, signed below zero and unsigned above. -/
theorem number_repr {n : Int} (hlow : -9223372036854775808 ≤ n) (hhigh : n < 18446744073709551616)
    {rest : Source} (hrest : rest.EndsValue) :
    number (n.repr.toList.map some ++ rest) = .ok (.int n, rest) := by
  cases n with
  | ofNat m =>
    have hm : m < 18446744073709551616 := by
      have hcast : (m : Int) < 18446744073709551616 := hhigh
      omega
    rw [number_repr_ofNat, unsignedNumber_toDigits hm hrest, afterWhole_eq hrest, Bool.not_false,
      if_pos rfl]
    rfl
  | negSucc m =>
    have hm : m < 9223372036854775808 := by omega
    rw [number_repr_negSucc, unsignedNumber_toDigits (by omega) hrest, afterWhole_eq hrest,
      Bool.not_true, if_neg Bool.false_ne_true, if_neg (by simp; omega)]
    rfl

end Matchday.Json
