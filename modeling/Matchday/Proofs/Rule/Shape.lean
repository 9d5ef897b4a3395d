import Matchday.Rule.Shape
import Mathlib.Data.List.Induction
import Mathlib.Data.List.Nodup
import Mathlib.Tactic.IntervalCases

/-!
# Readers of shapes against writers

A number of fixed width is written with zeros in front.  From this the texts of seasons, dates and
times are put together, and each reader of a shape accepts exactly the texts that its writer makes.

## Main definitions

* `Shape.padded`: a number in a fixed number of digits.
* `Shape.season`, `Shape.date`, `Shape.clock`: the written shapes.
* `Shape.IsSeason`, `Shape.IsDate`, `Shape.IsClock`: the texts of these shapes.

## Main results

* `Shape.number?_eq_some_iff`: digits are read as the number that they write.
* `Shape.seasonYears?_eq_some_iff`, `Shape.dateYear?_eq_some_iff`, `Shape.clock?_eq_some_iff`: the
  same for seasons, dates and times.
* `Shape.repeats_eq_nil_iff`: nothing repeats when all keys are different.
-/

namespace Matchday.Shape

/-! ### Numbers of fixed width -/

/-- The last `width` decimal digits of a number, with zeros in front if there are fewer. -/
def padded : (width n : Nat) → List Char
  | 0, _ => []
  | width + 1, n => padded width (n / 10) ++ [Nat.digitChar (n % 10)]

@[simp] theorem length_padded (width n : Nat) : (padded width n).length = width := by
  induction width generalizing n with
  | zero => rfl
  | succ width ih => simp [padded, ih]

theorem isDigit_of_mem_padded {width n : Nat} {c : Char} (h : c ∈ padded width n) :
    c.isDigit = true := by
  induction width generalizing n with
  | zero => exact absurd h List.not_mem_nil
  | succ width ih =>
    rcases List.mem_append.1 h with h | h
    · exact ih h
    · rw [List.mem_singleton.1 h, Nat.isDigit_digitChar, decide_eq_true_eq]
      exact Nat.mod_lt n (by decide)

theorem digit?_eq_some_iff {c : Char} {d : Nat} :
    digit? c = some d ↔ d < 10 ∧ c = Nat.digitChar d := by
  constructor
  · intro h
    simp only [digit?, Option.ite_none_right_eq_some, Option.some.injEq] at h
    obtain ⟨hc, rfl⟩ := h
    rw [Char.isDigit_iff_toNat] at hc
    change 48 ≤ c.toNat ∧ c.toNat ≤ 57 at hc
    change c.toNat - 48 < 10 ∧ c = Nat.digitChar (c.toNat - 48)
    refine ⟨by omega, Char.toNat_inj.1 ?_⟩
    rw [Nat.toNat_digitChar_of_lt_ten (by omega)]
    omega
  · rintro ⟨hd, rfl⟩
    interval_cases d <;> rfl

theorem number?_concat (cs : List Char) (c : Char) :
    number? (cs ++ [c]) =
      (number? cs).bind fun n => (digit? c).map (10 * n + ·) := by
  rw [number?, List.foldlM_append]
  simp [number?]

/-- **Digits are read as the number that they write.**  The number has no more digits than there
are characters, and the characters are its digits with zeros in front. -/
theorem number?_eq_some_iff {cs : List Char} {n : Nat} :
    number? cs = some n ↔ n < 10 ^ cs.length ∧ cs = padded cs.length n := by
  induction cs using List.reverseRecOn generalizing n with
  | nil =>
    simp only [number?, List.foldlM_nil, List.length_nil, pow_zero, padded, and_true]
    change some 0 = some n ↔ n < 1
    rw [Option.some.injEq]
    omega
  | append_singleton cs c ih =>
    simp only [number?_concat, Option.bind_eq_some_iff, Option.map_eq_some_iff, ih,
      digit?_eq_some_iff, List.length_append, List.length_singleton, padded, pow_succ]
    constructor
    · rintro ⟨m, ⟨hm, hcs⟩, d, ⟨hd, rfl⟩, rfl⟩
      have hdiv : (10 * m + d) / 10 = m := by omega
      have hmod : (10 * m + d) % 10 = d := by omega
      rw [hdiv, hmod, ← hcs]
      exact ⟨by omega, rfl⟩
    · rintro ⟨hn, h⟩
      obtain ⟨hcs, hc⟩ := List.append_inj h (length_padded _ _).symm
      refine ⟨n / 10, ⟨by omega, hcs⟩, n % 10, ⟨by omega, List.singleton_inj.1 hc⟩, by omega⟩

theorem number?_padded {width n : Nat} (h : n < 10 ^ width) :
    number? (padded width n) = some n := by
  rw [number?_eq_some_iff, length_padded]
  exact ⟨h, rfl⟩

/-- A number with as many digits as the width is written as it is. -/
theorem padded_eq_toDigits {width n : Nat} (hlow : 10 ^ width ≤ n) (hhigh : n < 10 ^ (width + 1)) :
    padded (width + 1) n = Nat.toDigits 10 n := by
  induction width generalizing n with
  | zero =>
    have hn : n < 10 := by simpa using hhigh
    rw [Nat.toDigits_of_lt_base hn, padded, padded, Nat.mod_eq_of_lt hn, List.nil_append]
  | succ width ih =>
    have hten : 10 ≤ n := (Nat.le_self_pow (by omega) 10).trans hlow
    rw [pow_succ] at hlow hhigh
    rw [padded, ih (by omega) (by omega), Nat.toDigits_of_base_le (by omega) hten]

/-- A text is read as a number when each of its characters is a digit. -/
theorem isSome_number?_iff {cs : List Char} :
    (number? cs).isSome ↔ ∀ c ∈ cs, (digit? c).isSome := by
  induction cs using List.reverseRecOn with
  | nil => simp [number?]
  | append_singleton cs c ih =>
    rw [List.forall_mem_append, ← ih, number?_concat]
    cases number? cs <;> simp

theorem isSome_number?_append (cs ds : List Char) :
    (number? (cs ++ ds)).isSome ↔ (number? cs).isSome ∧ (number? ds).isSome := by
  simp only [isSome_number?_iff, List.forall_mem_append]

/-! ### Seasons, dates and times -/

/-- The text `YYYY-YYYY` of a season. -/
def season (start stop : Nat) : List Char :=
  padded 4 start ++ '-' :: padded 4 stop

/-- The text `YYYY-MM-DD` of a date. -/
def date (year month day : Nat) : List Char :=
  padded 4 year ++ '-' :: padded 2 month ++ '-' :: padded 2 day

/-- The text `HH:MM` of a time. -/
def clock (hours minutes : Nat) : List Char :=
  padded 2 hours ++ ':' :: padded 2 minutes

theorem padded_two (n : Nat) : ∃ a b, padded 2 n = [a, b] :=
  ⟨_, _, rfl⟩

theorem padded_four (n : Nat) : ∃ a b c d, padded 4 n = [a, b, c, d] :=
  ⟨_, _, _, _, rfl⟩

/-- **A season is read exactly when it is written by two years of four digits.** -/
theorem seasonYears?_eq_some_iff {s : String} {start stop : Nat} :
    seasonYears? s = some (start, stop) ↔
      start < 10 ^ 4 ∧ stop < 10 ^ 4 ∧ s.toList = season start stop := by
  constructor
  · intro h
    simp only [seasonYears?] at h
    split at h
    next a b c d e f g h' hs =>
      simp only [bind, Option.bind_eq_some_iff, pure, Option.some.injEq, Prod.mk.injEq] at h
      obtain ⟨y, hy, z, hz, rfl, rfl⟩ := h
      obtain ⟨hy, habcd⟩ := number?_eq_some_iff.1 hy
      obtain ⟨hz, hefgh⟩ := number?_eq_some_iff.1 hz
      refine ⟨hy, hz, ?_⟩
      rw [hs, season]
      exact congrArg₂ (· ++ '-' :: ·) habcd hefgh
    next => simp at h
  · rintro ⟨hy, hz, hs⟩
    obtain ⟨a, b, c, d, habcd⟩ := padded_four start
    obtain ⟨e, f, g, h, hefgh⟩ := padded_four stop
    rw [season, habcd, hefgh] at hs
    have hy := number?_padded hy
    have hz := number?_padded hz
    rw [habcd] at hy
    rw [hefgh] at hz
    simp [seasonYears?, hs, hy, hz]

/-- **A date is read exactly when it is written by a year of four digits and two numbers of two
digits.** -/
theorem dateYear?_eq_some_iff {s : String} {year : Nat} :
    dateYear? s = some year ↔ year < 10 ^ 4 ∧
      ∃ month < 10 ^ 2, ∃ day < 10 ^ 2, s.toList = date year month day := by
  constructor
  · intro h
    simp only [dateYear?] at h
    split at h
    next a b c d e f g h' hs =>
      rw [Option.ite_none_right_eq_some] at h
      -- Month and day are tested as one number of four digits.
      obtain ⟨hef, hgh⟩ := (isSome_number?_append [e, f] [g, h']).1 h.1
      obtain ⟨month, hef⟩ := Option.isSome_iff_exists.1 hef
      obtain ⟨day, hgh⟩ := Option.isSome_iff_exists.1 hgh
      obtain ⟨hyear, habcd⟩ := number?_eq_some_iff.1 h.2
      obtain ⟨hmonth, hef⟩ := number?_eq_some_iff.1 hef
      obtain ⟨hday, hgh⟩ := number?_eq_some_iff.1 hgh
      refine ⟨hyear, month, hmonth, day, hday, ?_⟩
      calc s.toList = [a, b, c, d] ++ '-' :: [e, f] ++ '-' :: [g, h'] := hs
        _ = date year month day := by rw [habcd, hef, hgh]; rfl
    next => simp at h
  · rintro ⟨hyear, month, hmonth, day, hday, hs⟩
    obtain ⟨a, b, c, d, habcd⟩ := padded_four year
    obtain ⟨e, f, hef⟩ := padded_two month
    obtain ⟨g, h, hgh⟩ := padded_two day
    rw [date, habcd, hef, hgh] at hs
    have hyear := number?_padded hyear
    have hmonth := number?_padded hmonth
    have hday := number?_padded hday
    rw [habcd] at hyear
    rw [hef] at hmonth
    rw [hgh] at hday
    have hefgh : (number? [e, f, g, h]).isSome :=
      (isSome_number?_append [e, f] [g, h]).2 (by simp [hmonth, hday])
    simp [dateYear?, hs, hyear, hefgh]

/-- **A time is read exactly when it is written by two numbers of two digits.** -/
theorem clock?_eq_some_iff {s : String} {hours minutes : Nat} :
    clock? s = some (hours, minutes) ↔
      hours < 10 ^ 2 ∧ minutes < 10 ^ 2 ∧ s.toList = clock hours minutes := by
  constructor
  · intro h
    simp only [clock?] at h
    split at h
    next a b c d hs =>
      simp only [bind, Option.bind_eq_some_iff, pure, Option.some.injEq, Prod.mk.injEq] at h
      obtain ⟨x, hx, y, hy, rfl, rfl⟩ := h
      obtain ⟨hx, hab⟩ := number?_eq_some_iff.1 hx
      obtain ⟨hy, hcd⟩ := number?_eq_some_iff.1 hy
      refine ⟨hx, hy, ?_⟩
      rw [hs, clock]
      exact congrArg₂ (· ++ ':' :: ·) hab hcd
    next => simp at h
  · rintro ⟨hx, hy, hs⟩
    obtain ⟨a, b, hab⟩ := padded_two hours
    obtain ⟨c, d, hcd⟩ := padded_two minutes
    rw [clock, hab, hcd] at hs
    have hx := number?_padded hx
    have hy := number?_padded hy
    rw [hab] at hx
    rw [hcd] at hy
    simp [clock?, hs, hx, hy]

/-- A time of the day is written by fewer than 24 hours and fewer than 60 minutes. -/
theorem isTimeOfDay_iff {s : String} :
    isTimeOfDay s ↔ ∃ hours < 24, ∃ minutes < 60, s.toList = clock hours minutes := by
  constructor
  · intro h
    simp only [isTimeOfDay] at h
    split at h
    next hours minutes hs =>
      simp only [Bool.and_eq_true, decide_eq_true_eq] at h
      exact ⟨hours, h.1, minutes, h.2, (clock?_eq_some_iff.1 hs).2.2⟩
    next => simp at h
  · rintro ⟨hours, hh, minutes, hm, hs⟩
    have hs : clock? s = some (hours, minutes) :=
      clock?_eq_some_iff.2 ⟨by omega, by omega, hs⟩
    simp [isTimeOfDay, hs, hh, hm]

/-- A text is the season from `start` to `stop`. -/
def IsSeason (start stop : Nat) (s : String) : Prop :=
  start < 10 ^ 4 ∧ stop < 10 ^ 4 ∧ s.toList = season start stop

/-- A text is a date in a year. -/
def IsDate (year : Nat) (s : String) : Prop :=
  year < 10 ^ 4 ∧ ∃ month < 10 ^ 2, ∃ day < 10 ^ 2, s.toList = date year month day

/-- A text shows hours and minutes of two digits each, which need not be a time of the day. -/
def IsClock (hours minutes : Nat) (s : String) : Prop :=
  hours < 10 ^ 2 ∧ minutes < 10 ^ 2 ∧ s.toList = clock hours minutes

theorem seasonYears?_eq_none_iff {s : String} :
    seasonYears? s = none ↔ ¬ ∃ start stop, IsSeason start stop s := by
  rw [Option.eq_none_iff_forall_ne_some, Prod.forall]
  simp only [ne_eq, seasonYears?_eq_some_iff, not_exists, IsSeason]

theorem clock?_eq_none_iff {s : String} :
    clock? s = none ↔ ¬ ∃ hours minutes, IsClock hours minutes s := by
  rw [Option.eq_none_iff_forall_ne_some, Prod.forall]
  simp only [ne_eq, clock?_eq_some_iff, not_exists, IsClock]

/-! ### Beginnings and repetitions -/

/-- A name begins with an uppercase letter if it has any letters at all. -/
def StartsUppercase (name : String) : Prop :=
  ∀ c ∈ name.toList.head?, Text.isUppercase c

theorem startsOtherwise_eq_false_iff {name : String} :
    startsOtherwise name = false ↔ StartsUppercase name := by
  rw [startsOtherwise, StartsUppercase]
  cases name.toList <;> simp

section Repeats

variable {α κ : Type} [DecidableEq κ] {key : α → κ}

theorem repeatsAfter_eq_nil_iff {seen : List κ} {xs : List α} :
    repeatsAfter key seen xs = [] ↔ (xs.map key).Nodup ∧ ∀ x ∈ xs, key x ∉ seen := by
  induction xs generalizing seen with
  | nil => simp [repeatsAfter]
  | cons x xs ih =>
    simp only [repeatsAfter]
    by_cases hx : key x ∈ seen
    · simp [hx]
    · simp only [hx, if_false, ih, List.map_cons, List.nodup_cons, List.mem_map, List.mem_cons]
      grind

theorem repeatsAfter_map {β : Type} (f : β → α) {seen : List κ} {xs : List β} :
    repeatsAfter key seen (xs.map f) = (repeatsAfter (fun x => key (f x)) seen xs).map f := by
  induction xs generalizing seen with
  | nil => rfl
  | cons x xs ih =>
    simp only [List.map_cons, repeatsAfter, ih]
    split <;> rfl

/-- What repeats is found by the keys alone. -/
theorem repeats_map {β : Type} (f : β → α) {xs : List β} :
    repeats key (xs.map f) = (repeats (fun x => key (f x)) xs).map f :=
  repeatsAfter_map f

/-- **Nothing repeats exactly when all keys are different.** -/
theorem repeats_eq_nil_iff {xs : List α} : repeats key xs = [] ↔ (xs.map key).Nodup := by
  simp [repeats, repeatsAfter_eq_nil_iff]

end Repeats

end Matchday.Shape
