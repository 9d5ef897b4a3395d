import Matchday.Text.Letter

/-!
# Shapes of dates, times and seasons

The textual shapes that rules ask for.  Digits are the ten ASCII digits, and a shape is that of a
whole text.

## Main definitions

* `Shape.seasonYears?`: the two years of a season `YYYY-YYYY`.
* `Shape.dateYear?`: the year of a date `YYYY-MM-DD`.
* `Shape.clock?`: the two pairs of digits of a time `NN:NN`.
* `Shape.isTimeOfDay`: a time from 00:00 to 23:59.
* `Shape.repeats`: the elements of a list whose key occurred before.

## Main results

* `Shape.mem_repeats`: what repeats is an element of the list.
-/

namespace Matchday.Shape

/-- The value of a digit. -/
def digit? (c : Char) : Option Nat :=
  if c.isDigit then some (c.toNat - '0'.toNat) else none

/-- The number that the characters write, when all of them are digits. -/
def number? (cs : List Char) : Option Nat :=
  cs.foldlM (fun n c => (digit? c).map (10 * n + ·)) 0

/-- The start year and the end year of a season. -/
def seasonYears? (season : String) : Option (Nat × Nat) :=
  match season.toList with
  | [a, b, c, d, '-', e, f, g, h] => do return (← number? [a, b, c, d], ← number? [e, f, g, h])
  | _ => none

/-- The year of a date.  Month and day are two digits each and nothing more is asked of them. -/
def dateYear? (date : String) : Option Nat :=
  match date.toList with
  | [a, b, c, d, '-', e, f, '-', g, h] =>
    if (number? [e, f, g, h]).isSome then number? [a, b, c, d] else none
  | _ => none

/-- Hours and minutes of a time written as two digits, a colon and two digits. -/
def clock? (time : String) : Option (Nat × Nat) :=
  match time.toList with
  | [a, b, ':', c, d] => do return (← number? [a, b], ← number? [c, d])
  | _ => none

/-- Whether a text is a time that a clock shows within a day. -/
def isTimeOfDay (time : String) : Bool :=
  match clock? time with
  | some (hours, minutes) => hours < 24 && minutes < 60
  | none => false

/-- Whether a text begins with something other than an uppercase letter. -/
def startsOtherwise (name : String) : Bool :=
  match name.toList with
  | [] => false
  | c :: _ => !Text.isUppercase c

/-- The first `n` characters. -/
def truncate (n : Nat) (name : String) : String :=
  String.ofList (name.toList.take n)

section Repeats

variable {α κ : Type} [DecidableEq κ]

/-- The elements whose key is in `seen` or belongs to an earlier element. -/
def repeatsAfter (key : α → κ) (seen : List κ) : List α → List α
  | [] => []
  | x :: xs =>
    if key x ∈ seen then x :: repeatsAfter key seen xs
    else repeatsAfter key (key x :: seen) xs

/-- The elements whose key belongs to an earlier element. -/
def repeats (key : α → κ) (xs : List α) : List α :=
  repeatsAfter key [] xs

theorem mem_repeatsAfter {key : α → κ} {seen : List κ} {xs : List α} {x : α}
    (h : x ∈ repeatsAfter key seen xs) : x ∈ xs := by
  induction xs generalizing seen with
  | nil => simp [repeatsAfter] at h
  | cons y ys ih =>
    simp only [repeatsAfter] at h
    split at h
    · rcases List.mem_cons.1 h with rfl | h
      · exact List.mem_cons_self
      · exact List.mem_cons_of_mem _ (ih h)
    · exact List.mem_cons_of_mem _ (ih h)

theorem mem_repeats {key : α → κ} {xs : List α} {x : α} (h : x ∈ repeats key xs) : x ∈ xs :=
  mem_repeatsAfter h

end Repeats

end Matchday.Shape
