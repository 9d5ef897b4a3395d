import Matchday.Proofs.Fixture.Played
import Matchday.Proofs.Rule.Meaning

/-!
# Dates and times of time stamps

The date and the time of a match are cut from the time stamp of a fixture at fixed positions.
Positions count bytes, so a cut can fall inside a character: without the cut behind the date the
fixture is left out, without one of the cuts around the time the time is unknown.  Where a stamp
writes a date and a time of the day with one byte between them, all cuts are there, since digits and
signs have one byte each, and the match has this date and this time whatever follows them.

## Main definitions

* `Fixture.HasTime`: whether a time stamp is long enough for a time and can be cut around it.
* `Fixture.IsCut`: a date and a time cut from a time stamp.
* `Fixture.Writes`: a time stamp that writes a date and a time of the day.
* `Fixture.IsAt`: a match at the date and the time of a time stamp.
* `Fixture.isScored`: whether a fixture tells the score and who played.

## Main results

* `Fixture.Writes.dateOf?`, `Fixture.Writes.timeOf`: what is written is cut out as it is.
* `Fixture.Shows.isAt`: the match of a fixture is at the date and the time of the time stamp.
* `Fixture.playedMatches_cut`: which fixtures become matches, and with which date and time.
-/

namespace Matchday

/-! ### Digits and signs -/

namespace Shape

theorem utf8Size_of_isDigit {c : Char} (h : c.isDigit) : c.utf8Size = 1 := by
  have hle : c.toNat ≤ 57 := (Char.isDigit_iff_toNat.1 h).2
  rw [Char.utf8Size_eq_one_iff, UInt32.le_iff_toNat_le]
  exact hle.trans (by decide)

theorem byteSize_padded (width n : Nat) : Text.byteSize (padded width n) = width := by
  induction width generalizing n with
  | zero => rfl
  | succ width ih =>
    have hdigit : (Nat.digitChar (n % 10)).isDigit := by
      rw [Nat.isDigit_digitChar, decide_eq_true_eq]
      exact Nat.mod_lt n (by decide)
    rw [padded, Text.byteSize_append, ih, Text.byteSize, utf8Size_of_isDigit hdigit]
    rfl

/-- A date has ten bytes. -/
theorem IsDate.utf8ByteSize_eq {year : Nat} {s : String} (h : IsDate year s) :
    s.utf8ByteSize = 10 := by
  obtain ⟨-, month, -, day, -, hs⟩ := h
  rw [← Text.byteSize_toList, hs, date]
  simp only [Text.byteSize_append, Text.byteSize, byteSize_padded]
  rfl

theorem IsClock.utf8ByteSize_eq {hours minutes : Nat} {s : String} (h : IsClock hours minutes s) :
    s.utf8ByteSize = 5 := by
  obtain ⟨-, -, hs⟩ := h
  rw [← Text.byteSize_toList, hs, clock]
  simp only [Text.byteSize_append, Text.byteSize, byteSize_padded]
  rfl

end Shape

namespace Fixture

/-! ### The cuts of a time stamp -/

/-- A time stamp has a time when it is long enough for one and can be cut on both sides of it. -/
def HasTime (stamp : String) : Prop :=
  16 ≤ stamp.utf8ByteSize ∧ String.Pos.Raw.IsValid stamp ⟨11⟩ ∧ String.Pos.Raw.IsValid stamp ⟨16⟩

/-- A date and a time cut from a time stamp: its first ten bytes, and its bytes from 11 to 16 if it
has a time. -/
structure IsCut (stamp date time : String) : Prop where
  date_eq : date.toUTF8 = stamp.toUTF8.extract 0 10
  time_eq : HasTime stamp → time.toUTF8 = stamp.toUTF8.extract 11 16
  time_eq_unknown : ¬ HasTime stamp → time = "00:00"

variable {stamp : String}

theorem hasDate_iff :
    hasDate stamp ↔ 10 ≤ stamp.utf8ByteSize ∧ String.Pos.Raw.IsValid stamp ⟨10⟩ := by
  rw [hasDate, String.Pos.Raw.isValid_eq_true_iff]
  exact ⟨fun h => ⟨h.le_utf8ByteSize, h⟩, And.right⟩

theorem toUTF8_of_dateOf? {date : String} (h : dateOf? stamp = some date) :
    date.toUTF8 = stamp.toUTF8.extract 0 10 :=
  ((Text.slice?_eq_some_iff_toUTF8 (by decide)).1 h).2.2

theorem toUTF8_timeOf (h : HasTime stamp) :
    (timeOf stamp).toUTF8 = stamp.toUTF8.extract 11 16 := by
  obtain ⟨-, hstart, hstop⟩ := h
  obtain ⟨before, time, after, rfl, hbefore, htime⟩ :=
    Text.exists_append_of_isValid (by decide) hstart hstop
  have hslice : Text.slice? 11 16 (before ++ time ++ after) = some time :=
    Text.slice?_eq_some_iff.2 ⟨before, after, rfl, hbefore, htime⟩
  rw [timeOf, hslice, Option.getD_some]
  exact ((Text.slice?_eq_some_iff_toUTF8 (by decide)).1 hslice).2.2

theorem timeOf_eq_unknownTime (h : ¬ HasTime stamp) : timeOf stamp = unknownTime := by
  rw [timeOf]
  cases hslice : Text.slice? 11 16 stamp with
  | none => rfl
  | some time =>
    obtain ⟨hstart, hstop, -⟩ := (Text.slice?_eq_some_iff_toUTF8 (by decide)).1 hslice
    exact absurd ⟨hstop.le_utf8ByteSize, hstart, hstop⟩ h

/-- The second cut around the time falls inside a character. -/
example : timeOf "2026-02-15T15:3é" = "00:00" := by
  decide

/-! ### Written dates and times -/

/-- A time stamp writes a date and a time of the day, with one byte between them and anything behind
them. -/
structure Writes (date time stamp : String) : Prop where
  isDate : ∃ year, Shape.IsDate year date
  isTime : ∃ hours < 24, ∃ minutes < 60, Shape.IsClock hours minutes time
  eq_append : ∃ sep : Char, sep.utf8Size = 1 ∧
    ∃ rest, stamp = date ++ String.singleton sep ++ time ++ rest

namespace Writes

variable {date time : String}

theorem dateOf? (h : Writes date time stamp) : dateOf? stamp = some date := by
  obtain ⟨year, hdate⟩ := h.isDate
  obtain ⟨sep, -, rest, rfl⟩ := h.eq_append
  refine dateOf?_eq_some_iff.2 ⟨String.singleton sep ++ time ++ rest, ?_, hdate.utf8ByteSize_eq⟩
  simp only [String.append_assoc]

theorem timeOf (h : Writes date time stamp) : timeOf stamp = time := by
  obtain ⟨year, hdate⟩ := h.isDate
  obtain ⟨hours, -, minutes, -, htime⟩ := h.isTime
  obtain ⟨sep, hsep, rest, rfl⟩ := h.eq_append
  have hslice : Text.slice? 11 16 (date ++ String.singleton sep ++ time ++ rest) = some time := by
    refine Text.slice?_eq_some_iff.2
      ⟨date ++ String.singleton sep, rest, rfl, ?_, htime.utf8ByteSize_eq⟩
    rw [String.utf8ByteSize_append, hdate.utf8ByteSize_eq, String.utf8ByteSize_singleton, hsep]
  rw [Fixture.timeOf, hslice, Option.getD_some]

example : Writes "2026-02-15" "15:30" "2026-02-15T15:30:00+01:00" where
  isDate := ⟨2026, Shape.dateYear?_eq_some_iff.1 (by decide)⟩
  isTime := ⟨15, by decide, 30, by decide, Shape.clock?_eq_some_iff.1 (by decide)⟩
  eq_append := ⟨'T', by decide, ":00+01:00", by decide⟩

/-- No rule about the shape of dates or times has anything to say about a match with this date and
this time. -/
theorem silent (h : Writes date time stamp) {m : Match} (hdate : m.date = date)
    (htime : m.time = time) :
    MatchRule.dateFormat.check m = [] ∧ MatchRule.timeFormat.check m = [] := by
  subst hdate htime
  obtain ⟨year, hdate⟩ := h.isDate
  obtain ⟨hours, hh, minutes, hm, -, -, htime⟩ := h.isTime
  exact ⟨MatchRule.check_eq_nil_iff.2 ⟨year, Shape.dateYear?_eq_some_iff.2 hdate⟩,
    MatchRule.check_eq_nil_iff.2 (Shape.isTimeOfDay_iff.2 ⟨hours, hh, minutes, hm, htime⟩)⟩

end Writes

/-! ### Matches of fixtures -/

/-- A match at the date and the time of a time stamp: both are cut from it, and where it writes them
the match has what is written and the rules about their shapes have nothing to report. -/
structure IsAt (stamp : String) (m : Match) : Prop where
  isCut : IsCut stamp m.date m.time
  eq_of_writes : ∀ date time, Writes date time stamp → m.date = date ∧ m.time = time
  silent_of_writes : ∀ date time, Writes date time stamp →
    MatchRule.dateFormat.check m = [] ∧ MatchRule.timeFormat.check m = []

theorem isAt_of_eq {m : Match} (hdate : dateOf? stamp = some m.date)
    (htime : m.time = timeOf stamp) : IsAt stamp m :=
  have heq (date time : String) (h : Writes date time stamp) : m.date = date ∧ m.time = time :=
    ⟨Option.some.inj (hdate.symm.trans h.dateOf?), htime.trans h.timeOf⟩
  { isCut := {
      date_eq := toUTF8_of_dateOf? hdate
      time_eq := fun hhas => by rw [htime, toUTF8_timeOf hhas]
      time_eq_unknown := fun hhas => htime.trans (timeOf_eq_unknownTime hhas) }
    eq_of_writes := heq
    silent_of_writes := fun date time h => h.silent (heq date time h).1 (heq date time h).2 }

/-- Both sides of the score and both names are there. -/
def isScored (f : Fixture) : Bool :=
  (f.score.bind (·.home)).isSome && (f.score.bind (·.away)).isSome &&
    (f.homeTeam.bind (·.name)).isSome && (f.awayTeam.bind (·.name)).isSome

variable {f : Fixture}

/-- The match of a fixture is at the date and the time of the time stamp. -/
theorem Shows.isAt {m : Match} (h : f.Shows m) : ∃ stamp, f.date = some stamp ∧ IsAt stamp m := by
  obtain ⟨rest, hstamp, htime⟩ := h.date_eq
  exact ⟨_, hstamp, isAt_of_eq (dateOf?_eq_some_iff.2 ⟨rest, rfl, h.size_date⟩) htime⟩

theorem isComplete_iff : f.isComplete ↔ f.isScored ∧ ∃ stamp, f.date = some stamp ∧
    10 ≤ stamp.utf8ByteSize ∧ String.Pos.Raw.IsValid stamp ⟨10⟩ := by
  rw [isComplete, isScored, Bool.and_eq_true _ (f.date.any hasDate), Option.any_eq_true]
  simp only [hasDate_iff]

theorem isComplete_of_writes {date time : String} (hscored : f.isScored)
    (hstamp : f.date = some stamp) (h : Writes date time stamp) : f.isComplete := by
  rw [isComplete, ← isScored, hscored, hstamp, Bool.true_and, Option.any_some, ← isSome_dateOf?,
    h.dateOf?, Option.isSome_some]

/-- **Complete fixtures become matches, in order, at the dates and times of their stamps.**  A
fixture is complete when it is scored and its stamp can be cut behind the tenth byte, and so when it
is scored and its stamp writes a date and a time of the day. -/
theorem playedMatches_cut (fixtures : List Fixture) :
    List.Forall₂ (fun f m => f.Shows m ∧ ∃ stamp, f.date = some stamp ∧ IsAt stamp m)
        (fixtures.filter isComplete) (playedMatches fixtures) ∧
      (∀ f : Fixture, f.isComplete ↔ f.isScored ∧ ∃ stamp, f.date = some stamp ∧
        10 ≤ stamp.utf8ByteSize ∧ String.Pos.Raw.IsValid stamp ⟨10⟩) ∧
      ∀ (f : Fixture) (date time stamp : String), f.isScored → f.date = some stamp →
        Writes date time stamp → f.isComplete := by
  refine ⟨?_, fun _ => isComplete_iff, fun _ _ _ _ => isComplete_of_writes⟩
  exact (playedMatches_shows fixtures).imp fun _ _ hshows => ⟨hshows, hshows.isAt⟩

end Fixture

end Matchday
