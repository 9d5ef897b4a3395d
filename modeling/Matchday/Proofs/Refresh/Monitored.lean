import Matchday.Proofs.Effect
import Matchday.Refresh.Run

/-!
# Stages that a monitor tells

A monitor is told which stages are entered and asked which they were, in any order.  A stage runs
when it is entered and is closed by the next entry or by the next question, so that at any time it
stands in one of two places.  Read one after the other, the two places are the history of the clock.
Closing the stage that runs leaves the history as it is, whichever call does it; so an entry adds
one stage at the end of the history and a question adds nothing.

A monitor outlives the runs that it watches and is never set back.

## Main definitions

* `StageClock.Call`, `StageClock.serve`: a call to a monitor, and what it gives.
* `StageClock.after`, `StageClock.replies`: the clock after calls, and what the calls give.
* `StageClock.entered`: the stages that calls enter.
* `StageClock.history`: the stages that a clock has noted.
* `RefreshRun.calls`: the calls of a run to its monitor.

## Main results

* `StageClock.history_after`: calls add the stages that they enter to the history.
* `StageClock.replies_tell_entered`: a monitor tells all stages entered so far, each entry once.
* `RefreshRun.fst_finish_foldl_clock`: a monitor tells the stages of all runs that it has watched.
-/

namespace Matchday

namespace StageClock

/-- A call to a monitor. -/
inductive Call where
  | enter (stage : String)
  | finish
deriving DecidableEq, Repr

/-- The stage that a call enters. -/
def Call.stage? : Call → Option String
  | enter stage => some stage
  | finish => none

/-- The stages that calls enter, in order. -/
def entered (calls : List Call) : List String :=
  calls.filterMap Call.stage?

/-- What a call gives, and the clock after it.  An entry gives nothing. -/
def serve (clock : StageClock) : Call → Option (List String) × StageClock
  | .enter stage => (none, clock.enter stage)
  | .finish => (some clock.finish.1, clock.finish.2)

/-- The clock after calls. -/
def after (clock : StageClock) (calls : List Call) : StageClock :=
  calls.foldl (fun clock call => (clock.serve call).2) clock

/-- What calls give, one after another. -/
def replies (clock : StageClock) : List Call → List (Option (List String))
  | [] => []
  | call :: calls => (clock.serve call).1 :: replies (clock.serve call).2 calls

/-- The stages that a clock has noted: those that are closed, and then the one that runs. -/
def history (clock : StageClock) : List String :=
  clock.finished ++ clock.running.toList

variable {clock : StageClock} {call : Call} {calls : List Call}

/-! ### The history -/

/-- Closing the stage that runs moves it, but leaves the history as it is. -/
theorem history_close (clock : StageClock) : clock.close.history = clock.history := by
  simp [history, close]

theorem fst_finish (clock : StageClock) :
    clock.finish.1 = if clock.enabled then clock.history else [] := by
  rw [finish]
  split <;> rfl

/-- A clock is switched neither on nor off. -/
theorem enabled_serve : (clock.serve call).2.enabled = clock.enabled := by
  cases call with
  | enter stage => rw [serve, enter]; split <;> rfl
  | finish => rw [serve, finish]; split <;> rfl

/-- **One call adds the stage that it enters to the history**, if the clock is on, and nothing
else. -/
theorem history_serve : (clock.serve call).2.history =
    clock.history ++ if clock.enabled then call.stage?.toList else [] := by
  cases call with
  | enter stage =>
    rw [serve, enter]
    split
    next => rfl
    next => exact (List.append_nil _).symm
  | finish =>
    rw [serve, finish]
    split
    next => exact (history_close clock).trans (List.append_nil _).symm
    next => exact (List.append_nil _).symm

theorem enabled_after : (clock.after calls).enabled = clock.enabled := by
  induction calls generalizing clock with
  | nil => rfl
  | cons call calls ih => exact ih.trans enabled_serve

/-- **Calls add the stages that they enter to the history**, in order, if the clock is on. -/
theorem history_after : (clock.after calls).history =
    clock.history ++ if clock.enabled then entered calls else [] := by
  induction calls generalizing clock with
  | nil => simp [after, entered]
  | cons call calls ih =>
    have hcons : entered (call :: calls) = call.stage?.toList ++ entered calls := by
      cases call <;> rfl
    calc (clock.after (call :: calls)).history
        = ((clock.serve call).2.after calls).history := rfl
      _ = (clock.serve call).2.history ++ if clock.enabled then entered calls else [] := by
        rw [ih, enabled_serve]
      _ = clock.history ++ if clock.enabled then entered (call :: calls) else [] := by
        rw [history_serve, hcons]
        split <;> simp

/-- What is told after calls: the stages noted before them and then those that they enter. -/
theorem fst_finish_after : (clock.after calls).finish.1 =
    if clock.enabled then clock.history ++ entered calls else [] := by
  rw [fst_finish, enabled_after, history_after]
  split <;> rfl

/-! ### Replies -/

/-- A call is served by the clock that the calls before it leave. -/
theorem getElem?_replies (clock : StageClock) (earlier later : List Call) (call : Call) :
    (clock.replies (earlier ++ call :: later))[earlier.length]? =
      some ((clock.after earlier).serve call).1 :=
  getElem?_replies_of_cons (fun _ _ _ => rfl) clock earlier later call

/-- **A monitor loses no stage and repeats none**: wherever a question stands among the calls to a
new monitor, it is answered with the stages of all entries before it, in order and each entry once,
however often the monitor was asked before; and a monitor that is switched off tells nothing. -/
theorem replies_tell_entered (enabled : Bool) (earlier later : List Call) :
    (replies { enabled } (earlier ++ .finish :: later))[earlier.length]? =
      some (some (if enabled then entered earlier else [])) := by
  have htold : (after { enabled } earlier).finish.1 = if enabled then entered earlier else [] :=
    fst_finish_after
  rw [getElem?_replies, serve, htold]

example : replies { enabled := true }
    [.enter "fetch", .finish, .finish, .enter "fetch", .enter "write", .finish] =
      [none, some ["fetch"], some ["fetch"], none, none, some ["fetch", "fetch", "write"]] := by
  decide

end StageClock

/-! ### Runs -/

namespace RefreshRun

open StageClock

/-- The calls of a run to its monitor: an entry for each stage before the end, and a question. -/
def calls (r : RefreshRun) : List Call :=
  (r.result.stages.filterMap Stage.clockName?).map .enter ++ [.finish]

theorem clock_eq_after (r : RefreshRun) (start : StageClock) :
    r.clock start = start.after r.calls := by
  rw [clock, after, calls, List.foldl_append, List.foldl_map]
  rfl

/-- A run enters the stages that its report lists. -/
theorem entered_calls (r : RefreshRun) :
    entered r.calls = r.result.stages.filterMap Stage.clockName? := by
  have hentry : Call.stage? ∘ Call.enter = some := rfl
  rw [entered, calls, List.filterMap_append, List.filterMap_map, hentry, List.filterMap_some]
  exact List.append_nil _

/-- **A monitor tells the stages of all runs that it has watched**, run after run, as the reports
of the runs list them. -/
theorem fst_finish_foldl_clock (enabled : Bool) (runs : List RefreshRun) :
    (runs.foldl (fun start r => r.clock start) ({ enabled } : StageClock)).finish.1 =
      if enabled then runs.flatMap fun r => r.result.stages.filterMap Stage.clockName? else [] := by
  have hclock (start : StageClock) :
      runs.foldl (fun start r => r.clock start) start = start.after (runs.flatMap calls) := by
    simp only [clock_eq_after, after, List.foldl_flatMap]
  have hentered : entered (runs.flatMap calls) =
      runs.flatMap fun r => r.result.stages.filterMap Stage.clockName? := by
    rw [entered, List.filterMap_flatMap]
    exact congrArg runs.flatMap (funext entered_calls)
  rw [hclock, fst_finish_after, hentered]
  rfl

end RefreshRun

end Matchday
