/-!
# Stages under a monitor

A clock notes which stages of a run were entered.  A stage that runs is closed when the next one is
entered or when the clock is read.  A clock that is switched off notes nothing.

## Main definitions

* `StageClock`: the stages so far.
* `StageClock.enter`, `StageClock.finish`: enters a stage; closes the last one and tells all.
-/

namespace Matchday

/-- Which stages are over and which one runs.  A clock that is not enabled stays as it is. -/
structure StageClock where
  enabled : Bool
  running : Option String := none
  finished : List String := []
deriving DecidableEq, Repr, Inhabited

namespace StageClock

/-- Closes the stage that runs. -/
def close (clock : StageClock) : StageClock :=
  { clock with running := none, finished := clock.finished ++ clock.running.toList }

/-- Closes the stage that runs and starts another. -/
def enter (clock : StageClock) (stage : String) : StageClock :=
  if clock.enabled then { clock.close with running := some stage } else clock

/-- Closes the stage that runs and tells all stages entered so far. -/
def finish (clock : StageClock) : List String × StageClock :=
  if clock.enabled then (clock.close.finished, clock.close) else ([], clock)

end StageClock

end Matchday
