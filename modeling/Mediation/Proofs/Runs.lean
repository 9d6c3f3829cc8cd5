/-!
# Runs of events

A run takes a state through a list of events, one after the other. The state before the event of a
number is that behind all earlier ones, so what a run keeps is shown event by event
(`foldl_take_induction`).
-/

set_option autoImplicit false

namespace Mediation

variable {State Event : Type} {step : State → Event → State} {s : State} {events : List Event}
  {event : Event} {n : Nat}

theorem foldl_take_succ (there : events[n]? = some event) :
    (events.take (n + 1)).foldl step s = step ((events.take n).foldl step s) event := by
  rw [List.take_add_one, there, List.foldl_append]
  rfl

/-- Behind its last event a run stays where it is. -/
theorem foldl_take_succ_of_none (ended : events[n]? = none) :
    (events.take (n + 1)).foldl step s = (events.take n).foldl step s := by
  rw [List.take_add_one, ended, Option.toList_none, List.append_nil]

/-- **What every event of a run keeps holds before each of them.** -/
theorem foldl_take_induction {holds : State → Prop} (begins : holds s)
    (keeps : ∀ n event, events[n]? = some event → holds ((events.take n).foldl step s) →
      holds (step ((events.take n).foldl step s) event)) (n : Nat) :
    holds ((events.take n).foldl step s) := by
  induction n with
  | zero => exact begins
  | succ n ih =>
      cases there : events[n]? with
      | none => rwa [foldl_take_succ_of_none there]
      | some event =>
          rw [foldl_take_succ there]
          exact keeps n event there ih

end Mediation
