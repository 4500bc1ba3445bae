import Concord.Coordinator

/-!
# Running a call without interruption

`Coordinator.run` answers one request after the other until the call returns or a budget of
requests is used up. What has been answered by then does not depend on the budget.
-/

namespace Concord.Coordinator

variable {State Handle : Type}

/-- A coordinator, the call it is in, and what answers it. -/
structure Situation (State Handle : Type) where
  coordinator : Coordinator
  control : Control Handle
  state : State

/-- Answer the request that a call waits for. -/
def exchange (surroundings : Surroundings State Handle) (coordinator : Coordinator)
    (stage : Stage Handle) (state : State) : Situation State Handle :=
  let (answer, after) := surroundings.answer stage.request state
  let (coordinator, control) := coordinator.resume stage answer
  ⟨coordinator, control, after⟩

/-- Answer up to `budget` requests of a call. -/
def run (surroundings : Surroundings State Handle) :
    (budget : Nat) → Situation State Handle → Situation State Handle
  | 0, situation => situation
  | budget + 1, situation =>
    match situation.control with
    | .returned _ => situation
    | .waiting stage =>
      run surroundings budget (exchange surroundings situation.coordinator stage situation.state)

end Concord.Coordinator
