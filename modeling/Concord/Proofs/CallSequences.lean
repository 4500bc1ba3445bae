import Concord.Proofs.CallSteps

/-!
# Sequences of calls

A call sequence is the calls of a coordinator that have returned, one after the other, each with
what it asked for, what it was answered and what it gave back. A call can fail at any request; the
next one starts from whatever it has left. What a later call does is said of the sequence before
it.
-/

namespace Concord

variable {Handle : Type}

/-- The proposal that a call submits. -/
def CoordinatorCall.own? : CoordinatorCall → Option Proposal
  | .submit own => some own
  | .submitVoted own => some own
  | .submitBroadcast own => some own
  | .progress => none

/-- A call that has returned. -/
structure CompletedCall (Handle : Type) where
  call : CoordinatorCall
  exchanges : List (Exchange Handle)
  reply : Except CoordinatorError (Reply Handle)

namespace CompletedCall

variable (earlier later : List (CompletedCall Handle)) (completed : CompletedCall Handle)

/-- The proposals that calls have submitted. -/
def owns (calls : List (CompletedCall Handle)) : List Proposal :=
  calls.filterMap fun completed => completed.call.own?

/-- Everything that calls have asked for. -/
def asked (calls : List (CompletedCall Handle)) : List (Exchange Handle) :=
  calls.flatMap exchanges

/-- One more call submits at most one proposal more. -/
theorem owns_concat :
    owns (earlier ++ [completed]) = owns earlier ++ completed.call.own?.toList := by
  rw [owns, List.filterMap_append]
  cases own : completed.call.own? <;> simp [owns, own]

/-- One more call adds its exchanges to those of all calls before it. -/
theorem asked_concat : asked (earlier ++ [completed]) = asked earlier ++ completed.exchanges := by
  simp [asked]

end CompletedCall

/-- The calls of a coordinator so far, each of which has returned. -/
inductive CallSequence (config : CoordinatorConfig) :
    List (CompletedCall Handle) → Coordinator → Prop where
  | opening : CallSequence config [] ⟨config, .empty, .empty⟩
  | call {coordinator after : Coordinator} {earlier : List (CompletedCall Handle)}
      {completed : CompletedCall Handle} (prior : CallSequence config earlier coordinator)
      (callSteps : CallSteps (coordinator, completed.call.begin coordinator) completed.exchanges
        (after, .returned completed.reply)) :
      CallSequence config (earlier ++ [completed]) after

namespace CallSequence

variable {config : CoordinatorConfig} {calls : List (CompletedCall Handle)}
  {coordinator : Coordinator}

/-- Whatever answers a further call, once it has returned it is part of the sequence. -/
theorem converse {State : Type} (sequence : CallSequence config calls coordinator)
    (surroundings : Surroundings State Handle) (budget : Nat) (call : CoordinatorCall)
    (state : State) {reply : Except CoordinatorError (Reply Handle)}
    (replied : (Coordinator.converse surroundings budget
      (coordinator, call.begin coordinator) state).2.2.reply? = some reply) :
    let conversation := Coordinator.converse surroundings budget
      (coordinator, call.begin coordinator) state
    CallSequence config (calls ++ [⟨call, conversation.1, reply⟩]) conversation.2.1 := by
  have callSteps := Coordinator.callSteps_of_reply _ _ _ _ replied
  exact .call sequence callSteps

/-- Between calls, what is in the ledger is approved and what is queued is due. -/
theorem idleHoldings (sequence : CallSequence config calls coordinator) :
    coordinator.idleHoldings.Approved ∧ coordinator.idleHoldings.Ready := by
  induction sequence with
  | opening =>
    exact ⟨fun _ member => absurd member List.not_mem_nil,
      fun _ member => absurd member List.not_mem_nil⟩
  | @call coordinator after earlier completed _ callSteps inductionHypothesis =>
    have reached := callSteps.regular (.begins inductionHypothesis completed.call)
    exact ⟨reached.approved, reached.ready⟩

/-- The next call starts at a regular point. -/
theorem regular_begin (sequence : CallSequence config calls coordinator)
    (call : CoordinatorCall) :
    Regular (coordinator, (call.begin coordinator : Control Handle)) :=
  .begins sequence.idleHoldings call

end CallSequence

end Concord
