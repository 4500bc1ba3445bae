import Concord.Proofs.CallSteps

/-!
# What a call takes in

A call checks out one envelope after the other. An envelope is entered into the ledger, or it is
malformed, or its proposal is past the point where it could be approved; the last two end the
call (`Coordinator.Absorbs`). `Collected` is what all calls have in common before they move or
execute anything: nothing has changed but what has come into the ledger.
-/

namespace Concord

/-- A state from which a proposal cannot become approved. -/
def ProposalState.Unapprovable (state : ProposalState) : Prop :=
  state = .denied ∨ state = .readyExecute ∨ state = .executed

instance (state : ProposalState) : Decidable state.Unapprovable :=
  inferInstanceAs (Decidable (_ ∨ _ ∨ _))

/-- A proposal may become approved unless it is denied, due or executed already. -/
theorem ProposalState.canAdvanceTo_approved (state : ProposalState) :
    state.canAdvanceTo .approved = !decide state.Unapprovable := by
  cases state <;> decide

variable {Handle : Type}

/-- The checking out of an envelope whose proposal cannot become approved. -/
def Exchange.Unapprovable (exchange : Exchange Handle) : Prop :=
  ∃ envelope proposal, exchange.checkedOut? = some envelope ∧
    Envelope.decode envelope = .ok proposal ∧ proposal.state.Unapprovable

/-- Whether nothing is left to check out. -/
def Exchange.exhausts : Exchange Handle → Bool
  | ⟨.checkout, .ok none⟩ => true
  | _ => false

/-- Whether a call failed because its own proposal was not executed. -/
def CoordinatorError.lacksOwn : CoordinatorError → Bool
  | .invariant (.notExecuted _) => true
  | _ => false

namespace Coordinator

/-- What becomes of an envelope that is checked out. -/
inductive Absorbs (coordinator : Coordinator) (envelope : Bytes) :
    Except CoordinatorError Coordinator → Prop where
  | malformed {cause : EnvelopeError} (read : Envelope.decode envelope = .error cause) :
      Absorbs coordinator envelope (.error (.voting (.malformed cause)))
  | refused {proposal : Proposal} (read : Envelope.decode envelope = .ok proposal)
      (past : proposal.state.Unapprovable) :
      Absorbs coordinator envelope (.error (.invariant
        (.transition proposal.id (.invalidTransition proposal.state.name "APPROVED"))))
  | entered {proposal : Proposal} (read : Envelope.decode envelope = .ok proposal)
      (approvable : ¬ proposal.state.Unapprovable) :
      Absorbs coordinator envelope (.ok { coordinator with
        ledger := coordinator.ledger.add { proposal with state := .approved } })

/-- An envelope is malformed, past the point where it could be approved, or entered. -/
theorem absorb_absorbs (coordinator : Coordinator) (envelope : Bytes) :
    coordinator.Absorbs envelope (coordinator.absorb envelope) := by
  unfold absorb Proposal.ofEnvelope
  cases read : Envelope.decode envelope with
  | error cause => exact .malformed read
  | ok proposal =>
    simp only [Proposal.advance, ProposalState.canAdvanceTo_approved]
    by_cases past : proposal.state.Unapprovable
    · rw [decide_eq_true past]
      exact .refused read past
    · rw [decide_eq_false past]
      exact .entered read past

/-- What holds after an envelope is asked for: the call fails, there is none, or it is entered. -/
theorem resume_absorbing (Holds : List (Exchange Handle) → Coordinator × Control Handle → Prop)
    {exchanges : List (Exchange Handle)} {coordinator : Coordinator} {next : AfterAbsorbing}
    (failed : ∀ {answer cause}, (⟨.checkout, answer⟩ : Exchange Handle).arrival? = none →
      (⟨.checkout, answer⟩ : Exchange Handle).exhausts = false → cause.lacksOwn = false →
        Holds (exchanges ++ [⟨.checkout, answer⟩]) (coordinator, .returned (.error cause)))
    (exhausted : Holds (exchanges ++ [⟨.checkout, .ok none⟩]) (coordinator.afterAbsorbing next))
    (entered : ∀ {envelope entry}, Proposal.admitted? envelope = some entry →
      Holds (exchanges ++ [⟨.checkout, .ok (some envelope)⟩])
        ({ coordinator with ledger := coordinator.ledger.add entry }, .waiting (.absorbing next)))
    (answer : Except VotingError (Option Bytes)) :
    Holds (exchanges ++ [⟨.checkout, answer⟩]) (coordinator.resume (.absorbing next) answer) := by
  cases answer with
  | error cause => exact failed rfl rfl rfl
  | ok found =>
    cases found with
    | none => exact exhausted
    | some envelope =>
      simp only [resume]
      rcases coordinator.absorb_cases envelope with
        ⟨entry, admitted, _, absorbed⟩ | ⟨refused, cause, stuck⟩
      · rw [absorbed]
        exact entered admitted
      · have absorbs := coordinator.absorb_absorbs envelope
        rw [stuck] at absorbs ⊢
        refine failed refused rfl ?_
        cases absorbs <;> rfl

/-- What holds after a request whose answer says only whether something was done. -/
theorem onSuccess_goes_on (Holds : Coordinator × Control Handle → Prop)
    {coordinator : Coordinator} {next : Coordinator × Control Handle}
    (answer : Except VotingError Unit)
    (failed : ∀ cause, answer = .error cause →
      Holds (coordinator, .returned (.error (.voting cause))))
    (done : answer = .ok () → Holds next) : Holds (coordinator.onSuccess answer next) := by
  cases answer with
  | error cause => exact failed cause rfl
  | ok success => exact done rfl

/-- A proposal whose life has not begun starts in the state that is asked for. -/
theorem start_cases (proposal : Proposal) (state : ProposalState) :
    (∃ cause, proposal.start state = .error cause) ∨
      proposal.start state = .ok { proposal with state } := by
  unfold Proposal.start Proposal.advance
  split
  · split
    · next started =>
      split at started <;> cases started
      exact .inr rfl
    · exact .inl ⟨_, rfl⟩
  · exact .inl ⟨_, rfl⟩

end Coordinator

/-- Since a call started, nothing has changed but what has come into the ledger. -/
structure Collected (start coordinator : Coordinator) (exchanges : List (Exchange Handle)) :
    Prop where
  config : coordinator.config = start.config
  queue : coordinator.queue = start.queue
  ledger : coordinator.ledger.entries = start.ledger.entries ++ Exchange.arrivals exchanges
  idle : Exchange.executions exchanges = []

namespace Collected

variable {start coordinator : Coordinator} {exchanges : List (Exchange Handle)}

/-- When a call starts, nothing has come in. -/
theorem begins (start : Coordinator) : Collected start start ([] : List (Exchange Handle)) :=
  ⟨rfl, rfl, (List.append_nil _).symm, rfl⟩

/-- A request that brings nothing in and asks for no execution. -/
theorem quiet (collected : Collected start coordinator exchanges) {exchange : Exchange Handle}
    (nothing : exchange.arrival? = none) (unasked : exchange.execution? = none) :
    Collected start coordinator (exchanges ++ [exchange]) where
  config := collected.config
  queue := collected.queue
  ledger := (Exchange.arrivals_concat_of_none nothing).symm ▸ collected.ledger
  idle := (Exchange.executions_concat_of_none unasked).trans collected.idle

/-- What is checked out comes into the ledger and changes nothing else. -/
theorem enter (collected : Collected start coordinator exchanges) {envelope : Bytes}
    {entry : Proposal} (admitted : Proposal.admitted? envelope = some entry) :
    Collected start { coordinator with ledger := coordinator.ledger.add entry }
      (exchanges ++ [⟨.checkout, .ok (some envelope)⟩]) where
  config := collected.config
  queue := collected.queue
  ledger := by
    rw [Exchange.arrivals_checkout admitted, ← List.append_assoc, ← collected.ledger]
    rfl
  idle := (Exchange.executions_concat_of_none rfl).trans collected.idle

end Collected

end Concord
