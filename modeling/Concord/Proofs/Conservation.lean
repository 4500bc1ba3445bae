import Concord.Proofs.CoordinatorRuns

/-!
# Conservation

Whatever a coordinator is answered, and whether its calls succeed or fail, each proposal that
has come to it is in exactly one place: in the ledger, in the queue, or handed to the executor.
A move takes nothing but what departs (`Holdings.Moves.conserved`). One kind of failure loses a
proposal: if the own one is reported to be approved and the absorbing that comes before its
entry fails, the call ends with this failure and drops it (`Stage.forfeits`). No other failure
loses anything.
-/

namespace Concord

namespace ProposalEvent

/-- The proposal that an event brings to the coordinator. -/
def arrival? : ProposalEvent → Option Proposal
  | .approved proposal => some proposal
  | .admitted proposal => some proposal
  | _ => none

/-- The proposal that an event takes from the coordinator. -/
def departure? : ProposalEvent → Option Proposal
  | .handed proposal => some proposal
  | .forfeited proposal => some proposal
  | _ => none

/-- The own approved proposal that is dropped. -/
def forfeited? : ProposalEvent → Option Proposal
  | .forfeited proposal => some proposal
  | _ => none

/-- What is taken is handed over or dropped. -/
theorem departures_perm (events : List ProposalEvent) :
    (events.filterMap departure?).Perm
      (events.filterMap handed? ++ events.filterMap forfeited?) := by
  induction events with
  | nil => exact .refl _
  | cons first rest inductionHypothesis =>
    cases first with
    | handed proposal => exact inductionHypothesis.cons proposal
    | forfeited proposal => exact (inductionHypothesis.cons proposal).trans List.perm_middle.symm
    | _ => exact inductionHypothesis

end ProposalEvent

namespace Proposal

/-- How often a content occurs among proposals. -/
def tally (content : Proposal) (proposals : List Proposal) : Nat :=
  (proposals.map Proposal.content).count content

/-- Nothing holds no copy of a proposal. -/
theorem tally_nil (content : Proposal) : tally content [] = 0 := rfl

/-- What two lists hold of a proposal adds up. -/
theorem tally_append (content : Proposal) (first second : List Proposal) :
    tally content (first ++ second) = tally content first + tally content second := by
  rw [tally, List.map_append, List.count_append, tally, tally]

/-- Being due changes no content. -/
theorem tally_due (content : Proposal) (proposals : List Proposal) :
    tally content (proposals.map due) = tally content proposals := by
  rw [tally, List.map_map, tally]
  rfl

/-- How often a proposal is held does not depend on the order. -/
theorem tally_of_perm {first second : List Proposal} (perm : first.Perm second)
    (content : Proposal) : tally content first = tally content second :=
  (perm.map Proposal.content).count_eq content

/-- A part holds no more of a proposal than the whole. -/
theorem tally_le_of_sublist {first second : List Proposal} (sublist : first.Sublist second)
    (content : Proposal) : tally content first ≤ tally content second :=
  (sublist.map Proposal.content).count_le content

/-- Lists that hold every proposal equally often hold the same contents. -/
theorem perm_of_tally {first second : List Proposal}
    (same : ∀ content, tally content first = tally content second) :
    (first.map Proposal.content).Perm (second.map Proposal.content) :=
  List.perm_iff_count.2 same

end Proposal

namespace Holdings

open Proposal

variable {rounds : Prop} {window : Nat} {before after : Holdings} {events : List ProposalEvent}

/-- Everything that is held. -/
def all (holdings : Holdings) : List Proposal :=
  holdings.pending ++ holdings.ledger ++ holdings.queue ++ holdings.inHand

/-- What a coordinator holds of a proposal is spread over four places. -/
theorem tally_all (content : Proposal) (holdings : Holdings) :
    tally content holdings.all =
      tally content holdings.pending + tally content holdings.ledger +
        tally content holdings.queue + tally content holdings.inHand := by
  simp only [all, tally_append]

/-- A move brings nothing but what arrives and takes nothing but what departs. -/
theorem Move.conserved (move : Move rounds window before events after) (content : Proposal) :
    tally content before.all + tally content (events.filterMap ProposalEvent.arrival?) =
      tally content after.all + tally content (events.filterMap ProposalEvent.departure?) := by
  cases move with
  | approve free approved =>
    simp only [tally_all, free, tally_nil, List.filterMap, ProposalEvent.arrival?,
      ProposalEvent.departure?]
    omega
  | settle waits =>
    simp only [tally_all, waits, tally_nil, tally_append, List.filterMap, ProposalEvent.arrival?,
      ProposalEvent.departure?]
    omega
  | forfeit waits =>
    simp only [tally_all, waits, tally_nil, List.filterMap, ProposalEvent.arrival?,
      ProposalEvent.departure?]
    omega
  | enter approved =>
    simp only [tally_all, tally_nil, tally_append, List.filterMap, ProposalEvent.arrival?,
      ProposalEvent.departure?]
    omega
  | drain perm aged young =>
    have whole := tally_of_perm perm content
    simp only [tally_all, tally_nil, tally_append, tally_due, List.filterMap,
      ProposalEvent.arrival?, ProposalEvent.departure?] at whole ⊢
    omega
  | round allowed perm =>
    have whole := tally_of_perm perm content
    simp only [tally_all, tally_nil, tally_append, tally_due, List.filterMap] at whole ⊢
    omega
  | @take proposal left free perm oldest =>
    have whole : tally content ([proposal] ++ left) = tally content before.queue :=
      tally_of_perm perm content
    simp only [tally_all, free, tally_nil, tally_append, List.filterMap] at whole ⊢
    omega
  | hand holds =>
    simp only [tally_all, holds, tally_nil, List.filterMap, ProposalEvent.arrival?,
      ProposalEvent.departure?]
    omega

/-- Through any number of moves, what was held and what has arrived is held or has departed. -/
theorem Moves.conserved (moves : Moves rounds window before events after)
    (content : Proposal) :
    tally content before.all + tally content (events.filterMap ProposalEvent.arrival?) =
      tally content after.all + tally content (events.filterMap ProposalEvent.departure?) := by
  induction moves with
  | refl => rfl
  | step _ move inductionHypothesis =>
    have latest := move.conserved content
    simp only [List.filterMap_append, tally_append]
    omega

end Holdings

/-- An own proposal is dropped only when it is approved and the absorbing before its entry fails;
the call then ends with this failure and leaves the coordinator as it was. -/
theorem Stage.forfeits {Handle : Type} (coordinator : Coordinator) {stage : Stage Handle}
    {answer : stage.request.Answer Handle} {own : Proposal}
    (dropped : .forfeited own ∈ stage.events answer) :
    ∃ proposal cause, stage = .absorbing (.resolution proposal .approved) ∧
      own = proposal.owned ∧
      coordinator.resume stage answer = (coordinator, .returned (.error cause)) := by
  cases stage with
  | absorbing next =>
    have failed : .forfeited own ∈ next.pending.map ProposalEvent.forfeited ∧
        ∃ cause, coordinator.resume (.absorbing next) answer =
          (coordinator, .returned (.error cause)) := by
      cases answer with
      | error cause => exact ⟨dropped, _, rfl⟩
      | ok checkedOut =>
        cases checkedOut with
        | none => simp [Stage.events] at dropped
        | some envelope =>
          simp only [Stage.events] at dropped
          rcases coordinator.absorb_cases envelope with
            ⟨entry, admitted, _, _⟩ | ⟨refused, cause, failed⟩
          · simp [admitted] at dropped
          · rw [refused] at dropped
            refine ⟨dropped, cause, ?_⟩
            simp only [Coordinator.resume, failed]
    obtain ⟨waits, cause, ends⟩ := failed
    cases next with
    | resolution proposal status =>
      cases status with
      | approved =>
        have same : own = proposal.owned := by
          simpa [AfterAbsorbing.pending] using waits
        exact ⟨proposal, cause, rfl, same, ends⟩
      | _ => simp [AfterAbsorbing.pending] at waits
    | _ => simp [AfterAbsorbing.pending] at waits
  | readingStatus proposal =>
    cases answer with
    | error cause => simp [Stage.events] at dropped
    | ok status => cases status <;> simp [Stage.events] at dropped
  | broadcasting proposal =>
    cases answer <;> simp [Stage.events] at dropped
  | _ => simp [Stage.events] at dropped

namespace CoordinatorRun

variable {Handle : Type}

/-- The proposals that have come to a coordinator: what was checked out and could be approved,
what was sent to everybody, and what was reported to be approved of what was put to the vote. -/
def entered (run : CoordinatorRun Handle) : List Proposal :=
  run.events.filterMap ProposalEvent.arrival?

/-- The own approved proposals that were dropped. -/
def forfeited (run : CoordinatorRun Handle) : List Proposal :=
  run.events.filterMap ProposalEvent.forfeited?

/-- Whatever calls are made and whatever they are answered, every proposal that has come to a
coordinator is in its ledger, in its queue, handed over or forfeited, and in one of these places
only. It is forfeited only if it was approved and the absorbing that comes before its entry has
failed, with which the call has ended. -/
theorem conservation {config : CoordinatorConfig} {run : CoordinatorRun Handle}
    (reached : Reaches (fun _ => True) (opening config) run) (free : run.Free) :
    (run.entered.map Proposal.content).Perm
      ((run.coordinator.ledger.entries ++ run.coordinator.queue.entries ++ run.handed ++
        run.forfeited).map Proposal.content) ∧
    ∀ (coordinator : Coordinator) (stage : Stage Handle) (answer : stage.request.Answer Handle)
      (own : Proposal), .forfeited own ∈ stage.events answer →
        ∃ proposal cause, stage = .absorbing (.resolution proposal .approved) ∧
          own = proposal.owned ∧
          coordinator.resume stage answer = (coordinator, .returned (.error cause)) := by
  have moved : Moved True config run := moves (fun _ _ _ => trivial) reached
  refine ⟨?_, fun coordinator _ _ _ dropped => Stage.forfeits coordinator dropped⟩
  apply Proposal.perm_of_tally
  intro content
  have conserved := moved.moves.conserved content
  have departed := Proposal.tally_of_perm (ProposalEvent.departures_perm run.events) content
  rw [holdings_of_free free, Holdings.tally_all] at conserved
  simp only [Proposal.tally_append] at departed ⊢
  simp only [Holdings.all, Coordinator.idleHoldings, List.append_nil, List.nil_append,
    Proposal.tally_nil, Proposal.tally_append] at conserved
  unfold entered handed forfeited
  omega

/-! ## A proposal that is forfeited -/

/-- A proposal that is being voted on. -/
def votedOn : Proposal :=
  { Proposal.create ⟨1⟩ ⟨0⟩ [] ⟨7⟩ with state := .inProgress }

/-- A submission whose proposal is reported to be approved. -/
def resolved : CoordinatorRun Unit :=
  ((((opening (.default ⟨0⟩ 1)).begin (.submitVoted { votedOn with state := .initial })).answered
    (.offering votedOn) (.ok ())).answered (.awaitingVotes votedOn) (.ok ())).answered
      (.readingStatus votedOn) (.ok .approved)

/-- It goes on by checking out an envelope and then bytes that are none. -/
def forfeiting : CoordinatorRun Unit :=
  (resolved.answered (.absorbing (.resolution votedOn .approved))
    (.ok (some (Envelope.encode default)))).answered
      (.absorbing (.resolution votedOn .approved)) (.ok (some []))

/-- The run in which a proposal that everybody approved is dropped. -/
theorem reaches_forfeiting :
    Reaches (fun _ => True) (opening (.default ⟨0⟩ 1)) forfeiting :=
  .step (.step (.step (.step (.step (.step .refl
    (.begin _ trivial (fun _ => nofun))) (.answer rfl _)) (.answer rfl _)) (.answer rfl _))
      (.answer rfl _)) (.answer rfl _)

/-- The call of that run is over. -/
theorem free_forfeiting : forfeiting.Free :=
  free_of_isFree (by decide)

/-- The entry that was checked out is kept and the own proposal is not. -/
theorem conservation_forfeiting :
    forfeiting.Free ∧ forfeiting.forfeited = [votedOn.owned] ∧
    (forfeiting.entered.map Proposal.content).Perm
      ((forfeiting.coordinator.ledger.entries ++ forfeiting.coordinator.queue.entries ++
        forfeiting.handed ++ forfeiting.forfeited).map Proposal.content) :=
  ⟨free_forfeiting, by decide, (conservation reaches_forfeiting free_forfeiting).1⟩

/-- A proposal that was approved can be in none of the three places. -/
theorem approved_proposal_lost :
    ¬ ∀ (config : CoordinatorConfig) (run : CoordinatorRun Unit),
      Reaches (fun _ => True) (opening config) run → run.Free →
        (run.entered.map Proposal.content).Perm
          ((run.coordinator.ledger.entries ++ run.coordinator.queue.entries ++
            run.handed).map Proposal.content) := by
  intro kept
  have same := (kept _ forfeiting reaches_forfeiting free_forfeiting).length_eq
  revert same
  decide

end CoordinatorRun

end Concord
