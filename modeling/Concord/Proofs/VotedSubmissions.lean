import Concord.Proofs.Handovers
import Concord.Proofs.Absorption

/-!
# Submissions to the vote

A submission that is put to the vote ends in one of two ways. If it is denied, then nothing was
executed, and all that has changed is what came into the ledger meanwhile. If it is committed,
then everything that the coordinator held or took in has aged and was executed in one run, which
began only after the ballot had been approved (`Committed`). `VotedSubmission` says at each stage
how far the call has come to that.
-/

namespace Concord

variable {Handle : Type}

/-- A submission whose ballot is approved and whose proposal has entered the ledger; `moved` has
left the ledger since. -/
structure Matures (own : Proposal) (start coordinator : Coordinator)
    (exchanges : List (Exchange Handle)) (moved : List Proposal) : Prop where
  config : coordinator.config = start.config
  approved : ⟨.readStatus own.id, .ok .approved⟩ ∈ exchanges
  idle : Exchange.executions exchanges = []
  queue : coordinator.queue.entries = start.queue.entries ++ moved.map Proposal.due
  ledger : (moved ++ coordinator.ledger.entries).Perm
    (start.ledger.entries ++ Exchange.arrivals exchanges ++ [own.owned])
  aged : ∀ entry ∈ moved, ∃ now ∈ Exchange.readings exchanges,
    start.config.windowMicros.toNat ≤ entry.ageAt now

namespace Matures

variable {own : Proposal} {start coordinator : Coordinator} {exchanges : List (Exchange Handle)}
  {moved : List Proposal}

/-- The own proposal enters the ledger behind what has come in. -/
theorem begins (collected : Collected start coordinator exchanges)
    (approved : ⟨.readStatus own.id, .ok .approved⟩ ∈ exchanges) :
    Matures own start { coordinator with ledger := coordinator.ledger.add own.owned }
      exchanges [] where
  config := collected.config
  approved := approved
  idle := collected.idle
  queue := by
    rw [List.map_nil, List.append_nil]
    exact congrArg ExecutionQueue.entries collected.queue
  ledger := by
    rw [← collected.ledger]
    exact .refl _
  aged := fun _ member => absurd member List.not_mem_nil

/-- A request that brings nothing in and asks for no execution. -/
theorem quiet (matures : Matures own start coordinator exchanges moved)
    {exchange : Exchange Handle} (nothing : exchange.arrival? = none)
    (unasked : exchange.execution? = none) :
    Matures own start coordinator (exchanges ++ [exchange]) moved where
  config := matures.config
  approved := List.mem_append_left _ matures.approved
  idle := (Exchange.executions_concat_of_none unasked).trans matures.idle
  queue := matures.queue
  ledger := (Exchange.arrivals_concat_of_none nothing).symm ▸ matures.ledger
  aged := by
    intro entry member
    obtain ⟨now, read, old⟩ := matures.aged entry member
    exact ⟨now, Exchange.mem_readings_concat read, old⟩

/-- An arrival enters the ledger beside the proposal. -/
theorem enter (matures : Matures own start coordinator exchanges moved) {envelope : Bytes}
    {entry : Proposal} (admitted : Proposal.admitted? envelope = some entry) :
    Matures own start { coordinator with ledger := coordinator.ledger.add entry }
      (exchanges ++ [⟨.checkout, .ok (some envelope)⟩]) moved where
  config := matures.config
  approved := List.mem_append_left _ matures.approved
  idle := (Exchange.executions_concat_of_none rfl).trans matures.idle
  queue := matures.queue
  ledger := by
    rw [Exchange.arrivals_checkout admitted]
    calc moved ++ (coordinator.ledger.entries ++ [entry])
      _ = moved ++ coordinator.ledger.entries ++ [entry] := (List.append_assoc ..).symm
      _ |>.Perm (start.ledger.entries ++ Exchange.arrivals exchanges ++ [own.owned] ++ [entry]) :=
        matures.ledger.append_right _
      _ |>.Perm
          (start.ledger.entries ++ (Exchange.arrivals exchanges ++ [entry]) ++ [own.owned]) := by
        simp only [List.append_assoc]
        exact (List.perm_append_comm.append_left _).append_left _
  aged := by
    intro other member
    obtain ⟨now, read, old⟩ := matures.aged other member
    exact ⟨now, Exchange.mem_readings_concat read, old⟩

/-- A drain moves what has aged by now. -/
theorem drain (matures : Matures own start coordinator exchanges moved) (now : Timestamp)
    {aged left : List Proposal} (perm : (aged ++ left).Perm coordinator.ledger.entries)
    (old : ∀ entry ∈ aged, coordinator.config.windowMicros.toNat ≤ entry.ageAt now) :
    Matures own start
      { coordinator with
        ledger := ⟨left⟩
        queue := ⟨coordinator.queue.entries ++ aged.map Proposal.due⟩ }
      (exchanges ++ [⟨.readClock, now⟩]) (moved ++ aged) where
  config := matures.config
  approved := List.mem_append_left _ matures.approved
  idle := (Exchange.executions_concat_of_none rfl).trans matures.idle
  queue := by
    rw [List.map_append, ← List.append_assoc, ← matures.queue]
  ledger := by
    rw [Exchange.arrivals_concat_of_none rfl, List.append_assoc]
    exact (perm.append_left moved).trans matures.ledger
  aged := by
    intro entry member
    rcases List.mem_append.1 member with before | latest
    · obtain ⟨reading, read, old⟩ := matures.aged entry before
      exact ⟨reading, Exchange.mem_readings_concat read, old⟩
    · rw [Exchange.readings_append]
      refine ⟨now, List.mem_append_right _ List.mem_cons_self, ?_⟩
      rw [← matures.config]
      exact old entry latest

/-- What was due once the ledger was empty. -/
theorem perm_due (matures : Matures own start coordinator exchanges moved)
    (empty : coordinator.ledger.entries = []) :
    coordinator.queue.entries.Perm (start.queue.entries ++
      (start.ledger.entries ++ Exchange.arrivals exchanges).map Proposal.due ++
        [own.owned.due]) := by
  have perm := matures.ledger
  rw [empty, List.append_nil] at perm
  have due := (perm.map Proposal.due).append_left start.queue.entries
  rw [matures.queue]
  rwa [List.map_append, ← List.append_assoc] at due

end Matures

/-- A submission that has found the ledger empty, so that all of `due` is due. -/
structure Prepared (own : Proposal) (start : Coordinator) (preparing : List (Exchange Handle))
    (due : List Proposal) : Prop where
  approved : ⟨.readStatus own.id, .ok .approved⟩ ∈ preparing
  idle : Exchange.executions preparing = []
  due : due.Perm
    (start.queue.entries ++ (start.ledger.entries ++ Exchange.arrivals preparing).map
      Proposal.due ++ [own.owned.due])
  aged : ∀ entry ∈ start.ledger.entries ++ Exchange.arrivals preparing ++ [own.owned],
    ∃ now ∈ Exchange.readings preparing, start.config.windowMicros.toNat ≤ entry.ageAt now

/-- A submission whose ledger is empty is prepared to hand over all that is queued. -/
theorem Matures.prepared {own : Proposal} {start coordinator : Coordinator}
    {exchanges : List (Exchange Handle)} {moved : List Proposal}
    (matures : Matures own start coordinator exchanges moved)
    (empty : coordinator.ledger.entries = []) :
    Prepared own start exchanges coordinator.queue.entries where
  approved := matures.approved
  idle := matures.idle
  due := matures.perm_due empty
  aged := by
    intro entry member
    have perm := matures.ledger
    rw [empty, List.append_nil] at perm
    exact matures.aged entry (perm.mem_iff.2 member)

/-- The proposal itself is among what is due. -/
theorem Prepared.own_due {own : Proposal} {start : Coordinator}
    {preparing : List (Exchange Handle)} {due : List Proposal}
    (prepared : Prepared own start preparing due) : own.owned.due ∈ due :=
  prepared.due.mem_iff.2 (List.mem_append_right _ List.mem_cons_self)

/-- A submission whose batch is over; `result` is what it will give back. -/
structure Resulted (own : Proposal) (start coordinator : Coordinator)
    (preparing : List (Exchange Handle)) (executions : List (Execution Handle))
    (result : Option Handle) : Prop where
  ledger : coordinator.ledger.entries = []
  queue : coordinator.queue.entries = []
  batch : ∃ due records, Prepared own start preparing due ∧ Performed due executions records ∧
    Coordinator.ownResult? own.key records = some result

/-- How far a submission to the vote has come. -/
inductive VotedSubmission (own : Proposal) (start : Coordinator)
    (exchanges : List (Exchange Handle)) :
    Coordinator × Control Handle → Prop where
  | offering {coordinator : Coordinator} (collected : Collected start coordinator exchanges) :
      VotedSubmission own start exchanges
        (coordinator, .waiting (.offering { own with state := .inProgress }))
  | awaitingVotes {coordinator : Coordinator}
      (collected : Collected start coordinator exchanges) :
      VotedSubmission own start exchanges
        (coordinator, .waiting (.awaitingVotes { own with state := .inProgress }))
  | readingStatus {coordinator : Coordinator}
      (collected : Collected start coordinator exchanges) :
      VotedSubmission own start exchanges
        (coordinator, .waiting (.readingStatus { own with state := .inProgress }))
  | resolving {coordinator : Coordinator} {status : VoteStatus}
      (collected : Collected start coordinator exchanges)
      (reported : ⟨.readStatus own.id, .ok status⟩ ∈ exchanges) :
      VotedSubmission own start exchanges (coordinator,
        .waiting (.absorbing (.resolution { own with state := .inProgress } status)))
  | releasingDenied {coordinator : Coordinator}
      (collected : Collected start coordinator exchanges)
      (reported : ⟨.readStatus own.id, .ok .denied⟩ ∈ exchanges) :
      VotedSubmission own start exchanges (coordinator, .waiting .releasingDenied)
  | denied {coordinator : Coordinator} (collected : Collected start coordinator exchanges)
      (reported : ⟨.readStatus own.id, .ok .denied⟩ ∈ exchanges) :
      VotedSubmission own start exchanges (coordinator, .returned (.ok (.submitted .denied)))
  | aging {coordinator : Coordinator} {moved : List Proposal}
      (matures : Matures own start coordinator exchanges moved) :
      VotedSubmission own start exchanges (coordinator, .waiting (.aging own.key))
  | awaitingAge {coordinator : Coordinator} {moved : List Proposal}
      (matures : Matures own start coordinator exchanges moved) :
      VotedSubmission own start exchanges (coordinator, .waiting (.awaitingAge own.key))
  | absorbingAge {coordinator : Coordinator} {moved : List Proposal}
      (matures : Matures own start coordinator exchanges moved) :
      VotedSubmission own start exchanges (coordinator, .waiting (.absorbing (.aging own.key)))
  | awaitingDrain {coordinator : Coordinator} {moved : List Proposal}
      (matures : Matures own start coordinator exchanges moved) :
      VotedSubmission own start exchanges
        (coordinator, .waiting (.awaitingDrain (.submission own.key)))
  | absorbingDrain {coordinator : Coordinator} {moved : List Proposal}
      (matures : Matures own start coordinator exchanges moved) :
      VotedSubmission own start exchanges
        (coordinator, .waiting (.absorbing (.drain (.submission own.key))))
  | draining {coordinator : Coordinator} {moved : List Proposal}
      (matures : Matures own start coordinator exchanges moved) :
      VotedSubmission own start exchanges (coordinator, .waiting (.draining (.submission own.key)))
  | executing {coordinator : Coordinator} {preparing : List (Exchange Handle)}
      {executions : List (Execution Handle)} {records : List (Executed Handle)}
      {due : List Proposal} {proposal : Proposal}
      (whole : exchanges = preparing ++ executions.map Execution.exchange)
      (prepared : Prepared own start preparing due)
      (empty : coordinator.ledger.entries = [])
      (performing : Performing due executions records proposal coordinator.queue.entries) :
      VotedSubmission own start exchanges (coordinator,
        .waiting (.executing (.drained (.submission own.key)) records proposal))
  | confirming {coordinator : Coordinator} {preparing : List (Exchange Handle)}
      {executions : List (Execution Handle)} {result : Option Handle}
      (whole : exchanges = preparing ++ executions.map Execution.exchange)
      (resulted : Resulted own start coordinator preparing executions result) :
      VotedSubmission own start exchanges (coordinator, .waiting (.confirming own.key result))
  | rereadingStatus {coordinator : Coordinator} {preparing : List (Exchange Handle)}
      {executions : List (Execution Handle)} {result : Option Handle}
      (whole : exchanges = preparing ++ executions.map Execution.exchange ++ [⟨.progress, .ok ()⟩])
      (resulted : Resulted own start coordinator preparing executions result) :
      VotedSubmission own start exchanges (coordinator, .waiting (.rereadingStatus own.key result))
  | releasingCommitted {coordinator : Coordinator} {preparing : List (Exchange Handle)}
      {executions : List (Execution Handle)} {result : Option Handle}
      (whole : exchanges = preparing ++ executions.map Execution.exchange ++
        [⟨.progress, .ok ()⟩, ⟨.readStatus own.id, .ok .approved⟩])
      (resulted : Resulted own start coordinator preparing executions result) :
      VotedSubmission own start exchanges (coordinator, .waiting (.releasingCommitted result))
  | committed {coordinator : Coordinator} {preparing : List (Exchange Handle)}
      {executions : List (Execution Handle)} {result : Option Handle}
      (whole : exchanges = preparing ++ executions.map Execution.exchange ++
        [⟨.progress, .ok ()⟩, ⟨.readStatus own.id, .ok .approved⟩, ⟨.release, .ok ()⟩])
      (resulted : Resulted own start coordinator preparing executions result) :
      VotedSubmission own start exchanges
        (coordinator, .returned (.ok (.submitted (.committed result))))
  | failed {coordinator : Coordinator} {cause : CoordinatorError}
      (honest : cause.lacksOwn = false) :
      VotedSubmission own start exchanges (coordinator, .returned (.error cause))

namespace VotedSubmission

variable {own : Proposal} {start : Coordinator} {exchanges : List (Exchange Handle)}

/-- A submission starts by offering its proposal, unless its life has begun before. -/
theorem begins (own : Proposal) (start : Coordinator) :
    VotedSubmission own start [] (start, (Coordinator.beginVoted own : Control Handle)) := by
  rcases Coordinator.start_cases own .inProgress with ⟨cause, busy⟩ | started
  · simp only [Coordinator.beginVoted, busy]
    exact .failed rfl
  · simp only [Coordinator.beginVoted, started]
    exact .offering (.begins start)

/-- A request whose answer says only whether something was done may fail. -/
theorem onSuccess {coordinator : Coordinator} {next : Coordinator × Control Handle}
    (answer : Except VotingError Unit)
    (done : answer = .ok () → VotedSubmission own start exchanges next) :
    VotedSubmission own start exchanges (coordinator.onSuccess answer next) :=
  Coordinator.onSuccess_goes_on (VotedSubmission own start exchanges) answer
    (fun _ _ => .failed rfl) done

/-- The status of the ballot is acted on. -/
theorem resolve {coordinator : Coordinator} {status : VoteStatus}
    (collected : Collected start coordinator exchanges)
    (reported : ⟨.readStatus own.id, .ok status⟩ ∈ exchanges) :
    VotedSubmission own start exchanges
      (coordinator.resolve { own with state := .inProgress } status) := by
  have started : ({ own with state := .inProgress } : Proposal).state = .inProgress := rfl
  cases status with
  | inProgress => exact .awaitingVotes collected
  | unknown => exact .failed rfl
  | denied =>
    simp only [Coordinator.resolve, Proposal.advance_of_inProgress started (.inr rfl)]
    exact .releasingDenied collected reported
  | approved =>
    simp only [Coordinator.resolve, Proposal.advance_of_inProgress started (.inl rfl)]
    exact .aging (.begins collected reported)

/-- A batch goes on, or its result is confirmed. -/
theorem proceeds {coordinator : Coordinator} {point : Coordinator × Control Handle}
    {preparing : List (Exchange Handle)} {executions : List (Execution Handle)}
    {records : List (Executed Handle)} {due : List Proposal}
    (proceeds : Proceeds due executions records (.drained (.submission own.key)) coordinator point)
    (whole : exchanges = preparing ++ executions.map Execution.exchange)
    (prepared : Prepared own start preparing due) (empty : coordinator.ledger.entries = []) :
    VotedSubmission own start exchanges point := by
  cases proceeds with
  | ended none performed =>
    -- The own proposal was due, so its record is among those of the batch.
    obtain ⟨result, found⟩ := performed.exists_ownResult prepared.own_due rfl
    have here : Coordinator.ownResult? own.key records = some result := found
    simp only [Coordinator.afterBatch, here]
    exact .confirming whole ⟨empty, none, due, records, prepared, performed, here⟩
  | next performing => exact .executing whole prepared empty performing

/-- A drain is followed by the batch once nothing is left in the ledger. -/
theorem drain {coordinator : Coordinator} {moved : List Proposal}
    (matures : Matures own start coordinator exchanges moved)
    (approved : ∀ entry ∈ coordinator.ledger.entries, entry.state = .approved) (now : Timestamp) :
    VotedSubmission own start (exchanges ++ [⟨.readClock, now⟩])
      (coordinator.drain (.submission own.key) now) := by
  obtain ⟨aged, left, result, perm, _, old, _⟩ := coordinator.moveAged_spec now approved
  have drained := matures.drain now perm old
  simp only [Coordinator.drain, result]
  split
  · next isEmpty =>
    have empty : left = [] := List.isEmpty_iff.1 isEmpty
    exact proceeds (Coordinator.executeNext_begins _ _) (List.append_nil _).symm
      (drained.prepared empty) empty
  · exact .awaitingDrain drained

/-- Every answer takes a submission one stage further. -/
theorem step {coordinator : Coordinator} {stage : Stage Handle}
    (regular : Regular (coordinator, .waiting stage))
    (submission : VotedSubmission own start exchanges (coordinator, .waiting stage))
    (answer : stage.request.Answer Handle) :
    VotedSubmission own start (exchanges ++ [⟨stage.request, answer⟩])
      (coordinator.resume stage answer) := by
  cases submission with
  | offering collected =>
    exact onSuccess answer fun _ => .awaitingVotes (collected.quiet rfl rfl)
  | awaitingVotes collected =>
    exact onSuccess answer fun _ => .readingStatus (collected.quiet rfl rfl)
  | readingStatus collected =>
    cases answer with
    | error cause => exact .failed rfl
    | ok status =>
      exact .resolving (collected.quiet rfl rfl) (List.mem_append_right _ List.mem_cons_self)
  | resolving collected reported =>
    refine Coordinator.resume_absorbing (VotedSubmission own start) ?_ ?_ ?_ answer
    · exact fun _ _ honest => .failed honest
    · exact resolve (collected.quiet rfl rfl) (List.mem_append_left _ reported)
    · exact fun admitted =>
        .resolving (collected.enter admitted) (List.mem_append_left _ reported)
  | releasingDenied collected reported =>
    exact onSuccess answer fun _ =>
      .denied (collected.quiet rfl rfl) (List.mem_append_left _ reported)
  | aging matures =>
    rw [Coordinator.resume]
    split
    · exact .awaitingAge (matures.quiet rfl rfl)
    · exact .awaitingDrain (matures.quiet rfl rfl)
  | awaitingAge matures =>
    exact onSuccess answer fun _ => .absorbingAge (matures.quiet rfl rfl)
  | absorbingAge matures =>
    refine Coordinator.resume_absorbing (VotedSubmission own start) ?_ ?_ ?_ answer
    · exact fun _ _ honest => .failed honest
    · exact .aging (matures.quiet rfl rfl)
    · exact fun admitted => .absorbingAge (matures.enter admitted)
  | awaitingDrain matures =>
    exact onSuccess answer fun _ => .absorbingDrain (matures.quiet rfl rfl)
  | absorbingDrain matures =>
    refine Coordinator.resume_absorbing (VotedSubmission own start) ?_ ?_ ?_ answer
    · exact fun _ _ honest => .failed honest
    · exact .draining (matures.quiet rfl rfl)
    · exact fun admitted => .absorbingDrain (matures.enter admitted)
  | draining matures => exact drain matures regular.ledger answer
  | executing whole prepared empty performing =>
    rcases Coordinator.resume_executing regular performing answer with
      ⟨failure, _, fails⟩ | ⟨handle, rfl, goesOn⟩
    · rw [fails]
      exact .failed rfl
    · refine proceeds goesOn ?_ prepared empty
      rw [whole, List.map_append, ← List.append_assoc]
      rfl
  | confirming whole resulted =>
    refine onSuccess answer fun done => ?_
    subst done
    exact .rereadingStatus (whole ▸ rfl) resulted
  | rereadingStatus whole resulted =>
    cases answer with
    | error cause => exact .failed rfl
    | ok status =>
      cases status with
      | approved => exact .releasingCommitted (by rw [whole, List.append_assoc]; rfl) resulted
      | _ => exact .failed rfl
  | releasingCommitted whole resulted =>
    refine onSuccess answer fun done => ?_
    subst done
    exact .committed (by rw [whole, List.append_assoc]; rfl) resulted

/-- Whatever a submission is answered, it goes its way. -/
theorem of_callSteps {point : Coordinator × Control Handle}
    (callSteps : CallSteps (start, Coordinator.beginVoted own) exchanges point)
    (regular : Regular (start, (Coordinator.beginVoted own : Control Handle))) :
    VotedSubmission own start exchanges point :=
  callSteps.keeps regular (begins own start) step

end VotedSubmission

/-- What a submission has done that gives back `result`. -/
structure Committed (own : Proposal) (start after : Coordinator)
    (exchanges preparing : List (Exchange Handle)) (executions : List (Execution Handle))
    (result : Option Handle) : Prop where
  /-- The executor is asked in one run. -/
  whole : exchanges = preparing ++ executions.map Execution.exchange ++
    [⟨.progress, .ok ()⟩, ⟨.readStatus own.id, .ok .approved⟩, ⟨.release, .ok ()⟩]
  idle : Exchange.executions preparing = []
  approved : ⟨.readStatus own.id, .ok .approved⟩ ∈ preparing
  ledger : after.ledger.entries = []
  queue : after.queue.entries = []
  /-- It is asked for what was queued, what was in the ledger, what came in, and the own. -/
  handed : (executions.map Execution.proposal).Perm
    (start.queue.entries ++ (start.ledger.entries ++ Exchange.arrivals exchanges).map
      Proposal.due ++ [own.owned.due])
  ascending : (executions.map Execution.proposal).Pairwise fun first second =>
    first.key ≤ second.key
  succeeded : ∀ execution ∈ executions, ∃ handle, execution.answer = .ok handle
  /-- What goes through the ledger has aged by a time at which the clock was read. -/
  aged : ∀ entry ∈ start.ledger.entries ++ Exchange.arrivals exchanges ++ [own.owned],
    ∃ now ∈ Exchange.readings preparing, start.config.windowMicros.toNat ≤ entry.ageAt now
  /-- Unless something else could be taken for the own proposal, it is asked for once, and this
  execution gave the result. -/
  answered : (∀ other ∈ start.queue.entries ++ start.ledger.entries ++ Exchange.arrivals exchanges,
      other.isLocal = true → other.key ≠ own.key) →
    executions.filter (fun execution => decide (execution.proposal = own.owned.due)) =
      [⟨own.owned.due, .ok result⟩]

/-- What a submission has done that is denied. -/
structure Denied (own : Proposal) (start after : Coordinator) (exchanges : List (Exchange Handle)) :
    Prop where
  reported : ⟨.readStatus own.id, .ok .denied⟩ ∈ exchanges
  idle : Exchange.executions exchanges = []
  queue : after.queue = start.queue
  ledger : after.ledger.entries = start.ledger.entries ++ Exchange.arrivals exchanges
  /-- The own proposal has not entered the ledger. -/
  absent : own.bare ∉ (start.ledger.entries ++ Exchange.arrivals exchanges).map Proposal.bare →
    own.bare ∉ after.ledger.entries.map Proposal.bare

/-- Whatever a submission to the vote is answered, from wherever earlier calls have left the
coordinator: if it is committed, everything held or taken in has aged and is executed in one run
after the approval, and if it is denied, nothing is. -/
theorem voted_submission_outcome {config : CoordinatorConfig} {before : CoordinatorRun Handle}
    (reached : CoordinatorRun.Reaches (fun _ => True) (.opening config) before) {own : Proposal}
    {exchanges : List (Exchange Handle)} {after : Coordinator} {outcome : SubmitOutcome Handle}
    (callSteps : CallSteps (before.coordinator, Coordinator.beginVoted own) exchanges
      (after, .returned (.ok (.submitted outcome)))) :
    match outcome with
    | .committed result => ∃ preparing executions,
        Committed own before.coordinator after exchanges preparing executions result
    | .denied => Denied own before.coordinator after exchanges := by
  have regular : Regular (before.coordinator, (Coordinator.beginVoted own : Control Handle)) :=
    CoordinatorRun.regular_begin reached (.submitVoted own)
  cases VotedSubmission.of_callSteps callSteps regular with
  | denied collected reported =>
    exact {
      reported
      idle := collected.idle
      queue := collected.queue
      ledger := collected.ledger
      absent := fun absent member => absent (collected.ledger ▸ member) }
  | @committed _ preparing executions result whole resulted =>
    obtain ⟨ledger, queue, due, records, prepared, performed, found⟩ := resulted
    have arrivals : Exchange.arrivals exchanges = Exchange.arrivals preparing := by
      rw [whole, Exchange.arrivals_append, Exchange.arrivals_append,
        Execution.arrivals_map_exchange, List.append_nil]
      exact List.append_nil _
    refine ⟨preparing, executions, ?_⟩
    exact {
      whole
      idle := prepared.idle
      approved := prepared.approved
      ledger
      queue
      handed := arrivals ▸ performed.perm.trans prepared.due
      ascending := performed.handover.ascending
      succeeded := performed.recorded.succeeded
      aged := arrivals ▸ prepared.aged
      answered := by
        intro distinct
        refine performed.filter_of_ownResult prepared.due ?_ rfl found
        intro other member isLocal
        rw [arrivals] at distinct
        rcases List.mem_append.1 member with queued | due
        · exact distinct other
            (List.mem_append_left _ (List.mem_append_left _ queued)) isLocal
        · obtain ⟨source, inLedger, rfl⟩ := List.mem_map.1 due
          refine distinct source ?_ isLocal
          rw [List.append_assoc]
          exact List.mem_append_right _ inLedger }

/-! ## A submission after a failure -/

namespace VotedSubmission

/-- A proposal of another process. -/
def foreign (time : UInt64) : Proposal :=
  { Proposal.create ⟨2⟩ ⟨0⟩ [] ⟨time⟩ with state := .inProgress }

/-- A progress call takes in three proposals, and the executor refuses the first of the two
that have aged. -/
def refusing (events : List ProposalEvent) : (request : Request) → request.Answer Unit
  | .checkout =>
    match events.length with
    | 0 => .ok (some (Envelope.encode (foreign 10)))
    | 1 => .ok (some (Envelope.encode (foreign 900)))
    | 2 => .ok (some (Envelope.encode (foreign 20)))
    | _ => .ok none
  | .readClock => ⟨2500⟩
  | .execute _ => .error (.failed "disk full")
  | .readStatus _ => .ok .unknown
  | .progress => .ok ()
  | .submitVote _ _ => .ok ()
  | .submitBroadcast _ _ => .ok ()
  | .release => .ok ()
  | .finalize => .ok ()

/-- It leaves one proposal in the queue and one in the ledger. -/
def leftover : CoordinatorRun Unit :=
  ((CoordinatorRun.opening (.default ⟨0⟩ 1)).begin .progress).attend refusing 10

/-- The run before the witness. -/
theorem reaches_leftover :
    CoordinatorRun.Reaches (fun _ => True) (.opening (.default ⟨0⟩ 1)) leftover :=
  CoordinatorRun.reaches_attend _ _ (.step .refl (.begin _ trivial (fun _ => nofun)))

/-- The surroundings of the next call, with the number of requests answered: one more proposal
comes in at its turn, the ballot stands as `status` says, and the executor gives handles. -/
def answering (status : VoteStatus) (turn : Nat) (arrival : Proposal) : Surroundings Nat Unit where
  answer
    | .checkout, count =>
      (.ok (if count = turn then some (Envelope.encode arrival) else none), count + 1)
    | .readClock, count => (⟨5000⟩, count + 1)
    | .execute _, count => (.ok (some ()), count + 1)
    | .readStatus _, count => (.ok status, count + 1)
    | .progress, count => (.ok (), count + 1)
    | .submitVote _ _, count => (.ok (), count + 1)
    | .submitBroadcast _ _, count => (.ok (), count + 1)
    | .release, count => (.ok (), count + 1)
    | .finalize, count => (.ok (), count + 1)

/-- An own proposal. -/
def submitted : Proposal :=
  .create ⟨1⟩ ⟨0⟩ [] ⟨2600⟩

/-- Its submission in these surroundings. -/
def ending (status : VoteStatus) : List (Exchange Unit) × (Coordinator × Control Unit) :=
  Coordinator.converse (answering status 3 (foreign 1500)) 30
    (leftover.coordinator, Coordinator.beginVoted submitted) 0

/-- What the failure has left, what comes in and the own proposal are executed in one run; or
nothing is. -/
theorem voted_submission_outcome_leftover :
    leftover.coordinator.queue.entries.map Proposal.createdAt = [⟨20⟩] ∧
    leftover.coordinator.ledger.entries.map Proposal.createdAt = [⟨900⟩] ∧
    (Exchange.executions (ending .approved).1).map (fun execution => execution.proposal.createdAt) =
      [⟨20⟩, ⟨900⟩, ⟨1500⟩, ⟨2600⟩] ∧
    (∃ preparing executions, Committed submitted leftover.coordinator (ending .approved).2.1
      (ending .approved).1 preparing executions (some ())) ∧
    Denied submitted leftover.coordinator (ending .denied).2.1 (ending .denied).1 := by
  have commits : (ending .approved).2.2.reply? =
      some (.ok (.submitted (.committed (some ())))) := by decide +kernel
  have denies : (ending .denied).2.2.reply? = some (.ok (.submitted .denied)) := by
    decide +kernel
  refine ⟨by decide +kernel, by decide +kernel, by decide +kernel, ?_, ?_⟩
  · exact voted_submission_outcome reaches_leftover (Coordinator.callSteps_of_reply _ _ _ _ commits)
  · exact voted_submission_outcome reaches_leftover (Coordinator.callSteps_of_reply _ _ _ _ denies)

end VotedSubmission

end Concord
