import Concord.Proofs.VotedSubmissions
import Mathlib

/-!
# Rounds and their quorum

A submission that is sent to everybody waits until the ledger holds proposals of as many slots as
there are processes. Before that it executes nothing and takes nothing out: `BeforeQuorum`. Then it
takes out a round, the oldest proposal of every slot, and executes it with what an earlier failure
has left in the queue: `SinceQuorum`. The round does not depend on the order of arrival
(`IsRound.keys_eq`).
-/

namespace Concord

variable {Handle : Type}

/-! ## Rounds -/

/-- The slots of some proposals, each once. -/
def Proposal.slots (proposals : List Proposal) : List ProposalId :=
  (proposals.map Proposal.id).dedup

/-- The oldest of every slot that is held, in the global order, and all that is left. -/
structure IsRound (held taken left : List Proposal) : Prop where
  parted : (taken ++ left).Perm held
  distinct : (taken.map Proposal.id).Nodup
  oldest : ∀ entry ∈ held, ∃ first ∈ taken, first.id = entry.id ∧ first.key ≤ entry.key
  ascending : taken.Pairwise fun first second => first.key ≤ second.key

namespace IsRound

variable {held arrived taken picked left rest : List Proposal}

/-- A round takes only what is held. -/
theorem mem_held (round : IsRound held taken left) {entry : Proposal} (member : entry ∈ taken) :
    entry ∈ held :=
  round.parted.mem_iff.1 (List.mem_append_left _ member)

/-- A round does not depend on the order in which its entries are held. -/
theorem of_perm (round : IsRound held taken left) (perm : held.Perm arrived) :
    IsRound arrived taken left where
  parted := round.parted.trans perm
  distinct := round.distinct
  oldest := fun entry member => round.oldest entry (perm.mem_iff.2 member)
  ascending := round.ascending

/-- What is taken is no later than anything that is held of its slot. -/
theorem key_le (round : IsRound held taken left) {first entry : Proposal} (member : first ∈ taken)
    (inHeld : entry ∈ held) (same : first.id = entry.id) : first.key ≤ entry.key := by
  obtain ⟨other, inTaken, slot, least⟩ := round.oldest entry inHeld
  have equal : first = other :=
    List.inj_on_of_nodup_map round.distinct member inTaken (same.trans slot.symm)
  exact equal ▸ least

/-- Two rounds of the same proposals are at the same places in the order. -/
theorem mem_keys (round : IsRound held taken left) (other : IsRound held picked rest)
    {key : OrderKey} (member : key ∈ taken.map Proposal.key) : key ∈ picked.map Proposal.key := by
  obtain ⟨entry, inTaken, rfl⟩ := List.mem_map.1 member
  obtain ⟨first, inPicked, slot, least⟩ := other.oldest entry (round.mem_held inTaken)
  have most := round.key_le inTaken (other.mem_held inPicked) slot.symm
  exact List.mem_map.2 ⟨first, inPicked, OrderKey.eq_of_le_of_le least most⟩

/-- A round takes no key twice. -/
theorem nodup_keys (round : IsRound held taken left) : (taken.map Proposal.key).Nodup := by
  have ids : (taken.map Proposal.key).map OrderKey.id = taken.map Proposal.id := by
    rw [List.map_map]
    rfl
  exact .of_map OrderKey.id (ids ▸ round.distinct)

/-- The places of a round in the order are determined by what is held. -/
theorem keys_eq (round : IsRound held taken left) (other : IsRound held picked rest) :
    taken.map Proposal.key = picked.map Proposal.key := by
  apply List.Perm.eq_of_pairwise fun _ _ _ _ => OrderKey.eq_of_le_of_le
  · exact List.pairwise_map.2 round.ascending
  · exact List.pairwise_map.2 other.ascending
  · exact (List.perm_ext_iff_of_nodup round.nodup_keys other.nodup_keys).2
      fun _ => ⟨round.mem_keys other, other.mem_keys round⟩

end IsRound

/-- What a ledger takes out is a round of its entries. -/
theorem Ledger.takeRound_isRound (ledger : Ledger) :
    IsRound ledger.entries ledger.takeRound.1 ledger.takeRound.2.entries := by
  obtain ⟨parted, ascending, distinct, _, oldest⟩ := ledger.takeRound_spec
  exact ⟨parted, distinct, oldest, ascending⟩

/-- The ledger counts the slots of what it holds. -/
theorem Ledger.distinctIds_eq (ledger : Ledger) :
    ledger.distinctIds = (Proposal.slots ledger.entries).length := by
  obtain ⟨distinct, present, covering⟩ := ledger.oldestKeys_spec
  have perm : (ledger.oldestKeys.map OrderKey.id).Perm (Proposal.slots ledger.entries) := by
    refine (List.perm_ext_iff_of_nodup distinct (List.nodup_dedup _)).2 fun id => ?_
    rw [List.mem_dedup]
    constructor
    · intro member
      obtain ⟨key, known, rfl⟩ := List.mem_map.1 member
      obtain ⟨entry, inLedger, rfl⟩ := present key known
      exact List.mem_map_of_mem inLedger
    · intro member
      obtain ⟨entry, inLedger, rfl⟩ := List.mem_map.1 member
      obtain ⟨key, known, slot, _⟩ := covering entry inLedger
      exact List.mem_map.2 ⟨key, known, slot⟩
  rw [distinctIds, ← perm.length_eq, List.length_map]

/-! ## A submission to everybody -/

/-- The request that sends an own proposal to everybody, if it succeeds. -/
def Exchange.acceptance (own : Proposal) : Exchange Handle :=
  ⟨.submitBroadcast own.id (Envelope.encode { own with state := .approved }), .ok ()⟩

/-- A coordinator whose ledger the own proposal has entered. -/
def Coordinator.entering (coordinator : Coordinator) (own : Proposal) : Coordinator :=
  { coordinator with ledger := coordinator.ledger.add own.owned }

/-- Whether the slots are counted after a request: the own proposal has been sent, or nothing is
left to check out. -/
def Exchange.counts : Exchange Handle → Bool
  | ⟨.submitBroadcast _ _, .ok ()⟩ => true
  | exchange => exchange.exhausts

/-- Whether there were too few slots each time they were counted. -/
def TooFew (own : Proposal) (start : Coordinator) (exchanges : List (Exchange Handle)) : Prop :=
  ∀ earlier exchange later, exchanges = earlier ++ exchange :: later → exchange.counts = true →
    (Proposal.slots (start.ledger.entries ++ [own.owned] ++ Exchange.arrivals earlier)).length <
      start.config.worldSize

/-- Before any exchange nothing has been counted. -/
theorem TooFew.begins (own : Proposal) (start : Coordinator) :
    TooFew own start ([] : List (Exchange Handle)) := by
  intro earlier exchange later split
  exact absurd split (List.append_ne_nil_of_right_ne_nil _ (List.cons_ne_nil _ _)).symm

/-- One more request, after which the slots are counted or not. -/
theorem TooFew.concat {own : Proposal} {start : Coordinator} {exchanges : List (Exchange Handle)}
    (few : TooFew own start exchanges) {exchange : Exchange Handle}
    (counted : exchange.counts = true → (Proposal.slots
      (start.ledger.entries ++ [own.owned] ++ Exchange.arrivals exchanges)).length <
        start.config.worldSize) :
    TooFew own start (exchanges ++ [exchange]) := by
  intro earlier other later split counts
  rcases List.eq_nil_or_concat later with rfl | ⟨front, last, rfl⟩
  · obtain ⟨rfl, same⟩ := List.append_inj' split rfl
    cases same
    exact counted counts
  · rw [List.concat_eq_append, ← List.cons_append, ← List.append_assoc] at split
    exact few earlier other front (List.append_inj' split rfl).1 counts

/-- A submission whose own proposal is in the ledger and that has not found its quorum. -/
structure Sent (own : Proposal) (start coordinator : Coordinator)
    (exchanges : List (Exchange Handle)) : Prop where
  collected : Collected (start.entering own) coordinator exchanges
  accepted : Exchange.acceptance own ∈ exchanges
  few : TooFew own start exchanges

namespace Sent

variable {own : Proposal} {start coordinator : Coordinator} {exchanges : List (Exchange Handle)}

/-- A request that brings nothing in and after which the slots are not counted. -/
theorem quiet (sent : Sent own start coordinator exchanges) {exchange : Exchange Handle}
    (nothing : exchange.arrival? = none) (unasked : exchange.execution? = none)
    (uncounted : exchange.counts = false) :
    Sent own start coordinator (exchanges ++ [exchange]) where
  collected := sent.collected.quiet nothing unasked
  accepted := List.mem_append_left _ sent.accepted
  few := sent.few.concat fun counted => absurd counted (uncounted ▸ Bool.false_ne_true)

/-- An arrival enters the ledger, and the quorum has yet to be looked for. -/
theorem enter (sent : Sent own start coordinator exchanges) {envelope : Bytes} {entry : Proposal}
    (admitted : Proposal.admitted? envelope = some entry) :
    Sent own start { coordinator with ledger := coordinator.ledger.add entry }
      (exchanges ++ [⟨.checkout, .ok (some envelope)⟩]) where
  collected := sent.collected.enter admitted
  accepted := List.mem_append_left _ sent.accepted
  few := sent.few.concat nofun

end Sent

/-- A submission that has found its quorum, with the round that it took out. -/
structure Quorum (own : Proposal) (start : Coordinator) (gathering : List (Exchange Handle))
    (taken left : List Proposal) : Prop where
  accepted : Exchange.acceptance own ∈ gathering
  idle : Exchange.executions gathering = []
  enough : start.config.worldSize ≤ (Proposal.slots
    ((start.entering own).ledger.entries ++ Exchange.arrivals gathering)).length
  round : IsRound ((start.entering own).ledger.entries ++ Exchange.arrivals gathering) taken left

namespace Quorum

variable {own : Proposal} {start : Coordinator} {exchanges gathering : List (Exchange Handle)}
  {executions : List (Execution Handle)} {taken left : List Proposal}

/-- A round has a proposal under the own slot. -/
theorem exists_own (quorum : Quorum own start gathering taken left) :
    ∃ first ∈ taken, first.id = own.id ∧ first.key ≤ own.key :=
  quorum.round.oldest own.owned
    (List.mem_append_left _ (List.mem_append_right _ List.mem_cons_self))

/-- Nothing comes in after the quorum. -/
theorem arrivals_eq (whole : exchanges = gathering ++ executions.map Execution.exchange) :
    Exchange.arrivals exchanges = Exchange.arrivals gathering := by
  rw [whole, Exchange.arrivals_append, Execution.arrivals_map_exchange, List.append_nil]

/-- Nothing is executed before it. -/
theorem executions_eq (quorum : Quorum own start gathering taken left)
    (whole : exchanges = gathering ++ executions.map Execution.exchange) :
    Exchange.executions exchanges = executions := by
  rw [whole, Exchange.executions_append, quorum.idle, Execution.executions_map_exchange]
  exact List.nil_append _

end Quorum

/-- How far a submission to everybody has come. -/
inductive BroadcastSubmission (own : Proposal) (start : Coordinator)
    (exchanges : List (Exchange Handle)) :
    Coordinator × Control Handle → Prop where
  | broadcasting (first : exchanges = []) :
      BroadcastSubmission own start exchanges
        (start, .waiting (.broadcasting { own with state := .approved }))
  | refused {cause : CoordinatorError} (collected : Collected start start exchanges)
      (unaccepted : Exchange.acceptance own ∉ exchanges) (few : TooFew own start exchanges) :
      BroadcastSubmission own start exchanges (start, .returned (.error cause))
  | awaitingQuorum {coordinator : Coordinator} (sent : Sent own start coordinator exchanges) :
      BroadcastSubmission own start exchanges (coordinator, .waiting (.awaitingQuorum own.key))
  | absorbing {coordinator : Coordinator} (sent : Sent own start coordinator exchanges) :
      BroadcastSubmission own start exchanges (coordinator, .waiting (.absorbing (.quorum own.key)))
  | failed {coordinator : Coordinator} {cause : CoordinatorError}
      (sent : Sent own start coordinator exchanges) :
      BroadcastSubmission own start exchanges (coordinator, .returned (.error cause))
  | executing {coordinator : Coordinator} {gathering : List (Exchange Handle)}
      {executions : List (Execution Handle)} {records : List (Executed Handle)}
      {taken : List Proposal} {proposal : Proposal}
      (whole : exchanges = gathering ++ executions.map Execution.exchange)
      (quorum : Quorum own start gathering taken coordinator.ledger.entries)
      (performing : Performing (start.queue.entries ++ taken.map Proposal.due) executions records
        proposal coordinator.queue.entries) :
      BroadcastSubmission own start exchanges
        (coordinator, .waiting (.executing (.round own.key) records proposal))
  | stopped {coordinator : Coordinator} {gathering : List (Exchange Handle)}
      {executions : List (Execution Handle)} {taken : List Proposal} {failure : ExecutorError}
      (whole : exchanges = gathering ++ executions.map Execution.exchange)
      (quorum : Quorum own start gathering taken coordinator.ledger.entries)
      (handover : Handover (start.queue.entries ++ taken.map Proposal.due) executions
        coordinator.queue.entries)
      (fails : ∃ execution ∈ executions, execution.answer = .error failure) :
      BroadcastSubmission own start exchanges (coordinator, .returned (.error (.executor failure)))
  | ended {coordinator : Coordinator} {gathering : List (Exchange Handle)}
      {executions : List (Execution Handle)} {taken : List Proposal}
      {reply : Except CoordinatorError (Reply Handle)}
      (whole : exchanges = gathering ++ executions.map Execution.exchange)
      (quorum : Quorum own start gathering taken coordinator.ledger.entries)
      (handover : Handover (start.queue.entries ++ taken.map Proposal.due) executions [])
      (empty : coordinator.queue.entries = []) :
      BroadcastSubmission own start exchanges (coordinator, .returned reply)

namespace BroadcastSubmission

variable {own : Proposal} {start : Coordinator} {exchanges : List (Exchange Handle)}

/-- A submission starts by sending its proposal, unless its life has begun before. -/
theorem begins (own : Proposal) (start : Coordinator) :
    BroadcastSubmission own start []
      (start, (Coordinator.beginBroadcast own : Control Handle)) := by
  rcases Coordinator.start_cases own .approved with ⟨cause, busy⟩ | started
  · simp only [Coordinator.beginBroadcast, busy]
    exact .refused (.begins start) List.not_mem_nil (.begins own start)
  · simp only [Coordinator.beginBroadcast, started]
    exact .broadcasting rfl

/-- A batch goes on, or the call returns. -/
theorem proceeds {coordinator : Coordinator} {point : Coordinator × Control Handle}
    {gathering : List (Exchange Handle)} {executions : List (Execution Handle)}
    {records : List (Executed Handle)} {taken : List Proposal}
    (proceeds : Proceeds (start.queue.entries ++ taken.map Proposal.due) executions records
      (.round own.key) coordinator point)
    (whole : exchanges = gathering ++ executions.map Execution.exchange)
    (quorum : Quorum own start gathering taken coordinator.ledger.entries) :
    BroadcastSubmission own start exchanges point := by
  cases proceeds with
  | ended none performed =>
    rw [Coordinator.afterBatch]
    split <;> exact .ended whole quorum performed.handover none
  | next performing => exact .executing whole quorum performing

/-- The slots are counted, and a round is taken out if there are enough. -/
theorem awaitRound {coordinator : Coordinator} {exchange : Exchange Handle}
    (collected : Collected (start.entering own) coordinator (exchanges ++ [exchange]))
    (accepted : Exchange.acceptance own ∈ exchanges ++ [exchange])
    (few : TooFew own start exchanges) (nothing : exchange.arrival? = none)
    (approved : ∀ entry ∈ coordinator.ledger.entries, entry.state = .approved) :
    BroadcastSubmission own start (exchanges ++ [exchange]) (coordinator.awaitRound own.key) := by
  have config : coordinator.config = start.config := collected.config
  have queue : coordinator.queue = start.queue := collected.queue
  rcases coordinator.awaitRound_cases approved own.key with ⟨short, waits⟩ | ⟨enough, goesOn⟩
  · rw [waits]
    rw [Ledger.distinctIds_eq, config, collected.ledger,
      Exchange.arrivals_concat_of_none nothing] at short
    exact .awaitingQuorum ⟨collected, accepted, few.concat fun _ => short⟩
  · rw [goesOn]
    rw [Ledger.distinctIds_eq, config, collected.ledger] at enough
    have round := coordinator.ledger.takeRound_isRound
    rw [collected.ledger] at round
    have quorum : Quorum own start (exchanges ++ [exchange]) coordinator.ledger.takeRound.1
        coordinator.withRound.ledger.entries := ⟨accepted, collected.idle, enough, round⟩
    have due : coordinator.withRound.queue.entries =
        start.queue.entries ++ coordinator.ledger.takeRound.1.map Proposal.due := by
      rw [← queue]
      rfl
    have begun := @Coordinator.executeNext_begins Handle coordinator.withRound (.round own.key)
    rw [due] at begun
    exact proceeds begun (List.append_nil _).symm quorum

/-- Every answer takes a submission to everybody one stage further. -/
theorem step {coordinator : Coordinator} {stage : Stage Handle}
    (regular : Regular (coordinator, .waiting stage))
    (gathering : BroadcastSubmission own start exchanges (coordinator, .waiting stage))
    (answer : stage.request.Answer Handle) :
    BroadcastSubmission own start (exchanges ++ [⟨stage.request, answer⟩])
      (coordinator.resume stage answer) := by
  cases gathering with
  | broadcasting first =>
    subst first
    cases answer with
    | error cause =>
      refine .refused (.quiet (.begins _) rfl rfl) ?_ (.concat (.begins own start) nofun)
      intro accepted
      cases List.mem_singleton.1 accepted
    | ok sent =>
      refine awaitRound (.quiet (.begins _) rfl rfl) List.mem_cons_self (.begins own start) rfl ?_
      intro entry member
      rcases List.mem_append.1 member with held | isOwn
      · exact regular.ledger entry held
      · rw [List.mem_singleton.1 isOwn]
        rfl
  | awaitingQuorum sent =>
    exact Coordinator.onSuccess_goes_on (BroadcastSubmission own start _) answer
      (fun _ _ => .failed (sent.quiet rfl rfl rfl)) fun _ => .absorbing (sent.quiet rfl rfl rfl)
  | absorbing sent =>
    refine Coordinator.resume_absorbing (BroadcastSubmission own start) ?_ ?_ ?_ answer
    · exact fun nothing more _ => .failed (sent.quiet nothing rfl more)
    · exact awaitRound (sent.collected.quiet rfl rfl) (List.mem_append_left _ sent.accepted)
        sent.few rfl regular.ledger
    · exact fun admitted => .absorbing (sent.enter admitted)
  | @executing _ gathering executions records taken proposal whole quorum performing =>
    have longer : exchanges ++ [(⟨.execute proposal, answer⟩ : Exchange Handle)] =
        gathering ++ (executions ++ [(⟨proposal, answer⟩ : Execution Handle)]).map
          Execution.exchange := by
      rw [whole, List.map_append, ← List.append_assoc]
      rfl
    rcases Coordinator.resume_executing regular performing answer with
      ⟨failure, rfl, fails⟩ | ⟨handle, rfl, goesOn⟩
    · rw [fails]
      refine .stopped longer quorum (performing.handover.hand performing.oldest _) ?_
      exact ⟨_, List.mem_append_right _ List.mem_cons_self, rfl⟩
    · exact proceeds goesOn longer quorum

/-- Whatever a submission is answered, it goes its way. -/
theorem of_callSteps {point : Coordinator × Control Handle}
    (callSteps : CallSteps (start, Coordinator.beginBroadcast own) exchanges point)
    (regular : Regular (start, (Coordinator.beginBroadcast own : Control Handle))) :
    BroadcastSubmission own start exchanges point :=
  callSteps.keeps regular (begins own start) step

end BroadcastSubmission

/-- What a submission to everybody has done before its quorum. -/
structure BeforeQuorum (own : Proposal) (start after : Coordinator)
    (exchanges : List (Exchange Handle)) (control : Control Handle) : Prop where
  idle : Exchange.executions exchanges = []
  free : control.inHand = []
  queue : after.queue = start.queue
  /-- Nothing has left the ledger; the own proposal is in it once it has been sent. -/
  held : Exchange.acceptance own ∈ exchanges →
    after.ledger.entries =
      start.ledger.entries ++ [own.owned] ++ Exchange.arrivals exchanges
  refused : Exchange.acceptance own ∉ exchanges → after.ledger.entries = start.ledger.entries
  /-- There were too few slots each time they were counted. -/
  few : TooFew own start exchanges
  pending : ∀ reply, control ≠ .returned (.ok reply)

/-- What a submission to everybody has done since its quorum. -/
structure SinceQuorum (own : Proposal) (start after : Coordinator)
    (exchanges gathering : List (Exchange Handle)) (executions : List (Execution Handle))
    (taken : List Proposal) (control : Control Handle) : Prop where
  whole : exchanges = gathering ++ executions.map Execution.exchange
  idle : Exchange.executions gathering = []
  accepted : Exchange.acceptance own ∈ gathering
  enough : start.config.worldSize ≤ (Proposal.slots
    (start.ledger.entries ++ [own.owned] ++ Exchange.arrivals exchanges)).length
  round : IsRound (start.ledger.entries ++ [own.owned] ++ Exchange.arrivals exchanges) taken
    after.ledger.entries
  /-- The round is the same in whatever order its proposals came. -/
  unordered : ∀ arrived,
    arrived.Perm (start.ledger.entries ++ [own.owned] ++ Exchange.arrivals exchanges) →
      (Ledger.takeRound ⟨arrived⟩).1.map Proposal.key = taken.map Proposal.key
  /-- The executor is asked for the round and what was queued, the oldest first. -/
  handover : Handover (start.queue.entries ++ taken.map Proposal.due) executions
    (control.inHand ++ after.queue.entries)
  /-- If it does not fail, it is asked for all of them. -/
  complete : ∀ reply, control = .returned reply →
    (∀ execution ∈ executions, ∃ handle, execution.answer = .ok handle) →
      after.queue.entries = []

/-- From its quorum on, a submission has done what the handover of its round says. -/
theorem Quorum.sinceQuorum {own : Proposal} {start after : Coordinator}
    {exchanges gathering : List (Exchange Handle)} {executions : List (Execution Handle)}
    {taken : List Proposal} {control : Control Handle}
    (quorum : Quorum own start gathering taken after.ledger.entries)
    (whole : exchanges = gathering ++ executions.map Execution.exchange)
    (handover : Handover (start.queue.entries ++ taken.map Proposal.due) executions
      (control.inHand ++ after.queue.entries))
    (complete : ∀ reply, control = .returned reply →
      (∀ execution ∈ executions, ∃ handle, execution.answer = .ok handle) →
        after.queue.entries = []) :
    SinceQuorum own start after exchanges gathering executions taken control := by
  have arrivals := Quorum.arrivals_eq whole
  have round : IsRound (start.ledger.entries ++ [own.owned] ++ Exchange.arrivals exchanges) taken
      after.ledger.entries := arrivals ▸ quorum.round
  refine ⟨whole, quorum.idle, quorum.accepted, arrivals ▸ quorum.enough, round, ?_, handover,
    complete⟩
  intro arrived perm
  exact ((Ledger.takeRound_isRound ⟨arrived⟩).of_perm perm).keys_eq round

/-- Once its proposal has been sent, a call that has taken nothing out is unfilled. -/
theorem Sent.beforeQuorum {own : Proposal} {start coordinator : Coordinator}
    {exchanges : List (Exchange Handle)} {control : Control Handle}
    (sent : Sent own start coordinator exchanges) (free : control.inHand = [])
    (pending : ∀ reply, control ≠ .returned (.ok reply)) :
    BeforeQuorum own start coordinator exchanges control where
  idle := sent.collected.idle
  free := free
  queue := sent.collected.queue
  held := fun _ => sent.collected.ledger
  refused := fun unaccepted => absurd sent.accepted unaccepted
  few := sent.few
  pending := pending

/-- Whatever a submission to everybody is answered, from wherever earlier calls have left the
coordinator: it executes nothing before its quorum and takes nothing out, and with its quorum it
takes out one round and executes that and what was queued. -/
theorem quorum_gated {config : CoordinatorConfig} {run : CoordinatorRun Handle}
    (reached : CoordinatorRun.Reaches (fun _ => True) (.opening config) run) {own : Proposal}
    {exchanges : List (Exchange Handle)} {after : Coordinator} {control : Control Handle}
    (callSteps : CallSteps (run.coordinator, Coordinator.beginBroadcast own) exchanges
      (after, control)) :
    BeforeQuorum own run.coordinator after exchanges control ∨
      ∃ gathering executions taken,
        SinceQuorum own run.coordinator after exchanges gathering executions taken control := by
  have regular : Regular
      (run.coordinator, (Coordinator.beginBroadcast own : Control Handle)) :=
    CoordinatorRun.regular_begin reached (.submitBroadcast own)
  cases BroadcastSubmission.of_callSteps callSteps regular with
  | broadcasting first =>
    subst first
    exact .inl ⟨rfl, rfl, rfl, fun accepted => absurd accepted List.not_mem_nil, fun _ => rfl,
      .begins own _, nofun⟩
  | refused collected unaccepted few =>
    exact .inl ⟨collected.idle, rfl, rfl, fun accepted => absurd accepted unaccepted, fun _ => rfl,
      few, nofun⟩
  | awaitingQuorum sent => exact .inl (sent.beforeQuorum rfl nofun)
  | absorbing sent => exact .inl (sent.beforeQuorum rfl nofun)
  | failed sent => exact .inl (sent.beforeQuorum rfl nofun)
  | executing whole quorum performing =>
    exact .inr ⟨_, _, _, quorum.sinceQuorum whole performing.handover nofun⟩
  | stopped whole quorum handover fails =>
    refine .inr ⟨_, _, _, quorum.sinceQuorum whole handover ?_⟩
    intro _ _ succeeds
    obtain ⟨execution, member, failed⟩ := fails
    obtain ⟨handle, succeeded⟩ := succeeds execution member
    rw [failed] at succeeded
    cases succeeded
  | ended whole quorum handover empty =>
    refine .inr ⟨_, _, _, quorum.sinceQuorum whole ?_ fun _ _ _ => empty⟩
    rw [empty]
    exact handover

/-! ## A round after a failure -/

namespace BroadcastSubmission

/-- Settings for rounds of two. -/
def pair : CoordinatorConfig :=
  { CoordinatorConfig.default ⟨0⟩ 2 with mode := .broadcast }

/-- A submission to everybody that has failed: the executor refuses the first of the round, so the
own proposal is still queued, and a third one is still in the ledger. -/
def leftover : CoordinatorRun Unit :=
  ((CoordinatorRun.opening pair).begin (.submitBroadcast (.create ⟨1⟩ ⟨0⟩ [] ⟨100⟩))).attend
    VotedSubmission.refusing 10

/-- The run of the witness, in which the ledger holds an entry of another slot. -/
theorem reaches_leftover : CoordinatorRun.Reaches (fun _ => True) (.opening pair) leftover :=
  CoordinatorRun.reaches_attend _ _ (.step .refl (.begin _ trivial (fun _ => nofun)))

/-- Another submission after it. -/
def completing : List (Exchange Unit) × (Coordinator × Control Unit) :=
  Coordinator.converse (VotedSubmission.answering .approved 9 (VotedSubmission.foreign 0)) 20
    (leftover.coordinator, Coordinator.beginBroadcast VotedSubmission.submitted) 0

/-- A first submission, to which a proposal comes that claims to be executed. -/
def breaking : List (Exchange Unit) × (Coordinator × Control Unit) :=
  Coordinator.converse
    (VotedSubmission.answering .approved 2
      { VotedSubmission.foreign 30 with state := .executed }) 20
    ((CoordinatorRun.opening pair : CoordinatorRun Unit).coordinator,
      Coordinator.beginBroadcast VotedSubmission.submitted) 0

/-- What the failure has left is executed with the new round; and a failure before the quorum
leaves the own proposal in the ledger. -/
theorem quorum_gated_leftover :
    leftover.coordinator.queue.entries.map Proposal.createdAt = [⟨100⟩] ∧
    leftover.coordinator.ledger.entries.map Proposal.createdAt = [⟨900⟩] ∧
    (Exchange.executions completing.1).map (fun execution => execution.proposal.createdAt) =
      [⟨100⟩, ⟨900⟩, ⟨2600⟩] ∧
    (∃ gathering executions taken, SinceQuorum VotedSubmission.submitted leftover.coordinator
      completing.2.1 completing.1 gathering executions taken
        (.returned (.ok (.submitted (.committed (some ())))))) ∧
    breaking.2.1.ledger.entries = [VotedSubmission.submitted.owned] ∧
    BeforeQuorum VotedSubmission.submitted
      (CoordinatorRun.opening pair : CoordinatorRun Unit).coordinator breaking.2.1
      breaking.1 (.returned (.error
        (.invariant (.transition ⟨2⟩ (.invalidTransition "EXECUTED" "APPROVED"))))) := by
  have completes : completing.2.2.reply? =
      some (.ok (.submitted (.committed (some ())))) := by cbv
  have breaks : breaking.2.2.reply? = some (.error
      (.invariant (.transition ⟨2⟩ (.invalidTransition "EXECUTED" "APPROVED")))) := by cbv
  have executed : (Exchange.executions completing.1).map
      (fun execution => execution.proposal.createdAt) = [⟨100⟩, ⟨900⟩, ⟨2600⟩] := by cbv
  have lonely : ¬ 2 ≤ (Proposal.slots ([] ++ [VotedSubmission.submitted.owned] ++
      Exchange.arrivals breaking.1)).length := by decide +kernel
  refine ⟨by cbv, by cbv, executed, ?_, by decide +kernel, ?_⟩
  · have gated := quorum_gated reaches_leftover (Coordinator.callSteps_of_reply _ _ _ _ completes)
    refine gated.resolve_left fun beforeQuorum => ?_
    have idle : Exchange.executions completing.1 = [] := beforeQuorum.idle
    rw [idle] at executed
    cases executed
  · have opens : CoordinatorRun.Reaches (fun _ => True) (.opening pair)
      (.opening pair : CoordinatorRun Unit) :=
      .refl
    have gated := quorum_gated opens (Coordinator.callSteps_of_reply _ _ _ _ breaks)
    refine gated.resolve_right ?_
    rintro ⟨_, _, _, sinceQuorum⟩
    exact lonely sinceQuorum.enough

end BroadcastSubmission

end Concord
