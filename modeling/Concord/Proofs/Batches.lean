import Concord.Proofs.CoordinatorRuns

/-!
# Order across batches

In voted mode a drain parts what has aged from what has not. Everything that has left the ledger
had aged by some drain, and nothing that is in it had aged by any drain so far: `DrainOrder`. If
what enters later is as young as what was left behind, then nothing that is still to come is
before anything that was handed over, in the same batch or in another one, whatever failed in
between and however the clock went.
-/

namespace Concord

namespace ProposalEvent

/-- The proposal that enters the ledger. -/
def entry? : ProposalEvent → Option Proposal
  | .settled proposal => some proposal
  | .admitted proposal => some proposal
  | _ => none

/-- The time at which the ledger is drained. -/
def reading? : ProposalEvent → Option Timestamp
  | .drained now => some now
  | _ => none

/-- Whether what enters later had not aged by an earlier drain. -/
def Timely (window : Nat) (earlier later : ProposalEvent) : Prop :=
  ∀ now entry, earlier.reading? = some now → later.entry? = some entry →
    entry.ageAt now < window

instance (window : Nat) (earlier later : ProposalEvent) : Decidable (Timely window earlier later) :=
  decidable_of_iff
    (∀ now ∈ earlier.reading?, ∀ entry ∈ later.entry?, entry.ageAt now < window)
    ⟨fun timely now entry reads enters => timely now reads entry enters,
      fun timely now reads entry enters => timely now entry reads enters⟩

end ProposalEvent

/-- What has aged by some time comes before what has not. -/
theorem Proposal.key_le_of_aged {window : Nat} {older younger : Proposal} {now : Timestamp}
    (aged : window ≤ older.ageAt now) (young : younger.ageAt now < window) :
    older.key ≤ younger.key := by
  apply OrderKey.le_iff.2
  left
  show older.createdAt.toNat < younger.createdAt.toNat
  unfold Proposal.ageAt Timestamp.since at aged young
  omega

/-- How what has left the ledger lies before what is in it. -/
structure DrainOrder (window : Nat) (readings : List Timestamp)
    (handed inHand queue ledger : List Proposal) : Prop where
  young : ∀ entry ∈ ledger, ∀ now ∈ readings, entry.ageAt now < window
  aged : ∀ entry ∈ handed ++ inHand ++ queue, ∃ now ∈ readings, window ≤ entry.ageAt now
  sorted : (handed ++ inHand).Pairwise fun first second => first.key ≤ second.key
  ahead : ∀ first ∈ handed ++ inHand, ∀ second ∈ queue, first.key ≤ second.key

namespace DrainOrder

variable {window : Nat} {readings : List Timestamp} {handed inHand queue ledger : List Proposal}

/-- Where nothing is held and nothing was handed over, all is in order. -/
theorem empty (window : Nat) : DrainOrder window [] [] [] [] [] where
  young := fun _ member => absurd member List.not_mem_nil
  aged := fun _ member => absurd member List.not_mem_nil
  sorted := .nil
  ahead := fun _ member => absurd member List.not_mem_nil

/-- What has not aged by any drain may enter. -/
theorem enter (drainOrder : DrainOrder window readings handed inHand queue ledger)
    {entry : Proposal} (young : ∀ now ∈ readings, entry.ageAt now < window) :
    DrainOrder window readings handed inHand queue (ledger ++ [entry]) where
  young := by
    intro other member
    rcases List.mem_append.1 member with old | new
    · exact drainOrder.young other old
    · rw [List.mem_singleton.1 new]
      exact young
  aged := drainOrder.aged
  sorted := drainOrder.sorted
  ahead := drainOrder.ahead

/-- A drain may move what has aged into the queue and leave what has not. -/
theorem drain (drainOrder : DrainOrder window readings handed inHand queue ledger) {now : Timestamp}
    {moved left : List Proposal} (perm : (moved ++ left).Perm ledger)
    (aged : ∀ entry ∈ moved, window ≤ entry.ageAt now)
    (young : ∀ entry ∈ left, entry.ageAt now < window) :
    DrainOrder window (readings ++ [now]) handed inHand (queue ++ moved.map Proposal.due) left where
  young := by
    intro entry member reading taken
    rcases List.mem_append.1 taken with earlier | latest
    · exact drainOrder.young entry (perm.mem_iff.1 (List.mem_append_right _ member)) reading earlier
    · rw [List.mem_singleton.1 latest]
      exact young entry member
  aged := by
    intro entry member
    rw [← List.append_assoc] at member
    rcases List.mem_append.1 member with before | wasMoved
    · obtain ⟨reading, taken, old⟩ := drainOrder.aged entry before
      exact ⟨reading, List.mem_append_left _ taken, old⟩
    · obtain ⟨source, inMoved, rfl⟩ := List.mem_map.1 wasMoved
      exact ⟨now, List.mem_append_right _ List.mem_cons_self, aged source inMoved⟩
  sorted := drainOrder.sorted
  ahead := by
    intro first gone second waits
    rcases List.mem_append.1 waits with queued | wasMoved
    · exact drainOrder.ahead first gone second queued
    · -- What is moved now was left behind by the drain that moved the first.
      obtain ⟨source, inMoved, rfl⟩ := List.mem_map.1 wasMoved
      obtain ⟨reading, taken, old⟩ := drainOrder.aged first (List.mem_append_left _ gone)
      have inLedger : source ∈ ledger := perm.mem_iff.1 (List.mem_append_left _ inMoved)
      exact Proposal.key_le_of_aged old (drainOrder.young source inLedger reading taken)

/-- The oldest that is due may be taken in hand. -/
theorem take (drainOrder : DrainOrder window readings handed [] queue ledger) {proposal : Proposal}
    {left : List Proposal} (perm : (proposal :: left).Perm queue)
    (oldest : ∀ other ∈ queue, proposal.key ≤ other.key) :
    DrainOrder window readings handed [proposal] left ledger where
  young := drainOrder.young
  aged := by
    intro entry member
    apply drainOrder.aged entry
    rw [List.append_assoc] at member
    rcases List.mem_append.1 member with done | waits
    · exact List.mem_append_left _ (List.mem_append_left _ done)
    · exact List.mem_append_right _ (perm.mem_iff.1 waits)
  sorted := by
    have done := drainOrder.sorted
    rw [List.append_nil] at done
    refine List.pairwise_append.2 ⟨done, List.pairwise_singleton _ _, ?_⟩
    intro first member second isProposal
    rw [List.mem_singleton.1 isProposal]
    exact drainOrder.ahead first (List.mem_append_left _ member) proposal
      (perm.mem_iff.1 List.mem_cons_self)
  ahead := by
    intro first member second waits
    have queued : second ∈ queue := perm.mem_iff.1 (List.mem_cons_of_mem _ waits)
    rcases List.mem_append.1 member with done | isProposal
    · exact drainOrder.ahead first (List.mem_append_left _ done) second queued
    · rw [List.mem_singleton.1 isProposal]
      exact oldest second queued

/-- What is in hand may be handed over. -/
theorem hand {proposal : Proposal}
    (drainOrder : DrainOrder window readings handed [proposal] queue ledger) :
    DrainOrder window readings (handed ++ [proposal]) [] queue ledger where
  young := drainOrder.young
  aged := by
    rw [List.append_nil]
    exact drainOrder.aged
  sorted := by
    rw [List.append_nil]
    exact drainOrder.sorted
  ahead := by
    rw [List.append_nil]
    exact drainOrder.ahead

end DrainOrder

namespace Holdings

variable {window : Nat} {events earlier later : List ProposalEvent} {before after : Holdings}

/-- Whether what a coordinator holds is in the order that the drains among its events leave. -/
def InDrainOrder (window : Nat) (events : List ProposalEvent) (holdings : Holdings) : Prop :=
  DrainOrder window (events.filterMap ProposalEvent.reading?)
    (events.filterMap ProposalEvent.handed?) holdings.inHand holdings.queue holdings.ledger

/-- Where no round is taken out and what enters is young, a move keeps the order that drains
leave. -/
theorem Move.inDrainOrder (move : Move False window before later after)
    (inDrainOrder : before.InDrainOrder window earlier)
    (timely : ∀ first ∈ earlier, ∀ second ∈ later, first.Timely window second) :
    after.InDrainOrder window (earlier ++ later) := by
  have young : ∀ {event entry}, event ∈ later → event.entry? = some entry →
      ∀ now ∈ earlier.filterMap ProposalEvent.reading?, entry.ageAt now < window := by
    intro event entry inLater enters now taken
    obtain ⟨first, inEarlier, reading⟩ := List.mem_filterMap.1 taken
    exact timely first inEarlier event inLater now entry reading enters
  unfold InDrainOrder at inDrainOrder ⊢
  rw [List.filterMap_append, List.filterMap_append]
  cases move with
  | approve free approved =>
    simp only [List.filterMap, ProposalEvent.reading?, ProposalEvent.handed?, List.append_nil]
    exact inDrainOrder
  | settle waits =>
    simp only [List.filterMap, ProposalEvent.reading?, ProposalEvent.handed?, List.append_nil]
    exact inDrainOrder.enter (young List.mem_cons_self rfl)
  | forfeit waits =>
    simp only [List.filterMap, ProposalEvent.reading?, ProposalEvent.handed?, List.append_nil]
    exact inDrainOrder
  | enter approved =>
    simp only [List.filterMap, ProposalEvent.reading?, ProposalEvent.handed?, List.append_nil]
    exact inDrainOrder.enter (young List.mem_cons_self rfl)
  | drain perm moved left =>
    simp only [List.filterMap, ProposalEvent.reading?, ProposalEvent.handed?, List.append_nil]
    exact inDrainOrder.drain perm moved left
  | round allowed perm => exact absurd allowed not_false
  | take free perm oldest =>
    simp only [List.filterMap, List.append_nil]
    rw [free] at inDrainOrder
    exact inDrainOrder.take perm oldest
  | hand holds =>
    simp only [List.filterMap, ProposalEvent.reading?, ProposalEvent.handed?, List.append_nil]
    rw [holds] at inDrainOrder
    exact inDrainOrder.hand

/-- So do any number of moves. -/
theorem Moves.inDrainOrder (moves : Moves False window before events after)
    (inDrainOrder : before.InDrainOrder window [])
    (timely : events.Pairwise (ProposalEvent.Timely window)) :
    after.InDrainOrder window events := by
  induction moves with
  | refl => exact inDrainOrder
  | step _ move inductionHypothesis =>
    obtain ⟨prior, _, across⟩ := List.pairwise_append.1 timely
    exact move.inDrainOrder (inductionHypothesis prior) across

end Holdings

namespace CoordinatorRun

/-- Whatever a coordinator is answered, through any number of calls that wait for no round,
failed or not: if nothing enters the ledger that had aged by an earlier drain, then what is
handed to the executor is in the global order. In voted mode these calls are submissions and
progress calls. -/
theorem handed_ascending {Handle : Type} {config : CoordinatorConfig} {run : CoordinatorRun Handle}
    (reached : Reaches (fun call => ¬ call.Gathers config) (opening config) run)
    (timely : run.events.Pairwise (ProposalEvent.Timely config.windowMicros.toNat)) :
    run.handed.Pairwise fun first second => first.key ≤ second.key := by
  have moved : Moved False config run := moves (fun _ => id) reached
  have inDrainOrder := moved.moves.inDrainOrder (DrainOrder.empty _) timely
  exact (List.pairwise_append.1 inDrainOrder.sorted).1

/-! ## A batch that fails and the next one -/

/-- An envelope of a proposal that was made at some time. -/
def envelopeAt (time : UInt64) : Bytes :=
  Envelope.encode { Proposal.create ⟨2⟩ ⟨0⟩ [] ⟨time⟩ with state := .inProgress }

/-- Two envelopes come before the first drain and one before the second. The executor refuses the
first proposal. -/
def twoBatchAnswers (events : List ProposalEvent) : (request : Request) → request.Answer Unit
  | .checkout =>
    match events.length with
    | 0 => .ok (some (envelopeAt 10))
    | 1 => .ok (some (envelopeAt 900))
    | 4 => .ok (some (envelopeAt 800))
    | _ => .ok none
  | .readClock => if events.length < 4 then ⟨2500⟩ else ⟨3000⟩
  | .execute _ => if events.length < 4 then .error (.failed "disk full") else .ok none
  | .readStatus _ => .ok .unknown
  | .progress => .ok ()
  | .submitVote _ _ => .ok ()
  | .submitBroadcast _ _ => .ok ()
  | .release => .ok ()
  | .finalize => .ok ()

/-- A progress call. -/
def oneProgressCall : CoordinatorRun Unit :=
  ((opening (.default ⟨0⟩ 1)).begin .progress).attend twoBatchAnswers 6

/-- Another progress call after the first one has failed. -/
def twoProgressCalls : CoordinatorRun Unit :=
  (oneProgressCall.begin .progress).attend twoBatchAnswers 6

/-- The last one in is older than one that the failure has left in the queue. -/
theorem handed_ascending_twoProgressCalls :
    twoProgressCalls.handed.map Proposal.createdAt = [⟨10⟩, ⟨800⟩, ⟨900⟩] ∧
    twoProgressCalls.events.Pairwise (ProposalEvent.Timely 2000) ∧
    twoProgressCalls.handed.Pairwise fun first second => first.key ≤ second.key := by
  have looked : Reaches (fun call => ¬ call.Gathers (.default ⟨0⟩ 1))
      (opening (.default ⟨0⟩ 1)) oneProgressCall :=
    reaches_attend _ _ (.step .refl (.begin _ not_false (fun _ => nofun)))
  have failed : oneProgressCall.isFree = true := by decide +kernel
  have again : Reaches (fun call => ¬ call.Gathers (.default ⟨0⟩ 1))
      (opening (.default ⟨0⟩ 1)) twoProgressCalls :=
    reaches_attend _ _ (.step looked (.begin _ not_false (free_of_isFree failed)))
  have timely :
      decide (twoProgressCalls.events.Pairwise (ProposalEvent.Timely 2000)) = true := by
    decide +kernel
  refine ⟨by decide +kernel, of_decide_eq_true timely, ?_⟩
  exact handed_ascending again (of_decide_eq_true timely)

end CoordinatorRun

end Concord
