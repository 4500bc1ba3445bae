import Concord.Proofs.ProgressCalls
import Concord.Proofs.Verdicts

/-!
# Admission and execution

A judge accepts what is at most a window old, and a drain executes what is at least a window old.
Both have the same window, so they meet where an age is the window itself: `Proposal.AtLimit`.
Anywhere else what is accepted comes before nothing that is ready to be executed, and before nothing
that has been executed, whatever the process has been through.
-/

namespace Concord

variable {Handle : Type}

/-! ## Ages -/

namespace Proposal

/-- Whether two proposals were made at one time, and that is exactly a window ago. -/
structure AtLimit (window : Nat) (now : Timestamp) (earlier later : Proposal) : Prop where
  together : earlier.createdAt = later.createdAt
  aged : later.ageAt now = window

variable {window : Nat} {now : Timestamp} {earlier later : Proposal}

/-- What comes after a proposal that may be accepted is not ready to be executed, unless it was made
at the same time and that is a window ago. -/
theorem aged_iff_atLimit (positive : 0 < window) (young : earlier.ageAt now ≤ window)
    (before : earlier.key < later.key) :
    window ≤ later.ageAt now ↔ AtLimit window now earlier later := by
  have order : earlier.createdAt.toNat ≤ later.createdAt.toNat := by
    rcases OrderKey.lt_iff.1 before with sooner | ⟨together, -⟩
    · exact Nat.le_of_lt sooner
    · exact Nat.le_of_eq together
  constructor
  · intro aged
    have made := createdAt_add_le aged positive
    unfold ageAt Timestamp.since at young aged
    constructor
    · exact Timestamp.toNat_inj.1 (by omega)
    · unfold ageAt Timestamp.since
      omega
  · intro limit
    exact Nat.le_of_eq limit.aged.symm

/-- With time proposals only grow older. -/
theorem ageAt_mono (proposal : Proposal) {sooner : Timestamp} (order : sooner ≤ now) :
    proposal.ageAt sooner ≤ proposal.ageAt now :=
  Nat.sub_le_sub_right order _

end Proposal

/-! ## What has been executed -/

/-- Where no round is taken out, whatever the executor has answered for had aged at a drain. -/
theorem Holdings.Moves.handed_aged {window : Nat} {before after : Holdings}
    {events : List ProposalEvent} (moves : Moves False window before events after)
    (aged : before.Aged window []) {entry : Proposal} (handed : .handed entry ∈ events) :
    ∃ now, .drained now ∈ events ∧ window ≤ entry.ageAt now := by
  induction moves with
  | refl => cases handed
  | @step middle after earlier later prior move inductionHypothesis =>
    rcases List.mem_append.1 handed with sooner | latest
    · obtain ⟨now, drained, old⟩ := inductionHypothesis sooner
      exact ⟨now, List.mem_append_left _ drained, old⟩
    · -- What is handed over was in hand before.
      have inHand : entry ∈ middle.inHand := by
        cases move with
        | hand holds =>
          cases List.mem_singleton.1 latest
          rw [holds]
          exact List.mem_cons_self
        | approve | settle | forfeit | enter | drain | round | take => simp at latest
      obtain ⟨now, drained, old⟩ :=
        prior.aged aged entry (List.mem_append_right _ inHand)
      exact ⟨now, List.mem_append_left _ drained, old⟩

/-- If no round is taken out, whatever has left the ledger had aged at a drain. -/
theorem CoordinatorRun.left_aged {config : CoordinatorConfig} {run : CoordinatorRun Handle}
    (reached : Reaches (fun call => ¬ call.Gathers config) (opening config) run)
    {entry : Proposal}
    (left : entry ∈ run.handed ++ (run.holdings.queue ++ run.holdings.inHand)) :
    ∃ now, .drained now ∈ run.events ∧ config.windowMicros.toNat ≤ entry.ageAt now := by
  rcases List.mem_append.1 left with handed | waits
  · have moved : Moved False config run := moves (fun _ => id) reached
    obtain ⟨event, happened, shape⟩ := List.mem_filterMap.1 handed
    cases event <;> cases shape
    exact moved.moves.handed_aged (fun _ member => absurd member List.not_mem_nil) happened
  · exact CoordinatorRun.aged reached entry waits

/-- A drain leaves in the ledger what has not aged. -/
theorem Coordinator.stays_of_young {coordinator : Coordinator} {now : Timestamp}
    (approved : ∀ entry ∈ coordinator.ledger.entries, entry.state = .approved) {entry : Proposal}
    (member : entry ∈ coordinator.ledger.entries)
    (young : entry.ageAt now < coordinator.config.windowMicros.toNat) :
    entry ∈ (coordinator.moveAged now).1.ledger.entries := by
  obtain ⟨moved, left, result, perm, -, aged, -, -⟩ := coordinator.moveAged_spec now approved
  rw [result]
  rcases List.mem_append.1 (perm.mem_iff.2 member) with inMoved | inLeft
  · exact absurd (aged entry inMoved) (Nat.not_le.2 young)
  · exact inLeft

/-- Where a judge accepts a proposal, nothing after it in the order is ready to be executed, a drain
at that time leaves it in the ledger, and no process of the same window whose drains were all before
has taken it out, in any number of calls that wait for no round. The one exception is a proposal
that was made at the same time, exactly a window ago: it is ready and may have been executed. -/
theorem accepted_before_executed {config : CoordinatorConfig} {clock : Clock} {earlier : Proposal}
    (positive : 0 < config.windowMicros.toNat)
    (accepts : ((Judge.staleness config.windowMicros).judge clock
      (Envelope.encode earlier)).1 = .accept) :
    let window := config.windowMicros.toNat
    let now := clock.read.1
    (∀ later : Proposal, earlier.key < later.key →
      (later.ageAt now < window ↔ ¬ Proposal.AtLimit window now earlier later)) ∧
    (∀ coordinator : Coordinator, coordinator.config = config →
      (∀ entry ∈ coordinator.ledger.entries, entry.state = .approved) →
      ∀ later ∈ coordinator.ledger.entries, earlier.key < later.key →
        ¬ Proposal.AtLimit window now earlier later →
        later ∈ (coordinator.moveAged now).1.ledger.entries) ∧
    ∀ run : CoordinatorRun Handle,
      CoordinatorRun.Reaches (fun call => ¬ call.Gathers config) (.opening config) run →
      (∀ reading, .drained reading ∈ run.events → reading ≤ now) →
      ∀ later ∈ run.handed ++ (run.holdings.queue ++ run.holdings.inHand),
        earlier.key < later.key → Proposal.AtLimit window now earlier later := by
  have young := Judge.age_of_accepted accepts
  have limit : ∀ later : Proposal, earlier.key < later.key →
      (config.windowMicros.toNat ≤ later.ageAt clock.read.1 ↔
        Proposal.AtLimit config.windowMicros.toNat clock.read.1 earlier later) :=
    fun later before => Proposal.aged_iff_atLimit positive young before
  refine ⟨?_, ?_, ?_⟩
  · intro later before
    rw [← limit later before, Nat.not_le]
  · rintro coordinator rfl approved later member before apart
    rw [← limit later before, Nat.not_le] at apart
    exact Coordinator.stays_of_young approved member apart
  · intro run reached readings later left before
    obtain ⟨reading, drained, aged⟩ := CoordinatorRun.left_aged reached left
    exact (limit later before).1
      (Nat.le_trans aged (later.ageAt_mono (readings reading drained)))

/-! ## At the limit -/

namespace CoordinatorRun

/-- A progress call takes in a proposal that was made at 1000, and reads the clock at 3000. -/
def atLimitAnswers (events : List ProposalEvent) : (request : Request) → request.Answer Unit
  | .checkout =>
    .ok (if events.isEmpty then some (Envelope.encode (VotedSubmission.foreign 1000)) else none)
  | .readClock => ⟨3000⟩
  | .execute _ => .ok none
  | request => VotedSubmission.refusing events request

/-- The proposal is executed. -/
def executedAtLimit : CoordinatorRun Unit :=
  ((opening (.default ⟨0⟩ 1)).begin .progress).attend atLimitAnswers 6

/-- The run in which a proposal is executed at the very instant at which it has aged. -/
theorem reaches_executedAtLimit :
    Reaches (fun call => ¬ call.Gathers (.default ⟨0⟩ 1))
      (opening (.default ⟨0⟩ 1)) executedAtLimit :=
  reaches_attend _ _ (.step .refl (.begin _ not_false fun _ => nofun))

/-- A proposal that was made at the same time and comes before it in the order. -/
def precedingTwin : Proposal :=
  { VotedSubmission.foreign 1000 with id := ⟨1⟩ }

/-- It is accepted even after the other one has been executed. -/
theorem executed_before_accepted :
    precedingTwin.key < (VotedSubmission.foreign 1000).key ∧
    ((Judge.staleness 2000).judge (.startingAt ⟨3000⟩) (Envelope.encode precedingTwin)).1 =
      .accept ∧
    ¬ (VotedSubmission.foreign 1000).ageAt (Clock.startingAt ⟨3000⟩).read.1 < 2000 ∧
    executedAtLimit.handed = [(VotedSubmission.foreign 1000).due] ∧
    ProposalEvent.drained ⟨3000⟩ ∈ executedAtLimit.events := by
  refine ⟨by decide, by decide, by decide, by decide +kernel, by decide +kernel⟩

/-- A proposal with the same time stamp and a smaller id is still accepted at that instant, and it
is the exception that the law names. -/
theorem accepted_before_executed_precedingTwin :
    0 < (2000 : UInt64).toNat ∧
    ((Judge.staleness 2000).judge (.startingAt ⟨3000⟩) (Envelope.encode precedingTwin)).1 =
      .accept ∧
    (VotedSubmission.foreign 1001).ageAt ⟨3000⟩ < 2000 ∧
    ∀ later ∈ executedAtLimit.handed, precedingTwin.key < later.key →
      Proposal.AtLimit 2000 ⟨3000⟩ precedingTwin later := by
  have accepts : ((Judge.staleness 2000).judge (.startingAt ⟨3000⟩)
      (Envelope.encode precedingTwin)).1 = .accept := by decide
  have positive : 0 < (CoordinatorConfig.default ⟨0⟩ 1).windowMicros.toNat := by decide
  have drains : ∀ reading, .drained reading ∈ executedAtLimit.events → reading ≤ ⟨3000⟩ := by
    have readings : ∀ event ∈ executedAtLimit.events, ∀ reading ∈ event.reading?,
        reading ≤ ⟨3000⟩ := by decide +kernel
    exact fun reading member => readings _ member reading rfl
  obtain ⟨ages, -, executed⟩ := @accepted_before_executed Unit (.default ⟨0⟩ 1)
    (.startingAt ⟨3000⟩) precedingTwin positive accepts
  refine ⟨by decide, accepts, (ages _ (by decide)).2 ?_, ?_⟩
  · intro limit
    exact absurd limit.together (by decide)
  · intro later member before
    exact executed executedAtLimit reaches_executedAtLimit drains later
      (List.mem_append_left _ member) before

end CoordinatorRun

end Concord
