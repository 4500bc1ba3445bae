import Concord.Proofs.Programs
import Concord.Proofs.Schedules

/-!
# Closing together

A process leaves once it has executed a closing of every process. A closing is the last thing
that its process gets approved, and what comes from one process is executed in turn, so by then
everything that was ever approved has been executed. `closing_complete` says so.
-/

namespace Concord

/-! ## Proposals by their slots -/

/-- Proposals of known processes, process by process. -/
theorem Proposal.flatMap_underSlot_perm {everyone : List Rank} (distinct : everyone.Nodup)
    {proposals : List Proposal}
    (known : ∀ proposal ∈ proposals, ∃ rank ∈ everyone, proposal.id = .ofRank rank) :
    (everyone.flatMap fun rank => underSlot rank proposals).Perm proposals := by
  induction everyone generalizing proposals with
  | nil =>
    have nothing : proposals = [] := List.eq_nil_iff_forall_not_mem.2 fun proposal member => by
      obtain ⟨rank, listed, _⟩ := known proposal member
      exact absurd listed List.not_mem_nil
    rw [nothing]
    exact .refl _
  | cons first rest inductionHypothesis =>
    obtain ⟨fresh, others⟩ := List.nodup_cons.1 distinct
    let left := proposals.filter fun proposal => !decide (proposal.id = .ofRank first)
    have stays : ∀ rank ∈ rest, underSlot rank left = underSlot rank proposals := by
      intro rank listed
      rw [underSlot, List.filter_filter]
      apply List.filter_congr
      intro proposal _
      by_cases own : proposal.id = .ofRank rank
      · have apart : ¬ proposal.id = .ofRank first := fun same =>
          fresh (ProposalId.ofRank_inj.1 (same.symm.trans own) ▸ listed)
        rw [decide_eq_true own, decide_eq_false apart]
        rfl
      · rw [decide_eq_false own]
        rfl
    have leftKnown : ∀ proposal ∈ left, ∃ rank ∈ rest, proposal.id = .ofRank rank := by
      intro proposal member
      obtain ⟨inAll, foreign⟩ := List.mem_filter.1 member
      obtain ⟨rank, listed, slot⟩ := known proposal inAll
      rcases List.mem_cons.1 listed with rfl | later
      · simp [slot] at foreign
      · exact ⟨rank, later, slot⟩
    rw [List.flatMap_cons, List.flatMap_congr (fun rank listed => (stays rank listed).symm)]
    have joined := (inductionHypothesis others leftKnown).append_left (underSlot first proposals)
    exact joined.trans (List.filter_append_perm _ _)

/-! ## The program of a process that has closed -/

/-- If a test fails of all but perhaps the last of a list, it holds of nothing or of the last. -/
theorem filter_eq_of_last {Item : Type} {test : Item → Bool} {items : List Item}
    (fails : ∀ {number : Nat} {item : Item}, number + 1 < items.length →
      items[number]? = some item → test item = false) :
    items.filter test = [] ∨ ∃ last, items.filter test = [last] ∧ items.getLast? = some last := by
  rcases List.eq_nil_or_concat' items with rfl | ⟨front, last, rfl⟩
  · exact .inl rfl
  · have none : front.filter test = [] := by
      refine List.filter_eq_nil_iff.2 fun item member => ?_
      obtain ⟨number, inside, isItem⟩ := List.mem_iff_getElem.1 member
      have lies : (front ++ [last])[number]? = some item := by
        rw [List.getElem?_append_left inside, List.getElem?_eq_getElem inside, isItem]
      rw [fails (by simpa using inside) lies]
      exact Bool.false_ne_true
    rw [List.filter_append, none, List.nil_append]
    cases holds : test last with
    | false => exact .inl (by simp [holds])
    | true => exact .inr ⟨last, by simp [holds], by simp⟩

/-- The submissions among the first `count` that were committed. -/
def ProcessView.committed {State Handle : Type} (view : ProcessView State Handle) (count : Nat) :
    List Proposal :=
  (((view.begun.zip view.outcomes).take count).filter Prod.snd).map Prod.fst

/-- Whether a proposal closes does not change when it is put to the vote. -/
@[simp] theorem Proposal.isClosing_onBallot (proposal : Proposal) :
    proposal.onBallot.isClosing = proposal.isClosing := rfl

/-- Whether a proposal closes does not depend on its state or mark. -/
@[simp] theorem Proposal.isClosing_bare (proposal : Proposal) :
    proposal.bare.isClosing = proposal.isClosing := rfl

/-- Where nothing has failed the past is what was begun with how it ended. -/
theorem SubmissionHistory.past_eq {State Handle : Type} {view : ProcessView State Handle}
    {past : List (Proposal × Bool)} {settled : List Proposal} {offered : Option Proposal}
    (submissionHistory : SubmissionHistory view.begun view.replies past settled offered)
    (fine : ∀ reply ∈ view.replies, reply.toBool = true) :
    past = (view.begun.zip view.outcomes).map (Prod.map Proposal.onBallot id) := by
  have told : view.outcomes = past.map Prod.snd := submissionHistory.told fine
  have same : (past.map Prod.fst).length = (past.map Prod.snd).length := by simp
  have joined : (past.map Prod.fst ++ offered.toList).zip (past.map Prod.snd ++ []) =
      (past.map Prod.fst).zip (past.map Prod.snd) ++ offered.toList.zip [] := List.zip_append same
  rw [← List.zip_map_left, submissionHistory.begun, told]
  rw [List.append_nil, List.zip_nil_right, List.append_nil, List.zip_map'] at joined
  rw [joined]
  exact (List.map_id past).symm

/-- The submissions of a process, each with whether it has been approved yet. -/
def decisions (past : List (Proposal × Bool)) (offered : Option Proposal)
    (issued : List Proposal) : List (Proposal × Bool) :=
  past ++ offered.toList.map fun proposal => (proposal, !issued.isEmpty)

namespace VotedAccount

variable {State Handle : Type} {everyone : List Rank} {window : UInt64} {rank : Rank}
  {now : Timestamp} {finalized : Bool} {ballot : Option Ballot} {view : ProcessView State Handle}
  {past : List (Proposal × Bool)} {settled issued entered : List Proposal}
  {offered : Option Proposal} {plan : List Operation}

/-- A process has started a submission for each of its decisions, and for no other. -/
theorem begun_decisions (account : VotedAccount everyone window rank now finalized ballot view past
      settled offered issued entered) :
    (decisions past offered issued).map Prod.fst = view.begun.map Proposal.onBallot := by
  have simple : (offered.toList.map fun proposal => (proposal, !issued.isEmpty)).map Prod.fst =
      offered.toList := by
    rw [List.map_map]
    exact List.map_id _
  rw [decisions, List.map_append, simple, account.submissionHistory.begun]

/-- The proposals whose decision is a yes are those that the process has got approved. -/
theorem approved_decisions (account : VotedAccount everyone window rank now finalized ballot view
      past settled offered issued entered) :
    ((decisions past offered issued).filter Prod.snd).map Prod.fst = settled ++ issued := by
  have current : ((offered.toList.map fun proposal => (proposal, !issued.isEmpty)).filter
      Prod.snd).map Prod.fst = issued := by
    rcases account.callStage.made with ⟨rfl, _⟩ | ⟨own, rfl, _, rfl | rfl, _⟩
    · cases offered <;> rfl
    · rfl
    · rfl
  rw [decisions, List.filter_append, List.map_append, current, account.submissionHistory.settled]

/-- A closing that was followed by another one was denied. -/
theorem denied_decisions (account : VotedAccount everyone window rank now finalized ballot view past
      settled offered issued entered)
    (fine : ∀ reply ∈ view.replies, reply.toBool = true)
    (follows : Follows plan view.begun view.outcomes) {number : Nat} {item : Proposal × Bool}
    (followed : number + 1 < (decisions past offered issued).length)
    (ended : plan.length ≤ number) (lies : (decisions past offered issued)[number]? = some item) :
    item.2 = false := by
  have lengths := congrArg List.length account.begun_decisions
  rw [List.length_map, List.length_map] at lengths
  have denied := follows.patient (lengths ▸ followed) ended
  have told : view.outcomes = past.map Prod.snd := account.submissionHistory.told fine
  have inPast : number < past.length := by
    have few : offered.toList.length ≤ 1 := by cases offered <;> simp
    rw [decisions, List.length_append, List.length_map] at followed
    omega
  rw [decisions, List.getElem?_append_left inPast] at lies
  rw [told, List.getElem?_map, lies] at denied
  exact Option.some.inj denied

/-- What a process has submitted closes it if it comes after the workload. -/
theorem isClosing_decisions (account : VotedAccount everyone window rank now finalized ballot view
      past settled offered issued entered)
    (follows : Follows plan view.begun view.outcomes)
    (working : ∀ operation ∈ plan, operation ≠ .close) {number : Nat} {item : Proposal × Bool}
    (lies : (decisions past offered issued)[number]? = some item) :
    item.1.isClosing = decide (plan.length ≤ number) := by
  have mapped : (view.begun.map Proposal.onBallot)[number]? = some item.1 := by
    rw [← account.begun_decisions, List.getElem?_map, lies]
    rfl
  rw [List.getElem?_map] at mapped
  obtain ⟨source, isBegun, same⟩ := Option.map_eq_some_iff.1 mapped
  rw [← same, Proposal.isClosing_onBallot, Proposal.isClosing, follows.kinds isBegun]
  rcases Nat.lt_or_ge number plan.length with inside | ended
  · have planned := working plan[number] (List.getElem_mem inside)
    rw [List.getElem?_eq_getElem inside, decide_eq_false (Nat.not_le_of_lt inside)]
    exact decide_eq_false fun closes => planned (Operation.tag_eq_close.1 closes)
  · rw [List.getElem?_eq_none ended, decide_eq_true ended]
    exact decide_eq_true rfl

/-- What a process submits for its workload does not close it. -/
theorem working_decisions (account : VotedAccount everyone window rank now finalized ballot view
      past settled offered issued entered)
    (follows : Follows plan view.begun view.outcomes)
    (working : ∀ operation ∈ plan, operation ≠ .close) :
    ∀ item ∈ (decisions past offered issued).take plan.length, item.1.isClosing = false := by
  intro item member
  obtain ⟨number, inside, isItem⟩ := List.mem_iff_getElem.1 member
  rw [List.length_take] at inside
  have lies : (decisions past offered issued)[number]? = some item := by
    rw [← isItem, List.getElem_take, List.getElem?_eq_getElem (by omega)]
  rw [account.isClosing_decisions follows working lies]
  exact decide_eq_false (by omega)

/-- Once a process closes, the submissions of its workload are all over. -/
theorem committed_decisions (account : VotedAccount everyone window rank now finalized ballot view
      past settled offered issued entered)
    (fine : ∀ reply ∈ view.replies, reply.toBool = true)
    (beyond : plan.length < (decisions past offered issued).length) :
    plan.length ≤ view.outcomes.length ∧
      (((decisions past offered issued).take plan.length).filter Prod.snd).map Prod.fst =
        (view.committed plan.length).map Proposal.onBallot := by
  have told : view.outcomes.length = past.length := by
    have outcomes : view.outcomes = past.map Prod.snd := account.submissionHistory.told fine
    rw [outcomes, List.length_map]
  have reached : plan.length ≤ past.length := by
    have few : offered.toList.length ≤ 1 := by cases offered <;> simp
    rw [decisions, List.length_append, List.length_map] at beyond
    omega
  refine ⟨told ▸ reached, ?_⟩
  rw [decisions, List.take_append_of_le_length reached, account.submissionHistory.past_eq fine,
    ← List.map_take, List.filter_map, List.map_map, ProcessView.committed, List.map_map]
  rfl

/-- The closing of a process is the last thing that it gets approved; before it come the
submissions of its workload that were committed. -/
theorem program (account : VotedAccount everyone window rank now finalized ballot view past settled
      offered issued entered)
    (fine : ∀ reply ∈ view.replies, reply.toBool = true)
    (follows : Follows plan view.begun view.outcomes)
    (working : ∀ operation ∈ plan, operation ≠ .close) :
    (∀ proposal ∈ settled ++ issued, proposal.isClosing = false) ∨
      ∃ closing, view.begun.getLast? = some closing ∧ closing.isClosing = true ∧
        plan.length ≤ view.outcomes.length ∧
        settled ++ issued =
          (view.committed plan.length).map Proposal.onBallot ++ [closing.onBallot] ∧
        ∀ proposal ∈ view.committed plan.length, proposal.isClosing = false := by
  -- All closings but the last submission were denied, so that one alone can be approved.
  have fails : ∀ {number : Nat} {item : Proposal × Bool},
      number + 1 < ((decisions past offered issued).drop plan.length).length →
      ((decisions past offered issued).drop plan.length)[number]? = some item →
      item.2 = false := by
    intro number item followed lies
    rw [List.length_drop] at followed
    rw [List.getElem?_drop] at lies
    exact account.denied_decisions fine follows (by omega) (Nat.le_add_right _ _) lies
  have works := account.working_decisions follows working
  have whole : settled ++ issued =
      (((decisions past offered issued).take plan.length).filter Prod.snd).map Prod.fst ++
        (((decisions past offered issued).drop plan.length).filter Prod.snd).map Prod.fst := by
    rw [← account.approved_decisions, ← List.map_append, ← List.filter_append,
      List.take_append_drop]
  rcases filter_eq_of_last fails with nothing | ⟨last, only, isLast⟩
  · left
    intro proposal member
    rw [whole, nothing, List.map_nil, List.append_nil] at member
    obtain ⟨item, inFront, rfl⟩ := List.mem_map.1 member
    exact works item (List.mem_filter.1 inFront).1
  · right
    rw [List.getLast?_drop] at isLast
    split at isLast
    · cases isLast
    next beyond =>
    obtain ⟨reached, front⟩ := account.committed_decisions fine (Nat.lt_of_not_le beyond)
    have begun : (view.begun.map Proposal.onBallot).getLast? = some last.1 := by
      rw [← account.begun_decisions, List.getLast?_map, isLast]
      rfl
    rw [List.getLast?_map] at begun
    obtain ⟨closing, isClosing, same⟩ := Option.map_eq_some_iff.1 begun
    rw [List.getLast?_eq_getElem?] at isLast
    have closes := account.isClosing_decisions follows working isLast
    refine ⟨closing, isClosing, ?_, reached, ?_, ?_⟩
    · rw [← Proposal.isClosing_onBallot, same, closes]
      exact decide_eq_true (by omega)
    · rw [whole, front, only, same]
      rfl
    · intro proposal member
      have mapped : proposal.onBallot ∈
          (((decisions past offered issued).take plan.length).filter Prod.snd).map Prod.fst := by
        rw [front]
        exact List.mem_map_of_mem member
      obtain ⟨item, inFront, isProposal⟩ := List.mem_map.1 mapped
      rw [← Proposal.isClosing_onBallot, ← isProposal]
      exact works item (List.mem_filter.1 inFront).1

end VotedAccount

/-! ## What a process has executed of each other -/

/-- A process enters its own proposal only once it has been approved. -/
theorem VotedCallStage.entered_prefix {Handle : Type} {rank : Rank} {now : Timestamp}
    {finalized : Bool} {ballot : Option Ballot} {settled : List Proposal}
    {call : Option (Control Handle)} {offered : Option Proposal} {issued entered : List Proposal}
    (callStage : VotedCallStage rank now finalized ballot settled call offered issued entered) :
    entered <+: issued := by
  cases callStage <;> first | exact List.prefix_refl _ | exact List.nil_prefix

namespace VotedInvariant

variable {State Handle : Type} {worldSize : Nat} {window : UInt64}
  {cluster : Cluster State Handle}

/-- What a process has executed under a slot is the front of what the owner has got approved. -/
theorem handed_prefix (invariant : VotedInvariant worldSize window cluster)
    (wellFormed : cluster.network.WellFormed worldSize) {rank origin : Rank}
    (inWorld : rank ∈ Rank.all worldSize) (listed : origin ∈ Rank.all worldSize) :
    (Proposal.underSlot origin (cluster.handed rank)).map Proposal.bare <+:
      (cluster.network.approvals origin).map Proposal.bare := by
  obtain ⟨past, settled, offered, issued, entered, account⟩ := invariant.accounts rank
  refine (account.slotOrder.front origin).trans ?_
  by_cases here : origin = rank
  · subst here
    rw [account.own, account.approvals rfl]
    obtain ⟨rest, whole⟩ := account.callStage.entered_prefix
    rw [← whole, ← List.append_assoc]
    exact (List.prefix_append _ _).map _
  · have sends := invariant.sends
    have linked : cluster.network.Linked origin rank :=
      ⟨(wellFormed.world origin).2 listed, (wellFormed.world rank).2 inWorld, here⟩
    obtain ⟨front, isFront, under⟩ := sends.collected_under wellFormed.lawful wellFormed.kept linked
    have foreign : (Proposal.underSlot origin (cluster.view rank).entered).map Proposal.bare =
        ((cluster.network.collected rank).filter (Envelope.isUnder (.ofRank origin))).filterMap
          Envelope.content? := account.foreign origin here
    rw [foreign, under, sends.content isFront]
    exact isFront.map _

/-- Whatever a process has executed comes from a process of the world. -/
theorem handed_known (invariant : VotedInvariant worldSize window cluster) (rank : Rank) :
    ∀ proposal ∈ cluster.handed rank,
      ∃ origin ∈ Rank.all worldSize, proposal.id = .ofRank origin := by
  intro proposal member
  obtain ⟨past, settled, offered, issued, entered, account⟩ := invariant.accounts rank
  obtain ⟨source, inEntered, same⟩ := account.slotOrder.exists_entered
    (List.mem_append_left _ (List.mem_append_left _ member))
  obtain ⟨origin, listed, slot⟩ := account.known source inEntered
  have ids : source.bare.id = proposal.bare.id := by rw [same]
  exact ⟨origin, listed, ids.symm.trans slot⟩

end VotedInvariant

/-! ## When every process has closed -/

/-- A front that holds the last item, which is the only one of its kind, is everything. -/
theorem eq_of_prefix_of_closing {front others : List Proposal} {closing : Proposal}
    (isFront : front <+: others ++ [closing])
    (only : ∀ other ∈ others, other.isClosing = false)
    (holds : front.filter Proposal.isClosing ≠ []) : front = others ++ [closing] := by
  rcases List.prefix_concat_iff.1 isFront with whole | short
  · exact whole
  · have none : front.filter Proposal.isClosing = [] :=
      List.filter_eq_nil_iff.2 fun proposal member => by
        rw [only proposal (short.subset member)]
        exact Bool.false_ne_true
    exact absurd none holds

/-- What is at most one for each item sums up to at most the number of items. -/
theorem sum_le_length {Item : Type} {items : List Item} {count : Item → Nat}
    (few : ∀ item ∈ items, count item ≤ 1) : (items.map count).sum ≤ items.length := by
  induction items with
  | nil => exact Nat.le_refl _
  | cons first rest inductionHypothesis =>
    have head := few first List.mem_cons_self
    have tail := inductionHypothesis fun item member => few item (List.mem_cons_of_mem _ member)
    rw [List.map_cons, List.sum_cons, List.length_cons]
    omega

/-- Counts that are one at most and add up to their number are all one. -/
theorem eq_one_of_sum {Item : Type} {items : List Item} {count : Item → Nat}
    (few : ∀ item ∈ items, count item ≤ 1) (many : items.length ≤ (items.map count).sum) :
    ∀ item ∈ items, count item = 1 := by
  induction items with
  | nil => exact fun _ member => absurd member List.not_mem_nil
  | cons first rest inductionHypothesis =>
    have head := few first List.mem_cons_self
    have fewLater : ∀ item ∈ rest, count item ≤ 1 := fun item member =>
      few item (List.mem_cons_of_mem _ member)
    have tail := sum_le_length fewLater
    rw [List.map_cons, List.sum_cons, List.length_cons] at many
    intro item member
    rcases List.mem_cons.1 member with rfl | later
    · omega
    · exact inductionHypothesis fewLater (by omega) item later

/-- Proposals of known processes are counted process by process. -/
theorem Proposal.length_filter_eq_sum {everyone : List Rank} (distinct : everyone.Nodup)
    {proposals : List Proposal}
    (known : ∀ proposal ∈ proposals, ∃ rank ∈ everyone, proposal.id = .ofRank rank)
    (test : Proposal → Bool) :
    (proposals.filter test).length =
      (everyone.map fun rank => ((underSlot rank proposals).filter test).length).sum := by
  have perm := (flatMap_underSlot_perm distinct known).filter test
  rw [← perm.length_eq, List.filter_flatMap, List.length_flatMap]

section Closed

variable {config : SimulationConfig} {start : Timestamp}
  {cluster : Cluster Replica ObjectHandle}

/-- What every run of a simulation in voted mode keeps to. -/
structure Simulated (config : SimulationConfig) (cluster : Cluster Replica ObjectHandle) :
    Prop where
  invariant : VotedInvariant config.ranks config.windowMicros cluster
  wellFormed : cluster.network.WellFormed config.ranks
  programmed : ∀ rank, Programmed config rank (cluster.view rank)
  untroubled : ∀ rank ∈ Rank.all config.ranks, (cluster.view rank).Untroubled

namespace Simulated

/-- Of what a process has got approved the closing is the last, if there is one. -/
theorem program (simulated : Simulated config cluster) {origin : Rank}
    (listed : origin ∈ Rank.all config.ranks) :
    (∀ proposal ∈ cluster.network.approvals origin, proposal.isClosing = false) ∨
      ∃ closing, (cluster.begun origin).getLast? = some closing ∧ closing.isClosing = true ∧
        config.opsPerRank ≤ (cluster.view origin).outcomes.length ∧
        cluster.network.approvals origin =
          ((cluster.view origin).committed config.opsPerRank).map Proposal.onBallot ++
            [closing.onBallot] ∧
        ∀ proposal ∈ (cluster.view origin).committed config.opsPerRank,
          proposal.isClosing = false := by
  obtain ⟨past, settled, offered, issued, entered, account⟩ :=
    simulated.invariant.accounts origin
  have fine := (simulated.untroubled origin listed).replied
  have follows := (simulated.programmed origin).follows fine
  have working : ∀ operation ∈ Workload.plan origin config.opsPerRank, operation ≠ .close := by
    intro operation member
    obtain ⟨number, _, rfl⟩ := List.mem_map.1 member
    exact Workload.operationAt_ne_close origin number
  have length : (Workload.plan origin config.opsPerRank).length = config.opsPerRank := by
    rw [Workload.plan, List.length_map, List.length_range]
  have program := account.program fine follows working
  rw [length] at program
  rw [account.approvals rfl]
  exact program

/-- A process has at most one closing of another one executed. -/
theorem closings_le_one (simulated : Simulated config cluster) {rank origin : Rank}
    (inWorld : rank ∈ Rank.all config.ranks) (listed : origin ∈ Rank.all config.ranks) :
    ((Proposal.underSlot origin (cluster.handed rank)).filter Proposal.isClosing).length ≤ 1 := by
  have isFront := (simulated.invariant.handed_prefix simulated.wellFormed inWorld listed).filter
    Proposal.isClosing
  have bares : ∀ proposals : List Proposal,
      ((proposals.map Proposal.bare).filter Proposal.isClosing).length =
        (proposals.filter Proposal.isClosing).length := by
    intro proposals
    rw [List.filter_map, List.length_map]
    rfl
  have lengths := isFront.length_le
  rw [bares, bares] at lengths
  refine Nat.le_trans lengths ?_
  rcases simulated.program listed with none | ⟨closing, _, closes, _, whole, none⟩
  · rw [List.filter_eq_nil_iff.2 fun proposal member => by
      rw [none proposal member]
      exact Bool.false_ne_true]
    exact Nat.zero_le _
  · have others : (((cluster.view origin).committed config.opsPerRank).map
        Proposal.onBallot).filter Proposal.isClosing = [] :=
      List.filter_eq_nil_iff.2 fun proposal member => by
        obtain ⟨source, inCommitted, rfl⟩ := List.mem_map.1 member
        rw [Proposal.isClosing_onBallot, none source inCommitted]
        exact Bool.false_ne_true
    rw [whole, List.filter_append, others, List.nil_append]
    exact List.length_filter_le _ _

/-- Once a process has executed a closing of another one, it has executed everything that this
one has ever got approved. -/
theorem executed_of_closing (simulated : Simulated config cluster) {rank origin : Rank}
    (inWorld : rank ∈ Rank.all config.ranks) (listed : origin ∈ Rank.all config.ranks)
    (closed : ((Proposal.underSlot origin (cluster.handed rank)).filter
      Proposal.isClosing).length = 1) :
    (Proposal.underSlot origin (cluster.handed rank)).map Proposal.bare =
        (cluster.network.approvals origin).map Proposal.bare ∧
      ∃ closing, (cluster.begun origin).getLast? = some closing ∧ closing.isClosing = true ∧
        config.opsPerRank ≤ (cluster.view origin).outcomes.length ∧
        cluster.network.approvals origin =
          ((cluster.view origin).committed config.opsPerRank).map Proposal.onBallot ++
            [closing.onBallot] := by
  have isFront := simulated.invariant.handed_prefix simulated.wellFormed inWorld listed
  have holds : ((Proposal.underSlot origin (cluster.handed rank)).map Proposal.bare).filter
      Proposal.isClosing ≠ [] := by
    intro none
    rw [List.filter_map, List.map_eq_nil_iff] at none
    have nothing : (Proposal.underSlot origin (cluster.handed rank)).filter
        Proposal.isClosing = [] := none
    rw [nothing] at closed
    cases closed
  rcases simulated.program listed with none | ⟨closing, last, closes, ended, whole, none⟩
  · refine absurd (List.filter_eq_nil_iff.2 fun proposal member => ?_) holds
    obtain ⟨source, inApprovals, rfl⟩ := List.mem_map.1 (isFront.subset member)
    rw [Proposal.isClosing_bare, none source inApprovals]
    exact Bool.false_ne_true
  · refine ⟨?_, closing, last, closes, ended, whole⟩
    rw [whole, List.map_append] at isFront ⊢
    refine eq_of_prefix_of_closing isFront ?_ holds
    intro other member
    obtain ⟨source, inMapped, rfl⟩ := List.mem_map.1 member
    obtain ⟨first, inCommitted, rfl⟩ := List.mem_map.1 inMapped
    exact none first inCommitted

/-- A process that has counted as many closings as there are processes has counted one of
each. -/
theorem closings (simulated : Simulated config cluster) {rank : Rank}
    (inWorld : rank ∈ Rank.all config.ranks)
    (closed : config.ranks ≤ (cluster.nodes rank).state.closes) :
    (cluster.nodes rank).state.closes = config.ranks ∧
      (Rank.all config.ranks).length = config.ranks ∧
      ∀ origin ∈ Rank.all config.ranks,
        ((Proposal.underSlot origin (cluster.handed rank)).filter
          Proposal.isClosing).length = 1 := by
  have few : ∀ origin ∈ Rank.all config.ranks,
      ((Proposal.underSlot origin (cluster.handed rank)).filter Proposal.isClosing).length ≤ 1 :=
    fun origin listed => simulated.closings_le_one inWorld listed
  have counted : (cluster.nodes rank).state.closes =
      ((cluster.handed rank).filter Proposal.isClosing).length :=
    ((simulated.programmed rank).faithful (simulated.untroubled rank inWorld)).closes
  have sum := Proposal.length_filter_eq_sum (Rank.nodup_all config.ranks)
    (simulated.invariant.handed_known rank) Proposal.isClosing
  have atMost := sum_le_length few
  have size : (Rank.all config.ranks).length ≤ config.ranks := by
    rw [Rank.length_all]
    exact Nat.mod_le _ _
  refine ⟨by omega, by omega, eq_one_of_sum few (by omega)⟩

/-- What a process has executed when every process has closed, process by process. -/
theorem handed_perm (simulated : Simulated config cluster) {rank : Rank}
    (inWorld : rank ∈ Rank.all config.ranks)
    (closed : config.ranks ≤ (cluster.nodes rank).state.closes) :
    ((cluster.handed rank).map Proposal.bare).Perm ((Rank.all config.ranks).flatMap
      fun origin => (cluster.network.approvals origin).map Proposal.bare) := by
  obtain ⟨_, _, each⟩ := simulated.closings inWorld closed
  have perm := (Proposal.flatMap_underSlot_perm (Rank.nodup_all config.ranks)
    (simulated.invariant.handed_known rank)).map Proposal.bare
  refine perm.symm.trans ?_
  rw [List.map_flatMap, List.flatMap_congr fun origin listed =>
    (simulated.executed_of_closing inWorld listed (each origin listed)).1]

end Simulated

/-- One more for each item is as much more as there are items. -/
theorem sum_map_succ {Item : Type} (items : List Item) (count : Item → Nat) :
    (items.map fun item => count item + 1).sum = (items.map count).sum + items.length := by
  induction items with
  | nil => rfl
  | cons first rest inductionHypothesis =>
    rw [List.map_cons, List.sum_cons, List.map_cons, List.sum_cons, List.length_cons,
      inductionHypothesis]
    omega

/-- Settings that can run have a window. -/
theorem SimulationConfig.window_pos (config : SimulationConfig)
    (valid : config.validate = .ok ()) : 0 < config.windowMicros.toNat := by
  refine Nat.pos_of_ne_zero fun zero => ?_
  have none : config.windowMicros = 0 := UInt64.toNat_inj.1 zero
  have refused : ∃ cause, (config.coordinatorConfig ⟨0⟩).validate = .error cause := by
    unfold CoordinatorConfig.validate
    split
    · exact ⟨_, rfl⟩
    · exact ⟨_, if_pos none⟩
  obtain ⟨cause, refusal⟩ := refused
  rw [validate, refusal] at valid
  cases valid

/-- In a simulation in voted mode to which nothing fails, a process that has counted a closing of
every process has executed, of each, exactly what this one got approved, in the order in which
it was submitted: the operations of its workload that were committed, and one closing as the
last. So all processes that get so far have executed the same operations. -/
theorem closing_complete (valid : config.validate = .ok ()) (mode : config.mode = .voted)
    (small : config.opsPerRank ≤ 2 ^ 64)
    (steps : Cluster.Reaches config.rules (config.opening start) cluster)
    (untroubled : ∀ rank ∈ Rank.all config.ranks, (cluster.view rank).Untroubled) {rank : Rank}
    (inWorld : rank ∈ Rank.all config.ranks)
    (closed : config.ranks ≤ (cluster.nodes rank).state.closes) :
    (∀ origin ∈ Rank.all config.ranks,
      (Proposal.underSlot origin (cluster.handed rank)).map Proposal.bare =
          (cluster.network.approvals origin).map Proposal.bare ∧
        (cluster.network.approvals origin).Pairwise
          (fun first second => first.createdAt < second.createdAt) ∧
        ∃ closing, (cluster.begun origin).getLast? = some closing ∧
          closing.isClosing = true ∧
          config.opsPerRank ≤ (cluster.view origin).outcomes.length ∧
          cluster.network.approvals origin =
            ((cluster.view origin).committed config.opsPerRank).map Proposal.onBallot ++
              [closing.onBallot]) ∧
    (∀ proposal ∈ cluster.handed rank,
      ∃ origin ∈ Rank.all config.ranks, proposal.id = .ofRank origin) ∧
    (cluster.nodes rank).state.closes = config.ranks ∧
    (cluster.nodes rank).state.log = (cluster.handed rank).map LogEntry.ofProposal ∧
    (cluster.nodes rank).state.log.length =
      ((Rank.all config.ranks).map fun origin =>
        ((cluster.view origin).committed config.opsPerRank).length).sum + config.ranks ∧
    ∀ other ∈ Rank.all config.ranks, config.ranks ≤ (cluster.nodes other).state.closes →
      (cluster.nodes rank).state.log.Perm (cluster.nodes other).state.log := by
  have wide := config.window_pos valid
  obtain ⟨invariant, programmed⟩ := Programmed.reaches mode wide small steps
  have simulated : Simulated config cluster :=
    ⟨invariant, .of_reaches steps.network, programmed, untroubled⟩
  obtain ⟨counted, size, each⟩ := simulated.closings inWorld closed
  have logged : ∀ process ∈ Rank.all config.ranks, (cluster.nodes process).state.log =
      ((cluster.handed process).map Proposal.bare).map LogEntry.ofProposal := by
    intro process listed
    rw [List.map_map]
    exact ((programmed process).faithful (untroubled process listed)).log
  refine ⟨fun origin listed => ?_, invariant.handed_known rank,
    counted, ((programmed rank).faithful (untroubled rank inWorld)).log, ?_, ?_⟩
  · obtain ⟨whole, closing⟩ := simulated.executed_of_closing inWorld listed (each origin listed)
    exact ⟨whole, invariant.approvals_ascending origin, closing⟩
  · have lengths : ∀ origin ∈ Rank.all config.ranks,
        ((cluster.network.approvals origin).map Proposal.bare).length =
          ((cluster.view origin).committed config.opsPerRank).length + 1 := by
      intro origin listed
      obtain ⟨_, closing, _, _, _, whole⟩ :=
        simulated.executed_of_closing inWorld listed (each origin listed)
      rw [whole, List.length_map, List.length_append, List.length_map, List.length_singleton]
    rw [logged rank inWorld, List.length_map, (simulated.handed_perm inWorld closed).length_eq,
      List.length_flatMap, List.map_congr_left lengths, sum_map_succ, size]
  · intro other otherInWorld otherClosed
    rw [logged rank inWorld, logged other otherInWorld]
    exact ((simulated.handed_perm inWorld closed).trans
      (simulated.handed_perm otherInWorld otherClosed).symm).map _

/-! A run of two processes that carries out its schedule. -/

instance (cluster : Cluster Replica ObjectHandle) (clock : Clock) :
    Decidable (config.rules.passes cluster clock) :=
  inferInstanceAs (Decidable (_ ∧ _))

instance (cluster : Cluster Replica ObjectHandle) (rank : Rank) :
    Decidable (config.rules.leaves cluster rank) :=
  inferInstanceAs (Decidable (_ ∧ _))

instance (cluster : Cluster Replica ObjectHandle) (rank : Rank) (proposal : Proposal) :
    Decidable (config.rules.submits cluster rank proposal) :=
  match found : Workload.next? (Workload.plan rank config.opsPerRank)
      (cluster.view rank).outcomes with
  | none => isFalse fun ⟨_, next, _⟩ => nomatch found.symm.trans next
  | some operation =>
    decidable_of_iff (proposal = .create (.ofRank rank) operation.tag (Payload.encode operation)
        cluster.network.bus.clock.time)
      ⟨fun same => ⟨operation, found, same⟩, fun ⟨_, next, same⟩ =>
        Option.some.inj (found.symm.trans next) ▸ same⟩

/-- Two processes with one operation each. -/
def pairConfig : SimulationConfig :=
  { SimulationConfig.ofRanks 2 with windowMicros := 10, opsPerRank := 1 }

/-- A submission of one process, on which the other one votes, up to the end of its window. -/
def pairRound (first second : Rank) (operation : Operation) (start : UInt64)
    (handled exchanged : Nat) : List Move :=
  [.submit first (.create (.ofRank first) operation.tag (Payload.encode operation) ⟨start⟩),
    .exchange first, .send first, .tick second, .exchange second, .handle second, .send second,
    .exchange second, .exchange second, .finish second, .exchange first] ++
  List.replicate handled (.handle first) ++
  [.send first, .exchange first, .exchange first, .time (.startingAt ⟨start + 10⟩)] ++
  List.replicate exchanged (.exchange first) ++ [.finish first]

/-- Both submit their operation and then their closing; the second one hears of all four. -/
def closingMoves : List Move :=
  pairRound ⟨0⟩ ⟨1⟩ (Workload.operationAt ⟨0⟩ 0) 0 1 8 ++
  pairRound ⟨1⟩ ⟨0⟩ (Workload.operationAt ⟨1⟩ 0) 10 2 10 ++
  pairRound ⟨0⟩ ⟨1⟩ .close 20 2 10 ++ pairRound ⟨1⟩ ⟨0⟩ .close 30 2 10

/-- Whether nothing has failed to a process, as a test. -/
def ProcessView.isUntroubled {State Handle : Type} (view : ProcessView State Handle) : Bool :=
  (view.replies.all fun reply => reply.toBool) &&
    match view.node.call with
    | some (.returned reply) => reply.toBool
    | _ => true

/-- The test for a process to which nothing has failed is sound. -/
theorem ProcessView.untroubled_of_isUntroubled {State Handle : Type}
    {view : ProcessView State Handle} (test : view.isUntroubled = true) : view.Untroubled := by
  obtain ⟨replied, calling⟩ := Bool.and_eq_true_iff.1 test
  refine ⟨List.all_eq_true.1 replied, fun cause failed => ?_⟩
  rw [failed] at calling
  cases calling

/-- Two processes that submit one operation each, close and have executed both closings hold all
four proposals. -/
theorem closing_complete_pair : ∃ cluster : Cluster Replica ObjectHandle,
    Cluster.Reaches pairConfig.rules (pairConfig.opening .zero) cluster ∧
      (∀ rank ∈ Rank.all 2, (cluster.view rank).Untroubled) ∧
      2 ≤ (cluster.nodes ⟨1⟩).state.closes ∧ (cluster.nodes ⟨1⟩).state.log.length = 4 := by
  have run : (Cluster.follow pairConfig.rules (pairConfig.opening .zero) closingMoves).map
      (fun cluster => ((Rank.all 2).all fun rank => (cluster.view rank).isUntroubled,
        (cluster.nodes ⟨1⟩).state.closes,
        ((Rank.all 2).map fun rank => ((cluster.view rank).committed 1).length).sum)) =
      some (true, 2, 2) := by decide +kernel
  obtain ⟨cluster, followed, found⟩ := Option.map_eq_some_iff.1 run
  simp only [Prod.mk.injEq, List.all_eq_true] at found
  obtain ⟨fine, closed, committed⟩ := found
  have untroubled : ∀ rank ∈ Rank.all 2, (cluster.view rank).Untroubled := fun rank listed =>
    ProcessView.untroubled_of_isUntroubled (fine rank listed)
  have steps := Cluster.reaches_follow .refl followed
  have size : pairConfig.ranks ≤ (cluster.nodes ⟨1⟩).state.closes := by
    rw [closed]
    exact Nat.le_refl 2
  obtain ⟨_, _, _, _, length, _⟩ := closing_complete rfl rfl (by decide) steps untroubled
    (by decide) size
  refine ⟨cluster, steps, untroubled, size, ?_⟩
  rw [length]
  exact congrArg (· + 2) committed

end Closed

end Concord
