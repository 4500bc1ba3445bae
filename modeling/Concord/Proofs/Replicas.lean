import Concord.Proofs.Programs

/-!
# Replicas that execute the same proposals

Every process sees other proposals as its own, so replicas give different handles. What they
hold depends on none of that: replicas that agree and are given proposals that differ only in
whose they are answer alike and agree after each of them, refusals included. A replica that
starts with the empty namespace is told by what it has carried out.
-/

namespace Concord

/-- A copy of a proposal that is nobody's own. -/
def Proposal.disown (proposal : Proposal) : Proposal :=
  { proposal with isLocal := false }

/-- Proposals that differ only in whose they are have the same contents. -/
theorem Proposal.parts_of_disown {mine theirs : Proposal} (same : mine.disown = theirs.disown) :
    mine.id = theirs.id ∧ mine.createdAt = theirs.createdAt ∧ mine.tag = theirs.tag ∧
      mine.payload = theirs.payload := by
  simp only [disown, mk.injEq] at same
  exact ⟨same.1, same.2.2.1, same.2.2.2.2.1, same.2.2.2.2.2⟩

namespace Replica

/-- Two replicas hold the same, whatever handles they have given. -/
structure Agrees (left right : Replica) : Prop where
  space : left.space = right.space
  log : left.log = right.log
  closes : left.closes = right.closes

/-- One proposal handed to a replica: what came of it, and the replica then. -/
structure Turn where
  proposal : Proposal
  answer : Except ExecutorError (Option ObjectHandle)
  after : Replica

/-- Hand a proposal to a replica. -/
def turn (replica : Replica) (proposal : Proposal) : Turn :=
  ⟨proposal, (replica.execute proposal).1, (replica.execute proposal).2⟩

/-- Hand proposals to a replica one after the other, and go on after refusals. -/
def turns (replica : Replica) : List Proposal → List Turn
  | [] => []
  | proposal :: proposals =>
    replica.turn proposal :: (replica.turn proposal).after.turns proposals

/-- The replica after all these proposals. -/
def afterAll (replica : Replica) (proposals : List Proposal) : Replica :=
  proposals.foldl (fun current proposal => (current.execute proposal).2) replica

namespace Turn

/-- Whether the proposal was carried out, and if not, why. -/
def verdict (turn : Turn) : Except ExecutorError Unit :=
  turn.answer.map fun _ => ()

/-- Whether the proposal was carried out. -/
def succeeded (turn : Turn) : Bool :=
  turn.answer.isOk

/-- The operation that was carried out. -/
def operation? (turn : Turn) : Option Operation :=
  if turn.succeeded then (Payload.decode turn.proposal.tag turn.proposal.payload).toOption
  else none

/-- The handle that was given. -/
def handle? (turn : Turn) : Option ObjectHandle :=
  turn.answer.toOption.bind id

/-- What was carried out was an operation, and its path is on the handle that was given exactly
if the proposal was the process's own. -/
structure Fair (turn : Turn) : Prop where
  decoded : turn.operation?.isSome = turn.succeeded
  handed : turn.handle?.isSome = (turn.succeeded && turn.proposal.isLocal)
  path : ∀ handle ∈ turn.handle?, turn.operation?.map Operation.path = some handle.path

/-- Two turns came out alike. -/
structure Alike (left right : Turn) : Prop where
  verdict : left.verdict = right.verdict
  after : left.after.Agrees right.after

end Turn

/-! ## One proposal -/

/-- Noting a proposal leaves the namespace as it is. -/
theorem space_note (replica : Replica) (space : Namespace) (proposal : Proposal)
    (operation : Operation) : (replica.note space proposal operation).2.space = space := by
  unfold note
  cases proposal.isLocal <;> rfl

/-- The process whose proposal it is gets a handle, with the next number on it. -/
theorem note_handle (replica : Replica) (space : Namespace) (proposal : Proposal)
    (operation : Operation) :
    (replica.note space proposal operation).1 =
        (if proposal.isLocal then some ⟨replica.handles + 1, operation.path⟩ else none) ∧
      (replica.note space proposal operation).2.handles =
        replica.handles + (if proposal.isLocal then 1 else 0) := by
  unfold note
  cases proposal.isLocal <;> exact ⟨rfl, rfl⟩

/-- Replicas that agree still do after noting the same proposal, each as its own or as another's. -/
theorem Agrees.note {left right : Replica} (agrees : left.Agrees right) (space : Namespace)
    {mine theirs : Proposal} (same : mine.disown = theirs.disown) (operation : Operation) :
    (left.note space mine operation).2.Agrees (right.note space theirs operation).2 := by
  obtain ⟨logged, counted⟩ := left.note_spec space mine operation
  obtain ⟨loggedToo, countedToo⟩ := right.note_spec space theirs operation
  obtain ⟨id, createdAt, -, -⟩ := Proposal.parts_of_disown same
  constructor
  · rw [space_note, space_note]
  · rw [logged, loggedToo, agrees.log, entryOf, entryOf, id, createdAt]
  · rw [counted, countedToo, agrees.closes]

/-- Replicas that agree carry out the same proposal, or refuse it for the same reason. -/
theorem Agrees.turn {left right : Replica} (agrees : left.Agrees right)
    {mine theirs : Proposal} (same : mine.disown = theirs.disown) :
    (left.turn mine).Alike (right.turn theirs) := by
  obtain ⟨-, -, tag, payload⟩ := Proposal.parts_of_disown same
  unfold Replica.turn execute
  rw [tag, payload, agrees.space]
  cases Payload.decode theirs.tag theirs.payload with
  | error cause => exact ⟨rfl, agrees⟩
  | ok operation =>
    dsimp only
    cases right.space.apply operation with
    | error cause => exact ⟨rfl, agrees⟩
    | ok space => exact ⟨rfl, agrees.note space same operation⟩

/-- Everything a turn can do: the replica refuses and stays as it is, or it carries out the
operation in the proposal. -/
theorem turn_cases (replica : Replica) (proposal : Proposal) :
    (∃ cause, replica.turn proposal = ⟨proposal, .error cause, replica⟩) ∨
      ∃ operation space after, (replica.turn proposal).operation? = some operation ∧
        replica.space.apply operation = .ok space ∧
        replica.turn proposal = ⟨proposal,
          .ok (if proposal.isLocal then some ⟨replica.handles + 1, operation.path⟩ else none),
          after⟩ ∧
        after.space = space ∧ after.log = replica.log ++ [LogEntry.ofProposal proposal] ∧
        after.closes = replica.closes + (if proposal.isClosing then 1 else 0) ∧
        after.handles = replica.handles + (if proposal.isLocal then 1 else 0) := by
  cases read : Payload.decode proposal.tag proposal.payload with
  | error cause =>
    left
    exact ⟨cause, by rw [Replica.turn, execute, read]⟩
  | ok operation =>
    cases applied : replica.space.apply operation with
    | error cause =>
      left
      refine ⟨.failed cause.message, ?_⟩
      rw [Replica.turn, execute, read]
      dsimp only
      rw [applied]
    | ok space =>
      right
      have executed : replica.execute proposal =
          (.ok (replica.note space proposal operation).1,
            (replica.note space proposal operation).2) := by
        rw [execute, read]
        dsimp only
        rw [applied]
      obtain ⟨handle, handles⟩ := replica.note_handle space proposal operation
      obtain ⟨logged, counted⟩ := execute_ok executed
      refine ⟨operation, space, (replica.note space proposal operation).2, ?_, applied, ?_,
        replica.space_note space proposal operation, logged, counted, handles⟩
      · rw [Turn.operation?, Turn.succeeded, Replica.turn, executed]
        dsimp only [Except.isOk, Except.toBool]
        rw [read]
        rfl
      · rw [Replica.turn, executed, handle]

/-- Every turn of a replica is fair. -/
theorem fair_turn (replica : Replica) (proposal : Proposal) :
    (replica.turn proposal).Fair := by
  rcases replica.turn_cases proposal with ⟨cause, refused⟩ |
    ⟨operation, space, after, read, -, accepted, -⟩
  · rw [refused]
    exact ⟨rfl, rfl, fun _ given => nomatch given⟩
  · have succeeded : (replica.turn proposal).succeeded = true := by rw [accepted]; rfl
    have isProposal : (replica.turn proposal).proposal = proposal := rfl
    have handle : (replica.turn proposal).handle? =
        if proposal.isLocal then some ⟨replica.handles + 1, operation.path⟩ else none := by
      rw [accepted]
      rfl
    constructor
    · rw [read, succeeded]
      rfl
    · rw [handle, succeeded, isProposal]
      cases proposal.isLocal <;> rfl
    · intro given member
      rw [handle] at member
      cases own : proposal.isLocal with
      | false => simp [own] at member
      | true =>
        have same : (⟨replica.handles + 1, operation.path⟩ : ObjectHandle) = given := by
          simpa [own] using member
        rw [read, ← same]
        rfl

/-! ## All proposals -/

/-- Replicas that agree go on to agree. -/
theorem Agrees.turns {left right : Replica} (agrees : left.Agrees right)
    {mine theirs : List Proposal} (same : mine.map Proposal.disown = theirs.map Proposal.disown) :
    List.Forall₂ Turn.Alike (left.turns mine) (right.turns theirs) := by
  induction mine generalizing left right theirs with
  | nil =>
    have none : theirs = [] := List.map_eq_nil_iff.1 same.symm
    rw [none]
    exact .nil
  | cons proposal proposals hypothesis =>
    obtain ⟨other, others, rfl, first, rest⟩ := List.map_eq_cons_iff.1 same.symm
    have alike := agrees.turn first.symm
    exact .cons alike (hypothesis alike.after rest.symm)

/-- What the turns of a new replica tell of it. -/
structure Recounts (replica : Replica) (turns : List Turn) : Prop where
  fair : ∀ turn ∈ turns, turn.Fair
  /-- Each operation that was carried out could be applied to what those before it had made. -/
  space : (turns.filterMap Turn.operation?).foldlM Namespace.apply .empty = .ok replica.space
  log : replica.log =
    (turns.filter Turn.succeeded).map fun turn => LogEntry.ofProposal turn.proposal
  closes : replica.closes = replica.log.countP fun entry => entry.tag = Operation.close.tag
  serials : (turns.filterMap Turn.handle?).map ObjectHandle.serial = List.range' 1 replica.handles

/-- A new replica recounts no turns. -/
theorem Recounts.create : create.Recounts [] where
  fair := List.forall_mem_nil _
  space := rfl
  log := rfl
  closes := rfl
  serials := rfl

/-- One more turn is told as well. -/
theorem Recounts.turn {replica : Replica} {turns : List Turn} (recounts : replica.Recounts turns)
    (proposal : Proposal) :
    (replica.turn proposal).after.Recounts (turns ++ [replica.turn proposal]) := by
  have fair : ∀ turn ∈ turns ++ [replica.turn proposal], turn.Fair := by
    intro turn member
    rcases List.mem_append.1 member with earlier | last
    · exact recounts.fair turn earlier
    · rw [List.mem_singleton.1 last]
      exact replica.fair_turn proposal
  rcases replica.turn_cases proposal with ⟨cause, refused⟩ |
    ⟨operation, space, after, read, applied, accepted, held, logged, counted, given⟩
  · have stays : (replica.turn proposal).after = replica := by rw [refused]
    refine ⟨fair, ?_, ?_, ?_, ?_⟩
    · rw [stays, List.filterMap_append, recounts.space.symm, refused]
      simp [Turn.operation?, Turn.succeeded, Except.isOk, Except.toBool]
    · rw [stays, recounts.log, List.filter_append, refused]
      simp [Turn.succeeded, Except.isOk, Except.toBool]
    · rw [stays]
      exact recounts.closes
    · rw [stays, ← recounts.serials, List.filterMap_append, refused]
      simp [Turn.handle?, Except.toOption]
  · have isAfter : (replica.turn proposal).after = after := by rw [accepted]
    have succeeded : (replica.turn proposal).succeeded = true := by rw [accepted]; rfl
    rw [isAfter]
    refine ⟨fair, ?_, ?_, ?_, ?_⟩
    · rw [List.filterMap_append, List.foldlM_append, recounts.space, held, ← applied]
      simp only [List.filterMap_cons, read, List.filterMap_nil, List.foldlM_cons, List.foldlM_nil]
      exact bind_pure (replica.space.apply operation)
    · rw [logged, recounts.log, List.filter_append, List.map_append, List.filter_singleton,
        succeeded]
      rfl
    · rw [counted, logged, List.countP_append, recounts.closes]
      simp [Proposal.isClosing, LogEntry.ofProposal, List.countP_cons]
    · rw [given, List.filterMap_append, List.map_append, recounts.serials, accepted]
      cases proposal.isLocal <;>
        simp [Turn.handle?, Except.toOption, List.range'_concat, Nat.add_comm]

/-- The last turn is that of the replica after all that came before it. -/
theorem turns_append (replica : Replica) (proposals : List Proposal) (proposal : Proposal) :
    replica.turns (proposals ++ [proposal]) =
      replica.turns proposals ++ [(replica.afterAll proposals).turn proposal] := by
  induction proposals generalizing replica with
  | nil => rfl
  | cons first rest hypothesis =>
    rw [List.cons_append, turns, turns, hypothesis]
    rfl

/-- Replicas execute proposals one after the other. -/
theorem afterAll_append (replica : Replica) (proposals : List Proposal) (proposal : Proposal) :
    replica.afterAll (proposals ++ [proposal]) =
      ((replica.afterAll proposals).turn proposal).after := by
  rw [afterAll, List.foldl_append]
  rfl

/-- What a replica holds after a sequence of proposals recounts its turns. -/
theorem recounts_afterAll (proposals : List Proposal) :
    (create.afterAll proposals).Recounts (create.turns proposals) := by
  induction proposals using List.reverseRecOn with
  | nil => exact Recounts.create
  | append_singleton proposals proposal hypothesis =>
    rw [turns_append, afterAll_append]
    exact hypothesis.turn proposal

/-- Whose a proposal is decides about handles and nothing else. Replicas that agree give the same
verdicts on the same proposals and agree after each; the turns of a new replica tell what it
holds. -/
theorem turns_alike_and_recount :
    (∀ (left right : Replica) (mine theirs : List Proposal), left.Agrees right →
      mine.map Proposal.disown = theirs.map Proposal.disown →
      List.Forall₂ Turn.Alike (left.turns mine) (right.turns theirs)) ∧
      ∀ proposals, (create.afterAll proposals).Recounts (create.turns proposals) :=
  ⟨fun _ _ _ _ agrees same => agrees.turns same, recounts_afterAll⟩

/-- A group, an unknown operation, the same group again and a closing, as one process proposes
them. -/
def mixed (isLocal : Bool) : List Proposal :=
  [⟨⟨0⟩, .readyExecute, ⟨4⟩, isLocal, ⟨5⟩, Payload.encode (.createGroup "/a")⟩,
    ⟨⟨1⟩, .readyExecute, ⟨4⟩, isLocal, ⟨99⟩, []⟩,
    ⟨⟨0⟩, .readyExecute, ⟨7⟩, !isLocal, ⟨5⟩, Payload.encode (.createGroup "/a")⟩,
    ⟨⟨1⟩, .readyExecute, ⟨9⟩, isLocal, ⟨0⟩, Payload.encode .close⟩]

/-- Two replicas that have given out different numbers of handles execute the same sequence, in
which one takes for its own what the other takes for another's. -/
theorem turns_alike_and_recount_mixed :
    create.Agrees { create with handles := 7 } ∧
      (mixed true).map Proposal.disown = (mixed false).map Proposal.disown ∧
      List.Forall₂ Turn.Alike (create.turns (mixed true))
        (turns { create with handles := 7 } (mixed false)) ∧
      (create.afterAll (mixed true)).Recounts (create.turns (mixed true)) :=
  ⟨⟨rfl, rfl, rfl⟩, rfl,
    turns_alike_and_recount.1 _ _ _ _ ⟨rfl, rfl, rfl⟩ rfl, turns_alike_and_recount.2 _⟩

end Replica

end Concord
