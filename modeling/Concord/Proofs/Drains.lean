import Concord.Proofs.Handovers

/-!
# Executing all that is due

`ExecutionQueue.executeAll` takes the oldest out of the queue, hands it to the executor, and goes
on until nothing is left or the executor refuses. `Executor.noting` keeps the calls in the state
of the executor, so what is said of them is said of a run (`ExecutionQueue.executeAll_noting`).
`DrainResult` says what came of it. Where no two proposals are at one place in the order, it does
not matter where in the queue they are held.
-/

namespace Concord

variable {State Handle : Type}

/-- The same executor, with what it was asked for and what it answered. -/
def Executor.noting (executor : Executor State Handle) :
    Executor (State × List (Execution Handle)) Handle where
  execute noted proposal :=
    let (answer, after) := executor.execute noted.1 proposal
    (answer, after, noted.2 ++ [⟨proposal, answer⟩])

/-- An executor that notes its calls answers as the executor does. -/
theorem Executor.noting_execute {executor : Executor State Handle} {state after : State}
    {proposal : Proposal} {answer : Except ExecutorError (Option Handle)}
    (answered : executor.execute state proposal = (answer, after))
    (calls : List (Execution Handle)) :
    executor.noting.execute (state, calls) proposal =
      (answer, after, calls ++ [⟨proposal, answer⟩]) := by
  simp only [noting, answered]

/-- What has been asked for and what is left, once a drain is over. -/
inductive DrainResult (due : List Proposal) :
    List (Execution Handle) → List Proposal → Except ExecutionError (List (Executed Handle)) →
      Prop where
  /-- Everything was executed, and the records tell of it in turn. -/
  | completed {calls : List (Execution Handle)} {records : List (Executed Handle)}
      (performed : Performed due calls records) : DrainResult due calls [] (.ok records)
  /-- The executor refused a proposal, which is gone; those not yet tried are left. -/
  | failed {earlier : List (Execution Handle)} {records : List (Executed Handle)}
      {proposal : Proposal} {failure : ExecutorError} {left : List Proposal}
      (recorded : Recorded earlier records)
      (handover : Handover due (earlier ++ [⟨proposal, .error failure⟩]) left) :
      DrainResult due (earlier ++ [⟨proposal, .error failure⟩]) left (.error (.executor failure))

namespace ExecutionQueue

/-- A queue as adding and taking out leave it. -/
inductive Built : ExecutionQueue → Prop where
  | empty : Built .empty
  | add {queue longer : ExecutionQueue} {proposal : Proposal} (built : Built queue)
      (added : queue.add proposal = .ok longer) : Built longer
  | pop {queue left : ExecutionQueue} {found : Proposal} (built : Built queue)
      (popped : queue.popOldest? = some (found, left)) : Built left

/-- Nothing but proposals that are due is in it. -/
theorem Built.ready {queue : ExecutionQueue} (built : queue.Built) :
    ∀ entry ∈ queue.entries, entry.state = .readyExecute := by
  induction built with
  | empty => exact fun _ member => absurd member List.not_mem_nil
  | @add queue longer proposal _ added inductionHypothesis =>
    intro entry member
    unfold ExecutionQueue.add Proposal.advance at added
    split at added
    · cases added
    · next advanced =>
      split at advanced <;> cases advanced
      cases added
      rcases List.mem_append.1 member with before | isLast
      · exact inductionHypothesis entry before
      · rw [List.mem_singleton.1 isLast]
  | pop _ popped inductionHypothesis =>
    intro entry member
    have inQueue := (popOldest?_spec popped).1.mem_iff.1 (List.mem_cons_of_mem _ member)
    exact inductionHypothesis entry inQueue

/-- What holds of an empty queue and of each queue of which it holds once the oldest is taken out
holds of all. -/
theorem popInduction {Holds : ExecutionQueue → Prop}
    (exhausted : ∀ queue, queue.popOldest? = none → Holds queue)
    (popped : ∀ queue found left, queue.popOldest? = some (found, left) → Holds left →
      Holds queue) (queue : ExecutionQueue) : Holds queue := by
  generalize size : queue.size = count
  induction count using Nat.strong_induction_on generalizing queue with
  | _ count inductionHypothesis =>
    cases next : queue.popOldest? with
    | none => exact exhausted queue next
    | some pair =>
      have smaller := size_of_popOldest? next
      exact popped queue pair.1 pair.2 next (inductionHypothesis _ (size ▸ smaller) pair.2 rfl)

section Steps

variable {executor : Executor State Handle} {queue left : ExecutionQueue} {state : State}
  {found : Proposal}

/-- An empty queue executes nothing and succeeds. -/
theorem executeAll_of_none (none : queue.popOldest? = none) :
    executeAll executor queue state = (.ok [], queue, state) := by
  rw [executeAll]
  split
  · rfl
  · next popped =>
    rw [none] at popped
    cases popped

/-- The oldest is handed over, and if that succeeds, the others are. -/
theorem executeAll_of_popped (popped : queue.popOldest? = some (found, left)) :
    executeAll executor queue state =
      let (answer, after) := executor.execute state found
      match conclude found answer with
      | .error cause => (.error cause, left, after)
      | .ok record =>
        let (records, remaining, final) := executeAll executor left after
        (records.map (record :: ·), remaining, final) := by
  rw [executeAll]
  split
  · next none =>
    rw [none] at popped
    cases popped
  · next same =>
    rw [popped] at same
    cases same
    rfl

end Steps

/-- Noting the calls changes nothing else. -/
theorem executeAll_noting (executor : Executor State Handle) (queue : ExecutionQueue)
    (state : State) (calls : List (Execution Handle)) :
    executeAll executor queue state =
      let ran := executeAll executor.noting queue (state, calls)
      (ran.1, ran.2.1, ran.2.2.1) := by
  induction queue using popInduction generalizing state calls with
  | exhausted queue none => rw [executeAll_of_none none, executeAll_of_none none]
  | popped queue found left popped inductionHypothesis =>
    rw [executeAll_of_popped popped, executeAll_of_popped popped]
    cases answered : executor.execute state found with
    | mk answer after =>
      simp only [Executor.noting_execute answered]
      split
      · rfl
      · rw [inductionHypothesis after (calls ++ [⟨found, answer⟩])]

/-- A drain goes on from the calls made so far. -/
theorem drainResult_executeAll (executor : Executor State Handle) {due : List Proposal}
    (queue : ExecutionQueue) (ready : ∀ entry ∈ queue.entries, entry.state = .readyExecute)
    {calls : List (Execution Handle)} {records : List (Executed Handle)}
    (recorded : Recorded calls records) (handover : Handover due calls queue.entries)
    (state : State) :
    let ran := executeAll executor.noting queue (state, calls)
    DrainResult due ran.2.2.2 ran.2.1.entries (ran.1.map (records ++ ·)) := by
  induction queue using popInduction generalizing state calls records with
  | exhausted queue none =>
    rw [executeAll_of_none none]
    have empty := popOldest?_eq_none.1 none
    simp only [Except.map, List.append_nil, empty]
    exact .completed ⟨recorded, empty ▸ handover⟩
  | popped queue found left popped inductionHypothesis =>
    obtain ⟨perm, oldest⟩ := popOldest?_spec popped
    have inQueue : ∀ entry ∈ left.entries, entry ∈ queue.entries :=
      fun entry member => perm.mem_iff.1 (List.mem_cons_of_mem _ member)
    have handed : ∀ answer, Handover due (calls ++ [⟨found, answer⟩]) left.entries :=
      (handover.of_perm perm).hand fun other member => oldest other (inQueue other member)
    rw [executeAll_of_popped popped]
    cases answered : executor.execute state found with
    | mk answer after =>
      simp only [Executor.noting_execute answered]
      cases answer with
      | error failure => exact .failed recorded (handed _)
      | ok handle =>
        have isReady := ready found (perm.mem_iff.1 List.mem_cons_self)
        have rest := inductionHypothesis (fun entry member => ready entry (inQueue entry member))
          (recorded.concat found handle) (handed (.ok handle)) after
        simp only [conclude_of_ready isReady]
        generalize executeAll executor.noting left
          (after, calls ++ [⟨found, .ok handle⟩]) = ran at rest ⊢
        -- The record of the first stands before those of the others.
        obtain ⟨outcome, remaining, final⟩ := ran
        cases outcome with
        | error cause => exact rest
        | ok others =>
          simp only [Except.map, List.append_assoc, List.singleton_append] at rest ⊢
          exact rest

/-- Where all are at different places in the order, the oldest is the same wherever it is held. -/
theorem popOldest?_of_perm {queue other left : ExecutionQueue} {found : Proposal}
    (perm : other.entries.Perm queue.entries) (distinct : (queue.entries.map Proposal.key).Nodup)
    (popped : queue.popOldest? = some (found, left)) :
    ∃ rest, other.popOldest? = some (found, rest) ∧ rest.entries.Perm left.entries := by
  obtain ⟨whole, oldest⟩ := popOldest?_spec popped
  have inQueue : found ∈ queue.entries := whole.mem_iff.1 List.mem_cons_self
  cases next : other.popOldest? with
  | none =>
    have empty := popOldest?_eq_none.1 next
    rw [empty] at perm
    exact absurd (perm.mem_iff.2 inQueue) List.not_mem_nil
  | some pair =>
    obtain ⟨first, rest⟩ := pair
    obtain ⟨otherWhole, otherOldest⟩ := popOldest?_spec next
    have inOther : first ∈ queue.entries :=
      perm.mem_iff.1 (otherWhole.mem_iff.1 List.mem_cons_self)
    have same : first = found := List.inj_on_of_nodup_map distinct inOther inQueue
      (OrderKey.eq_of_le_of_le (otherOldest found (perm.mem_iff.2 inQueue)) (oldest first inOther))
    subst same
    exact ⟨rest, rfl, (List.perm_cons first).1 (otherWhole.trans (perm.trans whole.symm))⟩

/-- Where all are at different places in the order, a drain goes the same wherever they are held. -/
theorem executeAll_of_perm (executor : Executor State Handle) {queue other : ExecutionQueue}
    (perm : other.entries.Perm queue.entries) (distinct : (queue.entries.map Proposal.key).Nodup)
    (state : State) :
    (executeAll executor other state).1 = (executeAll executor queue state).1 ∧
      (executeAll executor other state).2.1.entries.Perm
        (executeAll executor queue state).2.1.entries ∧
      (executeAll executor other state).2.2 = (executeAll executor queue state).2.2 := by
  induction queue using popInduction generalizing other state with
  | exhausted queue none =>
    have empty := popOldest?_eq_none.1 none
    have emptyToo : other.entries = [] := (empty ▸ perm).eq_nil
    rw [executeAll_of_none none, executeAll_of_none (popOldest?_eq_none.2 emptyToo)]
    exact ⟨rfl, perm, rfl⟩
  | popped queue found left popped inductionHypothesis =>
    obtain ⟨rest, poppedToo, restPerm⟩ := popOldest?_of_perm perm distinct popped
    have whole := (popOldest?_spec popped).1
    have distinctLeft : (left.entries.map Proposal.key).Nodup :=
      (List.nodup_cons.1 ((whole.map Proposal.key).nodup_iff.2 distinct)).2
    rw [executeAll_of_popped popped, executeAll_of_popped poppedToo]
    cases executor.execute state found with
    | mk answer after =>
      simp only
      split
      · exact ⟨rfl, restPerm, rfl⟩
      · obtain ⟨outcome, remaining, final⟩ := inductionHypothesis restPerm distinctLeft after
        exact ⟨by rw [outcome], remaining, final⟩

/-- Whatever the executor is, a queue is handed to it in the global order, each proposal once and up
to the first that it refuses; that one is gone, and those behind it are left. If no two proposals
are at one place in the order, it does not matter where in the queue they are held. -/
theorem executeAll_drains (executor : Executor State Handle) {queue : ExecutionQueue}
    (built : queue.Built) (state : State) :
    let ran := executeAll executor.noting queue (state, [])
    executeAll executor queue state = (ran.1, ran.2.1, ran.2.2.1) ∧
      DrainResult queue.entries ran.2.2.2 ran.2.1.entries ran.1 ∧
      ∀ other : ExecutionQueue, other.entries.Perm queue.entries →
        (queue.entries.map Proposal.key).Nodup →
        (executeAll executor other state).1 = (executeAll executor queue state).1 ∧
        (executeAll executor other state).2.1.entries.Perm
          (executeAll executor queue state).2.1.entries ∧
        (executeAll executor other state).2.2 = (executeAll executor queue state).2.2 := by
  refine ⟨executeAll_noting executor queue state [], ?_,
    fun other perm distinct => executeAll_of_perm executor perm distinct state⟩
  have drainResult := drainResult_executeAll executor queue built.ready
    (show Recorded [] [] from rfl)
    (.begins queue.entries) state
  have whole : ∀ outcome : Except ExecutionError (List (Executed Handle)),
      outcome.map ([] ++ ·) = outcome := by
    intro outcome
    cases outcome <;> rfl
  simp only [whole] at drainResult
  exact drainResult

/-! ## A drain that stops -/

/-- An executor that refuses what was created at 100, and counts. -/
def refusing : Executor Nat Unit where
  execute count proposal :=
    if proposal.createdAt = ⟨100⟩ then (.error (.failed "disk full"), count + 1)
    else (.ok (some ()), count + 1)

/-- An approved proposal. -/
def approved (time : UInt64) : Proposal :=
  { Proposal.create ⟨0⟩ ⟨0⟩ [] ⟨time⟩ with state := .approved }

/-- Three proposals that are due. -/
def three : ExecutionQueue :=
  ⟨[(approved 200).due, (approved 50).due, (approved 100).due]⟩

/-- The queue of the witness is one that adding has built. -/
theorem built_three : three.Built := by
  have one : Built ⟨[(approved 200).due]⟩ :=
    .add .empty (show ExecutionQueue.empty.add (approved 200) = _ from rfl)
  have two : Built ⟨[(approved 200).due, (approved 50).due]⟩ :=
    one.add (show ExecutionQueue.add _ (approved 50) = _ from rfl)
  exact two.add (show ExecutionQueue.add _ (approved 100) = _ from rfl)

/-- The first is executed and the second refused, so the third is left, wherever they are held. -/
theorem executeAll_drains_refused :
    three.Built ∧
    (executeAll refusing three 0).1 = .error (.executor (.failed "disk full")) ∧
    (executeAll refusing three 0).2.1.entries = [(approved 200).due] ∧
    (executeAll refusing.noting three (0, [])).2.2.2 =
      [⟨(approved 50).due, .ok (some ())⟩,
        ⟨(approved 100).due, .error (.failed "disk full")⟩] ∧
    DrainResult three.entries (executeAll refusing.noting three (0, [])).2.2.2
      (executeAll refusing.noting three (0, [])).2.1.entries
      (executeAll refusing.noting three (0, [])).1 ∧
    (executeAll refusing ⟨three.entries.reverse⟩ 0).2.2 = (executeAll refusing three 0).2.2 := by
  obtain ⟨_, drainResult, unordered⟩ := executeAll_drains refusing built_three 0
  have same := unordered ⟨three.entries.reverse⟩ (List.reverse_perm _) (by decide)
  exact ⟨built_three, by decide +kernel, by decide +kernel, by decide +kernel,
    drainResult, same.2.2⟩

end ExecutionQueue

end Concord
