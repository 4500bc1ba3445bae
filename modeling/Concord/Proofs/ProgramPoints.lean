import Concord.Proofs.Acceptance
import Concord.Simulation.Participant

/-!
# Points of a program

A participant of a simulation in broadcast mode is at some point of its program, and what
concerns its process in a cluster tells at which: how many of its submissions are over, and whether
one is under way. `Participant.AgreesWith` is this correspondence. It survives everything that a
participant does, up to its leaving, of which a cluster knows nothing.
-/

namespace Concord

/-- The point of its program at which a participant is that has so many submissions behind it, and
what a cluster knows of its call. -/
inductive Participant.ProgramPoint (count : Nat) (rank : Rank) (station : Station)
    (participant : Participant) (completed : Nat) : Option (Control ObjectHandle) → Prop where
  | working (phase : participant.phase = .working ((Workload.plan rank count).drop completed))
      (within : completed ≤ count) (busy : participant.call ≠ none → completed < count)
      (committed : participant.committed = completed)
      (active : station.peer.finalized = false) :
      ProgramPoint count rank station participant completed participant.call
  | closing (phase : participant.phase = .closing) (worked : completed = count)
      (committed : participant.committed = count) (active : station.peer.finalized = false) :
      ProgramPoint count rank station participant completed participant.call
  | waiting (phase : participant.phase = .waiting) (closed : completed = count + 1)
      (committed : participant.committed = count) (uncalled : participant.call = none)
      (active : station.peer.finalized = false) :
      ProgramPoint count rank station participant completed none
  | leaving (phase : participant.phase = .leaving) (closed : completed = count + 1)
      (committed : participant.committed = count)
      (calling : participant.call = some (.waiting .finalizing))
      (active : station.peer.finalized = false) :
      ProgramPoint count rank station participant completed none
  | left (phase : participant.phase = .leaving) (closed : completed = count + 1)
      (committed : participant.committed = count)
      (calling : participant.call = some (.returned (.ok .closed))) (quiet : station.batch = []) :
      ProgramPoint count rank station participant completed none
  | finished (phase : participant.phase = .finished) (closed : completed = count + 1)
      (committed : participant.committed = count) (uncalled : participant.call = none)
      (quiet : station.batch = []) :
      ProgramPoint count rank station participant completed none

/-- How a participant and what concerns its process in a cluster fit together. -/
structure Participant.AgreesWith (count : Nat) (rank : Rank) (station : Station)
    (participant : Participant) (view : ProcessView Replica ObjectHandle)
    (stamps : List Timestamp) :
    Prop where
  named : participant.rank = rank
  coordinator : view.node.coordinator = participant.coordinator
  replica : view.node.state = participant.replica
  begun : view.begun.length = stamps.length
  denied : participant.denied = 0
  closeRetries : participant.closeRetries = 0
  point : participant.ProgramPoint count rank station view.completed view.node.call

namespace Participant

variable {count completed : Nat} {rank : Rank} {station after : Station}
  {participant : Participant} {call : Option (Control ObjectHandle)}

/-- A participant has not left if it has yet to act on something. -/
theorem ProgramPoint.active (point : participant.ProgramPoint count rank station completed call)
    (busy : station.batch ≠ []) : station.peer.finalized = false := by
  cases point with
  | working phase within busy committed active => exact active
  | closing phase worked committed active => exact active
  | waiting phase closed committed uncalled active => exact active
  | leaving phase closed committed calling active => exact active
  | left phase closed committed calling quiet => exact absurd quiet busy
  | finished phase closed committed uncalled quiet => exact absurd quiet busy

/-- Where nobody leaves and nothing new is polled, a participant stands where it stood. -/
theorem ProgramPoint.of_station (point : participant.ProgramPoint count rank station completed call)
    (finalized : after.peer.finalized = station.peer.finalized)
    (batch : station.batch = [] → after.batch = []) :
    participant.ProgramPoint count rank after completed call := by
  cases point with
  | working phase within busy committed active =>
    exact .working phase within busy committed (finalized.trans active)
  | closing phase worked committed active =>
    exact .closing phase worked committed (finalized.trans active)
  | waiting phase closed committed uncalled active =>
    exact .waiting phase closed committed uncalled (finalized.trans active)
  | leaving phase closed committed calling active =>
    exact .leaving phase closed committed calling (finalized.trans active)
  | left phase closed committed calling quiet =>
    exact .left phase closed committed calling (batch quiet)
  | finished phase closed committed uncalled quiet =>
    exact .finished phase closed committed uncalled (batch quiet)

/-- What happens at a station keeps a participant and its process together, as long as nobody leaves
and nothing new is polled. -/
theorem AgreesWith.of_station {view : ProcessView Replica ObjectHandle} {stamps : List Timestamp}
    (agrees : participant.AgreesWith count rank station view stamps)
    (finalized : after.peer.finalized = station.peer.finalized)
    (batch : station.batch = [] → after.batch = []) (issued collected : List Bytes) :
    participant.AgreesWith count rank after { view with issued, collected } stamps :=
  { agrees with point := agrees.point.of_station finalized batch }

/-- What a participant proposes is the next operation of its program, and it goes on in its
phase. -/
theorem ProgramPoint.propose (point : participant.ProgramPoint count rank station completed call)
    (uncalled : participant.call = none) (proposing : participant.isProposing = true)
    (worldSize : Nat) (bus : Bus) :
    call = none ∧ station.peer.finalized = false ∧
      participant.start worldSize bus =
        participant.submit bus (Workload.programAt count rank completed) ∧
      ∀ (control : Control ObjectHandle) (stamp : Option Timestamp),
        ({ participant with call := some control, lastStamp := stamp } : Participant).ProgramPoint
          count rank station completed (some control) := by
  cases point with
  | working phase within busy committed active =>
    cases remaining : (Workload.plan rank count).drop completed with
    | nil =>
      rw [remaining] at phase
      simp [isProposing, uncalled, phase] at proposing
    | cons operation rest =>
      have found : (Workload.plan rank count)[completed]? = some operation := by
        rw [← List.head?_drop, remaining]
        rfl
      rw [Workload.getElem?_plan] at found
      split at found
      · next inside =>
        obtain rfl := Option.some.inj found
        refine ⟨uncalled, active, ?_, fun control stamp => ?_⟩
        · rw [start, phase, remaining, Workload.programAt, if_pos inside]
        · exact .working phase within (fun _ => inside) committed active
      · cases found
  | closing phase worked committed active =>
    refine ⟨uncalled, active, ?_, fun control stamp => .closing phase worked committed active⟩
    have ended : ¬ completed < count := by omega
    simp only [start, phase, Workload.programAt, if_neg ended]
  | waiting phase closed committed _ active =>
    simp [isProposing, uncalled, phase] at proposing
  | leaving phase closed committed calling active =>
    rw [calling] at uncalled
    cases uncalled
  | left phase closed committed calling quiet =>
    rw [calling] at uncalled
    cases uncalled
  | finished phase closed committed _ quiet =>
    simp [isProposing, uncalled, phase] at proposing

/-- What a participant does that is in no call and proposes nothing: it goes over to its next phase,
and leaves if every process has closed. -/
theorem ProgramPoint.pass (point : participant.ProgramPoint count rank station completed call)
    (uncalled : participant.call = none) (proposing : participant.isProposing = false)
    {worldSize : Nat}
    (closes : participant.phase = .waiting → participant.replica.closes = worldSize) (bus : Bus) :
    ∃ phase control, participant.start worldSize bus =
        (bus, { participant with phase, call := control }) ∧
      ({ participant with phase, call := control } : Participant).ProgramPoint count rank station
        completed call := by
  cases point with
  | working phase within busy committed active =>
    cases remaining : (Workload.plan rank count).drop completed with
    | nil =>
      have worked : completed = count := by
        have short := List.drop_eq_nil_iff.1 remaining
        rw [Workload.plan, List.length_map, List.length_range] at short
        exact Nat.le_antisymm within short
      refine ⟨.closing, participant.call, ?_, .closing rfl worked (committed.trans worked) active⟩
      rw [start, phase, remaining]
    | cons operation rest =>
      simp [isProposing, uncalled, phase, remaining] at proposing
  | closing phase worked committed active =>
    simp [isProposing, uncalled, phase] at proposing
  | waiting phase closed committed _ active =>
    refine ⟨.leaving, some (.waiting .finalizing), ?_, .leaving rfl closed committed rfl active⟩
    rw [start, phase]
    simp only [closes phase, Nat.lt_irrefl, if_false]
    rfl
  | leaving phase closed committed calling active =>
    rw [calling] at uncalled
    cases uncalled
  | left phase closed committed calling quiet =>
    rw [calling] at uncalled
    cases uncalled
  | finished phase closed committed _ quiet =>
    have still : participant.start worldSize bus = (bus, participant) := by
      simp only [start, phase]
    exact ⟨participant.phase, participant.call, still,
      .finished phase closed committed uncalled quiet⟩

variable {view : ProcessView Replica ObjectHandle} {stamps : List Timestamp}

/-- A participant in a call that a cluster knows of goes on in the call. -/
theorem AgreesWith.exchange (agrees : participant.AgreesWith count rank station view stamps)
    (called : view.node.call ≠ none) (finalized : after.peer.finalized = station.peer.finalized)
    (coordinator : Coordinator) (replica : Replica) (control : Control ObjectHandle)
    (entered handed : List Proposal) (issued collected : List Bytes) :
    ({ participant with coordinator, replica, call := some control } : Participant).AgreesWith count
      rank after
      { view with
        node := ⟨coordinator, replica, some control⟩, entered, handed, issued, collected }
      stamps where
  named := agrees.named
  coordinator := rfl
  replica := rfl
  begun := agrees.begun
  denied := agrees.denied
  closeRetries := agrees.closeRetries
  point := by
    have point := agrees.point
    generalize view.node.call = call at point called
    cases point with
    | working phase within busy committed active =>
      exact .working phase within (fun _ => busy called) committed (finalized.trans active)
    | closing phase worked committed active =>
      exact .closing phase worked committed (finalized.trans active)
    | _ => exact absurd rfl called

/-- A participant that makes a proposal. -/
theorem AgreesWith.propose (agrees : participant.AgreesWith count rank station view stamps)
    {control : Control ObjectHandle} {now : Timestamp}
    (point : ({ participant with call := some control, lastStamp := some now } :
      Participant).ProgramPoint count rank station view.completed (some control))
    (proposal : Proposal) (issued collected : List Bytes) :
    ({ participant with call := some control, lastStamp := some now } : Participant).AgreesWith
    count
      rank station
      { view with
        node := { view.node with call := some control }, begun := view.begun ++ [proposal]
        issued, collected }
      (stamps ++ [now]) where
  named := agrees.named
  coordinator := agrees.coordinator
  replica := agrees.replica
  begun := by rw [List.length_append, List.length_append, agrees.begun]; rfl
  denied := agrees.denied
  closeRetries := agrees.closeRetries
  point := point

/-- A call that a cluster does not know of is the last one. -/
theorem ProgramPoint.last_call (point : participant.ProgramPoint count rank station completed call)
    (unknown : call = none) {control : Control ObjectHandle}
    (calling : participant.call = some control) :
    participant.phase = .leaving ∧ completed = count + 1 ∧ participant.committed = count ∧
      (control = .waiting .finalizing ∧ station.peer.finalized = false ∨
        control = .returned (.ok .closed) ∧ station.batch = []) := by
  cases point with
  | working phase within busy committed active =>
    rw [unknown] at calling
    cases calling
  | closing phase worked committed active =>
    rw [unknown] at calling
    cases calling
  | waiting phase closed committed uncalled active =>
    rw [uncalled] at calling
    cases calling
  | leaving phase closed committed called active =>
    rw [called] at calling
    exact ⟨phase, closed, committed, .inl ⟨(Option.some.inj calling).symm, active⟩⟩
  | left phase closed committed called quiet =>
    rw [called] at calling
    exact ⟨phase, closed, committed, .inr ⟨(Option.some.inj calling).symm, quiet⟩⟩
  | finished phase closed committed uncalled quiet =>
    rw [uncalled] at calling
    cases calling

/-- A call that a cluster knows of is a submission of the participant's. -/
theorem ProgramPoint.known_call (point : participant.ProgramPoint count rank station completed call)
    {control : Control ObjectHandle} (known : call = some control) :
    participant.call = some control ∧ station.peer.finalized = false := by
  cases point with
  | working phase within busy committed active => exact ⟨known, active⟩
  | closing phase worked committed active => exact ⟨known, active⟩
  | _ => cases known

/-- A participant that waits for the others' closings has completed its program. -/
theorem ProgramPoint.of_waiting (point : participant.ProgramPoint count rank station completed call)
    (phase : participant.phase = .waiting) :
    completed = count + 1 ∧ call = none ∧ participant.call = none := by
  cases point with
  | waiting _ closed committed uncalled active => exact ⟨closed, rfl, uncalled⟩
  | working other | closing other | leaving other | left other | finished other =>
    rw [other] at phase
    cases phase

/-- A participant that has finished has completed its program, and counted every operation as
committed. -/
theorem ProgramPoint.of_finished
    (point : participant.ProgramPoint count rank station completed call)
    (phase : participant.phase = .finished) :
    completed = count + 1 ∧ call = none ∧ participant.committed = count := by
  cases point with
  | finished _ closed committed uncalled quiet => exact ⟨closed, rfl, committed⟩
  | working other | closing other | waiting other | leaving other | left other =>
    rw [other] at phase
    cases phase

/-- No point of a program is a failure. -/
theorem ProgramPoint.unfailed (point : participant.ProgramPoint count rank station completed call)
    (cause : CoordinatorError) : participant.phase ≠ .failed cause := by
  intro failed
  cases point with
  | working phase | closing phase | waiting phase | leaving phase | left phase | finished phase =>
    rw [failed] at phase
    cases phase

/-- A participant that leaves. -/
theorem AgreesWith.finalize (agrees : participant.AgreesWith count rank station view stamps)
    (unknown : view.node.call = none) (waits : participant.call = some (.waiting .finalizing))
    (quiet : after.batch = []) :
    ({ participant with call := some (.returned (.ok .closed)) } : Participant).AgreesWith count
    rank
      after view stamps :=
  { agrees with
    point := by
      obtain ⟨phase, closed, committed, _⟩ := agrees.point.last_call unknown waits
      rw [unknown]
      exact .left phase closed committed rfl quiet }

/-- A participant that has left and is told so. -/
theorem AgreesWith.leave (agrees : participant.AgreesWith count rank station view stamps)
    (unknown : view.node.call = none) {answer : Except CoordinatorError (Reply ObjectHandle)}
    (returned : participant.call = some (.returned answer)) :
    (participant.noteReply answer).AgreesWith count rank station view stamps := by
  obtain ⟨phase, closed, committed, ⟨waits, _⟩ | ⟨isClosed, quiet⟩⟩ :=
    agrees.point.last_call unknown returned
  · cases waits
  · cases isClosed
    exact {
      agrees with
      point := by
        rw [unknown]
        exact .finished rfl closed committed rfl quiet }

/-- A participant whose submission is over goes on with its program, and counts no failure. -/
theorem ProgramPoint.note (point : participant.ProgramPoint count rank station completed call)
    {answer : Except CoordinatorError (Reply ObjectHandle)}
    (known : call = some (.returned answer)) (fulfilled : Fulfilled answer) :
    ∃ phase committed, participant.noteReply answer =
        { participant with call := none, phase, committed } ∧
      ({ participant with call := none, phase, committed } : Participant).ProgramPoint count rank
        station (completed + ([answer].filter ofSubmission).length) none := by
  obtain ⟨called, _⟩ := point.known_call known
  have under : participant.call ≠ none := by
    rw [called]
    exact nofun
  cases point with
  | working phase within busy committed active =>
    have inside := busy under
    cases fulfilled with
    | progressed =>
      refine ⟨participant.phase, participant.committed, rfl, ?_⟩
      exact .working phase within (absurd rfl) committed active
    | committed result =>
      refine ⟨.working ((Workload.plan rank count).drop (completed + 1)),
        participant.committed + 1, ?_, ?_⟩
      · simp only [noteReply, noteOutcome, phase, List.tail_drop]
      · exact .working rfl inside (absurd rfl) (congrArg (· + 1) committed) active
  | closing phase worked committed active =>
    cases fulfilled with
    | progressed =>
      refine ⟨participant.phase, participant.committed, rfl, ?_⟩
      exact .closing phase worked committed active
    | committed result =>
      refine ⟨.waiting, participant.committed, ?_, ?_⟩
      · simp only [noteReply, noteOutcome, phase]
      · exact .waiting rfl (congrArg (· + 1) worked) committed rfl active
  | _ => cases known

/-- Noting a reply takes a participant and its process on together. -/
theorem AgreesWith.note (agrees : participant.AgreesWith count rank station view stamps)
    {answer : Except CoordinatorError (Reply ObjectHandle)}
    (known : view.node.call = some (.returned answer)) (fulfilled : Fulfilled answer) :
    (participant.noteReply answer).AgreesWith count rank station
      { view with
        node := { view.node with call := none }, replies := view.replies ++ [answer] } stamps := by
  obtain ⟨phase, committed, noted, point⟩ := agrees.point.note known fulfilled
  have completed : ProcessView.completed { view with
      node := { view.node with call := none }, replies := view.replies ++ [answer] } =
      view.completed + ([answer].filter ofSubmission).length := by
    rw [ProcessView.completed, List.filter_append, List.length_append, ProcessView.completed]
  rw [noted]
  exact { agrees with point := completed ▸ point }

/-! ## The time of the last proposal -/

/-- A step that starts something leaves behind the time of the last proposal. -/
theorem lastStamp_start {participant : Participant} (uncalled : participant.call = none)
    (worldSize : Nat) (bus : Bus) :
    (participant.start worldSize bus).2.lastStamp =
      if participant.isProposing then some bus.clock.time else participant.lastStamp := by
  obtain ⟨rank, coordinator, peer, replica, phase, call, lastStamp, _, _, _⟩ := participant
  cases uncalled
  cases phase with
  | working remaining => cases remaining <;> rfl
  | waiting =>
    simp only [start, isProposing]
    split <;> rfl
  | _ => rfl

/-- A reply changes nothing about when the last proposal was made. -/
theorem lastStamp_noteReply (participant : Participant)
    (answer : Except CoordinatorError (Reply ObjectHandle)) :
    (participant.noteReply answer).lastStamp = participant.lastStamp := by
  obtain ⟨rank, coordinator, peer, replica, phase, call, lastStamp, _, _, _⟩ := participant
  cases answer with
  | error cause => rfl
  | ok reply =>
    cases reply with
    | submitted outcome => cases phase <;> cases outcome <;> rfl
    | executed result => rfl
    | closed => rfl

end Participant

end Concord
