import Concord.Proofs.Ballots

/-!
# Tallies

`Network.Tallied` says what the counters of a peer count: exactly the votes that name its
ballot. A ballot is decided when every other process has cast its one vote, so no vote arrives
for a decided ballot, and none that was meant for an earlier ballot is counted for a later one.
Every step keeps it.
-/

namespace Concord

namespace Network

/-- What the ballots of one process obey. -/
structure Accounted (network : Network) (rank : Rank) : Prop where
  current : ∀ {ballot}, (network.stations rank).peer.ballot = some ballot →
    ballot.number = (network.stations rank).peer.ballotsHeld ∧
      (ballot.number, ballot.envelope) ∈ network.offers rank
  counted : ∀ {ballot}, (network.stations rank).peer.ballot = some ballot →
    ballot.yes = network.tally rank ballot.number true ∧
      ballot.no = network.tally rank ballot.number false
  ascending : ((network.decisions rank).map Prod.fst).Pairwise (· < ·)
  /-- A decision is about a ballot on which all votes are in. -/
  complete : ∀ {number approved envelope},
    (number, approved, envelope) ∈ network.decisions rank →
      (number, envelope) ∈ network.offers rank ∧
      network.tally rank number true + network.tally rank number false =
        Peer.others network.bus ∧
      (approved = true ↔ network.tally rank number false = 0)
  /-- A ballot is under way until it is decided. -/
  underway : ∀ {ballot}, (network.stations rank).peer.ballot = some ballot →
    ballot.status = .inProgress → ∀ decision ∈ network.decisions rank, decision.1 < ballot.number
  concluded : ∀ {ballot}, (network.stations rank).peer.ballot = some ballot →
    ballot.status ≠ .inProgress →
      (ballot.status = .approved ∧
        (ballot.number, true, ballot.envelope) ∈ network.decisions rank) ∨
      (ballot.status = .denied ∧
        (ballot.number, false, ballot.envelope) ∈ network.decisions rank)

/-- What every network that came about by steps from its opening says about its ballots. -/
structure Tallied (network : Network) : Prop extends network.Numbered where
  accounted : ∀ rank, network.Accounted rank

/-- A network opens with no ballot and no vote. -/
theorem Tallied.opening (worldSize : Nat) (clock : Clock) (seed : Seed) (jitter : Jitter) :
    (Network.opening worldSize clock seed jitter).Tallied where
  lawful := Lawful.opening worldSize clock seed jitter
  present := fun something => absurd rfl something
  numbered := fun _ => rfl
  accounted := fun _ => {
    current := by simp [Network.opening, Station.resting, Peer.create]
    counted := by simp [Network.opening, Station.resting, Peer.create]
    ascending := List.Pairwise.nil
    complete := by simp [Network.opening, decisions]
    underway := by simp [Network.opening, Station.resting, Peer.create]
    concluded := by simp [Network.opening, Station.resting, Peer.create] }

/-- What changes neither the offers nor the numbers of ballots leaves them numbered. -/
theorem Numbered.frame {network after : Network} (numbering : network.Numbered)
    (lawful : after.Lawful) (size : after.bus.worldSize = network.bus.worldSize)
    (offers : ∀ rank, after.offers rank = network.offers rank)
    (held : ∀ rank, (after.stations rank).peer.ballotsHeld =
      (network.stations rank).peer.ballotsHeld) : after.Numbered where
  lawful
  present := by
    intro rank something
    rw [offers] at something
    rw [Bus.Joined, size]
    exact numbering.present something
  numbered := by
    intro rank
    rw [offers, held]
    exact numbering.numbered rank

/-- What a decision of a process rests on: the ballot was held, all votes on it are in, and it
is approved when none of them was a no. -/
def Justified (network : Network) (rank : Rank) (decision : Nat × Bool × Bytes) : Prop :=
  (decision.1, decision.2.2) ∈ network.offers rank ∧
    network.tally rank decision.1 true + network.tally rank decision.1 false =
      Peer.others network.bus ∧
    (decision.2.1 = true ↔ network.tally rank decision.1 false = 0)

/-- Every decision of a process that accounts for its ballots is justified. -/
theorem Accounted.justified {network : Network} {rank : Rank} (accounted : network.Accounted rank) :
    ∀ decision ∈ network.decisions rank, network.Justified rank decision :=
  fun _ decided => accounted.complete decided

/-- A decision rests on no later ballot and on no vote about another one. -/
theorem Justified.later {network after : Network} {rank : Rank} {decision : Nat × Bool × Bytes}
    (justified : network.Justified rank decision)
    (others : Peer.others after.bus = Peer.others network.bus)
    (offers : network.offers rank ⊆ after.offers rank)
    (tally : ∀ yes, after.tally rank decision.1 yes = network.tally rank decision.1 yes) :
    after.Justified rank decision := by
  obtain ⟨offered, full, unanimous⟩ := justified
  rw [Justified, tally, tally, others]
  exact ⟨offers offered, full, unanimous⟩

/-- The account of a process that has held a ballot. -/
theorem Accounted.of_ballot {network : Network} {rank : Rank} {ballot : Ballot}
    (found : (network.stations rank).peer.ballot = some ballot)
    (current : ballot.number = (network.stations rank).peer.ballotsHeld ∧
      (ballot.number, ballot.envelope) ∈ network.offers rank)
    (counted : ballot.yes = network.tally rank ballot.number true ∧
      ballot.no = network.tally rank ballot.number false)
    (ascending : ((network.decisions rank).map Prod.fst).Pairwise (· < ·))
    (complete : ∀ decision ∈ network.decisions rank, network.Justified rank decision)
    (underway : ballot.status = .inProgress →
      ∀ decision ∈ network.decisions rank, decision.1 < ballot.number)
    (concluded : ballot.status ≠ .inProgress →
      (ballot.status = .approved ∧
        (ballot.number, true, ballot.envelope) ∈ network.decisions rank) ∨
      (ballot.status = .denied ∧
        (ballot.number, false, ballot.envelope) ∈ network.decisions rank)) :
    network.Accounted rank where
  current := by
    rw [found]
    rintro _ ⟨⟩
    exact current
  counted := by
    rw [found]
    rintro _ ⟨⟩
    exact counted
  ascending := ascending
  complete := fun decided => complete _ decided
  underway := by
    rw [found]
    rintro _ ⟨⟩
    exact underway
  concluded := by
    rw [found]
    rintro _ ⟨⟩
    exact concluded

/-- One more decision, on a ballot after all decided ones. -/
theorem ascending_concat {decisions : List (Nat × Bool × Bytes)} {latest : Nat × Bool × Bytes}
    (ascending : (decisions.map Prod.fst).Pairwise (· < ·))
    (after : ∀ decision ∈ decisions, decision.1 < latest.1) :
    ((decisions ++ [latest]).map Prod.fst).Pairwise (· < ·) := by
  rw [List.map_append, List.pairwise_append]
  refine ⟨ascending, List.pairwise_singleton _ _, ?_⟩
  intro number before last same
  obtain ⟨decision, member, rfl⟩ := List.mem_map.1 before
  rw [List.mem_singleton.1 same]
  exact after decision member

/-- The account of a process whose ballot is still under way: it comes after all decided ones. -/
theorem Accounted.of_underway {network : Network} {rank : Rank} {ballot : Ballot}
    (found : (network.stations rank).peer.ballot = some ballot)
    (running : ballot.status = .inProgress)
    (current : ballot.number = (network.stations rank).peer.ballotsHeld ∧
      (ballot.number, ballot.envelope) ∈ network.offers rank)
    (counted : ballot.yes = network.tally rank ballot.number true ∧
      ballot.no = network.tally rank ballot.number false)
    (ascending : ((network.decisions rank).map Prod.fst).Pairwise (· < ·))
    (complete : ∀ decision ∈ network.decisions rank, network.Justified rank decision)
    (earlier : ∀ decision ∈ network.decisions rank, decision.1 < ballot.number) :
    network.Accounted rank :=
  .of_ballot found current counted ascending complete (fun _ => earlier)
    fun ended => absurd running ended

/-- The account of a process whose ballot has just been decided: the decision is the last one, and
the votes are as it says. -/
theorem Accounted.of_decided {network : Network} {rank : Rank} {ballot : Ballot} {approved : Bool}
    {decisions : List (Nat × Bool × Bytes)}
    (found : (network.stations rank).peer.ballot = some ballot)
    (status : ballot.status = if approved then .approved else .denied)
    (current : ballot.number = (network.stations rank).peer.ballotsHeld ∧
      (ballot.number, ballot.envelope) ∈ network.offers rank)
    (counted : ballot.yes = network.tally rank ballot.number true ∧
      ballot.no = network.tally rank ballot.number false)
    (recorded : network.decisions rank =
      decisions ++ [(ballot.number, approved, ballot.envelope)])
    (ascending : (decisions.map Prod.fst).Pairwise (· < ·))
    (complete : ∀ decision ∈ decisions, network.Justified rank decision)
    (earlier : ∀ decision ∈ decisions, decision.1 < ballot.number)
    (justified : network.Justified rank (ballot.number, approved, ballot.envelope)) :
    network.Accounted rank := by
  refine .of_ballot found current counted ?ascending ?complete ?underway ?concluded
  case ascending =>
    rw [recorded]
    exact ascending_concat ascending earlier
  case complete =>
    rw [recorded]
    intro decision decided
    rcases List.mem_append.1 decided with before | now
    · exact complete decision before
    · exact List.mem_singleton.1 now ▸ justified
  case underway =>
    intro running
    cases approved <;> simp [status] at running
  case concluded =>
    intro _
    rw [recorded, status]
    cases approved <;> simp

/-- A step that is about no ballot of a process and no vote on one that matters changes nothing
about its ballots. A ballot may be given up. -/
theorem Accounted.frame {network after : Network} {rank : Rank}
    (accounted : network.Accounted rank)
    (size : after.bus.worldSize = network.bus.worldSize)
    (offers : after.offers rank = network.offers rank)
    (decisions : after.decisions rank = network.decisions rank)
    (held : (after.stations rank).peer.ballotsHeld = (network.stations rank).peer.ballotsHeld)
    (ballots : ∀ {ballot}, (after.stations rank).peer.ballot = some ballot →
      (network.stations rank).peer.ballot = some ballot)
    (tallyCurrent : ∀ {ballot}, (network.stations rank).peer.ballot = some ballot →
      ∀ yes, after.tally rank ballot.number yes = network.tally rank ballot.number yes)
    (tallyDecided : ∀ {number approved envelope},
      (number, approved, envelope) ∈ network.decisions rank →
        ∀ yes, after.tally rank number yes = network.tally rank number yes) :
    after.Accounted rank where
  current := by
    intro ballot found
    rw [offers, held]
    exact accounted.current (ballots found)
  counted := by
    intro ballot found
    rw [tallyCurrent (ballots found), tallyCurrent (ballots found)]
    exact accounted.counted (ballots found)
  ascending := by
    rw [decisions]
    exact accounted.ascending
  complete := by
    intro number approved envelope decided
    rw [decisions] at decided
    have others : Peer.others after.bus = Peer.others network.bus := by
      rw [Peer.others, size, Peer.others]
    exact (accounted.justified _ decided).later others (by simp [offers])
      (tallyDecided decided)
  underway := by
    intro ballot found running
    rw [decisions]
    exact accounted.underway (ballots found) running
  concluded := by
    intro ballot found ended
    rw [decisions]
    exact accounted.concluded (ballots found) ended

/-- A step that is about no ballot and no vote keeps everything said about ballots. -/
theorem Tallied.frame {network after : Network} (tallied : network.Tallied)
    (lawful : after.Lawful) (size : after.bus.worldSize = network.bus.worldSize)
    (offers : ∀ rank, after.offers rank = network.offers rank)
    (decisions : ∀ rank, after.decisions rank = network.decisions rank)
    (votes : ∀ rank, after.votes rank = network.votes rank)
    (held : ∀ rank, (after.stations rank).peer.ballotsHeld =
      (network.stations rank).peer.ballotsHeld)
    (ballots : ∀ {rank ballot}, (after.stations rank).peer.ballot = some ballot →
      (network.stations rank).peer.ballot = some ballot) : after.Tallied := by
  have tally : ∀ rank number yes, after.tally rank number yes = network.tally rank number yes := by
    intro rank number yes
    rw [Network.tally, votes, Network.tally]
  exact {
    tallied.toNumbered.frame lawful size offers held with
    accounted := fun rank => (tallied.accounted rank).frame size (offers rank) (decisions rank)
      (held rank) ballots (fun _ => tally rank _) (fun _ => tally rank _) }

/-- Whatever is of interest, acting on a message shows the message itself and its outcome. -/
theorem handleEvents_view {Item : Type} (view : Event → Option Item) (judge : Judge) (bus : Bus)
    (peer : Peer) (sender : Rank) (message : Message) :
    (Peer.handleEvents judge bus peer sender message).filterMap view =
      (view (.handled peer.rank sender message)).toList ++
        (Peer.outcomeEvents judge bus peer message).filterMap view := by
  rw [Peer.handleEvents, List.filterMap_cons]
  cases view (.handled peer.rank sender message) <;> rfl

/-- Acting on a message puts nothing to the vote. -/
theorem offers_handle (network : Network) (judge : Judge) (rank sender : Rank)
    (message : Message) (rest : List (Rank × Message)) (other : Rank) :
    (network.handle judge rank sender message rest).offers other = network.offers other := by
  have silent := outcomeEvents_eq_nil judge network.bus (network.stations rank).peer message
    (show ∀ origin number envelope verdict, Event.offeredBy? other (.judged _ origin number
      envelope verdict) = none from fun _ _ _ _ => rfl) (fun _ _ _ => rfl)
  rw [offers, Network.handle, put_history, List.filterMap_append, handleEvents_view, silent]
  exact List.append_nil _

/-- Acting on a message notes the vote that it brings, if it brings one. -/
theorem votes_handle {network : Network} (lawful : network.Lawful) (judge : Judge)
    (rank sender : Rank) (message : Message) (rest : List (Rank × Message)) (other : Rank) :
    (network.handle judge rank sender message rest).votes other =
      network.votes other ++
        if rank = other then (message.vote?.map fun vote => (sender, vote)).toList else [] := by
  have silent := outcomeEvents_eq_nil judge network.bus (network.stations rank).peer message
    (show ∀ origin number envelope verdict, Event.voteFor? other (.judged _ origin number
      envelope verdict) = none from fun _ _ _ _ => rfl) (fun _ _ _ => rfl)
  rw [votes, Network.handle, put_history, List.filterMap_append, handleEvents_view, silent,
    lawful.named, List.append_nil, Event.voteFor?]
  by_cases own : rank = other <;> simp [own, votes]

/-- Acting on a message decides a ballot only by the vote that it brings. -/
theorem decisions_handle {network : Network} (lawful : network.Lawful) (judge : Judge)
    (rank sender : Rank) (message : Message) (rest : List (Rank × Message)) (other : Rank) :
    (network.handle judge rank sender message rest).decisions other =
      network.decisions other ++ if rank = other then
        (message.vote?.bind fun vote =>
          ((network.stations rank).peer.outcome? network.bus vote.1 vote.2).map
            fun outcome => (vote.1, outcome)).toList else [] := by
  rw [decisions, Network.handle, put_history, List.filterMap_append, handleEvents_view]
  congr 1
  cases message with
  | vote voter number yes =>
    simp only [Peer.outcomeEvents, lawful.named, Message.vote?, Option.bind_some]
    cases (network.stations rank).peer.outcome? network.bus number yes with
    | none => by_cases own : rank = other <;> simp [own, Event.decidedBy?]
    | some outcome =>
      rw [List.filterMap_cons, List.filterMap_nil]
      by_cases own : rank = other <;> simp [own, Event.decidedBy?]
  | propose origin number envelope =>
    by_cases own : rank = other <;>
      simp [own, Message.vote?, Event.decidedBy?, Peer.outcomeEvents]
  | decision origin number approved envelope =>
    simp [Message.vote?, Event.decidedBy?, Peer.outcomeEvents]
  | broadcast origin envelope => simp [Message.vote?, Event.decidedBy?, Peer.outcomeEvents]

/-- Acting on a message opens no ballot. -/
theorem stations_handle_ballotsHeld (network : Network) (judge : Judge) (rank sender : Rank)
    (message : Message) (rest : List (Rank × Message)) (other : Rank) :
    ((network.handle judge rank sender message rest).stations other).peer.ballotsHeld =
      (network.stations other).peer.ballotsHeld := by
  by_cases own : other = rank
  · rw [own, stations_handle_self]
    exact Peer.ballotsHeld_handle judge network.bus _ message
  · rw [stations_handle_of_ne network own]

/-- Decisions stay justified while votes are counted on another ballot only. -/
theorem Accounted.justified_counting {network after : Network} {rank : Rank} {number : Nat}
    {yes : Bool} (account : network.Accounted rank)
    (others : Peer.others after.bus = Peer.others network.bus)
    (offers : after.offers rank = network.offers rank)
    (tally : ∀ cast kind, after.tally rank cast kind =
      network.tally rank cast kind + if number = cast ∧ yes = kind then 1 else 0)
    (undecided : ∀ approved envelope, (number, approved, envelope) ∉ network.decisions rank) :
    ∀ decision ∈ network.decisions rank, after.Justified rank decision := by
  intro decision decided
  apply (account.justified decision decided).later others (by simp [offers])
  intro kind
  rw [tally, if_neg, Nat.add_zero]
  rintro ⟨same, _⟩
  apply undecided decision.2.1 decision.2.2
  rw [same]
  exact decided

/-- Counting a vote on the ballot under way keeps what is said about the ballots of its holder. -/
theorem Accounted.count {network after : Network} {rank : Rank} {ballot : Ballot} {yes : Bool}
    (account : network.Accounted rank)
    (found : (network.stations rank).peer.ballot = some ballot)
    (running : ballot.status = .inProgress)
    (others : Peer.others after.bus = Peer.others network.bus)
    (offers : after.offers rank = network.offers rank)
    (held : (after.stations rank).peer.ballotsHeld = (network.stations rank).peer.ballotsHeld)
    (tally : ∀ cast kind, after.tally rank cast kind =
      network.tally rank cast kind + if ballot.number = cast ∧ yes = kind then 1 else 0)
    (undecided : ∀ approved envelope,
      (ballot.number, approved, envelope) ∉ network.decisions rank)
    (limit : after.tally rank ballot.number true + after.tally rank ballot.number false ≤
      Peer.others network.bus)
    (next : let counted := Peer.addVote ballot yes
      (after.decisions rank = network.decisions rank ∧
        (after.stations rank).peer.ballot = some counted) ∨
      (Peer.others network.bus ≤ counted.yes + counted.no ∧
        after.decisions rank = network.decisions rank ++
          [(ballot.number, decide (counted.no = 0), ballot.envelope)] ∧
        (after.stations rank).peer.ballot = some { counted with
          status := if counted.no = 0 then .approved else .denied })) :
    after.Accounted rank := by
  obtain ⟨yesCount, noCount⟩ := account.counted found
  have current : ballot.number = (after.stations rank).peer.ballotsHeld ∧
      (ballot.number, ballot.envelope) ∈ after.offers rank := by
    rw [held, offers]
    exact account.current found
  have countedYes : (Peer.addVote ballot yes).yes = after.tally rank ballot.number true := by
    rw [tally, Peer.addVote_yes, yesCount]
    cases yes <;> simp
  have countedNo : (Peer.addVote ballot yes).no = after.tally rank ballot.number false := by
    rw [tally, Peer.addVote_no, noCount]
    cases yes <;> simp
  have earlier := account.justified_counting others offers tally undecided
  have later := account.underway found running
  rcases next with ⟨sameDecisions, changed⟩ | ⟨full, oneMore, changed⟩
  · refine .of_underway changed ?_ (by simpa using current) (by simpa using ⟨countedYes, countedNo⟩)
      ?_ ?_ ?_
    · rw [Peer.addVote_status, running]
    · rw [sameDecisions]
      exact account.ascending
    · rw [sameDecisions]
      exact earlier
    · rw [sameDecisions, Peer.addVote_number]
      exact later
  · have justified : after.Justified rank
        (ballot.number, decide ((Peer.addVote ballot yes).no = 0), ballot.envelope) := by
      rw [countedYes, countedNo] at full
      rw [Justified, others, ← countedNo]
      refine ⟨current.2, ?_, decide_eq_true_iff⟩
      rw [countedNo]
      exact Nat.le_antisymm limit full
    refine .of_decided changed ?_ (by simpa using current) (by simpa using ⟨countedYes, countedNo⟩)
      (by simpa using oneMore) account.ascending earlier (by simpa using later)
      (by simpa using justified)
    by_cases unopposed : (Peer.addVote ballot yes).no = 0 <;> simp [unopposed]

/-- Acting on a message leaves the ballots numbered. -/
theorem Numbered.handle {network : Network} (numbering : network.Numbered) (judge : Judge)
    {rank sender : Rank} {message : Message} {rest : List (Rank × Message)}
    (quiet : (network.stations rank).outbox = [])
    (next : (network.stations rank).batch = (sender, message) :: rest) :
    (network.handle judge rank sender message rest).Numbered :=
  numbering.frame (numbering.lawful.handle judge quiet next) rfl
    (offers_handle network judge rank sender message rest)
    (stations_handle_ballotsHeld network judge rank sender message rest)

/-- Acting on a vote adds it to the tally that it names. -/
theorem Lawful.tally_vote {network : Network} (lawful : network.Lawful) (judge : Judge)
    (rank sender voter : Rank) (number : Nat) (yes : Bool) (rest : List (Rank × Message))
    (other : Rank) (cast : Nat) (kind : Bool) :
    (network.handle judge rank sender (.vote voter number yes) rest).tally other cast kind =
      network.tally other cast kind +
        if rank = other ∧ number = cast ∧ yes = kind then 1 else 0 := by
  rw [Network.tally, votes_handle lawful, List.countP_append, Network.tally]
  by_cases own : rank = other <;> by_cases here : number = cast <;>
    by_cases same : yes = kind <;> simp [own, here, same, Message.vote?]

/-- A ballot has no more votes than there are other processes, with the next one counted. -/
theorem Numbered.limit_vote {network : Network} (numbering : network.Numbered) (judge : Judge)
    {rank sender voter : Rank} {number : Nat} {yes : Bool} {rest : List (Rank × Message)}
    (quiet : (network.stations rank).outbox = [])
    (next : (network.stations rank).batch = (sender, .vote voter number yes) :: rest) :
    (network.handle judge rank sender (.vote voter number yes) rest).tally rank number true +
      (network.handle judge rank sender (.vote voter number yes) rest).tally rank number false ≤
        Peer.others network.bus := by
  have polled : (sender, .vote voter number yes) ∈ (network.stations rank).batch := by
    rw [next]
    exact List.mem_cons_self
  have joined := (numbering.lawful.linked_of_batch polled).2.2.1
  exact (numbering.handle judge quiet next).tally_le joined number

/-- All votes on a decided ballot are in, so a vote that is to be acted on is about none. -/
theorem Tallied.undecided_of_vote {network : Network} (tallied : network.Tallied) (judge : Judge)
    {rank sender voter : Rank} {number : Nat} {yes : Bool} {rest : List (Rank × Message)}
    (quiet : (network.stations rank).outbox = [])
    (next : (network.stations rank).batch = (sender, .vote voter number yes) :: rest)
    (approved : Bool) (envelope : Bytes) :
    (number, approved, envelope) ∉ network.decisions rank := by
  intro decided
  have full := ((tallied.accounted rank).complete decided).2.1
  have limit := tallied.toNumbered.limit_vote judge quiet next
  rw [tallied.lawful.tally_vote, tallied.lawful.tally_vote] at limit
  cases yes <;> simp at limit <;> omega

/-- The account of the process that a vote reaches: the vote is ignored, or counted on the ballot
under way, and the last one decides it. -/
theorem Tallied.accounted_vote {network : Network} (tallied : network.Tallied) (judge : Judge)
    {rank sender voter : Rank} {number : Nat} {yes : Bool} {rest : List (Rank × Message)}
    (quiet : (network.stations rank).outbox = [])
    (next : (network.stations rank).batch = (sender, .vote voter number yes) :: rest) :
    (network.handle judge rank sender (.vote voter number yes) rest).Accounted rank := by
  have account := tallied.accounted rank
  have size : (network.handle judge rank sender (.vote voter number yes) rest).bus.worldSize =
      network.bus.worldSize := rfl
  have undecided := tallied.undecided_of_vote judge quiet next
  have limit := tallied.toNumbered.limit_vote judge quiet next
  have offers := offers_handle network judge rank sender (.vote voter number yes) rest rank
  have held :=
    stations_handle_ballotsHeld network judge rank sender (.vote voter number yes) rest rank
  have tally := tallied.lawful.tally_vote judge rank sender voter number yes rest rank
  have decisions := decisions_handle tallied.lawful judge rank sender (.vote voter number yes)
    rest rank
  have peer : ((network.handle judge rank sender (.vote voter number yes) rest).stations
      rank).peer = (Peer.handle judge network.bus (network.stations rank).peer
        (.vote voter number yes)).2 := by
    rw [stations_handle_self]
    rfl
  simp only [if_true, Message.vote?, Option.bind_some] at decisions
  simp only [true_and] at tally
  generalize network.handle judge rank sender (.vote voter number yes) rest = after at *
  rcases Peer.vote_cases judge network.bus (network.stations rank).peer voter number yes with
    ⟨ignored, noOutcome, unchanged⟩ | ⟨ballot, found, rfl, running, outcome⟩
  · have sameTally : ∀ {cast}, number ≠ cast → ∀ kind,
        after.tally rank cast kind = network.tally rank cast kind := by
      intro cast apart kind
      rw [tally, if_neg fun here => apart here.1, Nat.add_zero]
    refine account.frame size offers ?decisions held ?ballots ?current ?decided
    case decisions => simp [decisions, noOutcome]
    case ballots =>
      intro ballot found
      rwa [peer, unchanged] at found
    case current =>
      intro ballot found
      apply sameTally
      rintro rfl
      have ended := (ignored ballot found).resolve_left fun different => different rfl
      rcases account.concluded found ended with ⟨_, decided⟩ | ⟨_, decided⟩
      · exact undecided _ _ decided
      · exact undecided _ _ decided
    case decided =>
      intro cast approved envelope decided
      apply sameTally
      rintro rfl
      exact undecided _ _ decided
  · have others : Peer.others after.bus = Peer.others network.bus := by
      rw [Peer.others, size, Peer.others]
    apply account.count found running others offers held tally undecided limit
    rcases outcome with ⟨_, noOutcome, changed⟩ | ⟨full, decided, changed⟩
    · left
      rw [decisions, noOutcome, peer, changed]
      exact ⟨List.append_nil _, rfl⟩
    · right
      rw [decisions, decided, peer, changed]
      exact ⟨full, rfl, rfl⟩

/-- A vote is counted if it names the ballot that is under way, and the last one decides it. -/
theorem Tallied.vote {network : Network} (tallied : network.Tallied) (judge : Judge)
    {rank sender voter : Rank} {number : Nat} {yes : Bool} {rest : List (Rank × Message)}
    (quiet : (network.stations rank).outbox = [])
    (next : (network.stations rank).batch = (sender, .vote voter number yes) :: rest) :
    (network.handle judge rank sender (.vote voter number yes) rest).Tallied := by
  refine { tallied.toNumbered.handle judge quiet next with accounted := fun other => ?_ }
  by_cases foreign : other ≠ rank
  · have size : (network.handle judge rank sender (.vote voter number yes) rest).bus.worldSize =
        network.bus.worldSize := rfl
    have sameTally : ∀ cast kind, (network.handle judge rank sender (.vote voter number yes)
        rest).tally other cast kind = network.tally other cast kind := by
      intro cast kind
      rw [tallied.lawful.tally_vote, if_neg fun here => foreign here.1.symm, Nat.add_zero]
    have offers := offers_handle network judge rank sender (.vote voter number yes) rest other
    have held :=
      stations_handle_ballotsHeld network judge rank sender (.vote voter number yes) rest other
    apply (tallied.accounted other).frame size offers _ held _ (fun _ => sameTally _)
      (fun _ => sameTally _)
    · rw [decisions_handle tallied.lawful, if_neg fun same => foreign same.symm, List.append_nil]
    · intro ballot found
      rwa [stations_handle_of_ne network foreign] at found
  · rw [not_not.1 foreign]
    exact tallied.accounted_vote judge quiet next

/-- Acting on a message keeps the ballots accounted for, whether it brings a vote or not. -/
theorem Tallied.handle {network : Network} (tallied : network.Tallied) (judge : Judge)
    {rank sender : Rank} {message : Message} {rest : List (Rank × Message)}
    (quiet : (network.stations rank).outbox = [])
    (next : (network.stations rank).batch = (sender, message) :: rest) :
    (network.handle judge rank sender message rest).Tallied := by
  cases cast : message.vote? with
  | some vote =>
    cases message <;> simp only [Message.vote?, reduceCtorEq] at cast
    exact tallied.vote judge quiet next
  | none =>
    apply tallied.frame (tallied.lawful.handle judge quiet next) rfl
      (offers_handle network judge rank sender message rest)
    · intro other
      rw [decisions_handle tallied.lawful, cast]
      simp
    · intro other
      rw [votes_handle tallied.lawful, cast]
      simp
    · exact stations_handle_ballotsHeld network judge rank sender message rest
    · intro other ballot found
      by_cases own : other = rank
      · subst own
        rw [stations_handle_self, Station.handle,
          Peer.ballot_handle_of_not_vote judge _ _ cast] at found
        exact found
      · rwa [stations_handle_of_ne network own] at found

/-- Sending a message changes no ballot. -/
theorem Tallied.send {network : Network} (tallied : network.Tallied) {rank receiver : Rank}
    {message : Message} {rest : List (Rank × Message)}
    (next : (network.stations rank).outbox = (receiver, message) :: rest) :
    (network.send rank receiver message rest).Tallied := by
  apply tallied.frame (tallied.lawful.send next) (Bus.worldSize_send _ _ _ _)
  · intro other
    simp [offers, Network.send, Event.offeredBy?]
  · intro other
    simp [decisions, Network.send, Event.decidedBy?]
  · intro other
    simp [votes, Network.send, Event.voteFor?]
  · intro other
    rw [peer_send]
  · intro other ballot found
    rwa [peer_send] at found

/-- Going on in time changes no ballot. -/
theorem Tallied.retime {network : Network} (tallied : network.Tallied) (clock : Clock) :
    (network.retime clock).Tallied :=
  tallied.frame (tallied.lawful.retime clock) rfl (fun _ => rfl) (fun _ => rfl) (fun _ => rfl)
    (fun _ => rfl) fun found => found

/-- A request makes a process hold a ballot, or it holds none because of it. -/
theorem offer_or_not (peer : Peer) (request : Request) :
    (∃ id envelope, request = .submitVote id envelope ∧ peer.mayOffer = true) ∨
      ∀ id envelope, request = .submitVote id envelope → peer.mayOffer = false := by
  cases accepts : peer.mayOffer with
  | false => exact .inr fun _ _ _ => rfl
  | true =>
    cases request with
    | submitVote id envelope => exact .inl ⟨id, envelope, rfl, rfl⟩
    | _ => exact .inr fun _ _ same => nomatch same

/-- A request that holds no ballot leaves all counts alone; it may give up a ballot. -/
theorem ballot_serve_of_not_offer (bus : Bus) (station : Station) {request : Request}
    (other : ∀ id envelope, request = .submitVote id envelope → station.peer.mayOffer = false) :
    (Station.serve bus station request).2.peer.ballotsHeld = station.peer.ballotsHeld ∧
      ∀ ballot, (Station.serve bus station request).2.peer.ballot = some ballot →
        station.peer.ballot = some ballot := by
  cases request with
  | submitVote id envelope =>
    obtain ⟨cause, refused⟩ :=
      @Peer.submitVote_of_not_mayOffer bus station.peer (other id envelope rfl) id envelope
    simp [Station.serve, refused]
  | progress =>
    simp only [Station.serve]
    split <;> simp
  | checkout =>
    simp only [Station.serve, Peer.checkout]
    split <;> simp
  | release => simp [Station.serve, Peer.release]
  | finalize => simp [Station.serve, Peer.finalize]
  | _ => simp [Station.serve]

/-- Where nothing is put to the vote, a request shows only announcements and what is collected. -/
theorem serveEvents_of_not_offer {Item : Type} (view : Event → Option Item) (bus : Bus)
    {peer : Peer} {request : Request}
    (other : ∀ id envelope, request = .submitVote id envelope → peer.mayOffer = false)
    (unannounced : ∀ envelope, view (.announced peer.rank envelope) = none)
    (uncollected : ∀ envelope, view (.collected peer.rank envelope) = none) :
    (Peer.serveEvents bus peer request).filterMap view = [] := by
  cases request with
  | submitVote id envelope => simp [Peer.serveEvents, other id envelope rfl]
  | submitBroadcast id envelope =>
    simp only [Peer.serveEvents]
    split <;> simp [unannounced]
  | checkout =>
    simp only [Peer.serveEvents]
    split <;> simp [uncollected]
  | _ => rfl

/-- No request makes a vote reach a process. -/
theorem votes_serve (network : Network) (rank : Rank) (request : Request) (other : Rank) :
    (network.serve rank request).votes other = network.votes other := by
  rw [votes, Network.serve, put_history, List.filterMap_append,
    serveEvents_eq_nil _ _ _ _ (fun _ _ => rfl) (fun _ _ _ => rfl) (fun _ => rfl) (fun _ => rfl)]
  exact List.append_nil _

/-- No request adds to a tally. -/
theorem tally_serve (network : Network) (rank : Rank) (request : Request) (other : Rank)
    (number : Nat) (yes : Bool) :
    (network.serve rank request).tally other number yes = network.tally other number yes := by
  rw [tally, votes_serve, tally]

/-- Where nothing is put to the vote, a request adds no offer. -/
theorem offers_serve_of_not_offer {network : Network} {rank : Rank} {request : Request}
    (other : ∀ id envelope, request = .submitVote id envelope →
      (network.stations rank).peer.mayOffer = false) (process : Rank) :
    (network.serve rank request).offers process = network.offers process := by
  rw [offers, Network.serve, put_history, List.filterMap_append,
    serveEvents_of_not_offer _ _ other (fun _ => rfl) (fun _ => rfl)]
  exact List.append_nil _

/-- Where nothing is put to the vote, a request decides nothing. -/
theorem decisions_serve_of_not_offer {network : Network} {rank : Rank} {request : Request}
    (other : ∀ id envelope, request = .submitVote id envelope →
      (network.stations rank).peer.mayOffer = false) (process : Rank) :
    (network.serve rank request).decisions process = network.decisions process := by
  rw [decisions, Network.serve, put_history, List.filterMap_append,
    serveEvents_of_not_offer _ _ other (fun _ => rfl) (fun _ => rfl)]
  exact List.append_nil _

/-- Where nothing is put to the vote, a request keeps the ballots accounted for. -/
theorem Tallied.serve_of_not_offer {network : Network} (tallied : network.Tallied) {rank : Rank}
    {request : Request} (joined : network.bus.Joined rank)
    (idle : (network.stations rank).Idle)
    (other : ∀ id envelope, request = .submitVote id envelope →
      (network.stations rank).peer.mayOffer = false) : (network.serve rank request).Tallied := by
  obtain ⟨held, ballot⟩ := ballot_serve_of_not_offer network.bus (network.stations rank) other
  apply tallied.frame (tallied.lawful.serve request joined idle) (worldSize_serve _ _ _)
  · exact offers_serve_of_not_offer other
  · exact decisions_serve_of_not_offer other
  · exact votes_serve network rank request
  · intro process
    by_cases own : process = rank
    · rw [own, stations_serve_self]
      exact held
    · rw [stations_serve_of_ne network own]
  · intro process found some
    by_cases own : process = rank
    · subst own
      rw [stations_serve_self] at some
      exact ballot found some
    · rwa [stations_serve_of_ne network own] at some

/-! ## A new ballot -/

section offer

variable {network : Network} {rank : Rank}

/-- An offer is noted under the next number of its process. -/
theorem Lawful.offers_offer (lawful : network.Lawful)
    (accepts : (network.stations rank).peer.mayOffer = true) (id : ProposalId) (envelope : Bytes)
    (other : Rank) :
    (network.serve rank (.submitVote id envelope)).offers other = network.offers other ++
      if rank = other then [((network.stations rank).peer.ballotsHeld + 1, envelope)] else [] := by
  rw [offers, Network.serve, put_history, List.filterMap_append, Peer.serveEvents, if_pos accepts,
    lawful.named]
  by_cases own : rank = other <;> by_cases noOthers : Peer.others network.bus = 0 <;>
    simp [offers, Event.offeredBy?, List.filterMap_cons, own, noOthers]

/-- A ballot that nobody else votes on is decided at once. -/
theorem Lawful.decisions_offer (lawful : network.Lawful)
    (accepts : (network.stations rank).peer.mayOffer = true) (id : ProposalId) (envelope : Bytes)
    (other : Rank) :
    (network.serve rank (.submitVote id envelope)).decisions other = network.decisions other ++
      if rank = other ∧ Peer.others network.bus = 0 then
        [((network.stations rank).peer.ballotsHeld + 1, true, envelope)] else [] := by
  rw [decisions, Network.serve, put_history, List.filterMap_append, Peer.serveEvents,
    if_pos accepts, lawful.named]
  by_cases own : rank = other <;> by_cases noOthers : Peer.others network.bus = 0 <;>
    simp [decisions, Event.decidedBy?, List.filterMap_cons, own, noOthers]

/-- An offer opens a ballot on the envelope. -/
theorem peer_offer (accepts : (network.stations rank).peer.mayOffer = true) (id : ProposalId)
    (envelope : Bytes) :
    ((network.serve rank (.submitVote id envelope)).stations rank).peer =
      (network.stations rank).peer.withBallot network.bus id envelope := by
  rw [stations_serve_self, Station.serve, Peer.submitVote_of_mayOffer accepts]

/-- An offer takes the next number, so that the ballots stay numbered. -/
theorem Numbered.offer (numbering : network.Numbered) (joined : network.bus.Joined rank)
    (idle : (network.stations rank).Idle)
    (accepts : (network.stations rank).peer.mayOffer = true) (id : ProposalId)
    (envelope : Bytes) : (network.serve rank (.submitVote id envelope)).Numbered where
  lawful := numbering.lawful.serve _ joined idle
  present := by
    intro other something
    have size : (network.serve rank (.submitVote id envelope)).bus.worldSize =
        network.bus.worldSize := worldSize_serve _ _ _
    rw [Bus.Joined, size]
    by_cases own : rank = other
    · subst own
      exact joined
    · rw [numbering.lawful.offers_offer accepts, if_neg own, List.append_nil] at something
      exact numbering.present something
  numbered := by
    intro other
    rw [numbering.lawful.offers_offer accepts]
    by_cases own : other = rank
    · subst own
      rw [if_pos rfl, List.map_append, numbering.numbered, peer_offer accepts, Peer.withBallot,
        List.range'_1_concat, Nat.add_comm 1]
      rfl
    · rw [if_neg fun same => own same.symm, List.append_nil, stations_serve_of_ne _ own]
      exact numbering.numbered other

/-- The account of a process that holds a new ballot: no vote names it yet, and it comes after
all decided ones. -/
theorem Tallied.accounted_offer (tallied : network.Tallied)
    (accepts : (network.stations rank).peer.mayOffer = true) (id : ProposalId)
    (envelope : Bytes) : (network.serve rank (.submitVote id envelope)).Accounted rank := by
  have account := tallied.accounted rank
  have size : (network.serve rank (.submitVote id envelope)).bus.worldSize =
      network.bus.worldSize := worldSize_serve _ _ _
  have offers := tallied.lawful.offers_offer accepts id envelope rank
  have decisions := tallied.lawful.decisions_offer accepts id envelope rank
  have peer := peer_offer accepts id envelope
  have tally := tally_serve network rank (.submitVote id envelope) rank
  simp only [if_true, true_and] at offers decisions
  generalize network.serve rank (.submitVote id envelope) = after at *
  have others : Peer.others after.bus = Peer.others network.bus := by
    rw [Peer.others, size, Peer.others]
  have fresh : ∀ yes, after.tally rank ((network.stations rank).peer.ballotsHeld + 1) yes = 0 := by
    intro yes
    rw [tally]
    exact tallied.tally_eq_zero (Nat.lt_succ_self _) yes
  have unvoted : 0 = after.tally rank ((network.stations rank).peer.ballotsHeld + 1) true ∧
      0 = after.tally rank ((network.stations rank).peer.ballotsHeld + 1) false :=
    ⟨(fresh true).symm, (fresh false).symm⟩
  have offered : ((network.stations rank).peer.ballotsHeld + 1, envelope) ∈ after.offers rank := by
    simp [offers]
  have earlier : ∀ decision ∈ network.decisions rank,
      decision.1 < (network.stations rank).peer.ballotsHeld + 1 := by
    intro decision decided
    have known := (account.justified decision decided).1
    exact Nat.lt_succ_of_le (tallied.number_le known).2
  have kept : ∀ decision ∈ network.decisions rank, after.Justified rank decision :=
    fun decision decided => (account.justified decision decided).later others (by simp [offers])
      fun _ => tally _ _
  have found : (after.stations rank).peer.ballot =
      some ⟨id, (network.stations rank).peer.ballotsHeld + 1, envelope, 0, 0,
        if Peer.others network.bus = 0 then .approved else .inProgress⟩ := by
    rw [peer]
    rfl
  have current : (network.stations rank).peer.ballotsHeld + 1 =
      (after.stations rank).peer.ballotsHeld := by
    rw [peer]
    rfl
  by_cases noOthers : Peer.others network.bus = 0
  · simp only [if_pos noOthers] at decisions found
    have justified : after.Justified rank
        ((network.stations rank).peer.ballotsHeld + 1, true, envelope) := by
      rw [Justified, fresh, fresh, others, noOthers]
      exact ⟨offered, rfl, by simp⟩
    exact .of_decided found rfl ⟨current, offered⟩ unvoted decisions account.ascending kept earlier
      justified
  · simp only [if_neg noOthers, List.append_nil] at decisions found
    exact .of_underway found rfl ⟨current, offered⟩ unvoted (decisions ▸ account.ascending)
      (decisions ▸ kept) (decisions ▸ earlier)

/-- A new ballot gets a number that no vote has named. -/
theorem Tallied.offer (tallied : network.Tallied) {id : ProposalId} {envelope : Bytes}
    (joined : network.bus.Joined rank) (idle : (network.stations rank).Idle)
    (accepts : (network.stations rank).peer.mayOffer = true) :
    (network.serve rank (.submitVote id envelope)).Tallied := by
  refine {
    tallied.toNumbered.offer joined idle accepts id envelope with
    accounted := fun other => ?_ }
  by_cases own : other = rank
  · rw [own]
    exact tallied.accounted_offer accepts id envelope
  · have station := stations_serve_of_ne network own (.submitVote id envelope)
    apply (tallied.accounted other).frame (worldSize_serve ..) _ _ _ _
      (fun _ => tally_serve _ _ _ _ _) (fun _ => tally_serve _ _ _ _ _)
    · rw [tallied.lawful.offers_offer accepts, if_neg fun same => own same.symm, List.append_nil]
    · rw [tallied.lawful.decisions_offer accepts, if_neg fun both => own both.1.symm,
        List.append_nil]
    · rw [station]
    · intro ballot found
      rwa [station] at found

end offer

/-- Every step of a network keeps its ballots accounted for. -/
theorem Tallied.step {network after : Network} (tallied : network.Tallied)
    (next : Step network after) : after.Tallied := by
  cases next with
  | time clock => exact tallied.retime clock
  | send next => exact tallied.send next
  | handle judge quiet next => exact tallied.handle judge quiet next
  | serve rank request joined idle =>
    rcases offer_or_not (network.stations rank).peer request with
      ⟨id, envelope, rfl, accepts⟩ | other
    · exact tallied.offer joined idle accepts
    · exact tallied.serve_of_not_offer joined idle other

/-- Whatever the processes do in whatever order, the counters of every peer are right. -/
theorem Tallied.reaches {network after : Network} (tallied : network.Tallied)
    (steps : Reaches network after) : after.Tallied := by
  induction steps with
  | refl => exact tallied
  | step _ next inductionHypothesis => exact inductionHypothesis.step next

end Network

end Concord
