import Concord.Judge
import Concord.Proofs.Envelopes

/-!
# Verdicts

A judge of staleness subtracts instants, and stops at zero. What it accepts is told without that: an
envelope, as long as the clock is not past the end of its window. This end is a sum of numbers, so
it does not go around, and the clock is not past it where the envelope is from the future. Nothing
else in an envelope counts; with time a yes can become a no, and with a larger window a no a yes.
-/

namespace Concord

/-- A proposal is at most so old until that much time has gone by since it was made. -/
theorem Proposal.ageAt_le_iff {proposal : Proposal} {now : Timestamp} {window : Nat} :
    proposal.ageAt now ≤ window ↔ now.toNat ≤ proposal.createdAt.toNat + window :=
  Nat.sub_le_iff_le_add'

/-- There are only two verdicts. -/
theorem Verdict.eq_reject_iff {verdict : Verdict} : verdict = .reject ↔ verdict ≠ .accept := by
  cases verdict <;> decide

namespace Judge

/-- How a judge votes on bytes that it gets while the clock is this. -/
def verdict (judge : Judge) (clock : Clock) (data : Bytes) : Verdict :=
  (judge.judge clock data).1

/-- A judge of staleness accepts the envelopes of proposals that are at most a window old. -/
theorem staleness_accepts_iff {window : UInt64} {clock : Clock} {data : Bytes} :
    ((staleness window).judge clock data).1 = .accept ↔
      ∃ proposal, Envelope.decode data = .ok proposal ∧
        proposal.ageAt clock.read.1 ≤ window.toNat := by
  simp only [staleness]
  cases Envelope.decode data with
  | error cause => simp
  | ok proposal =>
    by_cases stale : window.toNat < proposal.ageAt clock.read.1
    · simp [stale]
    · simp [stale, Nat.le_of_not_lt stale]

/-- What the staleness judge accepts is at most a window old when it looks. -/
theorem age_of_accepted {window : UInt64} {clock : Clock} {proposal : Proposal}
    (accepts : ((staleness window).judge clock (Envelope.encode proposal)).1 = .accept) :
    proposal.ageAt clock.read.1 ≤ window.toNat := by
  obtain ⟨read, decoded, age⟩ := staleness_accepts_iff.1 accepts
  rw [Envelope.decode_encode] at decoded
  split at decoded <;> cases decoded
  exact age

variable {window : UInt64} {clock : Clock}

/-- What is accepted is the envelope of a proposal whose window has not ended. Its payload has a
length of 64 bits, as a longer one is not read back. -/
theorem verdict_eq_accept_iff {data : Bytes} :
    (staleness window).verdict clock data = .accept ↔
      ∃ proposal : Proposal, proposal.payload.length < 2 ^ 64 ∧ Envelope.encode proposal = data ∧
        clock.read.1.toNat ≤ proposal.createdAt.toNat + window.toNat := by
  rw [verdict, staleness_accepts_iff]
  simp only [Envelope.decode_eq_ok_iff, Proposal.ageAt_le_iff, and_assoc]

/-- The verdict on an envelope is told by its time. -/
theorem verdict_encode {proposal : Proposal} (fits : proposal.payload.length < 2 ^ 64) :
    (staleness window).verdict clock (Envelope.encode proposal) =
      if clock.read.1.toNat ≤ proposal.createdAt.toNat + window.toNat then .accept
      else .reject := by
  split
  · next inTime => exact verdict_eq_accept_iff.2 ⟨proposal, fits, rfl, inTime⟩
  · next late =>
    rw [Verdict.eq_reject_iff]
    intro accepts
    exact late (Proposal.ageAt_le_iff.1 (age_of_accepted accepts))

/-- What is accepted would have been accepted before, and in a larger window. -/
theorem accepts_of_accepts {later : Clock} {larger : UInt64} {data : Bytes}
    (order : clock.read.1 ≤ later.read.1) (wider : window ≤ larger)
    (accepts : (staleness window).verdict later data = .accept) :
    (staleness larger).verdict clock data = .accept := by
  obtain ⟨proposal, fits, written, inTime⟩ := verdict_eq_accept_iff.1 accepts
  refine verdict_eq_accept_iff.2 ⟨proposal, fits, written, ?_⟩
  calc clock.read.1.toNat
    _ ≤ later.read.1.toNat := order
    _ ≤ proposal.createdAt.toNat + window.toNat := inTime
    _ ≤ proposal.createdAt.toNat + larger.toNat :=
      Nat.add_le_add_left (UInt64.le_iff_toNat_le.1 wider) _

/-- A judge of staleness accepts exactly the envelopes whose window has not ended, be the end past
all instants or the envelope from the future. So envelopes with one time get one verdict, whatever
else is in them, a no stays a no at all later times, and a yes stays a yes in all larger windows. -/
theorem staleness_verdict_law (window : UInt64) (clock : Clock) :
    (∀ data, (staleness window).verdict clock data = .accept ↔
      ∃ proposal : Proposal, proposal.payload.length < 2 ^ 64 ∧ Envelope.encode proposal = data ∧
        clock.read.1.toNat ≤ proposal.createdAt.toNat + window.toNat) ∧
    (∀ first second : Proposal, first.payload.length < 2 ^ 64 → second.payload.length < 2 ^ 64 →
      first.createdAt = second.createdAt →
      (staleness window).verdict clock (Envelope.encode first) =
        (staleness window).verdict clock (Envelope.encode second)) ∧
    (∀ data (later : Clock), clock.read.1 ≤ later.read.1 →
      (staleness window).verdict clock data = .reject →
      (staleness window).verdict later data = .reject) ∧
    ∀ data (larger : UInt64), window ≤ larger →
      (staleness window).verdict clock data = .accept →
      (staleness larger).verdict clock data = .accept := by
  refine ⟨fun _ => verdict_eq_accept_iff, ?_, ?_, ?_⟩
  · intro first second fits fitsToo together
    rw [verdict_encode fits, verdict_encode fitsToo, together]
  · intro data later order rejects
    rw [Verdict.eq_reject_iff] at rejects ⊢
    intro accepts
    exact rejects (accepts_of_accepts order (UInt64.le_refl window) accepts)
  · intro data larger wider accepts
    exact accepts_of_accepts (Nat.le_refl _) wider accepts

/-- A proposal whose window ends after the last instant. -/
def lateMade : Proposal :=
  ⟨⟨-1⟩, .denied, ⟨0xfffffffffffffff0⟩, true, ⟨99⟩, [7]⟩

/-- Another one made at the same time, and different in everything else. -/
def lateMadeToo : Proposal :=
  .create ⟨3⟩ ⟨0⟩ [] ⟨0xfffffffffffffff0⟩

/-- Proposals stamped near the last instant, whose windows end after it. -/
theorem staleness_verdict_law_late :
    (staleness 100).verdict (.startingAt ⟨0xffffffffffffffff⟩) (Envelope.encode lateMade) =
      .accept ∧
    (staleness 100).verdict (.startingAt ⟨5⟩) (Envelope.encode lateMadeToo) =
      (staleness 100).verdict (.startingAt ⟨5⟩) (Envelope.encode lateMade) ∧
    (staleness 3).verdict (.startingAt ⟨0xfffffffffffffff4⟩) (Envelope.encode lateMade) =
      .reject ∧
    (staleness 3).verdict (.startingAt ⟨0xffffffffffffffff⟩) (Envelope.encode lateMade) =
      .reject ∧
    (staleness 0xffffffffffffffff).verdict (.startingAt ⟨0xffffffffffffffff⟩)
      (Envelope.encode lateMade) = .accept := by
  have accepts := ((staleness_verdict_law 100 (.startingAt ⟨0xffffffffffffffff⟩)).1 _).2
    ⟨lateMade, by decide, rfl, by decide⟩
  have rejects : (staleness 3).verdict (.startingAt ⟨0xfffffffffffffff4⟩)
      (Envelope.encode lateMade) = .reject := by decide
  refine ⟨accepts, ?_, rejects, ?_, ?_⟩
  · exact (staleness_verdict_law 100 _).2.1 _ _ (by decide) (by decide) rfl
  · exact (staleness_verdict_law 3 _).2.2.1 _ _ (by decide) rejects
  · exact (staleness_verdict_law 100 _).2.2.2 _ _ (by decide) accepts

end Judge

end Concord
