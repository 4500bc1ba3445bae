import Concord.Proposal.Envelope
import Mathlib.Algebra.Order.Ring.Nat

/-!
# Envelopes read back

`Envelope.decode` gives back exactly what `Envelope.encode` wrote, as long as the payload's
length fits its field. A longer payload is never mistaken for another proposal: its envelope is
refused. In the other direction nothing but an envelope is accepted: bytes that are read as a
proposal are what `Envelope.encode` writes for it.
-/

namespace Concord

namespace Bytes

/-- Writing keeps a number's lowest bytes. -/
theorem littleEndianValue_littleEndian (width number : Nat) :
    littleEndianValue (littleEndian width number) = number % 256 ^ width := by
  induction width generalizing number with
  | zero => simp [littleEndian, littleEndianValue, Nat.mod_one]
  | succ width inductionHypothesis =>
    have split := Nat.mod_mul (x := number) (a := 256) (b := 256 ^ width)
    have power : 256 ^ (width + 1) = 256 * 256 ^ width := Nat.pow_succ'
    simp only [littleEndian, littleEndianValue, inductionHypothesis, UInt8.toNat_ofNat', power,
      split]

/-- A field behind some bytes is a field of what follows them. -/
theorem field_skip {before rest : Bytes} {offset : Nat} (skips : before.length ≤ offset)
    (width : Nat) :
    (before ++ rest).field offset width = rest.field (offset - before.length) width := by
  rw [field, field, List.drop_append, List.drop_eq_nil_of_le skips, List.nil_append]

/-- A number that was written is read again, up to the width of its field. -/
theorem field_littleEndian (width number : Nat) (rest : Bytes) :
    (littleEndian width number ++ rest).field 0 width = number % 256 ^ width := by
  have front : (littleEndian width number ++ rest).take width = littleEndian width number :=
    List.take_left' (length_littleEndian width number)
  rw [field, List.drop_zero, front, littleEndianValue_littleEndian]

/-- So many bytes make no larger number than they can hold. -/
theorem littleEndianValue_lt (data : Bytes) : littleEndianValue data < 256 ^ data.length := by
  induction data with
  | nil => simp [littleEndianValue]
  | cons byte rest inductionHypothesis =>
    have small := byte.toNat_lt
    rw [littleEndianValue, List.length_cons, Nat.pow_succ']
    omega

/-- A field holds no larger number than its width allows. -/
theorem field_lt (data : Bytes) (offset width : Nat) : data.field offset width < 256 ^ width :=
  Nat.lt_of_lt_of_le (littleEndianValue_lt _)
    (Nat.pow_le_pow_right (by decide) (List.length_take_le _ _))

/-- A field is the written form of the number in it, and is followed by what comes after it. -/
theorem littleEndian_field_append {data : Bytes} {offset width : Nat}
    (enough : offset + width ≤ data.length) :
    littleEndian width (data.field offset width) ++ data.drop (offset + width) =
      data.drop offset := by
  have size : ((data.drop offset).take width).length = width := by
    rw [List.length_take, List.length_drop]
    omega
  have written := littleEndian_littleEndianValue ((data.drop offset).take width)
  rw [size] at written
  rw [field, written, ← List.drop_drop, List.take_append_drop]

end Bytes

/-- A state is known by its ordinal. -/
theorem ProposalState.ofOrdinal?_ordinal (state : ProposalState) :
    ofOrdinal? state.ordinal = some state := by
  cases state <;> rfl

/-- An ordinal that is known stands for one state only. -/
theorem ProposalState.ordinal_of_ofOrdinal? {ordinal : UInt32} {state : ProposalState}
    (known : ofOrdinal? ordinal = some state) : state.ordinal = ordinal := by
  apply UInt32.toNat_inj.1
  unfold ofOrdinal? at known
  split at known <;> cases known <;> simp_all [ProposalState.ordinal]

/-- A mark is written in one way only. -/
theorem Envelope.eq_of_flag? {flag : UInt32} {isLocal : Bool}
    (known : flag? flag = some isLocal) : (if isLocal then 1 else 0) = flag := by
  unfold flag? at known
  split at known
  · next zero =>
    cases known
    exact zero.symm
  · split at known
    · next one =>
      cases known
      exact one.symm
    · cases known

namespace Envelope

/-- All headers are equally long. -/
@[simp] theorem length_header (proposal : Proposal) :
    (header proposal).length = headerLength := by
  simp [header, headerLength]

/-- An envelope is as long as its header and its payload. -/
theorem length_encode (proposal : Proposal) :
    (encode proposal).length = headerLength + proposal.payload.length := by
  rw [encode, List.length_append, length_header]

/-- Any number that a 32-bit word holds is read back from four bytes. -/
theorem read_word (word : UInt32) : UInt32.ofNat (word.toNat % 256 ^ 4) = word := by
  have small : word.toNat % 256 ^ 4 = word.toNat := Nat.mod_eq_of_lt word.toNat_lt
  rw [small, UInt32.ofNat_toNat]

/-- Any number that a 64-bit word holds is read back from eight bytes. -/
theorem read_long (word : UInt64) : UInt64.ofNat (word.toNat % 256 ^ 8) = word := by
  have small : word.toNat % 256 ^ 8 = word.toNat := Nat.mod_eq_of_lt word.toNat_lt
  rw [small, UInt64.ofNat_toNat]

/-- Every field of a header holds what was written there, whatever follows. -/
theorem fields (proposal : Proposal) (following : Bytes) :
    (header proposal ++ following).field 0 4 = proposal.id.value.toUInt32.toNat % 256 ^ 4 ∧
    (header proposal ++ following).field 4 4 = proposal.state.ordinal.toNat % 256 ^ 4 ∧
    (header proposal ++ following).field 8 8 = proposal.createdAt.toNat % 256 ^ 8 ∧
    (header proposal ++ following).field 16 4 = (if proposal.isLocal then 1 else 0) % 256 ^ 4 ∧
    (header proposal ++ following).field 20 4 = proposal.tag.code.toUInt32.toNat % 256 ^ 4 ∧
    (header proposal ++ following).field 24 8 = proposal.payload.length % 256 ^ 8 := by
  simp only [header, List.append_assoc]
  refine ⟨Bytes.field_littleEndian _ _ _, ?_, ?_, ?_, ?_, ?_⟩
  all_goals
    repeat rw [Bytes.field_skip (by simp only [Bytes.length_littleEndian]; decide)]
    simp only [Bytes.length_littleEndian]
    exact Bytes.field_littleEndian _ _ _

/-- What is made of bytes whose state and flag can be read is told by the length that they announce
and the length of what follows the header. -/
theorem decode_of_known {data : Bytes} {state : ProposalState} {isLocal : Bool}
    (whole : headerLength ≤ data.length)
    (knownState : ProposalState.ofOrdinal? (UInt32.ofNat (data.field 4 4)) = some state)
    (knownFlag : flag? (UInt32.ofNat (data.field 16 4)) = some isLocal) :
    decode data =
      if (data.drop headerLength).length < data.field 24 8 then
        .error (.truncated (min (headerLength + data.field 24 8) (UInt64.size - 1)) data.length)
      else if data.field 24 8 < (data.drop headerLength).length then
        .error (.trailingBytes ((data.drop headerLength).length - data.field 24 8))
      else
        .ok {
          id := ⟨(UInt32.ofNat (data.field 0 4)).toInt32⟩
          state
          createdAt := ⟨UInt64.ofNat (data.field 8 8)⟩
          isLocal
          tag := ⟨(UInt32.ofNat (data.field 20 4)).toInt32⟩
          payload := data.drop headerLength } := by
  simp only [decode, if_neg (Nat.not_lt.2 whole), knownState, knownFlag]

/-- What is made of a written header, whatever follows it. -/
theorem decode_header_append (proposal : Proposal) (following : Bytes) :
    decode (header proposal ++ following) =
      if following.length < proposal.payload.length % 2 ^ 64 then
        .error (.truncated
          (min (headerLength + proposal.payload.length % 2 ^ 64) (UInt64.size - 1))
          (headerLength + following.length))
      else if proposal.payload.length % 2 ^ 64 < following.length then
        .error (.trailingBytes (following.length - proposal.payload.length % 2 ^ 64))
      else .ok { proposal with payload := following } := by
  obtain ⟨id, state, createdAt, isLocal, tag, announced⟩ := fields proposal following
  have length : (header proposal ++ following).length = headerLength + following.length := by
    simp
  have payload : (header proposal ++ following).drop headerLength = following :=
    List.drop_left' (length_header proposal)
  have knownState : ProposalState.ofOrdinal?
      (UInt32.ofNat ((header proposal ++ following).field 4 4)) = some proposal.state := by
    rw [state, read_word, ProposalState.ofOrdinal?_ordinal]
  have knownFlag : flag? (UInt32.ofNat ((header proposal ++ following).field 16 4)) =
      some proposal.isLocal := by
    rw [isLocal]
    cases proposal.isLocal <;> rfl
  have readTime : UInt64.ofNat (proposal.createdAt.toNat % 256 ^ 8) = proposal.createdAt.micros :=
    read_long proposal.createdAt.micros
  have width : (256 : Nat) ^ 8 = 2 ^ 64 := by decide
  rw [decode_of_known (length ▸ Nat.le_add_right _ _) knownState knownFlag, payload, length,
    announced, id, createdAt, tag, readTime, read_word, read_word, width]
  simp only [Int32.toInt32_toUInt32]

/-- An envelope is read back as what was written, unless its length does not fit. -/
theorem decode_encode (proposal : Proposal) :
    decode (encode proposal) =
      if proposal.payload.length < 2 ^ 64 then .ok proposal
      else .error (.trailingBytes
        (proposal.payload.length - proposal.payload.length % 2 ^ 64)) := by
  have least : proposal.payload.length % 2 ^ 64 ≤ proposal.payload.length := Nat.mod_le _ _
  rw [encode, decode_header_append, if_neg (Nat.not_lt.2 least)]
  by_cases fits : proposal.payload.length < 2 ^ 64
  · rw [if_pos fits, Nat.mod_eq_of_lt fits, if_neg (Nat.lt_irrefl _)]
  · have limit : proposal.payload.length % 2 ^ 64 < 2 ^ 64 := Nat.mod_lt _ (by decide)
    rw [if_neg fits, if_pos (Nat.lt_of_lt_of_le limit (Nat.not_lt.1 fits))]

/-- A proposal whose payload can be counted is read from its own envelope. -/
theorem decode_encode_of_fits {proposal : Proposal} (fits : proposal.payload.length < 2 ^ 64) :
    decode (encode proposal) = .ok proposal := by
  rw [decode_encode, if_pos fits]

/-- A number of four bytes is kept by a 32-bit word. -/
theorem toNat_word (data : Bytes) (offset : Nat) :
    (UInt32.ofNat (data.field offset 4)).toNat = data.field offset 4 :=
  UInt32.toNat_ofNat_of_lt (data.field_lt offset 4)

/-- A number of eight bytes is kept by a 64-bit word. -/
theorem toNat_long (data : Bytes) (offset : Nat) :
    (UInt64.ofNat (data.field offset 8)).toNat = data.field offset 8 :=
  UInt64.toNat_ofNat_of_lt (data.field_lt offset 8)

/-- Every field of accepted bytes holds what was read there. -/
theorem fields_of_decode {data : Bytes} {proposal : Proposal}
    (read : decode data = .ok proposal) :
    headerLength ≤ data.length ∧
    proposal.id.value.toUInt32.toNat = data.field 0 4 ∧
    proposal.state.ordinal.toNat = data.field 4 4 ∧
    proposal.createdAt.toNat = data.field 8 8 ∧
    (if proposal.isLocal then 1 else 0) = data.field 16 4 ∧
    proposal.tag.code.toUInt32.toNat = data.field 20 4 ∧
    proposal.payload = data.drop headerLength ∧
    proposal.payload.length = data.field 24 8 := by
  unfold decode at read
  split at read
  · cases read
  next whole =>
  simp only at read
  split at read
  · cases read
  next state knownState =>
  split at read
  · cases read
  next isLocal knownFlag =>
  split at read
  · cases read
  next notShort =>
  split at read
  · cases read
  next notLong =>
  cases read
  have ordinal : state.ordinal.toNat = data.field 4 4 := by
    rw [ProposalState.ordinal_of_ofOrdinal? knownState, toNat_word]
  have flag : (if isLocal then 1 else 0) = data.field 16 4 := by
    have word := congrArg UInt32.toNat (eq_of_flag? knownFlag)
    rw [toNat_word] at word
    rw [← word]
    cases isLocal <;> rfl
  have announced : (data.drop headerLength).length = data.field 24 8 := by omega
  refine ⟨Nat.le_of_not_lt whole, ?_, ordinal, toNat_long data 8, flag, ?_, rfl, announced⟩
  · rw [UInt32.toUInt32_toInt32, toNat_word]
  · rw [UInt32.toUInt32_toInt32, toNat_word]

/-- Bytes that are read as a proposal are the envelope of that proposal. -/
theorem encode_of_decode {data : Bytes} {proposal : Proposal}
    (read : decode data = .ok proposal) : encode proposal = data := by
  obtain ⟨enough, id, state, createdAt, isLocal, tag, payload, announced⟩ := fields_of_decode read
  -- Every field is followed by the next one, and the last one by the payload.
  have joins : ∀ {offset width : Nat}, offset + width ≤ headerLength →
      Bytes.littleEndian width (data.field offset width) ++ data.drop (offset + width) =
        data.drop offset :=
    fun within => Bytes.littleEndian_field_append (Nat.le_trans within enough)
  simp only [encode, header, id, state, createdAt, isLocal, tag, announced, List.append_assoc]
  rw [payload, show headerLength = 24 + 8 from rfl, joins (by decide), joins (by decide),
    joins (by decide), joins (by decide), joins (by decide), joins (by decide)]
  rfl

/-- Bytes are read as a proposal exactly if they are its envelope and its length fits. -/
theorem decode_eq_ok_iff {data : Bytes} {proposal : Proposal} :
    decode data = .ok proposal ↔ proposal.payload.length < 2 ^ 64 ∧ encode proposal = data := by
  constructor
  · intro read
    obtain ⟨-, -, -, -, -, -, -, announced⟩ := fields_of_decode read
    exact ⟨announced ▸ data.field_lt 24 8, encode_of_decode read⟩
  · rintro ⟨fits, rfl⟩
    exact decode_encode_of_fits fits

/-- A proposal is read from exactly one byte string, its envelope: what is accepted is written
again as it was, what is written is accepted, and writing adds that envelope and nothing else to
what a buffer holds. -/
theorem read_iff_written (proposal : Proposal) :
    (∀ data : Bytes, data.length < 2 ^ 64 →
      (decode data = .ok proposal ↔ encode proposal = data)) ∧
    (proposal.payload.length < 2 ^ 64 → decode (encode proposal) = .ok proposal) ∧
    (∀ data : Bytes, decode data = .ok proposal → encode proposal = data) ∧
    ∀ buffer : Bytes, encodeInto buffer proposal = buffer ++ encode proposal ∧
      (encodeInto buffer proposal).length = buffer.length + encodedLength proposal := by
  refine ⟨?_, decode_encode_of_fits, fun _ => encode_of_decode, ?_⟩
  · intro data fits
    constructor
    · exact encode_of_decode
    · intro written
      subst written
      apply decode_encode_of_fits
      rw [encode, List.length_append] at fits
      omega
  · intro buffer
    constructor
    · rfl
    · simp [encodeInto, encode, encodedLength]

/-- A proposal with nothing left at its initial value. -/
def sample : Proposal :=
  ⟨⟨-3⟩, .approved, ⟨0x8000000000000005⟩, true, ⟨-1⟩, [0, 255, 7]⟩

/-- A sample proposal goes through its envelope unchanged. -/
theorem read_iff_written_sample :
    (encode sample).length < 2 ^ 64 ∧ sample.payload.length < 2 ^ 64 ∧
      decode (encode sample) = .ok sample := by
  have short : (encode sample).length < 2 ^ 64 := by decide
  exact ⟨short, by decide, ((read_iff_written sample).1 _ short).2 rfl⟩

end Envelope

end Concord
