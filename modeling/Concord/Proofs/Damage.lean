import Concord.Proofs.Envelopes

/-!
# Damaged envelopes

An envelope that is cut short or followed by more bytes is told from a whole one by its announced
length, and the sizes reported are those of the damage. The length is read from bytes that anyone
may have written, so `Scan` reads an envelope in the way that a machine does: at a cursor, where a
step past the last byte is a fault of its own, and with sizes of sixty-four bits. `Scan.on_proposal`
says that this comes to `Envelope.decode`, hence never to such a fault.
-/

namespace Concord

/-- Why reading at a cursor ends early. -/
inductive Halt where
  /-- A step went past the last byte. -/
  | outOfBounds
  | damaged (cause : EnvelopeError)

/-- Steps of reading at a cursor, with the bytes that are ahead of it as their state. -/
abbrev Scan :=
  StateT Bytes (Except Halt)

namespace Scan

variable {Value : Type}

/-- What comes of steps, and the bytes that are then ahead. -/
def on (scan : Scan Value) (ahead : Bytes) : Except Halt (Value × Bytes) :=
  StateT.run scan ahead

/-- How many bytes are ahead. -/
def remaining : Scan Nat := do
  return (← get).length

/-- Move over the next bytes. -/
def slice (width : Nat) : Scan Bytes := do
  if (← remaining) < width then
    throw .outOfBounds
  modifyGet fun ahead => (ahead.take width, ahead.drop width)

/-- Read the number in the next bytes. -/
def number (width : Nat) : Scan Nat := do
  return Bytes.littleEndianValue (← slice width)

/-- A value that is known, or damage. -/
def known (cause : EnvelopeError) : Option Value → Scan Value
  | some value => return value
  | none => throw (.damaged cause)

/-- The sum of two sizes, at the last size where it would go around. -/
def addSaturating (left right : UInt64) : UInt64 :=
  if left + right < left then UInt64.ofNat (UInt64.size - 1) else left + right

/-- Read a payload of the announced length and find that nothing is left. The bytes available are
counted from the front of the envelope. -/
def payload (announced : UInt64) (available : Nat) : Scan Bytes := do
  if (← remaining) < announced.toNat then
    let needed := addSaturating (UInt64.ofNat Envelope.headerLength) announced
    throw (.damaged (.truncated needed.toNat available))
  let content ← slice announced.toNat
  let left ← remaining
  if left ≠ 0 then
    throw (.damaged (.trailingBytes left))
  return content

/-- Read a proposal, field by field. -/
def proposal : Scan Proposal := do
  let available ← remaining
  if available < Envelope.headerLength then
    throw (.damaged (.truncated Envelope.headerLength available))
  let id := UInt32.ofNat (← number 4)
  let ordinal := UInt32.ofNat (← number 4)
  let state ← known (.unknownState ordinal) (ProposalState.ofOrdinal? ordinal)
  let createdAt := UInt64.ofNat (← number 8)
  let flag := UInt32.ofNat (← number 4)
  let isLocal ← known (.invalidFlag flag) (Envelope.flag? flag)
  let tag := UInt32.ofNat (← number 4)
  let announced := UInt64.ofNat (← number 8)
  let content ← payload announced available
  return ⟨⟨id.toInt32⟩, state, ⟨createdAt⟩, isLocal, ⟨tag.toInt32⟩, content⟩

/-- A scan that is done reads nothing. -/
@[simp] theorem on_pure (value : Value) (ahead : Bytes) :
    on (pure value : Scan Value) ahead = .ok (value, ahead) :=
  rfl

/-- A scan that stops reports why. -/
@[simp] theorem on_throw (halt : Halt) (ahead : Bytes) :
    on (throw halt : Scan Value) ahead = .error halt :=
  rfl

/-- One scan after another goes on where the first has stopped reading. -/
@[simp] theorem on_bind {Next : Type} (scan : Scan Value) (next : Value → Scan Next)
    (ahead : Bytes) :
    on (scan >>= next) ahead =
      match on scan ahead with
      | .ok (value, after) => on (next value) after
      | .error halt => .error halt := by
  unfold on StateT.run
  simp only [bind, StateT.bind, Except.bind]
  cases scan ahead <;> rfl

/-- A value that is known is taken as it is. -/
@[simp] theorem on_known_some (cause : EnvelopeError) (value : Value) (ahead : Bytes) :
    on (known cause (some value)) ahead = .ok (value, ahead) :=
  rfl

/-- A value that is not known is damage. -/
@[simp] theorem on_known_none (cause : EnvelopeError) (ahead : Bytes) :
    on (known cause (none : Option Value)) ahead = .error (.damaged cause) :=
  rfl

/-- Looking how much is left reads nothing. -/
@[simp] theorem on_remaining (ahead : Bytes) : on remaining ahead = .ok (ahead.length, ahead) :=
  rfl

/-- A slice that fits takes so many bytes from the front. -/
theorem on_slice {width : Nat} {ahead : Bytes} (enough : width ≤ ahead.length) :
    on (slice width) ahead = .ok (ahead.take width, ahead.drop width) := by
  unfold slice
  simp only [on_bind, on_remaining, if_neg (Nat.not_lt.2 enough)]
  rfl

/-- A number within the bytes is the field at the place of the cursor. -/
theorem on_number {data : Bytes} {offset width : Nat} (within : offset + width ≤ data.length) :
    on (number width) (data.drop offset) =
      .ok (data.field offset width, data.drop (offset + width)) := by
  have enough : width ≤ (data.drop offset).length := by
    rw [List.length_drop]
    omega
  unfold number
  rw [on_bind, on_slice enough, List.drop_drop]
  rfl

/-- A sum that does not fit is the largest number. -/
theorem toNat_addSaturating (left right : UInt64) :
    (addSaturating left right).toNat = min (left.toNat + right.toNat) (UInt64.size - 1) := by
  have leftSmall := left.toNat_lt
  have rightSmall := right.toNat_lt
  have sum : (left + right).toNat = (left.toNat + right.toNat) % 2 ^ 64 :=
    UInt64.toNat_add left right
  have size : UInt64.size = 2 ^ 64 := rfl
  unfold addSaturating
  split
  · next around =>
    rw [UInt64.lt_iff_toNat_lt, sum] at around
    have last : (UInt64.ofNat (UInt64.size - 1)).toNat = UInt64.size - 1 := by decide
    omega
  · next inside =>
    rw [UInt64.lt_iff_toNat_lt, sum] at inside
    rw [sum]
    omega

/-- The sizes that are reported where a payload is too short or too long. -/
theorem on_payload (announced : UInt64) (available : Nat) (ahead : Bytes) :
    on (payload announced available) ahead =
      if ahead.length < announced.toNat then
        .error (.damaged (.truncated
          (min (Envelope.headerLength + announced.toNat) (UInt64.size - 1)) available))
      else if announced.toNat < ahead.length then
        .error (.damaged (.trailingBytes (ahead.length - announced.toNat)))
      else .ok (ahead, []) := by
  unfold payload
  simp only [on_bind, on_remaining]
  by_cases short : ahead.length < announced.toNat
  · simp only [if_pos short, on_bind, on_throw, toNat_addSaturating]
    rfl
  have enough : announced.toNat ≤ ahead.length := Nat.le_of_not_lt short
  simp only [if_neg short, on_bind, on_slice enough, on_remaining, List.length_drop]
  by_cases long : announced.toNat < ahead.length
  · have left : ahead.length - announced.toNat ≠ 0 := by omega
    simp only [if_pos long, if_pos left, on_bind, on_throw]
  · have whole : ahead.length ≤ announced.toNat := Nat.le_of_not_lt long
    have none : ¬ ahead.length - announced.toNat ≠ 0 := by omega
    simp only [if_neg long, if_neg none, on_pure, List.take_of_length_le whole,
      List.drop_eq_nil_of_le whole]

/-- What reading an envelope comes to, given what is made of it. -/
def outcome : Except EnvelopeError Proposal → Except Halt (Proposal × Bytes)
  | .ok proposal => .ok (proposal, [])
  | .error cause => .error (.damaged cause)

/-- Reading at a cursor comes to what is made of the bytes as a whole. Every step stays within the
bytes, and the size that is asked for does not go around. -/
theorem on_proposal (data : Bytes) : on proposal data = outcome (Envelope.decode data) := by
  unfold proposal Envelope.decode
  simp only [on_bind, on_remaining]
  by_cases short : data.length < Envelope.headerLength
  · simp only [if_pos short, on_bind, on_throw, outcome]
  have reads : ∀ {offset width : Nat}, offset + width ≤ Envelope.headerLength →
      on (number width) (data.drop offset) =
        .ok (data.field offset width, data.drop (offset + width)) :=
    fun within => on_number (Nat.le_trans within (Nat.le_of_not_lt short))
  -- The cursor starts at the front, and every field starts where the one before it ends.
  have id : on (number 4) data = .ok (data.field 0 4, data.drop 4) := by
    have front : on (number 4) (data.drop 0) = .ok (data.field 0 4, data.drop 4) :=
      reads (by decide)
    rwa [List.drop_zero] at front
  have ordinal : on (number 4) (data.drop 4) = .ok (data.field 4 4, data.drop 8) :=
    reads (by decide)
  have createdAt : on (number 8) (data.drop 8) = .ok (data.field 8 8, data.drop 16) :=
    reads (by decide)
  have flag : on (number 4) (data.drop 16) = .ok (data.field 16 4, data.drop 20) :=
    reads (by decide)
  have tag : on (number 4) (data.drop 20) = .ok (data.field 20 4, data.drop 24) := reads (by decide)
  have announced : on (number 8) (data.drop 24) =
      .ok (data.field 24 8, data.drop Envelope.headerLength) := reads (by decide)
  simp only [if_neg short, on_bind, id, ordinal]
  cases ProposalState.ofOrdinal? (UInt32.ofNat (data.field 4 4)) with
  | none => simp only [on_known_none, outcome]
  | some state =>
    simp only [on_known_some, createdAt, flag]
    cases Envelope.flag? (UInt32.ofNat (data.field 16 4)) with
    | none => simp only [on_known_none, outcome]
    | some isLocal =>
      simp only [on_known_some, tag, announced, on_payload, Envelope.toNat_long]
      by_cases lacking : (data.drop Envelope.headerLength).length < data.field 24 8
      · simp only [if_pos lacking, outcome]
      · simp only [if_neg lacking]
        by_cases left : data.field 24 8 < (data.drop Envelope.headerLength).length
        · simp only [if_pos left, outcome]
        · simp only [if_neg left, outcome, on_pure]

end Scan

namespace Envelope

/-- An envelope cut short asks for the header, or for all that it was. -/
theorem decode_take {proposal : Proposal} (fits : (encode proposal).length < 2 ^ 64) {kept : Nat}
    (cut : kept < (encode proposal).length) :
    decode ((encode proposal).take kept) =
      .error (.truncated (if kept < headerLength then headerLength else (encode proposal).length)
        kept) := by
  have whole := length_encode proposal
  have length : ((encode proposal).take kept).length = kept :=
    List.length_take_of_le (Nat.le_of_lt cut)
  by_cases short : kept < headerLength
  · rw [decode, length, if_pos short, if_pos short]
  -- The header is whole, and announces a payload of which only a part is left.
  have front : (encode proposal).take kept =
      header proposal ++ proposal.payload.take (kept - headerLength) := by
    rw [encode, List.take_append, length_header,
      List.take_of_length_le (length_header proposal ▸ Nat.le_of_not_lt short)]
  have announced : proposal.payload.length % 2 ^ 64 = proposal.payload.length :=
    Nat.mod_eq_of_lt (by omega)
  have following : (proposal.payload.take (kept - headerLength)).length = kept - headerLength :=
    List.length_take_of_le (by omega)
  have size : UInt64.size = 2 ^ 64 := rfl
  rw [front, decode_header_append, announced, following, if_pos (by omega), if_neg short, whole,
    Nat.min_eq_left (by omega), Nat.add_sub_of_le (Nat.le_of_not_lt short)]

/-- An envelope followed by more bytes is refused with their number. -/
theorem decode_encode_append {proposal : Proposal} (fits : (encode proposal).length < 2 ^ 64)
    {extra : Bytes} (more : extra ≠ []) :
    decode (encode proposal ++ extra) = .error (.trailingBytes extra.length) := by
  have positive : 0 < extra.length := List.length_pos_iff.2 more
  have whole := length_encode proposal
  have announced : proposal.payload.length % 2 ^ 64 = proposal.payload.length :=
    Nat.mod_eq_of_lt (by omega)
  rw [encode, List.append_assoc, decode_header_append, announced, List.length_append,
    if_neg (by omega), if_pos (by omega), Nat.add_sub_cancel_left]

/-- Damage is reported with its sizes. An envelope of which a part is left asks for the header or
for all that it was, and has what is left; one that is followed by more bytes has as many left over.
Of any bytes with a whole header, a state and a flag that are known, and any announced length, it is
told by the length what they are: too short, too long, or, and only if the length is that of what
follows, a proposal. Read at a cursor, no bytes lead past their end. -/
theorem damage_reported_exactly :
    (∀ proposal : Proposal, (encode proposal).length < 2 ^ 64 →
      (∀ kept < (encode proposal).length, decode ((encode proposal).take kept) =
        .error (.truncated (if kept < 32 then 32 else (encode proposal).length) kept)) ∧
      ∀ extra : Bytes, extra ≠ [] →
        decode (encode proposal ++ extra) = .error (.trailingBytes extra.length)) ∧
    (∀ data : Bytes, Scan.proposal.on data = Scan.outcome (decode data) ∧
      Scan.proposal.on data ≠ .error .outOfBounds) ∧
    ∀ data : Bytes, 32 ≤ data.length →
      ProposalState.ofOrdinal? (UInt32.ofNat (data.field 4 4)) ≠ none →
      flag? (UInt32.ofNat (data.field 16 4)) ≠ none →
      let announced := data.field 24 8
      let following := data.length - 32
      announced < 2 ^ 64 ∧
      (following < announced → decode data =
        .error (.truncated (min (32 + announced) (2 ^ 64 - 1)) data.length)) ∧
      (announced < following → decode data = .error (.trailingBytes (following - announced))) ∧
      ((∃ proposal, decode data = .ok proposal) ↔ following = announced) := by
  refine ⟨fun proposal fits =>
      ⟨fun kept => decode_take fits, fun extra => decode_encode_append fits⟩,
    fun data => ⟨Scan.on_proposal data, ?_⟩, ?_⟩
  · rw [Scan.on_proposal]
    cases decode data <;> exact nofun
  · intro data whole hasState hasFlag announced following
    obtain ⟨state, knownState⟩ := Option.ne_none_iff_exists'.1 hasState
    obtain ⟨isLocal, knownFlag⟩ := Option.ne_none_iff_exists'.1 hasFlag
    have read := decode_of_known whole knownState knownFlag
    have length : (data.drop headerLength).length = following := List.length_drop
    rw [length] at read
    refine ⟨data.field_lt 24 8, fun short => ?_, fun long => ?_, ?_⟩
    · rw [read, if_pos short]
      rfl
    · rw [read, if_neg (Nat.lt_asymm long), if_pos long]
    · rw [read]
      constructor
      · rintro ⟨proposal, accepted⟩
        split at accepted
        · cases accepted
        next notShort =>
        split at accepted
        · cases accepted
        next notLong =>
        exact Nat.le_antisymm (Nat.le_of_not_lt notLong) (Nat.le_of_not_lt notShort)
      · intro same
        exact ⟨_, by rw [if_neg (by omega), if_neg (by omega)]⟩

/-- The front of an envelope that announces the longest payload there can be, and has one byte. -/
def hugeLength : Bytes :=
  (header sample).take 24 ++ List.replicate 8 255 ++ [0]

/-- An envelope cut in its first number and in its length, one with a byte too many, and one that
announces more bytes than can be counted. -/
theorem damage_reported_exactly_hugeLength :
    decode ((encode sample).take 5) = .error (.truncated 32 5) ∧
    decode ((encode sample).take 33) = .error (.truncated 35 33) ∧
    decode (encode sample ++ [1]) = .error (.trailingBytes 1) ∧
    Scan.proposal.on hugeLength ≠ .error .outOfBounds ∧
    decode hugeLength = .error (.truncated (2 ^ 64 - 1) 33) := by
  obtain ⟨damaged, scanned, announced⟩ := damage_reported_exactly
  obtain ⟨cut, extended⟩ := damaged sample (by decide +kernel)
  obtain ⟨-, short, -, -⟩ :=
    announced hugeLength (by decide +kernel) (by decide +kernel) (by decide +kernel)
  refine ⟨cut 5 (by decide +kernel), cut 33 (by decide +kernel), extended [1] (by decide),
    (scanned hugeLength).2, (short (by decide +kernel)).trans ?_⟩
  decide +kernel

end Envelope

end Concord
