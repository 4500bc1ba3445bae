import Concord.Proposal

/-!
# Envelopes

An envelope is a proposal as bytes: a header of thirty-two bytes and then the payload.
Numbers are little-endian. `encode` writes one; `decode` accepts exactly the bytes that
`encode` can produce and says what is wrong with any others.

| offset | width | content           |
|--------|-------|-------------------|
| 0      | 4     | slot, signed      |
| 4      | 4     | state             |
| 8      | 8     | time of creation  |
| 16     | 4     | local, zero or one |
| 20     | 4     | operation, signed |
| 24     | 8     | payload length    |
-/

namespace Concord

/-- What is wrong with bytes that are not an envelope. -/
inductive EnvelopeError where
  /-- The bytes end before the header or the announced payload does. -/
  | truncated (needed available : Nat)
  /-- No state has this number. -/
  | unknownState (ordinal : UInt32)
  /-- The local flag is neither zero nor one. -/
  | invalidFlag (flag : UInt32)
  /-- The payload is followed by more bytes. -/
  | trailingBytes (count : Nat)
deriving DecidableEq, Inhabited

/-- The name of each fault. -/
def EnvelopeError.kind : EnvelopeError → String
  | .truncated _ _ => "Truncated"
  | .unknownState _ => "UnknownState"
  | .invalidFlag _ => "InvalidFlag"
  | .trailingBytes _ => "TrailingBytes"

/-- The wording of each fault. -/
def EnvelopeError.message : EnvelopeError → String
  | .truncated needed available =>
    "Truncated envelope: need " ++ toString needed ++ " bytes, have " ++ toString available
  | .unknownState ordinal => "Unknown proposal state ordinal: " ++ toString ordinal.toNat
  | .invalidFlag flag => "Invalid is_local flag: " ++ toString flag.toNat
  | .trailingBytes count => "Trailing bytes after payload: " ++ toString count

namespace Envelope

/-- The size of the header. -/
def headerLength : Nat :=
  32

/-- The header of a proposal. -/
def header (proposal : Proposal) : Bytes :=
  Bytes.littleEndian 4 proposal.id.value.toUInt32.toNat ++
  Bytes.littleEndian 4 proposal.state.ordinal.toNat ++
  Bytes.littleEndian 8 proposal.createdAt.toNat ++
  Bytes.littleEndian 4 (if proposal.isLocal then 1 else 0) ++
  Bytes.littleEndian 4 proposal.tag.code.toUInt32.toNat ++
  Bytes.littleEndian 8 proposal.payload.length

/-- A proposal as bytes. -/
def encode (proposal : Proposal) : Bytes :=
  header proposal ++ proposal.payload

/-- The size of a proposal as bytes. -/
def encodedLength (proposal : Proposal) : Nat :=
  headerLength + proposal.payload.length

/-- Write a proposal behind what a buffer already holds. -/
def encodeInto (buffer : Bytes) (proposal : Proposal) : Bytes :=
  buffer ++ encode proposal

/-- The local flag that a number stands for. -/
def flag? (flag : UInt32) : Option Bool :=
  if flag = 0 then some false else if flag = 1 then some true else none

/-- Read one proposal that takes up all of the bytes. The first fault in the order of the
fields is the one reported, and the length is compared before any payload is taken. -/
def decode (data : Bytes) : Except EnvelopeError Proposal :=
  if data.length < headerLength then
    .error (.truncated headerLength data.length)
  else
    let ordinal := UInt32.ofNat (data.field 4 4)
    match ProposalState.ofOrdinal? ordinal with
    | none => .error (.unknownState ordinal)
    | some state =>
      let flag := UInt32.ofNat (data.field 16 4)
      match flag? flag with
      | none => .error (.invalidFlag flag)
      | some isLocal =>
        let announced := data.field 24 8
        let payload := data.drop headerLength
        if payload.length < announced then
          .error (.truncated (min (headerLength + announced) (UInt64.size - 1)) data.length)
        else if announced < payload.length then
          .error (.trailingBytes (payload.length - announced))
        else
          .ok {
            id := ⟨(UInt32.ofNat (data.field 0 4)).toInt32⟩
            state
            createdAt := ⟨UInt64.ofNat (data.field 8 8)⟩
            isLocal
            tag := ⟨(UInt32.ofNat (data.field 20 4)).toInt32⟩
            payload }

end Envelope

end Concord
