import Concord.Namespace.Payload
import Mathlib.Algebra.Order.Ring.Nat

/-!
# Payloads are read back

Every field of an operation is preceded by what tells where it ends. So a reader takes from the
front of a byte string exactly what was written there, whatever follows, and an operation is read
back from its payload. All it takes is that lengths are numbers of sixty-four bits. A payload that
is read under any other tag than its operation's is refused.
-/

namespace Concord

/-- The bytes of a text are those of no other. -/
theorem Text.ofBytes?_toBytes (text : String) : ofBytes? (toBytes text) = some text := by
  have bytes : (⟨(toBytes text).toArray⟩ : ByteArray) = text.toUTF8 := by
    simp [toBytes]
  rw [ofBytes?, bytes, String.fromUTF8?]
  exact dif_pos text.isValidUTF8

namespace Operation

/-- There are eleven kinds of operations. -/
theorem kindNumber_le (operation : Operation) : operation.kindNumber ≤ 10 := by
  cases operation <;> simp only [kindNumber] <;> omega

/-- The tag of an operation is the number of its kind. -/
theorem toInt_tag (operation : Operation) : operation.tag.toInt = operation.kindNumber := by
  have few := operation.kindNumber_le
  exact Int32.toInt_ofNat_of_lt (by omega)

end Operation

namespace Payload

/-! ## Numbers -/

/-- A small number fits into a byte. -/
theorem toNat_byte {number : Nat} (small : number < 256) : (UInt8.ofNat number).toNat = number := by
  rw [UInt8.toNat_ofNat', Nat.mod_eq_of_lt small]

/-- A number below 128 is written as one byte. -/
theorem varint_of_lt {number : Nat} (low : number < 128) :
    varint number = [UInt8.ofNat number] := by
  rw [varint, if_pos low]

/-- A larger number is written seven bits at a time, the lowest first. -/
theorem varint_of_le {number : Nat} (high : 128 ≤ number) :
    varint number = UInt8.ofNat (number % 128 + 128) :: varint (number / 128) := by
  rw [varint, if_neg (Nat.not_lt.2 high)]

/-- A reader of varints takes a number that fits its width. -/
theorem readVarint_varint {lastByte width number : Nat} (last : lastByte < 128)
    (fits : number < 128 ^ width * (lastByte + 1)) (rest : Bytes) :
    readVarint lastByte (width + 1) (varint number ++ rest) = .ok (number, rest) := by
  induction width generalizing number with
  | zero =>
    have low : number < 128 := by omega
    have byte : (UInt8.ofNat number).toNat = number := toNat_byte (by omega)
    have inside : ¬ lastByte < number := by omega
    rw [varint_of_lt low, List.singleton_append, readVarint, byte, if_pos low,
      if_neg fun outside => inside outside.2]
  | succ width inductionHypothesis =>
    by_cases low : number < 128
    · have byte : (UInt8.ofNat number).toNat = number := toNat_byte (by omega)
      rw [varint_of_lt low, List.singleton_append, readVarint, byte, if_pos low,
        if_neg fun outside => Nat.succ_ne_zero width outside.1]
    · have byte : (UInt8.ofNat (number % 128 + 128)).toNat = number % 128 + 128 :=
        toNat_byte (by omega)
      have more : ¬ number % 128 + 128 < 128 := by omega
      have fewer : number / 128 < 128 ^ width * (lastByte + 1) := by
        apply Nat.div_lt_of_lt_mul
        rw [← Nat.mul_assoc, ← Nat.pow_succ']
        exact fits
      rw [varint_of_le (Nat.le_of_not_lt low), List.cons_append, readVarint, byte, if_neg more,
        inductionHypothesis fewer]
      have value : number % 128 + 128 - 128 + 128 * (number / 128) = number := by omega
      exact congrArg (fun read => Except.ok (read, rest)) value

/-- A number of 32 bits is read as it was written. -/
theorem readNumber32_varint {number : Nat} (fits : number < 2 ^ 32) (rest : Bytes) :
    readNumber32 (varint number ++ rest) = .ok (number, rest) :=
  readVarint_varint (by decide) fits rest

/-- A number of 64 bits is read as it was written. -/
theorem readNumber64_varint {number : Nat} (fits : number < 2 ^ 64) (rest : Bytes) :
    readNumber64 (varint number ++ rest) = .ok (number, rest) :=
  readVarint_varint (by decide) fits rest

/-! ## Fields -/

/-- Bytes are read as they were written, behind their length. -/
theorem readBytes_bytes {value : Bytes} (fits : value.length < 2 ^ 64) (rest : Bytes) :
    readBytes (bytes value ++ rest) = .ok (value, rest) := by
  rw [readBytes, bytes, List.append_assoc, readNumber64_varint fits]
  simp

/-- A text is read as it was written, byte by byte. -/
theorem readText_text {value : String} (fits : (Text.toBytes value).length < 2 ^ 64)
    (rest : Bytes) : readText (text value ++ rest) = .ok (value, rest) := by
  rw [readText, text, readBytes_bytes fits]
  simp [Text.ofBytes?_toBytes]

/-- Extents are read one after the other, behind those that have been read. -/
theorem readExtentList_flatMap (read values : List UInt64) (rest : Bytes) :
    readExtentList read values.length ((values.flatMap fun value => varint value.toNat) ++ rest) =
      .ok (read.reverse ++ values, rest) := by
  induction values generalizing read with
  | nil => simp [readExtentList]
  | cons value values inductionHypothesis =>
    rw [List.flatMap_cons, List.length_cons, List.append_assoc, readExtentList,
      readNumber64_varint value.toNat_lt]
    simp [inductionHypothesis]

/-- Extents are read as they were written, behind their number. -/
theorem readExtents_extents {values : List UInt64} (fits : values.length < 2 ^ 64)
    (rest : Bytes) : readExtents (extents values ++ rest) = .ok (values, rest) := by
  rw [readExtents, extents, List.append_assoc, readNumber64_varint fits]
  exact readExtentList_flatMap [] values rest

/-- Every extent takes at least one byte. -/
theorem length_le_extents (values : List UInt64) : values.length ≤ (extents values).length := by
  have each : ∀ values : List UInt64,
      values.length ≤ (values.flatMap fun value => varint value.toNat).length := by
    intro values
    induction values with
    | nil => exact Nat.le_refl 0
    | cons value values inductionHypothesis =>
      have written : 1 ≤ (varint value.toNat).length := by
        rw [varint]
        split <;> simp
      rw [List.flatMap_cons, List.length_append, List.length_cons]
      omega
  rw [extents, List.length_append]
  exact Nat.le_trans (each values) (Nat.le_add_left _ _)

/-- A text takes at least its own bytes. -/
theorem length_toBytes_le_text (value : String) :
    (Text.toBytes value).length ≤ (text value).length := by
  rw [text, bytes, List.length_append]
  exact Nat.le_add_left _ _

/-- Bytes take at least themselves. -/
theorem length_le_bytes (value : Bytes) : value.length ≤ (bytes value).length := by
  rw [bytes, List.length_append]
  exact Nat.le_add_left _ _

/-! ## Operations -/

/-- The fields of an operation are read back by its kind. -/
theorem readFields_fields {operation : Operation} (fits : (fields operation).length < 2 ^ 64)
    (rest : Bytes) :
    readFields operation.kindNumber (fields operation ++ rest) = .ok (operation, rest) := by
  have ofPath (build : String → Operation) {path : String} (short : (text path).length < 2 ^ 64) :
      readPath build (text path ++ rest) = .ok (build path, rest) := by
    have path := readText_text (Nat.lt_of_le_of_lt (length_toBytes_le_text path) short) rest
    rw [readPath, path]
    rfl
  have ofExtents (build : String → List UInt64 → Operation) {path : String}
      {values : List UInt64} (short : (text path ++ extents values).length < 2 ^ 64) :
      readPathExtents build (text path ++ extents values ++ rest) =
        .ok (build path values, rest) := by
    rw [List.length_append] at short
    have pathFits := Nat.lt_of_le_of_lt (length_toBytes_le_text path)
      (Nat.lt_of_le_of_lt (Nat.le_add_right _ _) short)
    have valuesFit := Nat.lt_of_le_of_lt (length_le_extents values)
      (Nat.lt_of_le_of_lt (Nat.le_add_left _ _) short)
    rw [readPathExtents, List.append_assoc, readText_text pathFits]
    show (readExtents (extents values ++ rest) >>= _) = _
    rw [readExtents_extents valuesFit]
    rfl
  cases operation with
  | close => rfl
  | createDataset path values => exact ofExtents .createDataset fits
  | openDataset path => exact ofPath .openDataset fits
  | extendDataset path values => exact ofExtents .extendDataset fits
  | closeDataset path => exact ofPath .closeDataset fits
  | createGroup path => exact ofPath .createGroup fits
  | openGroup path => exact ofPath .openGroup fits
  | closeGroup path => exact ofPath .closeGroup fits
  | createAttribute path name =>
    have lengths : (text path).length + (text name).length < 2 ^ 64 := by
      rw [← List.length_append]
      exact fits
    have pathFits := length_toBytes_le_text path
    have nameFits := length_toBytes_le_text name
    show (readText (text path ++ text name ++ rest) >>= _) = _
    rw [List.append_assoc, readText_text (by omega)]
    show (readText (text name ++ rest) >>= _) = _
    rw [readText_text (by omega)]
    rfl
  | writeAttribute path name value =>
    have lengths : (text path).length + (text name).length + (bytes value).length < 2 ^ 64 := by
      rw [← List.length_append, ← List.length_append]
      exact fits
    have pathFits := length_toBytes_le_text path
    have nameFits := length_toBytes_le_text name
    have valueFits := length_le_bytes value
    show (readText (text path ++ text name ++ bytes value ++ rest) >>= _) = _
    rw [List.append_assoc, List.append_assoc, readText_text (by omega)]
    show (readText (text name ++ (bytes value ++ rest)) >>= _) = _
    rw [readText_text (by omega)]
    show (readBytes (bytes value ++ rest) >>= _) = _
    rw [readBytes_bytes (by omega)]
    rfl
  | commitDatatype path => exact ofPath .commitDatatype fits

/-- An operation is read back from the front of a byte string, and what follows is left. -/
theorem readOperation_encode {operation : Operation} (fits : (encode operation).length < 2 ^ 64)
    (rest : Bytes) : readOperation (encode operation ++ rest) = .ok (operation, rest) := by
  have few := operation.kindNumber_le
  have kind : operation.kindNumber < 2 ^ 32 := by omega
  have fieldsFit : (fields operation).length < 2 ^ 64 := by
    rw [encode, List.length_append] at fits
    exact Nat.lt_of_le_of_lt (Nat.le_add_left _ _) fits
  rw [readOperation, encode, List.append_assoc, readNumber32_varint kind]
  exact readFields_fields fieldsFit rest

/-! ## Tags -/

/-- What a tag makes of bytes that begin with an operation. -/
theorem decode_encode_append {operation : Operation} (fits : (encode operation).length < 2 ^ 64)
    (tag : OpTag) (rest : Bytes) :
    decode tag (encode operation ++ rest) =
      if tag.toInt < 0 ∨ 10 < tag.toInt then .error (.unknownOperation tag)
      else if operation.tag = tag then .ok operation
      else .error (.invalidPayload tag ("payload encodes " ++ operation.tag.name)) := by
  rw [decode, readOperation_encode fits]

/-- Every operation has a known tag. -/
theorem tag_known (operation : Operation) :
    ¬ (operation.tag.toInt < 0 ∨ 10 < operation.tag.toInt) := by
  have few := operation.kindNumber_le
  rw [operation.toInt_tag]
  omega

/-- An operation is read back from its payload, whatever follows. -/
theorem decode_encode {operation : Operation} (fits : (encode operation).length < 2 ^ 64)
    (rest : Bytes) : decode operation.tag (encode operation ++ rest) = .ok operation := by
  rw [decode_encode_append fits, if_neg (tag_known operation), if_pos rfl]

/-- A payload is read only as an operation of the kind that the tag says. -/
theorem tag_of_decode {tag : OpTag} {payload : Bytes} {operation : Operation}
    (read : decode tag payload = .ok operation) : operation.tag = tag := by
  unfold decode at read
  split at read
  · cases read
  · split at read
    · cases read
    · split at read
      · next same =>
        cases read
        exact same
      · cases read

/-- The payload of any operation tells where it ends: whatever follows it is left. Under the tag of
the operation it is read back, and under every other it is refused: a tag that no operation has is
unknown, and under any of the ten others it is told what the payload encodes. Conversely, whatever
bytes are read as an operation, they are read under its own tag. Lengths are numbers of sixty-four
bits, so a payload can be no longer than these can tell. -/
theorem read_under_own_tag_only :
    (∀ (operation : Operation) (rest : Bytes), (encode operation).length < 2 ^ 64 →
      readOperation (encode operation ++ rest) = .ok (operation, rest) ∧
      decode operation.tag (encode operation ++ rest) = .ok operation ∧
      ∀ tag, tag ≠ operation.tag →
        ((tag.toInt < 0 ∨ 10 < tag.toInt) →
          decode tag (encode operation ++ rest) = .error (.unknownOperation tag)) ∧
        (0 ≤ tag.toInt → tag.toInt ≤ 10 →
          decode tag (encode operation ++ rest) =
            .error (.invalidPayload tag ("payload encodes " ++ operation.tag.name)))) ∧
    ∀ (tag : OpTag) (data : Bytes) (operation : Operation),
      decode tag data = .ok operation → operation.tag = tag := by
  refine ⟨?_, fun _ _ _ => tag_of_decode⟩
  intro operation rest fits
  refine ⟨readOperation_encode fits rest, decode_encode fits rest, fun tag different => ⟨?_, ?_⟩⟩
  · intro unknown
    rw [decode_encode_append fits, if_pos unknown]
  · intro lowest highest
    have known : ¬ (tag.toInt < 0 ∨ 10 < tag.toInt) := by omega
    rw [decode_encode_append fits, if_neg known, if_neg (Ne.symm different)]

/-- An operation with a text beyond a byte for each character, and a value. -/
def writeUnit : Operation :=
  .writeAttribute "/ö" "unit" [0, 255]

/-- Writing an attribute is read under its own tag, with bytes to spare, and under no other one. -/
theorem read_under_own_tag_only_writeUnit :
    (encode writeUnit).length < 2 ^ 64 ∧
    decode writeUnit.tag (encode writeUnit ++ [1, 2]) = .ok writeUnit ∧
    decode ⟨-1⟩ (encode writeUnit ++ [1, 2]) = .error (.unknownOperation ⟨-1⟩) ∧
    decode ⟨8⟩ (encode writeUnit ++ [1, 2]) = .error (.invalidPayload ⟨8⟩ "payload encodes op9") ∧
    writeUnit.tag = ⟨9⟩ := by
  have fits : (encode writeUnit).length < 2 ^ 64 := by decide +kernel
  obtain ⟨read, tagged⟩ := read_under_own_tag_only
  obtain ⟨-, own, others⟩ := read writeUnit [1, 2] fits
  exact ⟨fits, own, (others ⟨-1⟩ (by decide)).1 (.inl (by decide)),
    (others ⟨8⟩ (by decide)).2 (by decide) (by decide), tagged ⟨9⟩ _ writeUnit own⟩

end Payload

end Concord
