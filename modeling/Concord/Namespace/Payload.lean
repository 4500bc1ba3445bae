import Concord.Execution
import Concord.Namespace.Operation
import Concord.Text.Utf8

/-!
# Operations as payloads

An operation is written as the number of its kind and then its fields. Numbers and lengths
are varints: seven bits to a byte, the lowest first, and the high bit on every byte but the
last. Text and lists are preceded by their length. `decode` reads one operation from the
front of a payload and ignores what follows it; the kind must be the one that the tag says.
-/

namespace Concord

/-- What is wrong with bytes that are no operation. -/
inductive PayloadError where
  | unexpectedEnd
  | unterminatedVarint
  | invalidUtf8
  | unknownKind
deriving DecidableEq, Inhabited

/-- The wording of each fault. -/
def PayloadError.message : PayloadError → String
  | .unexpectedEnd => "Hit the end of buffer, expected more data"
  | .unterminatedVarint =>
    "Found a varint that didn't terminate. Is the usize too big for this platform?"
  | .invalidUtf8 => "Tried to parse invalid utf-8"
  | .unknownKind => "Serde Deserialization Error"

namespace Payload

/-- A reader takes a value from the front of a byte string and gives back the rest. -/
abbrev Reader (Value : Type) := Bytes → Except PayloadError (Value × Bytes)

/-! ## Varints -/

/-- A number as a varint. -/
def varint (number : Nat) : Bytes :=
  if number < 128 then [UInt8.ofNat number]
  else UInt8.ofNat (number % 128 + 128) :: varint (number / 128)
termination_by number

/-- Read a varint of at most `width` bytes, the last of which may be at most `lastByte`. -/
def readVarint (lastByte : Nat) : (width : Nat) → Reader Nat
  | 0, _ => .error .unterminatedVarint
  | _ + 1, [] => .error .unexpectedEnd
  | width + 1, byte :: rest =>
    if byte.toNat < 128 then
      if width = 0 ∧ lastByte < byte.toNat then .error .unterminatedVarint
      else .ok (byte.toNat, rest)
    else
      match readVarint lastByte width rest with
      | .error cause => .error cause
      | .ok (high, remaining) => .ok (byte.toNat - 128 + 128 * high, remaining)

/-- Read a number of thirty-two bits. -/
def readNumber32 : Reader Nat :=
  readVarint 0x0f 5

/-- Read a number of sixty-four bits. -/
def readNumber64 : Reader Nat :=
  readVarint 0x01 10

/-! ## Fields -/

/-- Bytes behind their length. -/
def bytes (value : Bytes) : Bytes :=
  varint value.length ++ value

/-- Read bytes behind their length. -/
def readBytes : Reader Bytes := fun data =>
  match readNumber64 data with
  | .error cause => .error cause
  | .ok (length, rest) =>
    if rest.length < length then .error .unexpectedEnd
    else .ok (rest.take length, rest.drop length)

/-- Text behind its length in bytes. -/
def text (value : String) : Bytes :=
  bytes (Text.toBytes value)

/-- Read text behind its length in bytes. -/
def readText : Reader String := fun data =>
  match readBytes data with
  | .error cause => .error cause
  | .ok (content, rest) =>
    match Text.ofBytes? content with
    | none => .error .invalidUtf8
    | some value => .ok (value, rest)

/-- Extents behind their number. -/
def extents (values : List UInt64) : Bytes :=
  varint values.length ++ values.flatMap fun value => varint value.toNat

/-- Read this many extents; `read` holds those before them in reverse. -/
def readExtentList (read : List UInt64) : (count : Nat) → Reader (List UInt64)
  | 0, data => .ok (read.reverse, data)
  | count + 1, data =>
    match readNumber64 data with
    | .error cause => .error cause
    | .ok (value, rest) => readExtentList (UInt64.ofNat value :: read) count rest

/-- Read extents behind their number. -/
def readExtents : Reader (List UInt64) := fun data =>
  match readNumber64 data with
  | .error cause => .error cause
  | .ok (count, rest) => readExtentList [] count rest

/-! ## Operations -/

/-- The fields of an operation. -/
def fields : Operation → Bytes
  | .close => []
  | .createDataset path values => text path ++ extents values
  | .openDataset path => text path
  | .extendDataset path values => text path ++ extents values
  | .closeDataset path => text path
  | .createGroup path => text path
  | .openGroup path => text path
  | .closeGroup path => text path
  | .createAttribute path name => text path ++ text name
  | .writeAttribute path name value => text path ++ text name ++ bytes value
  | .commitDatatype path => text path

/-- An operation as a payload. -/
def encode (operation : Operation) : Bytes :=
  varint operation.kindNumber ++ fields operation

/-- Read an operation that has only a path. -/
def readPath (build : String → Operation) : Reader Operation := fun data => do
  let (path, rest) ← readText data
  return (build path, rest)

/-- Read an operation that has a path and extents. -/
def readPathExtents (build : String → List UInt64 → Operation) : Reader Operation :=
  fun data => do
    let (path, afterPath) ← readText data
    let (values, rest) ← readExtents afterPath
    return (build path values, rest)

/-- Read the fields of an operation of the kind with this number. -/
def readFields (kind : Nat) : Reader Operation := fun data =>
  match kind with
  | 0 => .ok (.close, data)
  | 1 => readPathExtents .createDataset data
  | 2 => readPath .openDataset data
  | 3 => readPathExtents .extendDataset data
  | 4 => readPath .closeDataset data
  | 5 => readPath .createGroup data
  | 6 => readPath .openGroup data
  | 7 => readPath .closeGroup data
  | 8 => do
    let (path, afterPath) ← readText data
    let (name, rest) ← readText afterPath
    return (.createAttribute path name, rest)
  | 9 => do
    let (path, afterPath) ← readText data
    let (name, afterName) ← readText afterPath
    let (value, rest) ← readBytes afterName
    return (.writeAttribute path name value, rest)
  | 10 => readPath .commitDatatype data
  | _ => .error .unknownKind

/-- Read an operation from the front of a payload. -/
def readOperation : Reader Operation := fun data => do
  let (kind, rest) ← readNumber32 data
  readFields kind rest

/-- The operation in a payload of the kind that a tag says. -/
def decode (tag : OpTag) (payload : Bytes) : Except ExecutorError Operation :=
  if tag.toInt < 0 ∨ 10 < tag.toInt then .error (.unknownOperation tag)
  else
    match readOperation payload with
    | .error cause => .error (.invalidPayload tag cause.message)
    | .ok (operation, _) =>
      if operation.tag = tag then .ok operation
      else .error (.invalidPayload tag ("payload encodes " ++ operation.tag.name))

end Payload

end Concord
