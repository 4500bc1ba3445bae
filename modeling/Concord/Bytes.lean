import Concord.Text.Hexadecimal

/-!
# Byte strings

Byte strings are lists of bytes. Numbers travel in a fixed number of bytes, the least
significant first: `littleEndian` writes them and `littleEndianValue` reads them back.
-/

namespace Concord

/-- A byte string. -/
abbrev Bytes := List UInt8

namespace Bytes

/-- The lowest `width` bytes of a number, the least significant first. -/
def littleEndian : (width : Nat) → Nat → Bytes
  | 0, _ => []
  | width + 1, number => UInt8.ofNat number :: littleEndian width (number / 256)

/-- The number that bytes denote, the least significant first. -/
def littleEndianValue : Bytes → Nat
  | [] => 0
  | byte :: rest => byte.toNat + 256 * littleEndianValue rest

/-- The number in `width` bytes that start at an offset. -/
def field (data : Bytes) (offset width : Nat) : Nat :=
  littleEndianValue ((data.drop offset).take width)

/-- Two digits of base sixteen for each byte. -/
def toHex (data : Bytes) : String :=
  String.ofList (data.flatMap fun byte =>
    [Text.hexDigit (byte.toNat / 16), Text.hexDigit (byte.toNat % 16)])

/-- Read pairs of digits of base sixteen behind the bytes already read, which are held in
reverse; an odd digit or any other character is refused. -/
def ofHexDigits? (read : Bytes) : List Char → Option Bytes
  | [] => some read.reverse
  | [_] => none
  | high :: low :: rest =>
    match Text.hexValue? high, Text.hexValue? low with
    | some highValue, some lowValue =>
      ofHexDigits? (UInt8.ofNat (16 * highValue + lowValue) :: read) rest
    | _, _ => none

/-- Read a byte string written in base sixteen. -/
def ofHex? (text : String) : Option Bytes :=
  ofHexDigits? [] text.toList

/-- A number is written on as many bytes as are asked for. -/
@[simp] theorem length_littleEndian (width number : Nat) :
    (littleEndian width number).length = width := by
  induction width generalizing number with
  | zero => rfl
  | succ width inductionHypothesis => simp [littleEndian, inductionHypothesis]

/-- Bytes are the written form of the number they denote. -/
theorem littleEndian_littleEndianValue (data : Bytes) :
    littleEndian data.length (littleEndianValue data) = data := by
  induction data with
  | nil => rfl
  | cons byte rest inductionHypothesis =>
    have small := byte.toNat_lt
    have quotient : (byte.toNat + 256 * littleEndianValue rest) / 256 = littleEndianValue rest := by
      omega
    have head : UInt8.ofNat (byte.toNat + 256 * littleEndianValue rest) = byte := by
      apply UInt8.toNat_inj.1
      rw [UInt8.toNat_ofNat']
      omega
    simp [littleEndian, littleEndianValue, quotient, inductionHypothesis, head]

end Bytes

end Concord
