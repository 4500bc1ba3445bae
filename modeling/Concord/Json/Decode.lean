import Concord.Json

/-!
# Values from JSON

A structure is an object with its fields as members, in any order and among others, or an
array of its fields in order; no field may be given twice. A choice is a text that names an
alternative, or an object whose only member does. An integer is written in plain digits.
-/

namespace Concord.Json

/-- The number that decimal digits denote. -/
def digitsValue (digits : List Char) : Nat :=
  digits.foldl (fun value digit => 10 * value + (digit.toNat - 48)) 0

/-- An integer in plain digits. A negative zero is not plain. -/
def int? : Json → Option Int
  | .number literal =>
    match literal.toList with
    | '-' :: digits =>
      if digits.all Char.isDigit ∧ digits ≠ ['0'] then some (-(digitsValue digits : Int)) else none
    | digits => if digits.all Char.isDigit then some (digitsValue digits : Int) else none
  | _ => none

/-- A natural number below a bound. -/
def natBelow? (bound : Nat) (document : Json) : Option Nat := do
  let number ← document.int?
  if 0 ≤ number ∧ number < (bound : Int) then some number.toNat else none

/-- A number of eight bits. -/
def uint8? (document : Json) : Option UInt8 :=
  (document.natBelow? UInt8.size).map UInt8.ofNat

/-- A number of thirty-two bits. -/
def uint32? (document : Json) : Option UInt32 :=
  (document.natBelow? UInt32.size).map UInt32.ofNat

/-- A number of sixty-four bits. -/
def uint64? (document : Json) : Option UInt64 :=
  (document.natBelow? UInt64.size).map UInt64.ofNat

/-- A size, which fits sixty-four bits. -/
def size? (document : Json) : Option Nat :=
  document.natBelow? UInt64.size

/-- A signed number of thirty-two bits. -/
def int32? (document : Json) : Option Int32 := do
  let number ← document.int?
  if Int32.minValue.toInt ≤ number ∧ number ≤ Int32.maxValue.toInt then
    some (Int32.ofInt number)
  else none

/-- A truth value. -/
def bool? : Json → Option Bool
  | .bool value => some value
  | _ => none

/-- A text that has a value. -/
def string? : Json → Option String
  | .text content => content
  | _ => none

/-- An array of values. -/
def list? {Value : Type} (decode : Json → Option Value) : Json → Option (List Value)
  | .array items => items.mapM decode
  | _ => none

/-- Null, or a value. -/
def nullable? {Value : Type} (decode : Json → Option Value) : Json → Option (Option Value)
  | .null => some none
  | document => (decode document).map some

/-- An object whose members all have the same type of value. -/
def entries? {Value : Type} (decode : Json → Option Value) :
    Json → Option (List (String × Value))
  | .object members =>
    members.mapM fun (name, value) => do
      let name ← name
      let value ← decode value
      return (name, value)
  | _ => none

/-- The fields of a structure, by name; a field that is not given has no document. -/
abbrev Fields := List (String × Option Json)

/-- The documents of the members that have a name. -/
def membersNamed (name : String) (members : List (Option String × Json)) : List Json :=
  (members.filter fun member => member.1 = some name).map Prod.snd

/-- The fields of a structure with the given names. -/
def fields? (names : List String) : Json → Option Fields
  | .object members =>
    if members.all fun member => member.1.isSome then
      names.mapM fun name =>
        match membersNamed name members with
        | [] => some (name, none)
        | [value] => some (name, some value)
        | _ => none
    else none
  | .array items =>
    if items.length ≤ names.length then
      some (names.zipIdx.map fun (name, index) => (name, items[index]?))
    else none
  | _ => none

/-- The fields of a structure that is written with its field names only. -/
def namedFields? (names : List String) : Json → Option Fields
  | .array _ => none
  | document => document.fields? names

/-- A field that has to be given. -/
def Fields.required? {Value : Type} (fields : Fields) (name : String)
    (decode : Json → Option Value) : Option Value := do
  let document ← (fields.lookup name).join
  decode document

/-- A field that has a default. -/
def Fields.optional? {Value : Type} (fields : Fields) (name : String) (default : Value)
    (decode : Json → Option Value) : Option Value :=
  match (fields.lookup name).join with
  | none => some default
  | some document => decode document

/-- The name of a chosen alternative, and what the choice carries. -/
def choice? : Json → Option (String × Option Json)
  | .text (some name) => some (name, none)
  | .object [(some name, content)] => some (name, some content)
  | _ => none

/-- Whether a choice carries nothing. -/
def isBare : Option Json → Bool
  | none => true
  | some .null => true
  | some _ => false

/-- A member of an object, the last one if there are several. -/
def get? (document : Json) (name : String) : Option Json :=
  match document with
  | .object members => (membersNamed name members).getLast?
  | _ => none

end Concord.Json
