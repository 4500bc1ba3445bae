/-!
# JSON documents

A document as it was written: numbers keep their digits, an object keeps all its members in
their order, and a text whose escapes name half of a surrogate pair is kept as having no
value. What a number or a repeated member means is for the reader of a particular type to
say.
-/

namespace Concord

/-- A JSON document. -/
inductive Json where
  | null
  | bool (value : Bool)
  /-- A number, by its digits. -/
  | number (literal : String)
  /-- A text, or none if its escapes name no text. -/
  | text (content : Option String)
  | array (items : List Json)
  | object (members : List (Option String × Json))
deriving Inhabited

namespace Json

/-- A text. -/
def ofString (content : String) : Json :=
  .text (some content)

/-- An integer. -/
def ofInt (number : Int) : Json :=
  .number (toString number)

/-- A natural number. -/
def ofNat (number : Nat) : Json :=
  .number (toString number)

/-- An object with the given members. -/
def record (members : List (String × Json)) : Json :=
  .object (members.map fun (name, value) => (some name, value))

/-- A value, or null. -/
def ofOption {Value : Type} (encode : Value → Json) : Option Value → Json
  | none => .null
  | some value => encode value

/-- An array of encoded values. -/
def ofList {Value : Type} (encode : Value → Json) (values : List Value) : Json :=
  .array (values.map encode)

end Json

end Concord
