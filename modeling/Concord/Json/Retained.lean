import Concord.Json.Decimal

/-!
# Documents that are kept whole

A structure whose tag may come after its other members has to keep those members until the
tag is known. Keeping a document asks more of it than skipping it: every text needs a
value, every number has to have a finite value as a double-precision float, and nesting has
a limit.
-/

namespace Concord.Json

/-- The number of levels of brackets within one another that a kept document may have,
counting those around it. -/
def nestingLimit : Nat :=
  127

mutual

/-- Whether a document with room for `levels` more levels of brackets can be kept. -/
def isRetainable (levels : Nat) : Json → Bool
  | .null => true
  | .bool _ => true
  | .number literal => (Decimal.ofLiteral literal).isFinite
  | .text content => content.isSome
  | .array items => 0 < levels && areRetainable (levels - 1) items
  | .object members => 0 < levels && membersRetainable (levels - 1) members

/-- Whether all items of an array can be kept. -/
def areRetainable (levels : Nat) : List Json → Bool
  | [] => true
  | item :: rest => isRetainable levels item && areRetainable levels rest

/-- Whether all members of an object can be kept. -/
def membersRetainable (levels : Nat) : List (Option String × Json) → Bool
  | [] => true
  | (name, value) :: rest =>
    name.isSome && isRetainable levels value && membersRetainable levels rest

end

end Concord.Json
