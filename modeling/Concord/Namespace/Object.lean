import Concord.Namespace.Operation
import Std.Data.ExtTreeMap

/-!
# Objects

An object is a group, a dataset with its extents, or a datatype. It has attributes, which
have no value until they are first written, and a count of how often it is open.
-/

namespace Concord

/-- What an object is. -/
inductive ObjectKind where
  | group
  | dataset (extents : List UInt64)
  | datatype
deriving DecidableEq, Inhabited

namespace ObjectKind

/-- A kind as a document. -/
def toJson : ObjectKind → Json
  | .group => .ofString "Group"
  | .dataset extents =>
    .record [("Dataset", .record [("dims", Operation.extentsToJson extents)])]
  | .datatype => .ofString "Datatype"

/-- The kind that a document describes. The extents of a dataset go by their name. -/
def ofJson? (document : Json) : Option ObjectKind := do
  let (name, content) ← document.choice?
  if name = "Group" ∧ Json.isBare content then some .group
  else if name = "Datatype" ∧ Json.isBare content then some .datatype
  else if name = "Dataset" then
    let content ← content
    let fields ← content.namedFields? ["dims"]
    let extents ← fields.required? "dims" (Json.list? Json.uint64?)
    return .dataset extents
  else none

end ObjectKind

/-- The attributes of an object, by name. -/
abbrev Attributes := Std.ExtTreeMap String (Option Bytes)

/-- One object of the namespace. -/
structure Object where
  kind : ObjectKind
  attributes : Attributes
  openCount : UInt32

namespace Object

/-- An object as it is created. -/
def create (kind : ObjectKind) : Object :=
  ⟨kind, ∅, 0⟩

/-- An object as a document. -/
def toJson (object : Object) : Json :=
  .record [
    ("kind", object.kind.toJson),
    ("attributes",
      .record (object.attributes.toList.map fun (name, value) =>
        (name, .ofOption Operation.bytesToJson value))),
    ("open", .ofNat object.openCount.toNat)]

/-- The object that a document describes. -/
def ofJson? (document : Json) : Option Object := do
  let fields ← document.fields? ["kind", "attributes", "open"]
  let kind ← fields.required? "kind" ObjectKind.ofJson?
  let attributes ← fields.required? "attributes"
    (Json.entries? (Json.nullable? (Json.list? Json.uint8?)))
  let openCount ← fields.required? "open" Json.uint32?
  return ⟨kind, Std.ExtTreeMap.ofList attributes, openCount⟩

end Object

end Concord
