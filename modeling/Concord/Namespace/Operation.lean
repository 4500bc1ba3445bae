import Concord.Bytes
import Concord.Identity
import Concord.Json.Decode

/-!
# Operations on the namespace

What processes propose to one another: changes of a tree of groups, datasets and datatypes
with attributes. Each kind of operation has its own tag, numbered from zero.
-/

namespace Concord

/-- A change of the shared namespace. -/
inductive Operation where
  /-- A process will propose nothing more. -/
  | close
  | createDataset (path : String) (extents : List UInt64)
  | openDataset (path : String)
  | extendDataset (path : String) (extents : List UInt64)
  | closeDataset (path : String)
  | createGroup (path : String)
  | openGroup (path : String)
  | closeGroup (path : String)
  | createAttribute (path name : String)
  | writeAttribute (path name : String) (value : Bytes)
  | commitDatatype (path : String)
deriving DecidableEq, Inhabited

namespace Operation

/-- The number of an operation's kind. -/
def kindNumber : Operation → Nat
  | .close => 0
  | .createDataset _ _ => 1
  | .openDataset _ => 2
  | .extendDataset _ _ => 3
  | .closeDataset _ => 4
  | .createGroup _ => 5
  | .openGroup _ => 6
  | .closeGroup _ => 7
  | .createAttribute _ _ => 8
  | .writeAttribute _ _ _ => 9
  | .commitDatatype _ => 10

/-- The tag of an operation's kind. -/
def tag (operation : Operation) : OpTag :=
  ⟨Int32.ofNat operation.kindNumber⟩

/-- The object that an operation is about; closing is about the root. -/
def path : Operation → String
  | .close => "/"
  | .createDataset path _ => path
  | .openDataset path => path
  | .extendDataset path _ => path
  | .closeDataset path => path
  | .createGroup path => path
  | .openGroup path => path
  | .closeGroup path => path
  | .createAttribute path _ => path
  | .writeAttribute path _ _ => path
  | .commitDatatype path => path

/-- Extents as a document. -/
def extentsToJson (extents : List UInt64) : Json :=
  .ofList (fun extent => .ofNat extent.toNat) extents

/-- Bytes as a document. -/
def bytesToJson (bytes : Bytes) : Json :=
  .ofList (fun byte => .ofNat byte.toNat) bytes

/-- An operation as a document: its name, and its fields where it has any. -/
def toJson : Operation → Json
  | .close => .ofString "Close"
  | .createDataset path extents =>
    .record [("CreateDataset",
      .record [("path", .ofString path), ("dims", extentsToJson extents)])]
  | .openDataset path => .record [("OpenDataset", .record [("path", .ofString path)])]
  | .extendDataset path extents =>
    .record [("ExtendDataset",
      .record [("path", .ofString path), ("dims", extentsToJson extents)])]
  | .closeDataset path => .record [("CloseDataset", .record [("path", .ofString path)])]
  | .createGroup path => .record [("CreateGroup", .record [("path", .ofString path)])]
  | .openGroup path => .record [("OpenGroup", .record [("path", .ofString path)])]
  | .closeGroup path => .record [("CloseGroup", .record [("path", .ofString path)])]
  | .createAttribute path name =>
    .record [("CreateAttribute",
      .record [("path", .ofString path), ("name", .ofString name)])]
  | .writeAttribute path name value =>
    .record [("WriteAttribute",
      .record [("path", .ofString path), ("name", .ofString name),
        ("value", bytesToJson value)])]
  | .commitDatatype path => .record [("CommitDatatype", .record [("path", .ofString path)])]

/-- An operation whose only field is its path. -/
def ofPath? (build : String → Operation) (content : Json) : Option Operation := do
  let fields ← content.fields? ["path"]
  let path ← fields.required? "path" Json.string?
  return build path

/-- An operation with a path and extents. -/
def ofExtents? (build : String → List UInt64 → Operation) (content : Json) :
    Option Operation := do
  let fields ← content.fields? ["path", "dims"]
  let path ← fields.required? "path" Json.string?
  let extents ← fields.required? "dims" (Json.list? Json.uint64?)
  return build path extents

/-- The creation of an attribute. -/
def ofAttribute? (content : Json) : Option Operation := do
  let fields ← content.fields? ["path", "name"]
  let path ← fields.required? "path" Json.string?
  let name ← fields.required? "name" Json.string?
  return .createAttribute path name

/-- The writing of an attribute. -/
def ofAttributeValue? (content : Json) : Option Operation := do
  let fields ← content.fields? ["path", "name", "value"]
  let path ← fields.required? "path" Json.string?
  let name ← fields.required? "name" Json.string?
  let value ← fields.required? "value" (Json.list? Json.uint8?)
  return .writeAttribute path name value

/-- The operation that a document describes. -/
def ofJson? (document : Json) : Option Operation := do
  let (name, content) ← document.choice?
  match name with
  | "Close" => if Json.isBare content then some .close else none
  | "CreateDataset" => content.bind (ofExtents? .createDataset)
  | "OpenDataset" => content.bind (ofPath? .openDataset)
  | "ExtendDataset" => content.bind (ofExtents? .extendDataset)
  | "CloseDataset" => content.bind (ofPath? .closeDataset)
  | "CreateGroup" => content.bind (ofPath? .createGroup)
  | "OpenGroup" => content.bind (ofPath? .openGroup)
  | "CloseGroup" => content.bind (ofPath? .closeGroup)
  | "CreateAttribute" => content.bind ofAttribute?
  | "WriteAttribute" => content.bind ofAttributeValue?
  | "CommitDatatype" => content.bind (ofPath? .commitDatatype)
  | _ => none

end Operation

end Concord
