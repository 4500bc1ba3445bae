import Concord.Error
import Concord.Namespace.Object
import Concord.Namespace.Path
import Concord.Text.Quoted

/-!
# The namespace

The namespace maps paths to objects. `Namespace.apply` carries out one operation: it gives
the changed namespace or says why nothing changed. An operation changes the object at its
own path and no other.
-/

namespace Concord

/-- The shared tree of objects, by path. -/
structure Namespace where
  objects : Std.ExtTreeMap String Object

namespace Namespace

/-- A namespace that holds only the root group. -/
def empty : Namespace :=
  ⟨(∅ : Std.ExtTreeMap String Object).insert Path.root (.create .group)⟩

/-- The object at a path. -/
def get? (space : Namespace) (path : String) : Option Object :=
  space.objects[path]?

/-- How many objects there are. -/
def size (space : Namespace) : Nat :=
  space.objects.size

/-- Whether there is exactly one object, as in a namespace that holds only the root. -/
def isEmpty (space : Namespace) : Bool :=
  space.size = 1

/-- Put an object at a path. -/
def put (space : Namespace) (path : String) (object : Object) : Namespace :=
  ⟨space.objects.insert path object⟩

/-- A request that contradicts the present namespace. -/
def invalid {Value : Type} (field reason : String) : Except DomainError Value :=
  .error (.validation field reason)

/-- Create an object under an existing group. -/
def create (space : Namespace) (path : String) (kind : ObjectKind) :
    Except DomainError Namespace :=
  match Path.parent? path with
  | none => invalid "path" (path ++ " is not an absolute child path")
  | some parent =>
    match (space.get? parent).map Object.kind with
    | none => .error (.notFound "group" parent)
    | some .group =>
      if (space.get? path).isSome then invalid "path" (path ++ " already exists")
      else .ok (space.put path (.create kind))
    | some _ => invalid "path" ("parent " ++ parent ++ " is not a group")

/-- Change an existing object. -/
def modify (space : Namespace) (path : String) (change : Object → Except DomainError Object) :
    Except DomainError Namespace :=
  match space.get? path with
  | none => .error (.notFound "object" path)
  | some object =>
    match change object with
    | .error cause => .error cause
    | .ok changed => .ok (space.put path changed)

/-- Open an object once more; the count goes around after `2 ^ 32` openings. -/
def openObject (object : Object) : Except DomainError Object :=
  .ok { object with openCount := object.openCount + 1 }

/-- Close an object that is open. -/
def closeObject (path : String) (object : Object) : Except DomainError Object :=
  if object.openCount = 0 then invalid "path" (path ++ " is not open")
  else .ok { object with openCount := object.openCount - 1 }

/-- Whether extents have the same number as those before, and none is smaller. -/
def grows (before after : List UInt64) : Bool :=
  after.length = before.length && (after.zip before).all fun (new, old) => old ≤ new

/-- Extents as messages show them. -/
def renderExtents (extents : List UInt64) : String :=
  Text.bracketed (extents.map UInt64.toNat)

/-- Extend a dataset. -/
def extendObject (path : String) (extents : List UInt64) (object : Object) :
    Except DomainError Object :=
  match object.kind with
  | .dataset current =>
    if grows current extents then .ok { object with kind := .dataset extents }
    else invalid "dims"
      ("cannot shrink or reshape " ++ renderExtents current ++ " to " ++ renderExtents extents)
  | _ => invalid "path" (path ++ " is not a dataset")

/-- Give an object a new attribute, without a value. -/
def addAttribute (path name : String) (object : Object) : Except DomainError Object :=
  if object.attributes.contains name then
    invalid "name" ("attribute " ++ name ++ " already exists on " ++ path)
  else .ok { object with attributes := object.attributes.insert name none }

/-- Write the value of an attribute. -/
def writeAttribute (path name : String) (value : Bytes) (object : Object) :
    Except DomainError Object :=
  if object.attributes.contains name then
    .ok { object with attributes := object.attributes.insert name (some value) }
  else .error (.notFound "attribute" (path ++ "@" ++ name))

/-- Carry out an operation. -/
def apply (space : Namespace) : Operation → Except DomainError Namespace
  | .close => .ok space
  | .createGroup path => space.create path .group
  | .createDataset path extents => space.create path (.dataset extents)
  | .commitDatatype path => space.create path .datatype
  | .openDataset path => space.modify path openObject
  | .openGroup path => space.modify path openObject
  | .closeDataset path => space.modify path (closeObject path)
  | .closeGroup path => space.modify path (closeObject path)
  | .extendDataset path extents => space.modify path (extendObject path extents)
  | .createAttribute path name => space.modify path (addAttribute path name)
  | .writeAttribute path name value => space.modify path (writeAttribute path name value)

/-- A namespace as a document. -/
def toJson (space : Namespace) : Json :=
  .record [("objects",
    .record (space.objects.toList.map fun (path, object) => (path, object.toJson)))]

/-- The namespace that a document describes, with whatever paths it names. -/
def ofJson? (document : Json) : Option Namespace := do
  let fields ← document.fields? ["objects"]
  let objects ← fields.required? "objects" (Json.entries? Object.ofJson?)
  return ⟨Std.ExtTreeMap.ofList objects⟩

end Namespace

end Concord
