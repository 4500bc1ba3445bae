import Concord.Identity
import Concord.Json.Decode
import Concord.Random.ChaCha
import Concord.Random.Fnv
import Concord.Text.Utf8
import Concord.Time

/-!
# Seeds

A seed is a number with a note of where it came from. Further seeds are derived from it by
name, so each process draws from a stream of its own.
-/

namespace Concord

/-- Where a seed came from. -/
inductive SeedSource where
  | literal (value : UInt64)
  | fromString (text : String)
  | random
deriving DecidableEq, Inhabited

namespace SeedSource

/-- The number that a source gives; a random one gives the time. -/
def value (now : Timestamp) : SeedSource → UInt64
  | .literal value => value
  | .fromString text => Random.fnv1a (Text.toBytes text)
  | .random => now.micros

/-- A source as a document. -/
def toJson : SeedSource → Json
  | .literal value => .record [("Literal", .ofNat value.toNat)]
  | .fromString text => .record [("FromString", .ofString text)]
  | .random => .ofString "Random"

/-- The source that a document describes. -/
def ofJson? (document : Json) : Option SeedSource := do
  let (name, content) ← document.choice?
  if name = "Literal" then (content.bind Json.uint64?).map .literal
  else if name = "FromString" then (content.bind Json.string?).map .fromString
  else if name = "Random" ∧ Json.isBare content then some .random
  else none

end SeedSource

/-- A number to draw from. -/
structure Seed where
  value : UInt64
  source : SeedSource
deriving DecidableEq, Inhabited

namespace Seed

/-- The seed of a source; only a random one depends on the time. -/
def ofSource (now : Timestamp) (source : SeedSource) : Seed :=
  ⟨source.value now, source⟩

/-- The seed of a number. -/
def ofLiteral (value : UInt64) : Seed :=
  ⟨value, .literal value⟩

/-- The seed of a text. -/
def ofString (text : String) : Seed :=
  ⟨Random.fnv1a (Text.toBytes text), .fromString text⟩

/-- The seed that is used when none is given. -/
def standard : Seed :=
  ofLiteral 42

/-- A seed for a part of the whole, by the part's name. -/
def derive (seed : Seed) (context : String) : Seed :=
  ofLiteral (Random.fnv1a (Bytes.littleEndian 8 seed.value.toNat ++ Text.toBytes context))

/-- The seed of a process. -/
def forRank (seed : Seed) (rank : Rank) : Seed :=
  seed.derive rank.name

/-- The stream of draws from a seed. -/
def generator (seed : Seed) : Random.Generator :=
  Random.Generator.ofSeed seed.value

/-- Decimal digits behind an optional plus sign, as a number of sixty-four bits. -/
def number? (text : String) : Option UInt64 :=
  let digits := match text.toList with
    | '+' :: rest => rest
    | characters => characters
  if digits.isEmpty ∨ !digits.all Char.isDigit then none
  else
    let value := Json.digitsValue digits
    if value < UInt64.size then some (UInt64.ofNat value) else none

/-- The seed that a word names: a random one, a number, or else the word's hash. -/
def ofWord (now : Timestamp) (word : String) : Seed :=
  if word = "random" then ofSource now .random
  else match number? word with
    | some value => ofLiteral value
    | none => ofString word

/-- A seed as a document. -/
def toJson (seed : Seed) : Json :=
  .record [("seed", .ofNat seed.value.toNat), ("source", seed.source.toJson)]

/-- The seed that a document describes. -/
def ofJson? (document : Json) : Option Seed := do
  let fields ← document.fields? ["seed", "source"]
  let value ← fields.required? "seed" Json.uint64?
  let source ← fields.required? "source" SeedSource.ofJson?
  return ⟨value, source⟩

end Seed

end Concord
