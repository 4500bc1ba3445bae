/-!
# Identities

A world is a fixed set of processes, each with its own `Rank`. Every proposal names the
slot it travels under by a `ProposalId`, and what it asks for by an `OpTag`. All three are
fixed-width numbers on the wire, so they are fixed-width here.
-/

namespace Concord

/-- The position of one process in the world, counted from zero. -/
structure Rank where
  index : UInt32
deriving DecidableEq, Inhabited

namespace Rank

/-- The rank as a position in a list of processes. -/
def toNat (rank : Rank) : Nat :=
  rank.index.toNat

/-- The name by which messages refer to a rank. -/
def name (rank : Rank) : String :=
  "rank_" ++ toString rank.toNat

/-- Every rank of a world of the given size, in order; a size is taken modulo `2 ^ 32`. -/
def all (worldSize : Nat) : List Rank :=
  (List.range (worldSize % UInt32.size)).map fun index => ⟨UInt32.ofNat index⟩

end Rank

/-- The slot under which a process keeps its outstanding proposal. -/
structure ProposalId where
  value : Int32
deriving DecidableEq, Inhabited

namespace ProposalId

/-- The slot a rank uses for its own proposals: the same 32 bits, read as a signed number. -/
def ofRank (rank : Rank) : ProposalId :=
  ⟨rank.index.toInt32⟩

/-- The signed number as an integer. -/
def toInt (id : ProposalId) : Int :=
  id.value.toInt

/-- The name by which messages refer to a slot. -/
def name (id : ProposalId) : String :=
  "p" ++ toString id.toInt

end ProposalId

/-- The kind of operation that a proposal's payload encodes. -/
structure OpTag where
  code : Int32
deriving DecidableEq, Inhabited

namespace OpTag

/-- The signed code as an integer. -/
def toInt (tag : OpTag) : Int :=
  tag.code.toInt

/-- The name by which messages refer to a kind of operation. -/
def name (tag : OpTag) : String :=
  "op" ++ toString tag.toInt

end OpTag

end Concord
