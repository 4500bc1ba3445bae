import Concord.Namespace.Operation

/-!
# Workloads

Each process of a simulation works below a group of its own, so that the processes never
conflict. It creates the group and then one dataset after the other, each with an attribute
that is written and an extent that grows. `operationAt` gives each operation by its number,
so a longer plan starts with every shorter one.
-/

namespace Concord.Workload

/-- The group that a process works below. -/
def home (rank : Rank) : String :=
  "/r" ++ toString rank.toNat

/-- The path of one of a process's datasets. -/
def datasetPath (rank : Rank) (index : Nat) : String :=
  home rank ++ "/d" ++ toString index

/-- The steps that a process takes with each dataset, by their number. -/
def datasetStep (rank : Rank) (path : String) : (step : Nat) → Operation
  | 0 => .createDataset path [16]
  | 1 => .createAttribute path "origin"
  | 2 => .writeAttribute path "origin" (Bytes.littleEndian 4 rank.toNat)
  | _ => .extendDataset path [32]

/-- The operation with a number among those of a process. -/
def operationAt (rank : Rank) : (number : Nat) → Operation
  | 0 => .createGroup (home rank)
  | number + 1 => datasetStep rank (datasetPath rank (number / 4)) (number % 4)

/-- The first `count` operations of a process. -/
def plan (rank : Rank) (count : Nat) : List Operation :=
  (List.range count).map (operationAt rank)

end Concord.Workload
