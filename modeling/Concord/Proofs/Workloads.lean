import Concord.Proofs.Payloads
import Concord.Proofs.Ranks
import Concord.Simulation.Workload

/-!
# Workloads and payloads

What the operations of a workload are as proposals: none of them closes a process, and the
payload of each is short. Since a payload is read only as an operation of the kind that its tag
says, `Payload.tag_of_decode`, the tag alone tells whether a proposal closes a process.
-/

namespace Concord

namespace Operation

/-- Only a closing has the tag of closings. -/
theorem tag_eq_close {operation : Operation} : operation.tag = close.tag ↔ operation = close := by
  constructor
  · intro same
    cases operation
    case close => rfl
    all_goals
      simp only [tag, kindNumber] at same
      exact absurd same (by decide)
  · intro same
    rw [same]

end Operation

namespace Payload

/-! ## Lengths -/

/-- A number takes no more bytes than it counts, and one. -/
theorem length_varint_le (number : Nat) : (varint number).length ≤ number + 1 := by
  induction number using Nat.strongRecOn with
  | ind number inductionHypothesis =>
    rw [varint]
    split
    · exact Nat.le_add_left 1 number
    · have shorter := inductionHypothesis (number / 128) (by omega)
      rw [List.length_cons]
      omega

/-- Bytes take at most twice their length, and one. -/
theorem length_bytes_le (value : Bytes) : (bytes value).length ≤ 2 * value.length + 1 := by
  have lengths := length_varint_le value.length
  rw [bytes, List.length_append]
  omega

/-- A character takes at most four bytes. -/
theorem utf8ByteSize_ofList_le (characters : List Char) :
    (String.ofList characters).utf8ByteSize ≤ 4 * characters.length := by
  induction characters with
  | nil => simp
  | cons first rest inductionHypothesis =>
    have split : String.ofList (first :: rest) = String.ofList [first] ++ String.ofList rest := by
      rw [← String.ofList_append]
      rfl
    have single : (String.ofList [first]).utf8ByteSize ≤ 4 := by
      simpa using Char.utf8Size_le_four first
    rw [split, String.utf8ByteSize_append, List.length_cons]
    omega

/-- A number of sixty-four bits has at most twenty digits. -/
theorem utf8ByteSize_toString_le {number : Nat} (small : number < 2 ^ 64) :
    (toString number).utf8ByteSize ≤ 80 := by
  have digits : (toString number).length ≤ 20 :=
    (Nat.length_repr_le_iff (by decide)).2 (Nat.lt_trans small (by decide))
  have sizes := utf8ByteSize_ofList_le (toString number).toList
  rw [String.ofList_toList, String.length_toList] at sizes
  omega

/-- A text takes at most twice its bytes, and one. -/
theorem length_text_le (value : String) : (text value).length ≤ 2 * value.utf8ByteSize + 1 :=
  length_bytes_le (Text.toBytes value)

/-- The number of the kind takes a few bytes at most. -/
theorem length_encode_le_fields (operation : Operation) :
    (encode operation).length ≤ (fields operation).length + 11 := by
  have few := operation.kindNumber_le
  have kind := length_varint_le operation.kindNumber
  rw [encode, List.length_append]
  omega

/-- A coarse bound that small extents stay far below. -/
theorem length_extents_singleton_le (extent : UInt64) :
    (extents [extent]).length ≤ extent.toNat + 3 := by
  have number := length_varint_le extent.toNat
  have count := length_varint_le [extent].length
  rw [List.length_singleton] at count
  rw [extents, List.length_append, List.flatMap_singleton, List.length_singleton]
  omega

end Payload

namespace Workload

/-- No operation of a workload closes its process. -/
theorem operationAt_ne_close (rank : Rank) (number : Nat) : operationAt rank number ≠ .close := by
  cases number with
  | zero => exact nofun
  | succ number =>
    rw [operationAt]
    unfold datasetStep
    split <;> exact nofun

/-- The operations of a plan stand at their numbers. -/
theorem getElem?_plan (rank : Rank) (count number : Nat) :
    (plan rank count)[number]? =
      if number < count then some (operationAt rank number) else none := by
  rw [plan, List.getElem?_map]
  by_cases inside : number < count <;> simp [inside]

/-- The name of a group is short. -/
theorem utf8ByteSize_home_le (rank : Rank) : (home rank).utf8ByteSize ≤ 82 := by
  have number := Payload.utf8ByteSize_toString_le 
    (Nat.lt_trans rank.toNat_lt (by decide : 2 ^ 32 < 2 ^ 64))
  have slash : "/r".utf8ByteSize = 2 := by decide
  rw [home, String.utf8ByteSize_append]
  omega

/-- The name of a dataset is short. -/
theorem utf8ByteSize_datasetPath_le (rank : Rank) {index : Nat} (small : index < 2 ^ 64) :
    (datasetPath rank index).utf8ByteSize ≤ 164 := by
  have number := Payload.utf8ByteSize_toString_le small
  have home := utf8ByteSize_home_le rank
  have slash : "/d".utf8ByteSize = 2 := by decide
  rw [datasetPath, String.utf8ByteSize_append, String.utf8ByteSize_append]
  omega

/-- Every operation on a dataset has a short payload. -/
theorem length_datasetStep_le (rank : Rank) {path : String} (short : path.utf8ByteSize ≤ 164)
    (step : Nat) : (Payload.encode (datasetStep rank path step)).length ≤ 1000 := by
  refine Nat.le_trans (Payload.length_encode_le_fields _) ?_
  have ofPath := Payload.length_text_le path
  have ofName := Payload.length_text_le "origin"
  have name : "origin".utf8ByteSize = 6 := by decide
  have ofRank := Payload.length_bytes_le (Bytes.littleEndian 4 rank.toNat)
  rw [Bytes.length_littleEndian] at ofRank
  have smaller := Payload.length_extents_singleton_le 16
  have larger := Payload.length_extents_singleton_le 32
  have sixteen : (16 : UInt64).toNat = 16 := rfl
  have thirtyTwo : (32 : UInt64).toNat = 32 := rfl
  unfold datasetStep
  split
  all_goals
    simp only [Payload.fields, List.length_append]
    omega

/-- Every payload of a workload is short. -/
theorem length_encode_le (rank : Rank) {number : Nat} (small : number < 2 ^ 64) :
    (Payload.encode (operationAt rank number)).length ≤ 1000 := by
  cases number with
  | zero =>
    refine Nat.le_trans (Payload.length_encode_le_fields _) ?_
    have short := utf8ByteSize_home_le rank
    have path := Payload.length_text_le (home rank)
    simp only [operationAt, Payload.fields]
    omega
  | succ number =>
    exact length_datasetStep_le rank (utf8ByteSize_datasetPath_le rank (by omega)) (number % 4)

end Workload

end Concord
