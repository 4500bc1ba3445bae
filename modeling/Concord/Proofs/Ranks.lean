import Concord.Identity
import Mathlib.Algebra.Order.Ring.Nat
import Mathlib.Data.List.Nodup
import Mathlib.Data.List.Range

/-!
# Ranks of a world

`Rank.all` lists every rank of a world once, at its own position, so a look-up by position
and membership say the same. `ProposalId.ofRank` keeps ranks apart.
-/

namespace Concord

/-- Where no two items have one name, a look-up of a name finds one item. -/
theorem filter_of_distinct {Item Name : Type} [DecidableEq Name] {name : Item → Name}
    {items : List Item} (distinct : (items.map name).Nodup) {item : Item} (member : item ∈ items) :
    items.filter (fun other => decide (name other = name item)) = [item] := by
  induction items with
  | nil => cases member
  | cons first rest inductionHypothesis =>
    obtain ⟨fresh, restDistinct⟩ := List.nodup_cons.1 distinct
    rcases List.mem_cons.1 member with rfl | later
    · have none : rest.filter (fun other => decide (name other = name item)) = [] := by
        refine List.filter_eq_nil_iff.2 fun other inRest same => ?_
        exact fresh (List.mem_map.2 ⟨other, inRest, of_decide_eq_true same⟩)
      rw [List.filter_cons_of_pos (by simp), none]
    · have different : ¬ name first = name item := fun same =>
        fresh (List.mem_map.2 ⟨item, later, same.symm⟩)
      rw [List.filter_cons_of_neg (by simpa using different)]
      exact inductionHypothesis restDistinct later

namespace Rank

/-- Ranks are told apart by their numbers. -/
theorem toNat_inj {left right : Rank} : left.toNat = right.toNat ↔ left = right := by
  constructor
  · intro equal
    cases left
    cases right
    exact congrArg Rank.mk (UInt32.toNat_inj.1 equal)
  · intro equal
    rw [equal]

/-- The number of a rank fits into 32 bits. -/
theorem toNat_lt (rank : Rank) : rank.toNat < 2 ^ 32 :=
  rank.index.toNat_lt

/-- There are as many ranks as processes, counted in 32 bits. -/
@[simp] theorem length_all (worldSize : Nat) : (all worldSize).length = worldSize % 2 ^ 32 := by
  simp [all]

/-- The rank at a position is the rank that names this position. -/
theorem getElem?_all {worldSize : Nat} {rank : Rank} (inside : rank.toNat < worldSize % 2 ^ 32) :
    (all worldSize)[rank.toNat]? = some rank := by
  have named : (⟨UInt32.ofNat rank.toNat⟩ : Rank) = rank := by
    apply toNat_inj.1
    exact UInt32.toNat_ofNat_of_lt' rank.toNat_lt
  have inRange : rank.toNat < worldSize % UInt32.size := inside
  rw [all, List.getElem?_map, List.getElem?_range inRange, Option.map_some, named]

/-- The ranks are listed by their numbers. -/
theorem toNat_getElem_all {worldSize number : Nat} (inside : number < (all worldSize).length) :
    (all worldSize)[number].toNat = number := by
  have small : number < 2 ^ 32 :=
    Nat.lt_of_lt_of_le (length_all worldSize ▸ inside) (Nat.le_of_lt (Nat.mod_lt _ (by decide)))
  simp only [all, List.getElem_map, List.getElem_range, toNat]
  exact UInt32.toNat_ofNat_of_lt' small

/-- The ranks of a world are those below its size. -/
theorem mem_all {worldSize : Nat} {rank : Rank} :
    rank ∈ all worldSize ↔ rank.toNat < worldSize % 2 ^ 32 := by
  constructor
  · intro member
    obtain ⟨index, below, rfl⟩ := List.mem_map.1 member
    have small := List.mem_range.1 below
    have limit : worldSize % 2 ^ 32 < 2 ^ 32 := Nat.mod_lt _ (by decide)
    rw [toNat, UInt32.toNat_ofNat_of_lt' (Nat.lt_trans small limit)]
    exact small
  · intro inside
    exact List.mem_of_getElem? (getElem?_all inside)

/-- No rank is listed twice. -/
theorem nodup_all (worldSize : Nat) : (all worldSize).Nodup := by
  apply List.Nodup.map_on _ List.nodup_range
  intro left leftBelow right rightBelow equal
  have limit : worldSize % 2 ^ 32 < 2 ^ 32 := Nat.mod_lt _ (by decide)
  have leftSmall := Nat.lt_trans (List.mem_range.1 leftBelow) limit
  have rightSmall := Nat.lt_trans (List.mem_range.1 rightBelow) limit
  have same := congrArg (fun rank : Rank => rank.index.toNat) equal
  simpa only [UInt32.toNat_ofNat_of_lt' leftSmall, UInt32.toNat_ofNat_of_lt' rightSmall] using same

end Rank

/-- Different ranks use different slots. -/
theorem ProposalId.ofRank_inj {left right : Rank} :
    ProposalId.ofRank left = ProposalId.ofRank right ↔ left = right := by
  constructor
  · intro equal
    have signed : left.index.toInt32 = right.index.toInt32 := congrArg ProposalId.value equal
    have index : left.index = right.index := by
      have back := congrArg Int32.toUInt32 signed
      simpa using back
    cases left
    cases right
    exact congrArg Rank.mk index
  · intro equal
    rw [equal]

end Concord
