import Concord.Proofs.WorkloadSeparation

/-!
# Workloads in any order

Processes carry out their workloads side by side. However the operations of different processes are
interleaved, each of them can be carried out when its turn comes, and what stands in the end is the
same, for it is told by how far each process has come (`Workload.Built`). Plans can be put together
dataset by dataset, `Workload.assemble`, the last one cut short.
-/

namespace Concord

/-! ## Interleavings -/

/-- Whether a list has the elements of some other lists, those of each list in their order: again
and again the first element of one of the lists is taken. -/
inductive Interleaving {Element : Type} : List (List Element) → List Element → Prop where
  | done {lists : List (List Element)} (exhausted : ∀ list ∈ lists, list = []) :
      Interleaving lists []
  | take {lists : List (List Element)} (place : Nat) {element : Element}
      {rest merged : List Element} (next : lists[place]? = some (element :: rest))
      (later : Interleaving (lists.set place rest) merged) : Interleaving lists (element :: merged)

namespace Interleaving

variable {Element : Type} {lists : List (List Element)} {merged : List Element}

/-- A list without elements is never turned to. -/
theorem cons_nil (interleaving : Interleaving lists merged) :
    Interleaving ([] :: lists) merged := by
  induction interleaving with
  | done exhausted => exact .done (List.forall_mem_cons.2 ⟨rfl, exhausted⟩)
  | @take lists place element rest merged next later inductionHypothesis =>
    exact .take (place + 1) next inductionHypothesis

/-- The lists one after the other. -/
theorem flatten (lists : List (List Element)) : Interleaving lists lists.flatten := by
  induction lists with
  | nil => exact .done (List.forall_mem_nil _)
  | cons list lists inductionHypothesis =>
    induction list with
    | nil => exact inductionHypothesis.cons_nil
    | cons element rest laterHypothesis => exact .take 0 rfl laterHypothesis

end Interleaving

namespace Workload

/-! ## Plans -/

/-- A plan has as many operations as are asked for. -/
theorem length_plan (rank : Rank) (count : Nat) : (plan rank count).length = count := by
  rw [plan, List.length_map, List.length_range]

/-- A longer plan goes on where a shorter one ends. -/
theorem plan_add (rank : Rank) (count more : Nat) :
    plan rank (count + more) =
      plan rank count ++ (List.range more).map fun number => operationAt rank (count + number) := by
  rw [plan, List.range_add, List.map_append, List.map_map]
  rfl

/-- What is left of a plan starts with the operation whose turn it is. -/
theorem drop_plan_eq_cons {rank : Rank} {count number : Nat} {operation : Operation}
    {rest : List Operation} (left : (plan rank count).drop number = operation :: rest) :
    number < count ∧ operation = operationAt rank number ∧
      rest = (plan rank count).drop (number + 1) := by
  have inside : number < (plan rank count).length := by
    by_contra beyond
    rw [List.drop_eq_nil_of_le (Nat.le_of_not_lt beyond)] at left
    cases left
  rw [List.drop_eq_getElem_cons inside] at left
  obtain ⟨first, others⟩ := List.cons.inj left
  refine ⟨length_plan rank count ▸ inside, ?_, others.symm⟩
  rw [← first]
  simp [plan]

/-- The steps with one dataset. -/
def datasetSteps (rank : Rank) (index : Nat) : List Operation :=
  (List.range 4).map (datasetStep rank (datasetPath rank index))

/-- Go on with a plan, dataset by dataset, until there are enough operations. -/
def assembleFrom (rank : Rank) (count index : Nat) (operations : List Operation) :
    List Operation :=
  if operations.length < count then
    assembleFrom rank count (index + 1)
      (operations ++ (datasetSteps rank index).take (count - operations.length))
  else operations
termination_by count - operations.length
decreasing_by
  simp only [datasetSteps, List.length_append, List.length_take, List.length_map,
    List.length_range]
  omega

/-- A plan put together: the group, and dataset after dataset, of the last one only as many steps
as are wanted. -/
def assemble (rank : Rank) (count : Nat) : List Operation :=
  if count = 0 then [] else assembleFrom rank count 0 [.createGroup (home rank)]

/-- So many operations with a dataset come next in a plan. -/
theorem plan_append_datasetSteps (rank : Rank) (index : Nat) (wanted : Nat) :
    plan rank (4 * index + 1) ++ (datasetSteps rank index).take wanted =
      plan rank (4 * index + 1 + min wanted 4) := by
  rw [plan_add rank (4 * index + 1), datasetSteps, ← List.map_take, List.take_range]
  congr 1
  refine List.map_congr_left fun step member => ?_
  have few := List.mem_range.1 member
  have number : 4 * index + 1 + step = 4 * index + step + 1 := by omega
  have dataset : (4 * index + step) / 4 = index := by omega
  have inDataset : (4 * index + step) % 4 = step := by omega
  rw [number, operationAt, dataset, inDataset]

/-- Going on with a part of a plan, dataset by dataset, gives the plan. -/
theorem assembleFrom_plan {rank : Rank} {count index : Nat} (wanted : 4 * index + 1 ≤ count) :
    assembleFrom rank count index (plan rank (4 * index + 1)) = plan rank count := by
  induction left : count - index using Nat.strong_induction_on generalizing index with
  | _ left inductionHypothesis =>
    rw [assembleFrom, length_plan, plan_append_datasetSteps]
    split
    · by_cases whole : 4 * (index + 1) + 1 ≤ count
      · have next : 4 * index + 1 + min (count - (4 * index + 1)) 4 = 4 * (index + 1) + 1 := by
          omega
        rw [next]
        exact inductionHypothesis (count - (index + 1)) (by omega) whole rfl
      · -- The last dataset is cut short, and then there are enough.
        have last : 4 * index + 1 + min (count - (4 * index + 1)) 4 = count := by omega
        rw [last, assembleFrom, length_plan, if_neg (Nat.lt_irrefl count)]
    · next enough =>
      have same : 4 * index + 1 = count := by omega
      rw [same]

/-- A plan is what is put together. -/
theorem assemble_eq_plan (rank : Rank) (count : Nat) : assemble rank count = plan rank count := by
  unfold assemble
  split
  · next none =>
    rw [none]
    rfl
  · next some =>
    have whole : 4 * 0 + 1 ≤ count := Nat.pos_of_ne_zero some
    exact assembleFrom_plan whole

/-! ## Workloads side by side -/

/-- How far each process has come tells everything that stands in a namespace. -/
theorem Built.unique {done : Rank → Nat} {left right : Namespace} (one : Built done left)
    (other : Built done right) : left = right := by
  refine Namespace.eq_of_get? fun path => ?_
  by_cases isRoot : path = Path.root
  · rw [isRoot, one.root, other.root]
  by_cases isHome : ∃ rank, path = Workload.home rank
  · obtain ⟨rank, rfl⟩ := isHome
    rw [one.home, other.home]
  by_cases isDataset : ∃ rank index, path = datasetPath rank index
  · obtain ⟨rank, index, rfl⟩ := isDataset
    rw [one.dataset, other.dataset]
  have homeless := not_exists.1 isHome
  have unset : ∀ rank index, path ≠ datasetPath rank index :=
    fun rank => not_exists.1 (not_exists.1 isDataset rank)
  rw [one.other path isRoot homeless unset, other.other path isRoot homeless unset]

/-- What is left of the plans of processes that have come so far. -/
def remaining (ranks : List Rank) (counts done : Rank → Nat) : List (List Operation) :=
  ranks.map fun rank => (plan rank (counts rank)).drop (done rank)

/-- One process is one operation further. -/
theorem remaining_set {ranks : List Rank} (distinct : ranks.Nodup) (counts done : Rank → Nat)
    {place : Nat} {rank : Rank} (its : ranks[place]? = some rank) :
    (remaining ranks counts done).set place ((plan rank (counts rank)).drop (done rank + 1)) =
      remaining ranks counts (Function.update done rank (done rank + 1)) := by
  obtain ⟨inside, rfl⟩ := List.getElem?_eq_some_iff.1 its
  have further : (fun other => (plan other (counts other)).drop
        (Function.update done ranks[place] (done ranks[place] + 1) other)) =
      Function.update (fun other => (plan other (counts other)).drop (done other)) ranks[place]
        ((plan ranks[place] (counts ranks[place])).drop (done ranks[place] + 1)) :=
    funext fun other => Function.apply_update
      (fun rank number => (plan rank (counts rank)).drop number) done _ _ other
  rw [remaining, remaining, further, distinct.map_update, if_pos (List.getElem_mem inside),
    distinct.idxOf_getElem]

/-- Whether these processes have come so far in their plans, the others have done nothing, what
stands in the namespace is what they have put there, and these lists are left to them. -/
structure Underway (ranks : List Rank) (counts done : Rank → Nat) (space : Namespace)
    (left : List (List Operation)) : Prop where
  built : Built done space
  started : ∀ rank ∈ ranks, done rank ≤ counts rank
  idle : ∀ rank, rank ∉ ranks → done rank = 0
  left : left = remaining ranks counts done

namespace Underway

/-- Before the first operation the whole plans are left. -/
theorem opening (ranks : List Rank) (counts : Rank → Nat) :
    Underway ranks counts (fun _ => 0) .empty (ranks.map fun rank => plan rank (counts rank)) where
  built := .empty
  started := fun _ _ => Nat.zero_le _
  idle := fun _ _ => rfl
  left := rfl

variable {ranks : List Rank} {counts done : Rank → Nat} {space : Namespace}
  {left : List (List Operation)}

/-- The process whose turn it is can carry out its next operation. -/
theorem turn (underway : Underway ranks counts done space left) (distinct : ranks.Nodup)
    {place : Nat} {operation : Operation} {rest : List Operation}
    (next : left[place]? = some (operation :: rest)) :
    ∃ after further, space.apply operation = .ok after ∧
      Underway ranks counts further after (left.set place rest) := by
  obtain ⟨built, started, idle, rfl⟩ := underway
  rw [remaining, List.getElem?_map] at next
  obtain ⟨rank, its, isLeft⟩ := Option.map_eq_some_iff.1 next
  obtain ⟨unfinished, rfl, rfl⟩ := drop_plan_eq_cons isLeft
  obtain ⟨after, applied, grown⟩ := built.apply rank
  have member : rank ∈ ranks := List.mem_of_getElem? its
  refine ⟨after, Function.update done rank (done rank + 1), applied, grown, ?_, ?_,
    remaining_set distinct counts done its⟩
  · intro other listed
    rw [Function.update_apply]
    split
    · next here => exact here ▸ unfinished
    · exact started other listed
  · intro other stranger
    rw [Function.update_of_ne, idle other stranger]
    rintro rfl
    exact stranger member

/-- Where nothing is left to anyone, everyone has come to the end of its plan. -/
theorem finished (underway : Underway ranks counts done space left)
    (exhausted : ∀ list ∈ left, list = []) :
    Built (fun rank => if rank ∈ ranks then counts rank else 0) space := by
  obtain ⟨built, started, idle, rfl⟩ := underway
  convert built using 1
  funext rank
  split
  · next member =>
    have past := List.drop_eq_nil_iff.1 (exhausted _ (List.mem_map_of_mem member))
    rw [length_plan] at past
    exact Nat.le_antisymm past (started rank member)
  · next stranger => exact (idle rank stranger).symm

/-- Whatever turns are taken, everything that is left can be carried out. -/
theorem run (underway : Underway ranks counts done space left) (distinct : ranks.Nodup)
    {merged : List Operation} (interleaving : Interleaving left merged) :
    ∃ final, merged.foldlM Namespace.apply space = .ok final ∧
      Built (fun rank => if rank ∈ ranks then counts rank else 0) final := by
  induction interleaving generalizing done space with
  | done exhausted => exact ⟨space, rfl, underway.finished exhausted⟩
  | take place next later inductionHypothesis =>
    obtain ⟨after, further, applied, underwayThen⟩ := underway.turn distinct next
    obtain ⟨final, carried, built⟩ := inductionHypothesis underwayThen
    refine ⟨final, ?_, built⟩
    rw [List.foldlM_cons, applied]
    exact carried

end Underway

/-- Whichever processes carry out however much of their workloads, interleaved in whatever way,
every operation succeeds, and what stands in the end does not depend on the way. A plan is what is
put together dataset by dataset; it has as many operations as are wanted, and starts with every
shorter one. -/
theorem workloads_never_conflict :
    (∀ (ranks : List Rank) (counts : Rank → Nat), ranks.Nodup →
      ∃ final, ∀ merged, Interleaving (ranks.map fun rank => plan rank (counts rank)) merged →
        merged.foldlM Namespace.apply .empty = .ok final) ∧
    ∀ rank count, assemble rank count = plan rank count ∧ (plan rank count).length = count ∧
      ∀ fewer ≤ count, plan rank fewer <+: plan rank count := by
  refine ⟨fun ranks counts distinct => ?_, fun rank count =>
    ⟨assemble_eq_plan rank count, length_plan rank count, fun fewer shorter => ?_⟩⟩
  · have opening := Underway.opening ranks counts
    obtain ⟨final, -, built⟩ := opening.run distinct (.flatten _)
    refine ⟨final, fun merged interleaving => ?_⟩
    obtain ⟨other, carried, builtToo⟩ := opening.run distinct interleaving
    rw [carried, builtToo.unique built]
  · obtain ⟨more, rfl⟩ := Nat.exists_eq_add_of_le shorter
    rw [plan_add]
    exact List.prefix_append _ _

/-- Two processes in turn, each of which breaks off in the middle of a dataset. -/
def alternating : List Operation :=
  [operationAt ⟨10⟩ 0, operationAt ⟨1⟩ 0, operationAt ⟨1⟩ 1, operationAt ⟨10⟩ 1, operationAt ⟨1⟩ 2]

/-- Two processes that take turns are never refused anything, and end in the one namespace that both
plans make. -/
theorem workloads_never_conflict_alternating :
    let ranks : List Rank := [⟨1⟩, ⟨10⟩]
    let counts := fun rank : Rank => if rank = ⟨1⟩ then 3 else 2
    let plans := ranks.map fun rank => plan rank (counts rank)
    ranks.Nodup ∧ Interleaving plans alternating ∧ Interleaving plans plans.flatten ∧
      (∃ final, alternating.foldlM Namespace.apply .empty = .ok final ∧
        plans.flatten.foldlM Namespace.apply .empty = .ok final) ∧
      plan ⟨10⟩ 2 <+: plan ⟨10⟩ 7 := by
  intro ranks counts plans
  obtain ⟨orders, all⟩ := workloads_never_conflict
  have distinct : ranks.Nodup := by decide
  have taken : Interleaving plans alternating :=
    .take 1 rfl (.take 0 rfl (.take 0 rfl
      (.take 1 rfl (.take 0 rfl (.done (by decide))))))
  obtain ⟨final, same⟩ := orders ranks counts distinct
  exact ⟨distinct, taken, .flatten plans, ⟨final, same _ taken, same _ (.flatten plans)⟩,
    (all ⟨10⟩ 7).2.2 2 (by decide)⟩

end Workload

end Concord
