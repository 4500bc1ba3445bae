import Concord.Proofs.Selection

/-!
# Taking out a round

`Ledger.takeRound` takes out one entry for every slot present, each the oldest of its slot, in
the global order, and leaves all others. `Ledger.distinctIds` counts the slots.
-/

namespace Concord

namespace Bag

/-- A search for a place in the order comes to an entry there, if there is one. -/
theorem exists_position {bag : List Proposal} {key : OrderKey}
    (present : ∃ entry ∈ bag, entry.key = key) :
    ∃ index found, (bag.findIdx? fun proposal => decide (proposal.key = key)) = some index ∧
      bag[index]? = some found ∧ found.key = key := by
  have found : (bag.findIdx? fun proposal => decide (proposal.key = key)).isSome = true := by
    obtain ⟨entry, member, same⟩ := present
    rw [List.findIdx?_isSome]
    exact List.any_eq_true.2 ⟨entry, member, by simp [same]⟩
  obtain ⟨index, position⟩ := Option.isSome_iff_exists.1 found
  obtain ⟨inside, named, _⟩ := List.findIdx?_eq_some_iff_getElem.1 position
  exact ⟨index, bag[index], position, List.getElem?_eq_getElem inside, of_decide_eq_true named⟩

/-- An entry at a place in the order is found if there is one. -/
theorem remove?_spec {bag : List Proposal} {key : OrderKey}
    (present : ∃ entry ∈ bag, entry.key = key) :
    ∃ found left, remove? bag key = some (found, left) ∧ found.key = key ∧
      (found :: left).Perm bag := by
  obtain ⟨index, found, position, lies, named⟩ := exists_position present
  refine ⟨found, removeAt bag index, ?_, named, perm_removeAt lies⟩
  simp only [remove?, position, lies]

/-- Where one entry has gone, there are still entries at all other places. -/
theorem present_of_gone {bag left : List Proposal} {found : Proposal} {keys : List OrderKey}
    (fresh : found.key ∉ keys) (stays : bag ⊆ found :: left)
    (present : ∀ key ∈ keys, ∃ entry ∈ bag, entry.key = key) :
    ∀ key ∈ keys, ∃ entry ∈ left, entry.key = key := by
  intro key member
  obtain ⟨entry, inBag, same⟩ := present key member
  rcases List.mem_cons.1 (stays inBag) with rfl | inLeft
  · exact absurd (same ▸ member) fresh
  · exact ⟨entry, inLeft, same⟩

/-- Entries at different places are taken out one for each place. -/
theorem removeEach_spec {bag : List Proposal} {keys : List OrderKey} (distinct : keys.Nodup)
    (present : ∀ key ∈ keys, ∃ entry ∈ bag, entry.key = key) :
    (removeEach bag keys).1.map Proposal.key = keys ∧
      ((removeEach bag keys).1 ++ (removeEach bag keys).2).Perm bag := by
  induction keys generalizing bag with
  | nil => exact ⟨rfl, .refl _⟩
  | cons key rest inductionHypothesis =>
    obtain ⟨fresh, restDistinct⟩ := List.nodup_cons.1 distinct
    obtain ⟨found, left, removed, named, perm⟩ := remove?_spec (present key List.mem_cons_self)
    have restPresent := present_of_gone (named.symm ▸ fresh) perm.symm.subset
      fun other member => present other (List.mem_cons_of_mem _ member)
    obtain ⟨keysTaken, restPerm⟩ := inductionHypothesis restDistinct restPresent
    simp only [removeEach, removed]
    exact ⟨by rw [List.map_cons, named, keysTaken], (restPerm.cons found).trans perm⟩

end Bag

namespace Ledger

/-- Noting a key lists its slot if that is new, and leaves the slots as they are otherwise. -/
theorem ids_noteKey (keys : List OrderKey) (key : OrderKey) :
    (noteKey keys key).map OrderKey.id =
      if key.id ∈ keys.map OrderKey.id then keys.map OrderKey.id
      else keys.map OrderKey.id ++ [key.id] := by
  induction keys with
  | nil => simp [noteKey]
  | cons known rest inductionHypothesis =>
    by_cases same : known.id = key.id
    · by_cases earlier : key < known <;> simp [noteKey, same, earlier]
    · have apart : ¬ key.id = known.id := fun equal => same equal.symm
      by_cases later : key.id ∈ rest.map OrderKey.id
      · simp only [noteKey, if_neg same, List.map_cons, inductionHypothesis, if_pos later]
        rw [if_pos (List.mem_cons_of_mem _ later)]
      · simp only [noteKey, if_neg same, List.map_cons, inductionHypothesis, if_neg later]
        rw [if_neg (by simp only [List.mem_cons, not_or]; exact ⟨apart, later⟩)]
        rfl

/-- What is noted was known or is new. -/
theorem mem_noteKey {keys : List OrderKey} {key noted : OrderKey}
    (member : noted ∈ noteKey keys key) : noted = key ∨ noted ∈ keys := by
  induction keys with
  | nil => simpa [noteKey] using member
  | cons known rest inductionHypothesis =>
    simp only [noteKey] at member
    split at member
    · rcases List.mem_cons.1 member with rfl | later
      · split
        · exact .inl rfl
        · exact .inr List.mem_cons_self
      · exact .inr (List.mem_cons_of_mem _ later)
    · rcases List.mem_cons.1 member with rfl | later
      · exact .inr List.mem_cons_self
      · rcases inductionHypothesis later with new | old
        · exact .inl new
        · exact .inr (List.mem_cons_of_mem _ old)

/-- For the slot of a new key something is noted that is not later than it. -/
theorem exists_noteKey_le (keys : List OrderKey) (key : OrderKey) :
    ∃ noted ∈ noteKey keys key, noted.id = key.id ∧ noted ≤ key := by
  induction keys with
  | nil => exact ⟨key, by simp [noteKey], rfl, OrderKey.le_refl key⟩
  | cons known rest inductionHypothesis =>
    by_cases same : known.id = key.id
    · by_cases earlier : key < known
      · exact ⟨key, by simp [noteKey, same, earlier], rfl, OrderKey.le_refl key⟩
      · exact ⟨known, by simp [noteKey, same, earlier], same, OrderKey.not_lt.1 earlier⟩
    · obtain ⟨noted, member, slot, least⟩ := inductionHypothesis
      exact ⟨noted, by simp [noteKey, same, member], slot, least⟩

/-- What was noted for a slot is replaced only by something earlier. -/
theorem exists_noteKey_of_mem {keys : List OrderKey} {known : OrderKey} (key : OrderKey)
    (member : known ∈ keys) : ∃ noted ∈ noteKey keys key, noted.id = known.id ∧ noted ≤ known := by
  induction keys with
  | nil => cases member
  | cons first rest inductionHypothesis =>
    by_cases same : first.id = key.id
    · rcases List.mem_cons.1 member with rfl | later
      · by_cases earlier : key < known
        · exact ⟨key, by simp [noteKey, same, earlier], same.symm, OrderKey.le_of_lt earlier⟩
        · exact ⟨known, by simp [noteKey, same, earlier], rfl, OrderKey.le_refl known⟩
      · exact ⟨known, by simp [noteKey, same, later], rfl, OrderKey.le_refl known⟩
    · rcases List.mem_cons.1 member with rfl | later
      · exact ⟨known, by simp [noteKey, same], rfl, OrderKey.le_refl known⟩
      · obtain ⟨noted, found, slot, least⟩ := inductionHypothesis later
        exact ⟨noted, by simp [noteKey, same, found], slot, least⟩

/-- The key of the last entry is noted last. -/
theorem oldestKeys_concat (entries : List Proposal) (last : Proposal) :
    oldestKeys ⟨entries ++ [last]⟩ = noteKey (oldestKeys ⟨entries⟩) last.key := by
  simp [oldestKeys, List.foldl_append]

/-- The oldest keys are one for each slot present, each that of an entry and no later than any
entry of its slot. -/
theorem oldestKeys_spec (ledger : Ledger) :
    (ledger.oldestKeys.map OrderKey.id).Nodup ∧
      (∀ key ∈ ledger.oldestKeys, ∃ entry ∈ ledger.entries, entry.key = key) ∧
      ∀ entry ∈ ledger.entries, ∃ key ∈ ledger.oldestKeys, key.id = entry.id ∧ key ≤ entry.key := by
  obtain ⟨entries⟩ := ledger
  induction entries using List.reverseRecOn with
  | nil => simp [oldestKeys]
  | append_singleton entries last inductionHypothesis =>
    obtain ⟨distinct, present, covering⟩ := inductionHypothesis
    rw [oldestKeys_concat]
    refine ⟨?_, ?_, ?_⟩
    · rw [ids_noteKey]
      split
      · exact distinct
      · next absent =>
        refine List.nodup_append.2 ⟨distinct, List.nodup_singleton _, ?_⟩
        intro id member other isLast same
        rw [List.mem_singleton.1 isLast] at same
        exact absent (same ▸ member)
    · intro key member
      rcases mem_noteKey member with rfl | known
      · exact ⟨last, by simp, rfl⟩
      · obtain ⟨entry, inEntries, same⟩ := present key known
        exact ⟨entry, List.mem_append_left _ inEntries, same⟩
    · intro entry member
      rcases List.mem_append.1 member with before | isLast
      · obtain ⟨key, known, slot, least⟩ := covering entry before
        obtain ⟨noted, found, sameSlot, earlier⟩ := exists_noteKey_of_mem last.key known
        exact ⟨noted, found, sameSlot.trans slot, OrderKey.le_trans earlier least⟩
      · rw [List.mem_singleton.1 isLast]
        exact exists_noteKey_le _ last.key

/-- Sorting proposals loses and repeats none of them. -/
theorem sorted_perm (proposals : List Proposal) : (Proposal.sorted proposals).Perm proposals :=
  List.mergeSort_perm _ _

/-- Sorted proposals stand in the global order. -/
theorem sorted_pairwise (proposals : List Proposal) :
    (Proposal.sorted proposals).Pairwise fun first second => first.key ≤ second.key := by
  have ordered := @List.pairwise_mergeSort Proposal Proposal.notLater
    (fun first second third lower upper =>
      decide_eq_true (OrderKey.le_trans (of_decide_eq_true lower) (of_decide_eq_true upper)))
    (fun left right => by
      rcases OrderKey.le_total left.key right.key with before | after
      · simp [Proposal.notLater, before]
      · simp [Proposal.notLater, after]) proposals
  exact ordered.imp fun before => of_decide_eq_true before

/-- A round is one entry for each slot present, each no later than any entry of its slot, in the
global order; all other entries are left. -/
theorem takeRound_spec (ledger : Ledger) :
    (ledger.takeRound.1 ++ ledger.takeRound.2.entries).Perm ledger.entries ∧
      ledger.takeRound.1.Pairwise (fun first second => first.key ≤ second.key) ∧
      (ledger.takeRound.1.map Proposal.id).Nodup ∧
      ledger.takeRound.1.length = ledger.distinctIds ∧
      ∀ entry ∈ ledger.entries, ∃ taken ∈ ledger.takeRound.1,
        taken.id = entry.id ∧ taken.key ≤ entry.key := by
  obtain ⟨distinct, present, covering⟩ := oldestKeys_spec ledger
  obtain ⟨keys, perm⟩ := Bag.removeEach_spec (List.Nodup.of_map _ distinct) present
  have sorted := sorted_perm (Bag.removeEach ledger.entries ledger.oldestKeys).1
  refine ⟨?_, sorted_pairwise _, ?_, ?_, ?_⟩
  · exact (sorted.append_right _).trans perm
  · have ids : ((Bag.removeEach ledger.entries ledger.oldestKeys).1.map Proposal.id) =
        ledger.oldestKeys.map OrderKey.id := by
      have mapped := congrArg (List.map OrderKey.id) keys
      rwa [List.map_map] at mapped
    exact (sorted.map Proposal.id).nodup_iff.2 (ids ▸ distinct)
  · have count := congrArg List.length keys
    rw [List.length_map] at count
    exact sorted.length_eq.trans count
  · intro entry member
    obtain ⟨key, known, slot, least⟩ := covering entry member
    rw [← keys] at known
    obtain ⟨taken, inTaken, named⟩ := List.mem_map.1 known
    refine ⟨taken, sorted.mem_iff.2 inTaken, ?_, named ▸ least⟩
    rw [← slot, ← named]
    rfl

end Ledger

/-- Queueing a round of approved proposals puts all of them into the queue. -/
theorem Coordinator.queueRound_of_approved (coordinator : Coordinator) {round : List Proposal}
    (approved : ∀ entry ∈ round, entry.state = .approved) :
    coordinator.queueRound round =
      ({ coordinator with
          queue := ⟨coordinator.queue.entries ++ round.map Proposal.due⟩ }, none) := by
  induction round generalizing coordinator with
  | nil => simp [queueRound]
  | cons first rest inductionHypothesis =>
    simp only [queueRound,
      ExecutionQueue.add_of_approved (approved first List.mem_cons_self)]
    rw [inductionHypothesis _ fun entry member => approved entry (List.mem_cons_of_mem _ member)]
    simp

namespace Coordinator

/-- A coordinator after a round has gone over into its queue. -/
def withRound (coordinator : Coordinator) : Coordinator :=
  { coordinator with
    ledger := coordinator.ledger.takeRound.2
    queue := ⟨coordinator.queue.entries ++ coordinator.ledger.takeRound.1.map Proposal.due⟩ }

/-- A round goes over into the queue once a proposal of every slot is there. -/
theorem awaitRound_cases {Handle : Type} (coordinator : Coordinator)
    (approved : ∀ entry ∈ coordinator.ledger.entries, entry.state = .approved) (key : OrderKey) :
    (coordinator.ledger.distinctIds < coordinator.config.worldSize ∧
      coordinator.awaitRound key =
        (coordinator, (.waiting (.awaitingQuorum key) : Control Handle))) ∨
    (coordinator.config.worldSize ≤ coordinator.ledger.distinctIds ∧
      (coordinator.awaitRound key : Coordinator × Control Handle) =
        coordinator.withRound.executeNext (.round key) []) := by
  have taken : ∀ entry ∈ coordinator.ledger.takeRound.1, entry.state = .approved :=
    fun entry member => approved entry
      (coordinator.ledger.takeRound_spec.1.mem_iff.1 (List.mem_append_left _ member))
  rw [awaitRound]
  split
  · next short => exact .inl ⟨short, rfl⟩
  · next full =>
    refine .inr ⟨Nat.not_lt.1 full, ?_⟩
    simp only [queueRound_of_approved _ taken]
    rfl

end Coordinator

end Concord
