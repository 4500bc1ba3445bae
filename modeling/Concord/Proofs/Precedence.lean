import Concord.Proofs.Quorums

/-!
# Who goes first in a slot

Several proposals of one slot may bear the same time. A round takes one of them, and where it
searches they lie in the order of their arrival, so it finds the first. But each entry it takes
out is replaced by the last one, so while it collects, a late arrival can come to lie before an
early one. What can be displaced are the last arrivals, as many as there are slots that came
before (`Ledger.displaced`); `Ledger.round_takes_first` says what that comes to.
-/

namespace Concord

/-! ## Taking out from the front -/

namespace Bag

variable {front rest movers : List Proposal} {key : OrderKey} {keys : List OrderKey}

/-- Taking out some keys and then others is taking out all of them in turn. -/
theorem removeEach_append (bag : List Proposal) (keys others : List OrderKey) :
    removeEach bag (keys ++ others) =
      ((removeEach bag keys).1 ++ (removeEach (removeEach bag keys).2 others).1,
        (removeEach (removeEach bag keys).2 others).2) := by
  induction keys generalizing bag with
  | nil => rfl
  | cons key keys inductionHypothesis =>
    simp only [List.cons_append, removeEach]
    split
    · exact inductionHypothesis bag
    · rw [inductionHypothesis]
      rfl

/-- What is taken out is the first that is found. -/
theorem remove?_fst (bag : List Proposal) (key : OrderKey) :
    (remove? bag key).map Prod.fst = bag.find? fun proposal => proposal.key = key := by
  rw [List.find?_eq_bind_findIdx?_getElem?, remove?]
  split
  · next none => rw [none]; rfl
  · next index found =>
    rw [found]
    split
    · next outside => simp [outside]
    · next entry lies => simp [lies]

/-- Where the entry that moves into the gap comes from behind, only the front changes in place. -/
theorem removeAt_front {index : Nat} (inside : index < front.length) (mover : Proposal) :
    removeAt (front ++ (rest ++ [mover])) index = front.set index mover ++ rest := by
  rw [← List.append_assoc, removeAt, List.getLast?_concat, List.dropLast_concat]
  exact List.set_append_left _ _ inside

/-- Where an entry of the front is taken out, the last of all comes into the front for it. -/
theorem remove?_front (present : ∃ entry ∈ front, entry.key = key) (mover : Proposal) :
    ∃ found renewed, remove? (front ++ (rest ++ [mover])) key = some (found, renewed ++ rest) ∧
      found.key = key ∧ (found :: renewed).Perm (mover :: front) := by
  obtain ⟨index, found, position, lies, named⟩ := exists_position present
  have inside : index < front.length := (List.getElem?_eq_some_iff.1 lies).1
  refine ⟨found, front.set index mover, ?_, named, perm_set lies mover⟩
  have first : ((front ++ (rest ++ [mover])).findIdx? fun proposal =>
      decide (proposal.key = key)) = some index := by
    rw [List.findIdx?_append, position]
    rfl
  simp only [remove?, first, List.getElem?_append_left inside, lies, removeAt_front inside]

/-- Where several entries of the front are taken out, as many of the last come into the front for
them. -/
theorem removeEach_front (distinct : keys.Nodup)
    (present : ∀ key ∈ keys, ∃ entry ∈ front, entry.key = key)
    (count : movers.length = keys.length) :
    ∃ taken renewed, removeEach (front ++ (rest ++ movers)) keys = (taken, renewed ++ rest) ∧
      taken.map Proposal.key = keys ∧ (taken ++ renewed).Perm (movers ++ front) := by
  induction keys generalizing front movers with
  | nil =>
    rw [List.eq_nil_of_length_eq_zero count, List.append_nil]
    exact ⟨[], front, rfl, rfl, .refl _⟩
  | cons key keys inductionHypothesis =>
    obtain ⟨fresh, restDistinct⟩ := List.nodup_cons.1 distinct
    obtain ⟨others, mover, rfl⟩ : ∃ others mover, movers = others ++ [mover] := by
      rcases List.eq_nil_or_concat' movers with rfl | ⟨others, mover, rfl⟩
      · simp at count
      · exact ⟨others, mover, rfl⟩
    obtain ⟨found, middle, removed, named, exchanged⟩ :=
      @remove?_front front (rest ++ others) key (present key List.mem_cons_self) mover
    have stays : front ⊆ found :: middle := fun _ member =>
      exchanged.symm.subset (List.mem_cons_of_mem _ member)
    have stillPresent := present_of_gone (named.symm ▸ fresh) stays
      fun other member => present other (List.mem_cons_of_mem _ member)
    obtain ⟨taken, renewed, result, takenKeys, perm⟩ :=
      inductionHypothesis restDistinct stillPresent (by simpa using count)
    refine ⟨found :: taken, renewed, ?_, by rw [List.map_cons, named, takenKeys], ?_⟩
    -- The mover now belongs to the front, and the others are the movers of the remaining keys.
    · rw [← List.append_assoc rest]
      simp only [removeEach, removed, result]
    · calc found :: taken ++ renewed
        _ |>.Perm (found :: (others ++ middle)) := perm.cons found
        _ |>.Perm (others ++ found :: middle) := List.perm_middle.symm
        _ |>.Perm (others ++ mover :: front) := exchanged.append_left others
        _ = others ++ [mover] ++ front := by simp

/-- The first at a place in the order lies in the front, or it comes right after it. -/
theorem remove?_or {found : Proposal} (named : found.key = key) :
    ∃ taken left, remove? (front ++ found :: rest) key = some (taken, left) ∧ taken.key = key ∧
      ((∃ entry ∈ front, entry.key = key) → taken ∈ front) ∧
      ((∀ entry ∈ front, entry.key ≠ key) → taken = found) := by
  obtain ⟨taken, left, removed, takenNamed, -⟩ :=
    @remove?_spec (front ++ found :: rest) key ⟨found, by simp, named⟩
  have search := remove?_fst (front ++ found :: rest) key
  rw [removed, Option.map_some, List.find?_append] at search
  refine ⟨taken, left, removed, takenNamed, ?_, ?_⟩
  · rintro ⟨entry, member, same⟩
    have found : (front.find? fun proposal => decide (proposal.key = key)).isSome = true :=
      List.find?_isSome.2 ⟨entry, member, decide_eq_true same⟩
    obtain ⟨first, inFront⟩ := Option.isSome_iff_exists.1 found
    rw [inFront] at search
    cases Option.some.inj search
    exact List.mem_of_find?_eq_some inFront
  · intro absent
    have none : (front.find? fun proposal => decide (proposal.key = key)) = none :=
      List.find?_eq_none.2 fun entry member => by simpa using absent entry member
    have next : ((found :: rest).find? fun proposal => decide (proposal.key = key)) = some found :=
      List.find?_cons_of_pos (decide_eq_true named)
    rw [none, next] at search
    exact Option.some.inj search

end Bag

/-! ## Slots in the order of their arrival -/

namespace Proposal

/-- Whether the proposals of every slot bear the times in the order in which they stand. -/
def Chronological (proposals : List Proposal) : Prop :=
  proposals.Pairwise fun earlier later => earlier.id = later.id →
    earlier.createdAt ≤ later.createdAt

instance (proposals : List Proposal) : Decidable (Chronological proposals) :=
  inferInstanceAs (Decidable (proposals.Pairwise _))

/-- Under one slot the order is that of the time stamps. -/
theorem key_le_of_createdAt_le {sooner later : Proposal} (same : sooner.id = later.id)
    (order : sooner.createdAt ≤ later.createdAt) : sooner.key ≤ later.key := by
  rcases Nat.lt_or_eq_of_le order with before | together
  · exact OrderKey.le_iff.2 (.inl before)
  · exact OrderKey.le_iff.2 (.inr ⟨together, Int.le_of_eq (congrArg ProposalId.toInt same)⟩)

end Proposal

namespace IsRound

variable {before after taken left : List Proposal} {first entry : Proposal}

/-- What a round takes of a slot is at the place of its first entry in the order. -/
theorem key_eq_first (round : IsRound (before ++ first :: after) taken left)
    (ordered : Proposal.Chronological (before ++ first :: after))
    (fresh : ∀ entry ∈ before, entry.id ≠ first.id) (member : entry ∈ taken)
    (slot : entry.id = first.id) : entry.key = first.key := by
  refine OrderKey.eq_of_le_of_le (round.key_le member (by simp) slot) ?_
  obtain ⟨-, behind, -⟩ := List.pairwise_append.1 ordered
  rcases List.mem_append.1 (round.mem_held member) with inBefore | fromFirst
  · exact absurd slot (fresh entry inBefore)
  · rcases List.mem_cons.1 fromFirst with rfl | inAfter
    · exact OrderKey.le_refl _
    · exact Proposal.key_le_of_createdAt_le slot.symm
        (List.rel_of_pairwise_cons behind inAfter slot.symm)

/-- What a round takes and what it leaves of a slot is what has entered. -/
theorem inSlot_perm (round : IsRound (before ++ first :: after) taken left)
    (fresh : ∀ entry ∈ before, entry.id ≠ first.id) :
    (Proposal.inSlot first.id taken ++ Proposal.inSlot first.id left).Perm
      (first :: Proposal.inSlot first.id after) := by
  have none : Proposal.inSlot first.id before = [] :=
    List.filter_eq_nil_iff.2 fun entry member => by simpa using fresh entry member
  have parted := round.parted.filter fun entry => decide (entry.id = first.id)
  rw [List.filter_append, List.filter_append, List.filter_cons_of_pos (by simp)] at parted
  calc Proposal.inSlot first.id taken ++ Proposal.inSlot first.id left
    _ |>.Perm (Proposal.inSlot first.id before ++ first :: Proposal.inSlot first.id after) := parted
    _ = first :: Proposal.inSlot first.id after := by rw [none, List.nil_append]

end IsRound

namespace Ledger

/-- The first key of a slot is noted behind those of the other slots. -/
theorem noteKey_of_new {keys : List OrderKey} {key : OrderKey}
    (new : key.id ∉ keys.map OrderKey.id) : noteKey keys key = keys ++ [key] := by
  induction keys with
  | nil => rfl
  | cons known rest inductionHypothesis =>
    rw [List.map_cons, List.mem_cons, not_or] at new
    rw [noteKey, if_neg (Ne.symm new.1), inductionHypothesis new.2]
    rfl

/-- A key that is no smaller than the known one of its slot is not noted. -/
theorem noteKey_of_known {keys : List OrderKey} {key : OrderKey}
    (present : key.id ∈ keys.map OrderKey.id)
    (least : ∀ known ∈ keys, known.id = key.id → known ≤ key) : noteKey keys key = keys := by
  induction keys with
  | nil => cases present
  | cons known rest inductionHypothesis =>
    by_cases same : known.id = key.id
    · have before := least known List.mem_cons_self same
      rw [noteKey, if_pos same, if_neg (OrderKey.not_lt.2 before)]
    · rw [noteKey, if_neg same, inductionHypothesis]
      · exact (List.mem_cons.1 present).resolve_left (Ne.symm same)
      · exact fun other member => least other (List.mem_cons_of_mem _ member)

/-- Where the times are in order, the first of a slot remains its oldest. -/
theorem oldestKeys_prefix {before after : List Proposal}
    (ordered : Proposal.Chronological (before ++ after)) :
    oldestKeys ⟨before⟩ <+: oldestKeys ⟨before ++ after⟩ := by
  induction after using List.reverseRecOn with
  | nil => rw [List.append_nil]
  | append_singleton after last inductionHypothesis =>
    rw [← List.append_assoc] at ordered ⊢
    obtain ⟨orderedBefore, -, lastLate⟩ := List.pairwise_append.1 ordered
    refine (inductionHypothesis orderedBefore).trans ?_
    rw [oldestKeys_concat]
    by_cases known : last.key.id ∈ (oldestKeys ⟨before ++ after⟩).map OrderKey.id
    · rw [noteKey_of_known known]
      intro key member same
      obtain ⟨entry, inEntries, rfl⟩ := (oldestKeys_spec ⟨before ++ after⟩).2.1 key member
      have sooner := lastLate entry inEntries last List.mem_cons_self same
      exact Proposal.key_le_of_createdAt_le same sooner
    · rw [noteKey_of_new known]
      exact List.prefix_append _ _

/-- What is found at the turn of a slot belongs to the round. -/
theorem mem_takeRound_of_remove? {ledger : Ledger} {keys later : List OrderKey} {key : OrderKey}
    {found : Proposal} {left : List Proposal} (turn : ledger.oldestKeys = keys ++ key :: later)
    (removed : Bag.remove? (Bag.removeEach ledger.entries keys).2 key = some (found, left)) :
    found ∈ ledger.takeRound.1 := by
  refine (sorted_perm _).mem_iff.2 ?_
  rw [turn, Bag.removeEach_append]
  refine List.mem_append_right _ ?_
  simp only [Bag.removeEach, removed]
  exact List.mem_cons_self

/-- The ledger that several proposals have entered, one after the other. -/
def ofArrivals (arrivals : List Proposal) : Ledger :=
  arrivals.foldl add empty

/-- Its entries are the arrivals in their order. -/
@[simp] theorem entries_ofArrivals (arrivals : List Proposal) :
    (ofArrivals arrivals).entries = arrivals := by
  induction arrivals using List.reverseRecOn with
  | nil => rfl
  | append_singleton arrivals last inductionHypothesis =>
    rw [ofArrivals, List.foldl_append]
    exact congrArg (· ++ [last]) inductionHypothesis

/-- The last arrivals, as many as there are slots that came before. -/
def displaced (before arrivals : List Proposal) : List Proposal :=
  arrivals.rtake (Proposal.slots before).length

section Turn

variable {before after : List Proposal} {first : Proposal}

/-- Where few entries come after the first of a slot, it is itself among the last arrivals. -/
theorem suffix_displaced (short : after.length < (Proposal.slots before).length) :
    first :: after <:+ displaced before (before ++ first :: after) := by
  simp only [displaced, List.rtake]
  rw [List.drop_append_of_le_length (by simp; omega)]
  exact List.suffix_append _ _

/-- Otherwise the last arrivals are all behind it. -/
theorem exists_displaced (long : (Proposal.slots before).length ≤ after.length) :
    ∃ kept movers, after = kept ++ movers ∧ movers.length = (Proposal.slots before).length ∧
      displaced before (before ++ first :: after) = movers := by
  refine ⟨after.take (after.length - (Proposal.slots before).length),
    after.rtake (Proposal.slots before).length, (List.take_append_drop _ _).symm, ?_, ?_⟩
  · rw [List.rtake, List.length_drop]
    omega
  · have place : (before ++ first :: after).length - (Proposal.slots before).length =
        before.length + (after.length - (Proposal.slots before).length + 1) := by
      rw [List.length_append, List.length_cons]
      omega
    rw [displaced, List.rtake, place, List.drop_length_add_append, List.drop_succ_cons, List.rtake]

/-- When it is the turn of a slot, the slots that came before have had theirs. -/
theorem oldestKeys_turn (ordered : Proposal.Chronological (before ++ first :: after))
    (fresh : ∀ entry ∈ before, entry.id ≠ first.id) :
    ∃ later, oldestKeys ⟨before ++ first :: after⟩ =
      oldestKeys ⟨before⟩ ++ first.key :: later := by
  rw [List.append_cons] at ordered ⊢
  obtain ⟨later, extended⟩ := oldestKeys_prefix ordered
  have new : first.key.id ∉ (oldestKeys ⟨before⟩).map OrderKey.id := by
    intro member
    obtain ⟨key, known, same⟩ := List.mem_map.1 member
    obtain ⟨entry, inBefore, rfl⟩ := (oldestKeys_spec ⟨before⟩).2.1 key known
    exact fresh entry inBefore same
  rw [oldestKeys_concat, noteKey_of_new new] at extended
  exact ⟨later, by rw [← extended, List.append_assoc]; rfl⟩

/-- While the slots that came before have their turns, as many of the last entries take the places
of theirs, and whatever else is there comes behind. -/
theorem removeEach_before {kept movers : List Proposal}
    (fresh : ∀ entry ∈ before, entry.id ≠ first.id)
    (count : movers.length = (Proposal.slots before).length) :
    ∃ renewed, (Bag.removeEach (before ++ first :: (kept ++ movers)) (oldestKeys ⟨before⟩)).2 =
        renewed ++ first :: kept ∧
      ∀ entry, entry.key = first.key → (entry ∈ renewed ↔ entry ∈ movers) := by
  obtain ⟨distinct, present, -⟩ := oldestKeys_spec ⟨before⟩
  have enough : movers.length = (oldestKeys ⟨before⟩).length :=
    count.trans (distinctIds_eq ⟨before⟩).symm
  obtain ⟨taken, renewed, result, takenKeys, perm⟩ :=
    @Bag.removeEach_front before (first :: kept) movers _ (List.Nodup.of_map _ distinct) present
      enough
  refine ⟨renewed, congrArg Prod.snd result, fun entry same => ?_⟩
  have notBefore : entry ∉ before := fun member =>
    fresh entry member (congrArg OrderKey.id same)
  have notTaken : entry ∉ taken := by
    intro member
    obtain ⟨other, inBefore, equal⟩ := present entry.key (takenKeys ▸ List.mem_map_of_mem member)
    exact fresh other inBefore (congrArg OrderKey.id (equal.trans same))
  have exchanged := @List.Perm.mem_iff _ entry _ _ perm
  rw [List.mem_append, List.mem_append] at exchanged
  constructor
  · intro member
    exact (exchanged.1 (.inr member)).resolve_right notBefore
  · intro member
    exact (exchanged.2 (.inl member)).resolve_left notTaken

/-- At its turn a slot gives up its first entry if none of the displaced entries is at that place in
the order, and a displaced entry otherwise. -/
theorem exists_turn (ordered : Proposal.Chronological (before ++ first :: after))
    (fresh : ∀ entry ∈ before, entry.id ≠ first.id) :
    let moved := displaced before (before ++ first :: after)
    ∃ taken ∈ (takeRound ⟨before ++ first :: after⟩).1, taken.id = first.id ∧
      ((∀ entry ∈ moved, entry.key ≠ first.key) → taken = first) ∧
      ((∃ entry ∈ moved, entry.key = first.key) → taken ∈ moved) := by
  intro moved
  rcases Nat.lt_or_ge after.length (Proposal.slots before).length with short | long
  · -- The first entry is itself among the last arrivals, and so is all that comes after it.
    have suffix : first :: after <:+ moved := suffix_displaced short
    obtain ⟨taken, inRound, slot, -⟩ :=
      (takeRound_isRound ⟨before ++ first :: after⟩).oldest first (by simp)
    refine ⟨taken, inRound, slot, ?_, fun _ => suffix.subset ?_⟩
    · intro absent
      exact absurd rfl (absent first (suffix.subset List.mem_cons_self))
    · rcases List.mem_append.1 ((takeRound_isRound _).mem_held inRound) with inBefore | behind
      · exact absurd slot (fresh taken inBefore)
      · exact behind
  · obtain ⟨kept, movers, rfl, count, last⟩ := @exists_displaced before after first long
    have same : moved = movers := last
    obtain ⟨later, turn⟩ := oldestKeys_turn ordered fresh
    obtain ⟨renewed, result, members⟩ := @removeEach_before before first kept movers fresh count
    obtain ⟨taken, left, removed, named, inFront, next⟩ :=
      @Bag.remove?_or renewed kept first.key first rfl
    refine ⟨taken, mem_takeRound_of_remove? turn (result ▸ removed), congrArg OrderKey.id named,
      ?_, ?_⟩
    · intro absent
      refine next fun entry member here => absent entry ?_ here
      rw [same]
      exact (members entry here).1 member
    · rintro ⟨entry, member, here⟩
      rw [same] at member ⊢
      exact (members taken named).1 (inFront ⟨entry, (members entry here).2 member, here⟩)

/-- Whatever has entered a ledger, every slot in the order of its times: a round takes one proposal
of a slot, of the same time as the first that has entered, and leaves all the others. It is the
first if among the last arrivals, as many as there are slots that came before, no other is at its
place in the order; and if one is, then what the round takes is one of those. -/
theorem round_takes_first {arrivals : List Proposal} (ordered : Proposal.Chronological arrivals)
    (entered : arrivals = before ++ first :: after)
    (fresh : ∀ entry ∈ before, entry.id ≠ first.id) :
    let round := (ofArrivals arrivals).takeRound
    let moved := displaced before arrivals
    ∃ taken, Proposal.inSlot first.id round.1 = [taken] ∧
      taken.createdAt = first.createdAt ∧
      (taken :: Proposal.inSlot first.id round.2.entries).Perm
        (first :: Proposal.inSlot first.id after) ∧
      ((∀ entry ∈ moved, entry.key = first.key → entry = first) →
        taken = first ∧
        (Proposal.inSlot first.id round.2.entries).Perm (Proposal.inSlot first.id after)) ∧
      ((∃ entry ∈ moved, entry.key = first.key) → taken ∈ moved) := by
  subst entered
  intro round moved
  have state : ofArrivals (before ++ first :: after) = ⟨before ++ first :: after⟩ :=
    congrArg Ledger.mk (entries_ofArrivals _)
  have isRound : IsRound (before ++ first :: after) round.1 round.2.entries := by
    simp only [round, state]
    exact takeRound_isRound _
  obtain ⟨taken, inRound, slot, stays, goes⟩ := exists_turn ordered fresh
  rw [← state] at inRound
  have only : Proposal.inSlot first.id round.1 = [taken] :=
    slot ▸ Proposal.inSlot_of_distinct isRound.distinct inRound
  have parted : (taken :: Proposal.inSlot first.id round.2.entries).Perm
      (first :: Proposal.inSlot first.id after) := by
    have perm := isRound.inSlot_perm fresh
    rwa [only] at perm
  have together := isRound.key_eq_first ordered fresh inRound slot
  refine ⟨taken, only, congrArg OrderKey.createdAt together, parted, fun equal => ?_, goes⟩
  have isFirst : taken = first := by
    by_cases threatened : ∃ entry ∈ moved, entry.key = first.key
    · exact equal taken (goes threatened) together
    · exact stays fun entry member same => threatened ⟨entry, member, same⟩
  exact ⟨isFirst, (isFirst ▸ parted).cons_inv⟩

end Turn

/-! ## Two of one time -/

/-- A proposal of a slot, and two of another that bear the same time. -/
def crossing : List Proposal :=
  [.create ⟨0⟩ ⟨0⟩ [] ⟨100⟩, .create ⟨1⟩ ⟨0⟩ [1] ⟨100⟩, .create ⟨1⟩ ⟨0⟩ [2] ⟨100⟩]

/-- The round takes the later of the two, and the next one the earlier. -/
theorem later_round_overtakes :
    Proposal.Chronological crossing ∧
    (ofArrivals crossing).entries.map Proposal.payload = [[], [1], [2]] ∧
    (ofArrivals crossing).takeRound.1.map Proposal.payload = [[], [2]] ∧
    (ofArrivals crossing).takeRound.2.takeRound.1.map Proposal.payload = [[1]] := by
  refine ⟨by decide, by decide, by cbv, by cbv⟩

/-- With one more proposal of the first slot behind them the earlier one is taken. -/
theorem round_takes_first_crossing :
    let first := Proposal.create ⟨1⟩ ⟨0⟩ [1] ⟨100⟩
    let second := Proposal.create ⟨1⟩ ⟨0⟩ [2] ⟨100⟩
    let round := (ofArrivals (crossing ++ [.create ⟨0⟩ ⟨0⟩ [] ⟨200⟩])).takeRound
    Proposal.inSlot ⟨1⟩ round.1 = [first] ∧
    (Proposal.inSlot ⟨1⟩ round.2.entries).Perm [second] := by
  obtain ⟨taken, only, -, -, keeps, -⟩ :=
    @round_takes_first [.create ⟨0⟩ ⟨0⟩ [] ⟨100⟩]
      [.create ⟨1⟩ ⟨0⟩ [2] ⟨100⟩, .create ⟨0⟩ ⟨0⟩ [] ⟨200⟩] (.create ⟨1⟩ ⟨0⟩ [1] ⟨100⟩)
      (crossing ++ [.create ⟨0⟩ ⟨0⟩ [] ⟨200⟩]) (by decide) rfl (by decide)
  obtain ⟨rfl, left⟩ := keeps (by decide)
  exact ⟨only, left⟩

end Ledger

end Concord
