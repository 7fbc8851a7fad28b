/-
This file is a library for a sort that works in place. Two loops run through the
pairs of slots in use, and wherever the later element of a pair belongs in front
of the earlier one, the two change places.
-/

import Tizcord.Library.SlotArray
import Mathlib.Data.List.FinRange
import Mathlib.Data.List.ProdSigma

namespace CModel

/-- What a loop over all indices keeps, it has kept in the end. -/
theorem foldl_finRange {State : Type} {size : Nat} {body : State → Fin size → State}
    (holds : Nat → State → Prop)
    (kept : ∀ state (index : Fin size), holds index.val state →
      holds (index.val + 1) (body state index))
    {state : State} (initial : holds 0 state) :
    holds size ((List.finRange size).foldl body state) := by
  induction size with
  | zero => exact initial
  | succ size inductionHypothesis =>
    rw [List.finRange_succ_last, List.foldl_append, List.foldl_map]
    exact kept _ (Fin.last size)
      (inductionHypothesis fun state index held => kept state index.castSucc held)

namespace SlotArray

variable {Element : Type} {size : Nat}

/-- The pairs of slots in use, in the order of the two loops. -/
def pairs (size count : Nat) : List (Fin size × Fin size) :=
  ((List.finRange size).product (List.finRange size)).filter fun pair =>
    pair.1 < pair.2 && pair.2.val < count

section Sorting

variable (precedes : Element → Element → Bool)

/-- The elements of a pair change places when the later one precedes the earlier one. -/
def exchange (slot : Fin size → Element) (pair : Fin size × Fin size) : Fin size → Element :=
  if precedes (slot pair.2) (slot pair.1) then
    Function.update (Function.update slot pair.1 (slot pair.2)) pair.2 (slot pair.1)
  else slot

def exchangeSort (array : SlotArray Element size) : SlotArray Element size :=
  { array with slot := (pairs size array.count).foldl (exchange precedes) array.slot }

end Sorting

variable {precedes : Element → Element → Bool} {count : Nat} {slot : Fin size → Element}

/-! ### Nothing is lost -/

theorem mem_pairs {pair : Fin size × Fin size} (member : pair ∈ pairs size count) :
    pair.1 < pair.2 ∧ pair.2.val < count := by
  have both := (List.mem_filter.mp member).2
  rw [Bool.and_eq_true, decide_eq_true_iff, decide_eq_true_iff] at both
  exact both

/-- Two elements in use that change places are still the same elements. -/
theorem entries_swap_perm {array : SlotArray Element size} {first second : Fin size}
    (firstUsed : first.val < array.count) (secondUsed : second.val < array.count) :
    ({ array with slot := array.slot ∘ Equiv.swap first second } :
      SlotArray Element size).entries.Perm array.entries := by
  let swapped : Equiv.Perm (Fin array.count) :=
    Equiv.swap ⟨first.val, firstUsed⟩ ⟨second.val, secondUsed⟩
  have same : ∀ index : Fin array.count,
      Equiv.swap first second (index.castLE array.fits) = (swapped index).castLE array.fits :=
    fun index => (Fin.castLE_injective array.fits).swap_apply ⟨first.val, firstUsed⟩
      ⟨second.val, secondUsed⟩ index
  have entries : ({ array with slot := array.slot ∘ Equiv.swap first second } :
      SlotArray Element size).entries =
      List.ofFn ((fun index : Fin array.count => array.slot (index.castLE array.fits)) ∘
        swapped) := by
    refine congrArg List.ofFn (funext fun index => ?_)
    exact congrArg array.slot (same index)
  rw [entries]
  exact swapped.ofFn_comp_perm _

theorem entries_exchange_perm {array : SlotArray Element size} {pair : Fin size × Fin size}
    (firstUsed : pair.1.val < array.count) (secondUsed : pair.2.val < array.count) :
    ({ array with slot := exchange precedes array.slot pair } :
      SlotArray Element size).entries.Perm array.entries := by
  rw [exchange]
  split
  · rw [← Equiv.comp_swap_eq_update]
    exact entries_swap_perm secondUsed firstUsed
  · exact List.Perm.refl _

/-- Sorting keeps all elements in use, each as often as it was there. -/
theorem exchangeSort_perm (array : SlotArray Element size) :
    (array.exchangeSort precedes).entries.Perm array.entries := by
  have all : ∀ pair ∈ pairs size array.count,
      pair.1.val < array.count ∧ pair.2.val < array.count := by
    intro pair member
    obtain ⟨less, used⟩ := mem_pairs member
    exact ⟨lt_trans (Fin.lt_def.mp less) used, used⟩
  rw [exchangeSort]
  generalize pairs size array.count = rounds at all
  induction rounds generalizing array with
  | nil => exact List.Perm.refl _
  | cons pair rest inductionHypothesis =>
    obtain ⟨firstUsed, secondUsed⟩ := all pair List.mem_cons_self
    have later := inductionHypothesis { array with slot := exchange precedes array.slot pair }
      fun other member => all other (List.mem_cons_of_mem _ member)
    exact later.trans (entries_exchange_perm firstUsed secondUsed)

/-! ### Everything is in order -/

/-- The loops one inside the other. -/
theorem foldl_pairs (body : (Fin size → Element) → Fin size × Fin size → Fin size → Element) :
    (pairs size count).foldl body slot = (List.finRange size).foldl (fun slot first =>
      (List.finRange size).foldl (fun slot second =>
        if first < second && second.val < count then body slot (first, second) else slot)
        slot) slot := by
  rw [pairs, List.foldl_filter, List.product, List.foldl_flatMap]
  simp only [List.foldl_map]

/-- In no pair in front of a certain one the later element precedes the earlier one. -/
def Settled (precedes : Element → Element → Bool) (count first second : Nat)
    (slot : Fin size → Element) : Prop :=
  ∀ early late : Fin size, early < late → late.val < count →
    early.val < first ∨ early.val = first ∧ late.val < second →
      precedes (slot late) (slot early) = false

variable (asymmetric : ∀ left right : Element, precedes left right = true →
    precedes right left = false)
  (transitive : ∀ left middle right : Element, precedes left middle = true →
    precedes middle right = true → precedes left right = true)
  {first second : Fin size}

include asymmetric transitive in
/-- A pair that is looked at is settled, and all pairs in front of it stay so. -/
theorem Settled.exchange (settled : Settled precedes count first second slot)
    (before : first < second) (used : second.val < count) :
    Settled precedes count first (second + 1) (exchange precedes slot (first, second)) := by
  intro early late less lateUsed done
  by_cases swaps : precedes (slot second) (slot first) = true
  · rw [SlotArray.exchange, if_pos swaps]
    dsimp only
    rcases done with done | ⟨same, done⟩
    · -- the earlier slot is not touched, and both new elements were settled against it
      have notSecond : early ≠ second := fun is => absurd before (is ▸ done).asymm
      have notFirst : early ≠ first := fun is => absurd done (is ▸ lt_irrefl _)
      rw [Function.update_of_ne notSecond, Function.update_of_ne notFirst]
      by_cases isSecond : late = second
      · rw [isSecond, Function.update_self]
        exact settled early first done (lt_trans (Fin.lt_def.mp before) used) (Or.inl done)
      · rw [Function.update_of_ne isSecond]
        by_cases isFirst : late = first
        · rw [isFirst, Function.update_self]
          exact settled early second (done.trans before) used (Or.inl done)
        · rw [Function.update_of_ne isFirst]
          exact settled early late less lateUsed (Or.inl done)
    · -- the earlier slot gets an element that precedes the one it had
      obtain rfl : early = first := Fin.ext same
      rw [Function.update_of_ne before.ne, Function.update_self]
      by_cases isSecond : late = second
      · rw [isSecond, Function.update_self]
        exact asymmetric _ _ swaps
      · have earlier : late.val < second.val :=
          lt_of_le_of_ne (Nat.lt_succ_iff.mp done) fun is => isSecond (Fin.ext is)
        rw [Function.update_of_ne isSecond, Function.update_of_ne less.ne']
        refine Bool.eq_false_iff.mpr fun ahead => ?_
        have settledBefore := settled early late less lateUsed (Or.inr ⟨rfl, earlier⟩)
        exact absurd (transitive _ _ _ ahead swaps) (Bool.eq_false_iff.mp settledBefore)
  · rw [SlotArray.exchange, if_neg swaps]
    rcases done with done | ⟨same, done⟩
    · exact settled early late less lateUsed (Or.inl done)
    · by_cases isSecond : late = second
      · rw [isSecond, Fin.ext same]
        exact Bool.eq_false_iff.mpr swaps
      · have earlier : late.val < second.val :=
          lt_of_le_of_ne (Nat.lt_succ_iff.mp done) fun is => isSecond (Fin.ext is)
        exact settled early late less lateUsed (Or.inr ⟨same, earlier⟩)

/-- A pair that the loops pass over is none. -/
theorem Settled.skip (settled : Settled precedes count first second slot)
    (passed : ¬ (first < second ∧ second.val < count)) :
    Settled precedes count first (second + 1) slot := by
  intro early late less lateUsed done
  refine settled early late less lateUsed (done.imp_right fun both => ⟨both.1, ?_⟩)
  refine lt_of_le_of_ne (Nat.lt_succ_iff.mp both.2) fun is => passed ?_
  obtain rfl : late = second := Fin.ext is
  obtain rfl : early = first := Fin.ext both.1
  exact ⟨less, lateUsed⟩

/-- Where the inner loop ends, the outer one goes on. -/
theorem Settled.endOfRow {first : Nat} (settled : Settled precedes count first size slot) :
    Settled precedes count (first + 1) 0 slot := by
  intro early late less used done
  refine settled early late less used ?_
  rcases done with done | ⟨-, none⟩
  · exact (Nat.lt_succ_iff_lt_or_eq.mp done).imp_right fun same => ⟨same, late.isLt⟩
  · exact absurd none (Nat.not_lt_zero _)

include asymmetric transitive in
/-- After sorting no element precedes one in front of it. -/
theorem exchangeSort_pairwise (array : SlotArray Element size) :
    (array.exchangeSort precedes).entries.Pairwise fun early late =>
      precedes late early = false := by
  have settled : Settled precedes array.count size 0 (array.exchangeSort precedes).slot := by
    rw [exchangeSort, foldl_pairs]
    refine foldl_finRange (fun first => Settled precedes array.count first 0) ?_ ?_
    · intro slot first outer
      refine Settled.endOfRow ?_
      refine foldl_finRange (Settled precedes array.count first) ?_ outer
      intro slot second held
      split
      · next inUse =>
        rw [Bool.and_eq_true, decide_eq_true_iff, decide_eq_true_iff] at inUse
        exact held.exchange asymmetric transitive inUse.1 inUse.2
      · next passed =>
        rw [Bool.and_eq_true, decide_eq_true_iff, decide_eq_true_iff] at passed
        exact held.skip passed
    · intro early late _ _ done
      rcases done with none | ⟨-, none⟩ <;> exact absurd none (Nat.not_lt_zero _)
  rw [entries, List.pairwise_ofFn]
  intro early late less
  exact settled _ _ less late.isLt (Or.inl (early.castLE array.fits).isLt)

end SlotArray

end CModel
