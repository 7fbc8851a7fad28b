/-
This file is a library for a C array of fixed size with a counter of the slots in
use. An element is filed in the first unused slot while there is one. A slot
that goes out of use keeps what was written to it.
-/

import Mathlib.Data.List.OfFn
import Mathlib.Logic.Function.Basic

namespace CModel

/-- The slots of an array, the first `count` of which are in use. -/
structure SlotArray (Element : Type) (size : Nat) where
  slot : Fin size → Element
  count : Nat
  fits : count ≤ size

namespace SlotArray

variable {Element : Type} {size : Nat}

/-- An array with no slot in use. -/
def empty (element : Element) : SlotArray Element size where
  slot _ := element
  count := 0
  fits := Nat.zero_le size

/-- Take all slots out of use. -/
def clear (array : SlotArray Element size) : SlotArray Element size :=
  { array with count := 0, fits := Nat.zero_le size }

/-- Write to a slot, in use or not. -/
def modify (array : SlotArray Element size) (index : Fin size) (write : Element → Element) :
    SlotArray Element size :=
  { array with slot := Function.update array.slot index (write (array.slot index)) }

/-- Take the next slot into use and write to it. A full array stays as it is. -/
def file (array : SlotArray Element size) (write : Element → Element) : SlotArray Element size :=
  if room : array.count < size then
    { array.modify ⟨array.count, room⟩ write with count := array.count + 1, fits := room }
  else array

/-- Whether a slot is in use. -/
def inUse (array : SlotArray Element size) (index : Fin size) : Bool :=
  index.val < array.count

/-- The elements in use, in order. -/
def entries (array : SlotArray Element size) : List Element :=
  List.ofFn fun index : Fin array.count => array.slot (index.castLE array.fits)

/-- The first slot in use with a certain element. -/
def find? (array : SlotArray Element size) (wanted : Element → Bool) : Option (Fin size) :=
  (List.finRange size).find? fun index => array.inUse index && wanted (array.slot index)

variable (array : SlotArray Element size) (write : Element → Element)

/-! ### What is in use -/

@[simp] theorem length_entries : array.entries.length = array.count :=
  List.length_ofFn

@[simp] theorem entries_clear : array.clear.entries = [] := rfl

@[simp] theorem slot_clear : array.clear.slot = array.slot := rfl

@[simp] theorem count_modify (index : Fin size) : (array.modify index write).count = array.count :=
  rfl

@[simp] theorem slot_modify_same (index : Fin size) :
    (array.modify index write).slot index = write (array.slot index) :=
  Function.update_self ..

theorem slot_modify_ne {index other : Fin size} (different : other ≠ index) :
    (array.modify index write).slot other = array.slot other :=
  Function.update_of_ne different ..

variable {array write}

theorem getElem_entries {index : Nat} (inside : index < array.entries.length) :
    array.entries[index] =
      array.slot ⟨index, (inside.trans_eq array.length_entries).trans_le array.fits⟩ := by
  simp [entries]

theorem mem_entries {element : Element} :
    element ∈ array.entries ↔ ∃ index : Fin size, index.val < array.count ∧
      array.slot index = element := by
  rw [entries, List.mem_ofFn]
  constructor
  · rintro ⟨index, found⟩
    exact ⟨index.castLE array.fits, index.isLt, found⟩
  · rintro ⟨index, used, found⟩
    exact ⟨⟨index.val, used⟩, found⟩

theorem inUse_iff {index : Fin size} : array.inUse index = true ↔ index.val < array.count :=
  decide_eq_true_iff

theorem find?_eq_some {wanted : Element → Bool} {index : Fin size}
    (found : array.find? wanted = some index) :
    index.val < array.count ∧ wanted (array.slot index) = true := by
  have both := List.find?_some found
  rw [Bool.and_eq_true, inUse_iff] at both
  exact both

/-- A write that is of no importance to a search does not change what it finds. -/
theorem find?_modify {wanted : Element → Bool} (index : Fin size)
    (same : ∀ element, wanted (write element) = wanted element) :
    (array.modify index write).find? wanted = array.find? wanted := by
  refine congrArg (List.find? · (List.finRange size)) (funext fun other => ?_)
  have used : (array.modify index write).inUse other = array.inUse other := rfl
  rw [used]
  by_cases written : other = index
  · rw [written, slot_modify_same, same]
  · rw [slot_modify_ne _ _ written]

theorem find?_eq_none {wanted : Element → Bool} :
    array.find? wanted = none ↔ ∀ element ∈ array.entries, wanted element = false := by
  rw [find?, List.find?_eq_none]
  constructor
  · intro refused element member
    obtain ⟨index, used, rfl⟩ := mem_entries.mp member
    have unwanted := refused index (List.mem_finRange index)
    rw [Bool.and_eq_true, inUse_iff, not_and] at unwanted
    exact Bool.eq_false_iff.mpr (unwanted used)
  · intro refused index _ both
    rw [Bool.and_eq_true, inUse_iff] at both
    rw [refused _ (mem_entries.mpr ⟨index, both.1, rfl⟩)] at both
    exact Bool.noConfusion both.2

/-- Where the elements in use have distinct keys, a write to the first one with a key is a write to
all with this key. -/
theorem entries_update {Key : Type} [DecidableEq Key] (key : Element → Key)
    (distinct : (array.entries.map key).Nodup) (wanted : Key) (write : Element → Element) :
    ((array.find? fun element => key element = wanted).elim array fun index =>
        array.modify index write).entries =
      array.entries.map fun element => if key element = wanted then write element else element := by
  cases found : array.find? fun element => key element = wanted with
  | none =>
    have none' := find?_eq_none.mp found
    rw [Option.elim_none]
    refine (List.map_id _).symm.trans (List.map_congr_left fun element member => ?_)
    exact (if_neg (of_decide_eq_false (none' element member))).symm
  | some index =>
    obtain ⟨used, is⟩ := find?_eq_some found
    rw [Option.elim_some]
    refine List.ext_getElem (by simp) fun place inside insideToo => ?_
    rw [List.getElem_map, getElem_entries, getElem_entries]
    rw [length_entries, count_modify] at inside
    by_cases here : place = index.val
    · subst here
      rw [if_pos (of_decide_eq_true is)]
      exact slot_modify_same array write index
    · have other : (⟨place, inside.trans_le array.fits⟩ : Fin size) ≠ index :=
        fun same => here (congrArg Fin.val same)
      rw [slot_modify_ne _ _ other, if_neg]
      intro same
      refine here ?_
      have first : place < (array.entries.map key).length := by
        rw [List.length_map, length_entries]
        exact inside
      have second : index.val < (array.entries.map key).length := by
        rw [List.length_map, length_entries]
        exact used
      refine (@List.getElem_inj _ place index.val _ first second distinct).mp ?_
      rw [List.getElem_map, List.getElem_map, getElem_entries, getElem_entries, same]
      exact (of_decide_eq_true is).symm

/-- A write that changes nothing of what is shown. -/
theorem map_entries_modify {Shown : Type} {shows : Element → Shown} {index : Fin size}
    (same : ∀ element, shows (write element) = shows element) :
    (array.modify index write).entries.map shows = array.entries.map shows := by
  refine List.ext_getElem (by simp) fun place inside insideToo => ?_
  rw [List.getElem_map, List.getElem_map, getElem_entries, getElem_entries]
  rw [List.length_map, length_entries] at insideToo
  by_cases here : (⟨place, insideToo.trans_le array.fits⟩ : Fin size) = index
  · subst here
    rw [← same (array.slot _)]
    exact congrArg shows (slot_modify_same array write _)
  · exact congrArg shows (slot_modify_ne array write here)

/-! ### Filing -/

theorem file_of_full (full : ¬ array.count < size) : array.file write = array := dif_neg full

theorem count_file_of_room (room : array.count < size) :
    (array.file write).count = array.count + 1 := by
  rw [file, dif_pos room]

theorem count_le_file : array.count ≤ (array.file write).count := by
  by_cases room : array.count < size
  · rw [count_file_of_room room]
    exact Nat.le_succ _
  · rw [file_of_full room]

theorem count_file : (array.file write).count = min (array.count + 1) size := by
  by_cases room : array.count < size
  · rw [count_file_of_room room, Nat.min_eq_left room]
  · rw [file_of_full room, Nat.min_eq_right (by omega)]
    exact Nat.le_antisymm array.fits (Nat.not_lt.mp room)

theorem slot_file_of_room (room : array.count < size) :
    (array.file write).slot =
      Function.update array.slot ⟨array.count, room⟩ (write (array.slot ⟨array.count, room⟩)) := by
  rw [file, dif_pos room]
  rfl

/-- Filing leaves every slot alone but the next one. -/
theorem slot_file_ne {index : Fin size} (other : index.val ≠ array.count) :
    (array.file write).slot index = array.slot index := by
  by_cases room : array.count < size
  · rw [slot_file_of_room room, Function.update_of_ne]
    exact fun same => other (congrArg Fin.val same)
  · rw [file_of_full room]

theorem slot_file_of_used {index : Fin size} (used : index.val < array.count) :
    (array.file write).slot index = array.slot index :=
  slot_file_ne used.ne

theorem slot_file_same {index : Fin size} (next : index.val = array.count) :
    (array.file write).slot index = write (array.slot index) := by
  have room : array.count < size := next ▸ index.isLt
  have same : (⟨array.count, room⟩ : Fin size) = index := Fin.ext next.symm
  rw [slot_file_of_room room, same, Function.update_self]

/-- The new element stands behind the elements in use. -/
theorem entries_file_of_room (room : array.count < size) :
    (array.file write).entries = array.entries ++ [write (array.slot ⟨array.count, room⟩)] := by
  refine List.ext_getElem ?_ fun index inside bound => ?_
  · rw [length_entries, count_file_of_room room, List.length_append, length_entries]
    rfl
  · rw [getElem_entries, slot_file_of_room room]
    rw [length_entries, count_file_of_room room] at inside
    by_cases last : index = array.count
    · subst last
      rw [Function.update_self, List.getElem_append_right (by rw [length_entries])]
      simp
    · rw [Function.update_of_ne (by simpa [Fin.ext_iff] using last),
        List.getElem_append_left (by rw [length_entries]; omega), getElem_entries]

/-- Filing keeps what is in use in place. -/
theorem entries_prefix_file : array.entries <+: (array.file write).entries := by
  by_cases room : array.count < size
  · rw [entries_file_of_room room]
    exact List.prefix_append _ _
  · have same : array.file write = array := file_of_full room
    exact same.symm ▸ List.prefix_rfl

/-- Where what is filed shows the same whatever was there, the array shows it behind the rest, as
far as its size lets it. -/
theorem map_entries_file {Shown : Type} {shows : Element → Shown} {shown : Shown}
    (same : ∀ element, shows (write element) = shown) :
    (array.file write).entries.map shows = (array.entries.map shows ++ [shown]).take size := by
  by_cases room : array.count < size
  · rw [entries_file_of_room room, List.map_append, List.map_singleton, same,
      List.take_of_length_le]
    rw [List.length_append, List.length_map, length_entries]
    exact room
  · have full : (array.entries.map shows).length = size := by
      rw [List.length_map, length_entries]
      exact Nat.le_antisymm array.fits (Nat.not_lt.mp room)
    rw [file_of_full room, List.take_left' full]

/-- Filing an element of its own makes the array as long as its size lets it be. -/
theorem entries_file_const (element : Element) :
    (array.file fun _ => element).entries = (array.entries ++ [element]).take size := by
  have shown := @map_entries_file _ _ array (fun _ => element) _ id element fun _ => rfl
  rwa [List.map_id, List.map_id] at shown

/-- Of many elements filed in order, those are kept for which there is room. -/
theorem entries_foldl_file (elements : List Element) (array : SlotArray Element size) :
    (elements.foldl (fun array element => array.file fun _ => element) array).entries =
      (array.entries ++ elements).take size := by
  induction elements generalizing array with
  | nil =>
    rw [List.append_nil, List.take_of_length_le (array.length_entries.trans_le array.fits)]
    rfl
  | cons element rest inductionHypothesis =>
    rw [List.foldl_cons, inductionHypothesis, entries_file_const]
    by_cases short : (array.entries ++ [element]).length ≤ size
    · rw [List.take_of_length_le short, List.append_assoc]
      rfl
    · have long : size ≤ (array.entries ++ [element]).length := (Nat.not_le.mp short).le
      have cut : ((array.entries ++ [element]).take size).length = size := by
        rw [List.length_take]
        omega
      rw [List.take_append_of_le_length cut.ge, List.take_take, min_self,
        show array.entries ++ element :: rest = (array.entries ++ [element]) ++ rest by simp,
        List.take_append_of_le_length long]

/-- What holds of all slots, in use or not, and is kept by a write, holds after the write. -/
theorem forall_slot_modify {holds : Element → Prop} (all : ∀ index, holds (array.slot index))
    {index : Fin size} (kept : holds (array.slot index) → holds (write (array.slot index)))
    (other : Fin size) : holds ((array.modify index write).slot other) := by
  by_cases same : other = index
  · rw [same, slot_modify_same]
    exact kept (all index)
  · rw [slot_modify_ne _ _ same]
    exact all other

theorem forall_slot_file {holds : Element → Prop} (all : ∀ index, holds (array.slot index))
    (kept : ∀ element, holds element → holds (write element)) (other : Fin size) :
    holds ((array.file write).slot other) := by
  by_cases room : array.count < size
  · rw [file, dif_pos room]
    exact forall_slot_modify all (kept _) other
  · rw [file_of_full room]
    exact all other

theorem count_file_le : (array.file write).count ≤ array.count + 1 := by
  by_cases room : array.count < size
  · rw [count_file_of_room room]
  · rw [file_of_full room]
    exact Nat.le_succ _

end SlotArray

end CModel
