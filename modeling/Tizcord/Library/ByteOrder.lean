/-
This file is a library for byte-order conversion done in place: reversing the
bytes of a field of an object. Reversing a family of pairwise disjoint fields
twice gives the object back, in whatever order the fields are taken.
-/

import Tizcord.Library.Memory

namespace CModel

/-! ### Byte swaps of words -/

/-- The word with its `width` bytes in the opposite order. -/
def byteSwap (width value : Nat) : Nat :=
  bytesToNat (natToBytes width value).reverse

theorem byteSwap_bytesToNat (bytes : List UInt8) :
    byteSwap bytes.length (bytesToNat bytes) = bytesToNat bytes.reverse := by
  rw [byteSwap, natToBytes_bytesToNat]

theorem byteSwap_lt (width value : Nat) : byteSwap width value < 256 ^ width := by
  have bound := bytesToNat_lt (natToBytes width value).reverse
  rwa [List.length_reverse, length_natToBytes] at bound

/-- Swapping a double-width word is swapping its halves and exchanging them. -/
theorem byteSwap_append (low high : List UInt8) :
    byteSwap (low.length + high.length) (bytesToNat (low ++ high)) =
      byteSwap high.length (bytesToNat high) +
        256 ^ high.length * byteSwap low.length (bytesToNat low) := by
  rw [← List.length_append, byteSwap_bytesToNat, List.reverse_append, bytesToNat_append,
    byteSwap_bytesToNat, byteSwap_bytesToNat, List.length_reverse]

/-! ### Reversing a field in place -/

namespace Image

variable {size : Nat}

/-- Reverse the bytes of one field. -/
def reverseField (image : Image size) (offset width : Nat) : Image size :=
  image.store offset (image.slice offset width).reverse

/-- Writing back the swapped word of a field reverses its bytes. -/
theorem putWord_byteSwap (image : Image size) (offset width : Nat) :
    image.putWord offset width (byteSwap width (image.word offset width)) =
      image.reverseField offset width := by
  have length : (image.slice offset width).reverse.length = width := by simp
  have swapped : byteSwap width (image.word offset width) =
      bytesToNat (image.slice offset width).reverse := by
    rw [← byteSwap_bytesToNat, length_slice, word]
  have bytes := natToBytes_bytesToNat (image.slice offset width).reverse
  rw [length] at bytes
  rw [putWord, swapped, bytes, reverseField]

theorem byte_reverseField (image : Image size) (offset width index : Nat)
    (fits : offset + width ≤ size) :
    (image.reverseField offset width).byte index =
      if offset ≤ index ∧ index < offset + width then image.byte (2 * offset + width - 1 - index)
      else image.byte index := by
  rw [reverseField, byte_store, List.length_reverse, length_slice]
  by_cases within : offset ≤ index ∧ index < offset + width
  · have bound : index - offset < (image.slice offset width).reverse.length := by
      simp only [List.length_reverse, length_slice]
      omega
    rw [if_pos (by omega), if_pos within, List.getD_eq_getElem?_getD,
      List.getElem?_eq_getElem bound, Option.getD_some, List.getElem_reverse, getElem_slice,
      length_slice]
    congr 1
    omega
  · rw [if_neg (by omega), if_neg within]

theorem reverseField_reverseField (image : Image size) (offset width : Nat)
    (fits : offset + width ≤ size) :
    (image.reverseField offset width).reverseField offset width = image := by
  refine ext_byte fun index _ => ?_
  rw [byte_reverseField _ _ _ _ fits, byte_reverseField _ _ _ _ fits,
    byte_reverseField _ _ _ _ fits]
  by_cases within : offset ≤ index ∧ index < offset + width
  · rw [if_pos within, if_pos (by omega)]
    congr 1
    omega
  · rw [if_neg within, if_neg within]

/-- Two byte ranges that do not meet. -/
def Apart (first second : Nat × Nat) : Prop :=
  first.1 + first.2 ≤ second.1 ∨ second.1 + second.2 ≤ first.1

instance (first second : Nat × Nat) : Decidable (Apart first second) :=
  inferInstanceAs (Decidable (_ ∨ _))

theorem reverseField_comm (image : Image size) (first second : Nat × Nat)
    (apart : Apart first second) (firstFits : first.1 + first.2 ≤ size)
    (secondFits : second.1 + second.2 ≤ size) :
    (image.reverseField first.1 first.2).reverseField second.1 second.2 =
      (image.reverseField second.1 second.2).reverseField first.1 first.2 := by
  unfold Apart at apart
  refine ext_byte fun index _ => ?_
  simp only [byte_reverseField _ _ _ _ firstFits, byte_reverseField _ _ _ _ secondFits]
  by_cases inFirst : first.1 ≤ index ∧ index < first.1 + first.2
  · have outSecond : ¬ (second.1 ≤ index ∧ index < second.1 + second.2) := by omega
    have mirrored : ¬ (second.1 ≤ 2 * first.1 + first.2 - 1 - index ∧
        2 * first.1 + first.2 - 1 - index < second.1 + second.2) := by omega
    simp only [inFirst, outSecond, mirrored, and_self, if_true, if_false]
  · by_cases inSecond : second.1 ≤ index ∧ index < second.1 + second.2
    · have mirrored : ¬ (first.1 ≤ 2 * second.1 + second.2 - 1 - index ∧
          2 * second.1 + second.2 - 1 - index < first.1 + first.2) := by omega
      simp only [inFirst, inSecond, mirrored, and_self, if_true, if_false]
    · simp only [inFirst, inSecond, if_false]

/-- Reverse the bytes of each field of a list, one after the other. -/
def reverseFields (fields : List (Nat × Nat)) (image : Image size) : Image size :=
  fields.foldl (fun current field => current.reverseField field.1 field.2) image

theorem reverseFields_reverseField (fields : List (Nat × Nat)) (image : Image size)
    (field : Nat × Nat) (apart : ∀ other ∈ fields, Apart field other)
    (fits : ∀ other ∈ fields, other.1 + other.2 ≤ size) (fieldFits : field.1 + field.2 ≤ size) :
    reverseFields fields (image.reverseField field.1 field.2) =
      (reverseFields fields image).reverseField field.1 field.2 := by
  induction fields generalizing image with
  | nil => rfl
  | cons head rest inductionHypothesis =>
    have headMember : head ∈ head :: rest := List.mem_cons_self
    show reverseFields rest ((image.reverseField field.1 field.2).reverseField head.1 head.2) =
      (reverseFields rest (image.reverseField head.1 head.2)).reverseField field.1 field.2
    rw [reverseField_comm image field head (apart head headMember) fieldFits
        (fits head headMember),
      inductionHypothesis _ (fun other member => apart other (List.mem_cons_of_mem _ member))
        (fun other member => fits other (List.mem_cons_of_mem _ member))]

/-- Reversing pairwise disjoint fields is an involution. -/
theorem reverseFields_reverseFields (fields : List (Nat × Nat)) (image : Image size)
    (apart : fields.Pairwise Apart) (fits : ∀ field ∈ fields, field.1 + field.2 ≤ size) :
    reverseFields fields (reverseFields fields image) = image := by
  induction fields generalizing image with
  | nil => rfl
  | cons head rest inductionHypothesis =>
    obtain ⟨headApart, restApart⟩ := List.pairwise_cons.mp apart
    have headFits : head.1 + head.2 ≤ size := fits head List.mem_cons_self
    have restFits : ∀ field ∈ rest, field.1 + field.2 ≤ size :=
      fun field member => fits field (List.mem_cons_of_mem _ member)
    show reverseFields rest ((reverseFields rest (image.reverseField head.1 head.2)).reverseField
      head.1 head.2) = image
    rw [← reverseFields_reverseField rest _ head headApart restFits headFits,
      reverseField_reverseField _ _ _ headFits, inductionHypothesis _ restApart restFits]

/-- A field apart from all reversed fields keeps its bytes. -/
theorem slice_reverseFields (fields : List (Nat × Nat)) (image : Image size)
    (offset width : Nat) (apart : ∀ other ∈ fields, Apart (offset, width) other) :
    (reverseFields fields image).slice offset width = image.slice offset width := by
  induction fields generalizing image with
  | nil => rfl
  | cons head rest inductionHypothesis =>
    show (reverseFields rest (image.reverseField head.1 head.2)).slice offset width = _
    have headApart : Apart (offset, width) head := apart head List.mem_cons_self
    rw [inductionHypothesis _ fun other member => apart other (List.mem_cons_of_mem _ member),
      reverseField, slice_store_disjoint]
    simpa [Apart] using headApart

end Image

end CModel
