/-
This file is a library for the memory of a C object: an image of `size` bytes,
read and written at byte offsets. An integer field is the little-endian reading
of its bytes, a character field is a slice, and a C string is the part of the
memory before the first zero byte, wherever that byte stands.

Every read is a function of one slice, and every write is a `store`, so the
frame rule has one form: a store leaves every slice it does not touch as it was.
-/

import Mathlib.Data.List.Basic
import Mathlib.Data.List.TakeWhile
import Mathlib.Tactic.Ring

namespace CModel

/-! ### Words and their bytes -/

/-- The number whose little-endian bytes are given. -/
def bytesToNat : List UInt8 → Nat
  | [] => 0
  | byte :: rest => byte.toNat + 256 * bytesToNat rest

/-- The `width` low bytes of a number, least significant first. -/
def natToBytes : Nat → Nat → List UInt8
  | 0, _ => []
  | width + 1, value => UInt8.ofNat (value % 256) :: natToBytes width (value / 256)

@[simp] theorem length_natToBytes (width value : Nat) :
    (natToBytes width value).length = width := by
  induction width generalizing value with
  | zero => rfl
  | succ width inductionHypothesis => simp [natToBytes, inductionHypothesis]

theorem bytesToNat_lt (bytes : List UInt8) : bytesToNat bytes < 256 ^ bytes.length := by
  induction bytes with
  | nil => simp [bytesToNat]
  | cons byte rest inductionHypothesis =>
    have small : byte.toNat < 256 := byte.toNat_lt
    rw [bytesToNat, List.length_cons, Nat.pow_succ]
    omega

theorem bytesToNat_natToBytes (width value : Nat) :
    bytesToNat (natToBytes width value) = value % 256 ^ width := by
  induction width generalizing value with
  | zero => simp [natToBytes, bytesToNat, Nat.mod_one]
  | succ width inductionHypothesis =>
    have low : (UInt8.ofNat (value % 256)).toNat = value % 256 := by
      rw [UInt8.toNat_ofNat']
      omega
    rw [natToBytes, bytesToNat, inductionHypothesis, low, Nat.pow_succ, Nat.mul_comm (256 ^ width),
      Nat.mod_mul]

theorem natToBytes_bytesToNat (bytes : List UInt8) :
    natToBytes bytes.length (bytesToNat bytes) = bytes := by
  induction bytes with
  | nil => rfl
  | cons byte rest inductionHypothesis =>
    have small : byte.toNat < 256 := byte.toNat_lt
    have low : (byte.toNat + 256 * bytesToNat rest) % 256 = byte.toNat := by omega
    have high : (byte.toNat + 256 * bytesToNat rest) / 256 = bytesToNat rest := by omega
    rw [List.length_cons, natToBytes, bytesToNat, low, high, inductionHypothesis]
    congr 1
    exact UInt8.ofNat_toNat

theorem bytesToNat_append (low high : List UInt8) :
    bytesToNat (low ++ high) = bytesToNat low + 256 ^ low.length * bytesToNat high := by
  induction low with
  | nil => simp [bytesToNat]
  | cons byte rest inductionHypothesis =>
    rw [List.cons_append, bytesToNat, bytesToNat, inductionHypothesis, List.length_cons,
      Nat.pow_succ]
    ring

/-- The signed reading of a number modulo `2 ^ bits`. -/
def signed (bits : Nat) (value : Int) : Int :=
  Int.bmod value (2 ^ bits)

@[simp] theorem signed_zero (bits : Nat) : signed bits 0 = 0 := by
  rw [signed, Int.zero_bmod]

@[simp] theorem signed_signed (bits : Nat) (value : Int) :
    signed bits (signed bits value) = signed bits value := by
  rw [signed, signed, Int.bmod_bmod]

theorem signed_of_bounds {bits : Nat} {value : Int} (lower : -(2 ^ bits : Nat) ≤ 2 * value)
    (upper : 2 * value < (2 ^ bits : Nat)) : signed bits value = value := by
  unfold signed
  exact Int.bmod_eq_of_le_mul_two (by omega) (by omega)

/-! ### C strings -/

/-- The contents of a C string: bytes without a zero byte. -/
structure Text where
  bytes : List UInt8
  clean : (0 : UInt8) ∉ bytes
  deriving DecidableEq

namespace Text

theorem ext {first second : Text} (equal : first.bytes = second.bytes) : first = second := by
  cases first
  cases second
  cases equal
  rfl

def empty : Text := ⟨[], List.not_mem_nil⟩

/-- The texts of one letter that examples use. -/
def letterA : Text := ⟨[97], by decide⟩
def letterB : Text := ⟨[98], by decide⟩
def letterC : Text := ⟨[99], by decide⟩
def letterD : Text := ⟨[100], by decide⟩

def append (first second : Text) : Text :=
  ⟨first.bytes ++ second.bytes, fun member =>
    (List.mem_append.mp member).elim first.clean second.clean⟩

/-- The text of a string literal. -/
def ofString (literal : String) : Text where
  bytes := (literal.toList.map fun character => UInt8.ofNat character.toNat).filter (· ≠ 0)
  clean := by simp

/-- The first `count` bytes of a text. -/
def take (count : Nat) (text : Text) : Text :=
  ⟨text.bytes.take count, fun member => text.clean (List.mem_of_mem_take member)⟩

/-- The text from a byte on. -/
def drop (count : Nat) (text : Text) : Text :=
  ⟨text.bytes.drop count, fun member => text.clean (List.mem_of_mem_drop member)⟩

/-- Whether a text starts with another, as `strncmp` over the length of that one sees it. -/
def startsWith (text start : Text) : Bool :=
  start.bytes.isPrefixOf text.bytes

theorem take_of_length_le {count : Nat} {text : Text} (short : text.bytes.length ≤ count) :
    text.take count = text :=
  ext (List.take_of_length_le short)

/-- Texts in the order of `memcmp`: bytewise, a proper prefix first. -/
def le (first second : Text) : Bool :=
  leBytes first.bytes second.bytes
where
  leBytes : List UInt8 → List UInt8 → Bool
    | [], _ => true
    | _ :: _, [] => false
    | first :: firsts, second :: seconds =>
      if first = second then leBytes firsts seconds else first < second

theorem leBytes_total (first second : List UInt8) :
    le.leBytes first second = true ∨ le.leBytes second first = true := by
  induction first generalizing second with
  | nil => exact Or.inl (by cases second <;> rfl)
  | cons byte rest inductionHypothesis =>
    cases second with
    | nil => exact Or.inr rfl
    | cons other others =>
      rw [le.leBytes, le.leBytes]
      by_cases same : byte = other
      · rw [if_pos same, if_pos same.symm]
        exact inductionHypothesis others
      · rw [if_neg same, if_neg (Ne.symm same), decide_eq_true_eq, decide_eq_true_eq]
        rw [UInt8.lt_iff_toNat_lt, UInt8.lt_iff_toNat_lt]
        exact lt_or_gt_of_ne fun equal => same (UInt8.toNat_inj.mp equal)

theorem leBytes_trans (first second third : List UInt8) (low : le.leBytes first second = true)
    (high : le.leBytes second third = true) : le.leBytes first third = true := by
  induction first generalizing second third with
  | nil => cases third <;> rfl
  | cons byte rest inductionHypothesis =>
    cases second with
    | nil => cases low
    | cons other others =>
      cases third with
      | nil => cases high
      | cons last lasts =>
        rw [le.leBytes] at low high ⊢
        by_cases early : byte = other
        · subst early
          rw [if_pos rfl] at low
          by_cases late : byte = last
          · subst late
            rw [if_pos rfl] at high ⊢
            exact inductionHypothesis others lasts low high
          · rwa [if_neg late] at high ⊢
        · rw [if_neg early] at low
          by_cases late : other = last
          · subst late
            rwa [if_neg early]
          · rw [if_neg late] at high
            rw [decide_eq_true_eq, UInt8.lt_iff_toNat_lt] at low high
            rw [if_neg, decide_eq_true_eq, UInt8.lt_iff_toNat_lt]
            · exact low.trans high
            · rintro rfl
              exact lt_asymm low high

theorem le_total (first second : Text) : first.le second = true ∨ second.le first = true :=
  leBytes_total first.bytes second.bytes

theorem le_trans (first second third : Text) (low : first.le second = true)
    (high : second.le third = true) : first.le third = true :=
  leBytes_trans first.bytes second.bytes third.bytes low high

end Text

/-- The C string stored at the start of some memory: everything before the first zero byte. -/
def cString (memory : List UInt8) : Text where
  bytes := memory.takeWhile (· ≠ 0)
  clean := fun member => by simpa using List.mem_takeWhile_imp member

/-- A zero byte in the field ends the string inside the field. -/
theorem cString_append_of_mem {field : List UInt8} (terminated : (0 : UInt8) ∈ field)
    (beyond : List UInt8) : cString (field ++ beyond) = cString field := by
  induction field with
  | nil => cases terminated
  | cons byte rest inductionHypothesis =>
    by_cases zero : byte = 0
    · simp [cString, zero]
    · have inRest : (0 : UInt8) ∈ rest := by
        rcases List.mem_cons.mp terminated with equal | member
        · exact absurd equal.symm zero
        · exact member
      have tail := congrArg Text.bytes (inductionHypothesis inRest)
      refine Text.ext ?_
      unfold cString at tail ⊢
      dsimp only at tail ⊢
      rw [List.cons_append, List.takeWhile_cons, List.takeWhile_cons, tail]

/-- A field without a zero byte is read to its end and into the memory behind it. -/
theorem cString_append_of_not_mem {field : List UInt8} (unterminated : (0 : UInt8) ∉ field)
    (beyond : List UInt8) :
    (cString (field ++ beyond)).bytes = field ++ (cString beyond).bytes := by
  refine List.takeWhile_append_of_pos fun byte member => ?_
  have nonzero : byte ≠ 0 := fun zero => unterminated (zero ▸ member)
  simpa using nonzero

theorem length_cString_le (memory : List UInt8) :
    (cString memory).bytes.length ≤ memory.length :=
  (List.takeWhile_prefix _).length_le

/-- A text of less than the length of its field has its zero byte inside the field. -/
theorem length_cString_lt {field : List UInt8} (terminated : (0 : UInt8) ∈ field) :
    (cString field).bytes.length < field.length := by
  refine Nat.lt_of_le_of_ne (length_cString_le field) fun equal => ?_
  have isPrefix : field.takeWhile (· ≠ 0) <+: field := List.takeWhile_prefix _
  have member : (0 : UInt8) ∈ field.takeWhile (· ≠ 0) := by
    rw [isPrefix.eq_of_length equal]
    exact terminated
  exact (cString field).clean member

theorem mem_of_length_cString_lt {field : List UInt8}
    (short : (cString field).bytes.length < field.length) : (0 : UInt8) ∈ field := by
  by_contra unterminated
  have whole := cString_append_of_not_mem unterminated []
  rw [List.append_nil] at whole
  rw [whole, List.length_append] at short
  omega

/-- What `strncpy` writes for a count of `count`: the text cut to `count` bytes, filled up
with zero bytes. -/
def strncpyBytes (count : Nat) (text : Text) : List UInt8 :=
  text.bytes.take count ++ List.replicate (count - text.bytes.length) 0

@[simp] theorem length_strncpyBytes (count : Nat) (text : Text) :
    (strncpyBytes count text).length = count := by
  simp only [strncpyBytes, List.length_append, List.length_take, List.length_replicate]
  omega

/-- A text copied by `strncpy` in front of a zero byte reads back cut to the count. -/
theorem cString_strncpyBytes (text : Text) (count : Nat) (rest : List UInt8) :
    cString (strncpyBytes count text ++ 0 :: rest) = text.take count := by
  have padded : ∀ filler : Nat,
      (cString (List.replicate filler 0 ++ 0 :: rest)).bytes = [] := by
    intro filler
    cases filler <;> simp [cString, List.replicate_succ]
  refine Text.ext ?_
  show (cString ((text.take count).bytes ++ _ ++ _)).bytes = (text.take count).bytes
  rw [List.append_assoc, cString_append_of_not_mem (text.take count).clean, padded,
    List.append_nil]

/-! ### The layout of a structure -/

/-- The next multiple of an alignment. -/
def alignUp (offset alignment : Nat) : Nat :=
  (offset + alignment - 1) / alignment * alignment

/-- The offsets of the members of a structure, given their sizes and alignments. -/
def memberOffsets : Nat → List (Nat × Nat) → List Nat
  | _, [] => []
  | offset, (size, alignment) :: rest =>
    alignUp offset alignment :: memberOffsets (alignUp offset alignment + size) rest

/-- The size of a structure: the end of its last member, rounded up to its alignment. -/
def structSize (members : List (Nat × Nat)) : Nat :=
  alignUp
    (members.foldl (fun offset member => alignUp offset member.2 + member.1) 0)
    (members.foldl (fun alignment member => max alignment member.2) 1)

/-! ### Images -/

/-- The bytes of a C object of `size` bytes. -/
def Image (size : Nat) : Type := Fin size → UInt8

namespace Image

variable {size : Nat}

/-- The byte at an offset. -/
def byte (image : Image size) (index : Nat) : UInt8 :=
  if inside : index < size then image ⟨index, inside⟩ else 0

/-- An object after `memset(.., 0, ..)`. -/
def zero : Image size := fun _ => 0

/-- The `length` bytes from `offset` on. -/
def slice (image : Image size) (offset length : Nat) : List UInt8 :=
  (List.range length).map fun index => image.byte (offset + index)

/-- Write bytes at an offset. -/
def store (image : Image size) (offset : Nat) (bytes : List UInt8) : Image size := fun index =>
  if index.val < offset then image index else (bytes[index.val - offset]?).getD (image index)

/-- All bytes of the object. -/
def toBytes (image : Image size) : List UInt8 :=
  image.slice 0 size

/-- The object whose bytes are given. -/
def ofBytes (bytes : List UInt8) : Image size := fun index => bytes.getD index.val 0

theorem ext_byte {first second : Image size}
    (equal : ∀ index < size, first.byte index = second.byte index) : first = second := by
  funext ⟨index, inside⟩
  have same := equal index inside
  simpa only [byte, inside, dite_true] using same

@[simp] theorem length_slice (image : Image size) (offset length : Nat) :
    (image.slice offset length).length = length := by
  simp [slice]

@[simp] theorem length_toBytes (image : Image size) : image.toBytes.length = size :=
  image.length_slice 0 size

theorem getElem_slice (image : Image size) (offset length index : Nat)
    (inside : index < (image.slice offset length).length) :
    (image.slice offset length)[index] = image.byte (offset + index) := by
  simp [slice]

theorem byte_store (image : Image size) (offset : Nat) (bytes : List UInt8) (index : Nat) :
    (image.store offset bytes).byte index =
      if index < size ∧ offset ≤ index ∧ index < offset + bytes.length then
        bytes.getD (index - offset) 0
      else image.byte index := by
  by_cases inside : index < size
  · by_cases before : index < offset
    · simp [byte, store, inside, before, Nat.not_le.mpr before]
    · by_cases within : index - offset < bytes.length
      · have bound : index < offset + bytes.length := by omega
        simp [byte, store, inside, before, bound, Nat.not_lt.mp before, within]
      · have bound : ¬ index < offset + bytes.length := by omega
        simp [byte, store, inside, before, bound, List.getElem?_eq_none (Nat.not_lt.mp within)]
  · simp [byte, inside]

theorem byte_ofBytes (bytes : List UInt8) (index : Nat) (inside : index < size) :
    (ofBytes bytes : Image size).byte index = bytes.getD index 0 := by
  simp [byte, ofBytes, inside]

theorem slice_congr {first second : Image size} {offset length : Nat}
    (equal : ∀ index < length, first.byte (offset + index) = second.byte (offset + index)) :
    first.slice offset length = second.slice offset length := by
  unfold slice
  refine List.map_congr_left fun index member => ?_
  exact equal index (List.mem_range.mp member)

/-- Bytes written at an offset are read back there. -/
theorem slice_store_same (image : Image size) (offset : Nat) (bytes : List UInt8)
    (fits : offset + bytes.length ≤ size) :
    (image.store offset bytes).slice offset bytes.length = bytes := by
  refine List.ext_getElem (by simp) fun index inside bound => ?_
  rw [getElem_slice, byte_store, if_pos (by omega)]
  simp [bound]

/-- The frame rule: a store changes no slice it does not meet. -/
theorem slice_store_disjoint (image : Image size) (offset length other : Nat) (bytes : List UInt8)
    (disjoint : offset + length ≤ other ∨ other + bytes.length ≤ offset) :
    (image.store other bytes).slice offset length = image.slice offset length := by
  refine slice_congr fun index bound => ?_
  rw [byte_store, if_neg (by omega)]

theorem slice_append (image : Image size) (offset first second : Nat) :
    image.slice offset (first + second) =
      image.slice offset first ++ image.slice (offset + first) second := by
  simp only [slice, List.range_add, List.map_append, List.map_map]
  congr 1
  refine List.map_congr_left fun index _ => ?_
  simp [Nat.add_assoc]

theorem slice_zero_succ (image : Image size) (length : Nat) :
    image.slice 0 (length + 1) = image.slice 0 1 ++ image.slice 1 length := by
  rw [Nat.add_comm, slice_append, Nat.zero_add]

theorem ofBytes_toBytes (image : Image size) : ofBytes image.toBytes = image := by
  refine ext_byte fun index inside => ?_
  have bound : index < image.toBytes.length := by simpa using inside
  rw [byte_ofBytes _ _ inside, List.getD_eq_getElem?_getD, List.getElem?_eq_getElem bound]
  simp [toBytes, slice]

theorem toBytes_injective {first second : Image size} (equal : first.toBytes = second.toBytes) :
    first = second := by
  rw [← ofBytes_toBytes first, ← ofBytes_toBytes second, equal]

/-! ### Integer fields -/

/-- The unsigned reading of a field of `width` bytes. -/
def word (image : Image size) (offset width : Nat) : Nat :=
  bytesToNat (image.slice offset width)

/-- Write the low `width` bytes of a number. -/
def putWord (image : Image size) (offset width value : Nat) : Image size :=
  image.store offset (natToBytes width value)

/-- A signed 32-bit field. -/
def int32 (image : Image size) (offset : Nat) : Int :=
  signed 32 (image.word offset 4)

/-- A signed 64-bit field. -/
def int64 (image : Image size) (offset : Nat) : Int :=
  signed 64 (image.word offset 8)

/-- Assign a 32-bit field, keeping the low 32 bits of the value. -/
def putInt32 (image : Image size) (offset : Nat) (value : Int) : Image size :=
  image.putWord offset 4 (value % 2 ^ 32).toNat

/-- Assign a 64-bit field, keeping the low 64 bits of the value. -/
def putInt64 (image : Image size) (offset : Nat) (value : Int) : Image size :=
  image.putWord offset 8 (value % 2 ^ 64).toNat

theorem word_lt (image : Image size) (offset width : Nat) :
    image.word offset width < 256 ^ width := by
  have bound := bytesToNat_lt (image.slice offset width)
  rwa [length_slice] at bound

theorem word_four_lt (image : Image size) (offset : Nat) : image.word offset 4 < 2 ^ 32 := by
  have bound := image.word_lt offset 4
  norm_num at bound ⊢
  exact bound

@[simp] theorem word_zero (offset width : Nat) : (zero : Image size).word offset width = 0 := by
  have bytes : (zero : Image size).slice offset width = List.replicate width 0 := by
    refine List.ext_getElem (by simp) fun index inside bound => ?_
    rw [getElem_slice, List.getElem_replicate, byte]
    split <;> rfl
  have sum : ∀ count : Nat, bytesToNat (List.replicate count 0) = 0 := by
    intro count
    induction count with
    | zero => rfl
    | succ count inductionHypothesis =>
      rw [List.replicate_succ, bytesToNat, inductionHypothesis]
      rfl
  rw [word, bytes, sum]

@[simp] theorem int32_zero (offset : Nat) : (zero : Image size).int32 offset = 0 := by
  rw [int32, word_zero]
  rfl

@[simp] theorem int64_zero (offset : Nat) : (zero : Image size).int64 offset = 0 := by
  rw [int64, word_zero]
  rfl

theorem word_putWord_same (image : Image size) (offset width value : Nat)
    (fits : offset + width ≤ size) :
    (image.putWord offset width value).word offset width = value % 256 ^ width := by
  have same := image.slice_store_same offset (natToBytes width value) (by simpa using fits)
  rw [length_natToBytes] at same
  rw [word, putWord, same, bytesToNat_natToBytes]

theorem word_store_disjoint (image : Image size) (offset width other : Nat) (bytes : List UInt8)
    (disjoint : offset + width ≤ other ∨ other + bytes.length ≤ offset) :
    (image.store other bytes).word offset width = image.word offset width := by
  rw [word, word, slice_store_disjoint _ _ _ _ _ disjoint]

@[simp] theorem int32_putInt32_same (image : Image size) (offset : Nat) (value : Int)
    (fits : offset + 4 ≤ size) : (image.putInt32 offset value).int32 offset = signed 32 value := by
  rw [int32, putInt32, word_putWord_same _ _ _ _ fits]
  simp only [signed]
  rw [show (256 ^ 4 : Nat) = 2 ^ 32 from rfl, Nat.mod_eq_of_lt (by omega),
    Int.toNat_of_nonneg (by omega)]
  exact_mod_cast Int.emod_bmod value (2 ^ 32)

@[simp] theorem int64_putInt64_same (image : Image size) (offset : Nat) (value : Int)
    (fits : offset + 8 ≤ size) : (image.putInt64 offset value).int64 offset = signed 64 value := by
  rw [int64, putInt64, word_putWord_same _ _ _ _ fits]
  simp only [signed]
  rw [show (256 ^ 8 : Nat) = 2 ^ 64 from rfl, Nat.mod_eq_of_lt (by omega),
    Int.toNat_of_nonneg (by omega)]
  exact_mod_cast Int.emod_bmod value (2 ^ 64)

@[simp] theorem int32_putInt32_disjoint (image : Image size) (offset other : Nat) (value : Int)
    (disjoint : offset + 4 ≤ other ∨ other + 4 ≤ offset) :
    (image.putInt32 other value).int32 offset = image.int32 offset := by
  rw [int32, int32, putInt32, putWord, word_store_disjoint _ _ _ _ _ (by simpa using disjoint)]

@[simp] theorem int32_putInt64_disjoint (image : Image size) (offset other : Nat) (value : Int)
    (disjoint : offset + 4 ≤ other ∨ other + 8 ≤ offset) :
    (image.putInt64 other value).int32 offset = image.int32 offset := by
  rw [int32, int32, putInt64, putWord, word_store_disjoint _ _ _ _ _ (by simpa using disjoint)]

@[simp] theorem int64_putInt32_disjoint (image : Image size) (offset other : Nat) (value : Int)
    (disjoint : offset + 8 ≤ other ∨ other + 4 ≤ offset) :
    (image.putInt32 other value).int64 offset = image.int64 offset := by
  rw [int64, int64, putInt32, putWord, word_store_disjoint _ _ _ _ _ (by simpa using disjoint)]

@[simp] theorem int64_putInt64_disjoint (image : Image size) (offset other : Nat) (value : Int)
    (disjoint : offset + 8 ≤ other ∨ other + 8 ≤ offset) :
    (image.putInt64 other value).int64 offset = image.int64 offset := by
  rw [int64, int64, putInt64, putWord, word_store_disjoint _ _ _ _ _ (by simpa using disjoint)]

/-! ### Character fields -/

/-- `strncpy(field, text, count)` on the field at an offset. -/
def strncpy (image : Image size) (offset count : Nat) (text : Text) : Image size :=
  image.store offset (strncpyBytes count text)

/-- The C string that starts at an offset. It is not bounded by the field it starts in, nor by
the object: without a zero byte it runs on into the memory behind the object. -/
def text (image : Image size) (offset : Nat) (beyond : List UInt8) : Text :=
  cString (image.slice offset (size - offset) ++ beyond)

@[simp] theorem int32_strncpy_disjoint (image : Image size) (offset other count : Nat)
    (source : Text) (disjoint : offset + 4 ≤ other ∨ other + count ≤ offset) :
    (image.strncpy other count source).int32 offset = image.int32 offset := by
  rw [int32, int32, strncpy, word_store_disjoint _ _ _ _ _ (by simpa using disjoint)]

@[simp] theorem int64_strncpy_disjoint (image : Image size) (offset other count : Nat)
    (source : Text) (disjoint : offset + 8 ≤ other ∨ other + count ≤ offset) :
    (image.strncpy other count source).int64 offset = image.int64 offset := by
  rw [int64, int64, strncpy, word_store_disjoint _ _ _ _ _ (by simpa using disjoint)]

/-- A text that starts behind a store is not affected by it. -/
theorem text_store_before (image : Image size) (offset other : Nat) (bytes beyond : List UInt8)
    (disjoint : other + bytes.length ≤ offset) :
    (image.store other bytes).text offset beyond = image.text offset beyond := by
  rw [text, text, slice_store_disjoint _ _ _ _ _ (Or.inr disjoint)]

/-- A zero byte among the `width` bytes of a field bounds its text by the field. -/
theorem text_of_terminated (image : Image size) (offset width : Nat) (beyond : List UInt8)
    (fits : offset + width ≤ size) (terminated : (0 : UInt8) ∈ image.slice offset width) :
    image.text offset beyond = cString (image.slice offset width) := by
  have split : size - offset = width + (size - offset - width) := by omega
  rw [text, split, slice_append, List.append_assoc, cString_append_of_mem terminated]

/-- Without a zero byte in the field, the text is the field and then what stands behind it. -/
theorem text_of_unterminated (image : Image size) (offset width : Nat) (beyond : List UInt8)
    (fits : offset + width ≤ size) (unterminated : (0 : UInt8) ∉ image.slice offset width) :
    (image.text offset beyond).bytes =
      image.slice offset width ++ (image.text (offset + width) beyond).bytes := by
  have split : size - offset = width + (size - (offset + width)) := by omega
  rw [text, split, slice_append, List.append_assoc, cString_append_of_not_mem unterminated, text]

@[simp] theorem slice_zero (offset length : Nat) :
    (zero : Image size).slice offset length = List.replicate length 0 := by
  refine List.ext_getElem (by simp) fun index _ _ => ?_
  rw [getElem_slice, List.getElem_replicate, byte]
  split <;> rfl

@[simp] theorem slice_putInt32_disjoint (image : Image size) (offset length other : Nat)
    (value : Int) (disjoint : offset + length ≤ other ∨ other + 4 ≤ offset) :
    (image.putInt32 other value).slice offset length = image.slice offset length :=
  slice_store_disjoint _ _ _ _ _ (by simpa using disjoint)

@[simp] theorem slice_putInt64_disjoint (image : Image size) (offset length other : Nat)
    (value : Int) (disjoint : offset + length ≤ other ∨ other + 8 ≤ offset) :
    (image.putInt64 other value).slice offset length = image.slice offset length :=
  slice_store_disjoint _ _ _ _ _ (by simpa using disjoint)

@[simp] theorem slice_strncpy_disjoint (image : Image size) (offset length other count : Nat)
    (source : Text) (disjoint : offset + length ≤ other ∨ other + count ≤ offset) :
    (image.strncpy other count source).slice offset length = image.slice offset length :=
  slice_store_disjoint _ _ _ _ _ (by simpa using disjoint)

/-- A text copied in front of a zero byte, with this byte. -/
theorem slice_strncpy_same (image : Image size) (offset count : Nat) (source : Text)
    (fits : offset + count < size) (terminated : image.slice (offset + count) 1 = [0]) :
    (image.strncpy offset count source).slice offset (count + 1) =
      strncpyBytes count source ++ [0] := by
  have copied := image.slice_store_same offset (strncpyBytes count source) (by simpa using fits.le)
  rw [length_strncpyBytes] at copied
  rw [slice_append, slice_strncpy_disjoint _ _ _ _ _ _ (Or.inr le_rfl), terminated, strncpy, copied]

/-- A field that holds a copied text and a zero byte reads back as the text cut to the count. -/
theorem text_of_slice (image : Image size) {offset count : Nat} {source : Text}
    (beyond : List UInt8) (fits : offset + count < size)
    (field : image.slice offset (count + 1) = strncpyBytes count source ++ [0]) :
    image.text offset beyond = source.take count := by
  have terminated : (0 : UInt8) ∈ image.slice offset (count + 1) := by
    rw [field]
    exact List.mem_append_right _ List.mem_cons_self
  rw [text_of_terminated image offset (count + 1) beyond fits terminated, field]
  exact cString_strncpyBytes source count []

/-- The start of a text depends on no more memory than it is long. -/
theorem take_text (image : Image size) {offset count : Nat} (beyond : List UInt8)
    (fits : offset + count ≤ size) :
    (image.text offset beyond).take count = cString (image.slice offset count) := by
  have split : size - offset = count + (size - (offset + count)) := by omega
  refine Text.ext ?_
  rw [text, split, slice_append, List.append_assoc]
  show List.take count (List.takeWhile _ _) = List.takeWhile _ _
  rw [List.take_takeWhile, List.take_left' (length_slice ..)]

/-- What is copied into a field is the start of the text that is read there, terminated or not. -/
theorem take_text_strncpy (image : Image size) {offset count : Nat} (source : Text)
    (beyond : List UInt8) (fits : offset + count ≤ size) :
    ((image.strncpy offset count source).text offset beyond).take count = source.take count := by
  have copied := image.slice_store_same offset (strncpyBytes count source) (by simpa using fits)
  rw [length_strncpyBytes] at copied
  rw [take_text _ beyond fits, strncpy, copied]
  have closed := cString_strncpyBytes source count []
  by_cases terminated : (0 : UInt8) ∈ strncpyBytes count source
  · rw [← closed, cString_append_of_mem terminated]
  · refine Text.ext ?_
    have open' := cString_append_of_not_mem terminated []
    rw [← closed, cString_append_of_not_mem terminated]
    rw [List.append_nil] at open'
    exact open'

end Image

/-! ### Name buffers -/

/-- A character array of `count + 1` bytes whose last byte is zero and stays so. -/
structure TextBuffer (count : Nat) where
  memory : Image (count + 1)
  terminated : memory.slice count 1 = [0]

namespace TextBuffer

variable {count : Nat}

/-- The buffer after `memset(.., 0, ..)`. -/
def zero : TextBuffer count where
  memory := Image.zero
  terminated := by simp [Image.slice, Image.byte, Image.zero]

/-- `strncpy(buffer, source, sizeof(buffer) - 1)`. -/
def strncpy (buffer : TextBuffer count) (source : Text) : TextBuffer count where
  memory := buffer.memory.strncpy 0 count source
  terminated := by
    rw [Image.strncpy, Image.slice_store_disjoint _ _ _ _ _ (Or.inr (by simp))]
    exact buffer.terminated

/-- `buffer[0] = 0`. -/
def clear (buffer : TextBuffer count) : TextBuffer count where
  memory := buffer.memory.store 0 [0]
  terminated := by
    cases count with
    | zero => exact buffer.memory.slice_store_same 0 [0] (by simp)
    | succ count =>
      rw [Image.slice_store_disjoint _ _ _ _ _ (Or.inr (by simp))]
      exact buffer.terminated

def text (buffer : TextBuffer count) : Text :=
  cString buffer.memory.toBytes

@[simp] theorem text_strncpy (buffer : TextBuffer count) (source : Text) :
    (buffer.strncpy source).text = source.take count := by
  have front := buffer.memory.slice_store_same 0 (strncpyBytes count source) (by simp)
  have back := (buffer.strncpy source).terminated
  rw [length_strncpyBytes] at front
  have bytes : (buffer.strncpy source).memory.toBytes = strncpyBytes count source ++ [0] := by
    rw [Image.toBytes, Image.slice_append, Nat.zero_add, back]
    exact congrArg (· ++ [0]) front
  rw [text, bytes, cString_strncpyBytes]

@[simp] theorem text_clear (buffer : TextBuffer count) : buffer.clear.text = Text.empty := by
  have front := buffer.memory.slice_store_same 0 [0] (by simp)
  have bytes : buffer.clear.memory.toBytes = [0] ++ buffer.clear.memory.slice 1 count := by
    rw [Image.toBytes, Image.slice_zero_succ]
    exact congrArg (· ++ _) front
  rw [text, bytes]
  exact Text.ext (by simp [cString, Text.empty])

@[simp] theorem text_zero : (zero : TextBuffer count).text = Text.empty := by
  refine Text.ext ?_
  simp [text, zero, Image.toBytes, Image.slice, Image.byte, Image.zero, cString, Text.empty,
    List.range_succ_eq_map]

end TextBuffer

end CModel
