import FlaconVault.Lib.Bytes
namespace FlaconVault.Bytes

-- Fixed layouts: the sizes of the fields, in their order. Writing the fields one after the other and cutting the
-- bytes at the sizes undo each other.
def split : List ℕ → List Byte → List (List Byte)
  | [], _ => []
  | size :: rest, data => data.take size :: split rest (data.drop size)

theorem split_flatten {sizes : List ℕ} {parts : List (List Byte)} (fits : parts.map List.length = sizes) :
    split sizes parts.flatten = parts := by
  subst fits
  induction parts with
  | nil => rfl
  | cons part rest ih => simp [split,ih]

theorem flatten_split {sizes : List ℕ} {data : List Byte} (covered : data.length = sizes.sum) : (split sizes data).flatten = data := by
  induction sizes generalizing data with
  | nil => exact (List.length_eq_zero_iff.mp covered).symm
  | cons size rest ih =>
    have later : (data.drop size).length = rest.sum := by
      rw [List.length_drop,covered,List.sum_cons]
      omega
    simp [split,ih later]

-- A field by its offset.
def cut (data : List Byte) (offset size : ℕ) : List Byte := (data.drop offset).take size

theorem cut_length {data : List Byte} {offset size : ℕ} (inside : offset+size ≤ data.length) : (cut data offset size).length = size := by
  simp only [cut,List.length_take,List.length_drop]
  omega

-- Reading back what was written, and writing back what was read.
theorem littleEndian_fromLittleEndian (data : List Byte) : littleEndian data.length (fromLittleEndian data) = data := by
  induction data with
  | nil => rfl
  | cons low rest ih =>
    have first : Fin.ofNat 256 (low.val + 256 * fromLittleEndian rest) = low := by
      apply Fin.ext
      simp only [Fin.val_ofNat]
      have := low.isLt
      omega
    have later : (low.val + 256 * fromLittleEndian rest) / 256 = fromLittleEndian rest := by
      have := low.isLt
      omega
    simp only [littleEndian,fromLittleEndian,List.length_cons,first,later,ih]

theorem fromLittleEndian_lt (data : List Byte) : fromLittleEndian data < 256^data.length := by
  induction data with
  | nil => simp [fromLittleEndian]
  | cons low rest ih =>
    have := low.isLt
    simp only [fromLittleEndian,List.length_cons,Nat.pow_succ]
    omega

@[simp] theorem fromLittleEndian_byte (byte : Byte) : fromLittleEndian [byte] = byte.val := by simp [fromLittleEndian]

-- Two's complement.
def fromSignedLittleEndian (data : List Byte) : Int :=
  let raw := fromLittleEndian data
  if 2 * raw < 256^data.length then (raw : Int) else (raw : Int) - 256^data.length

@[simp] theorem signedLittleEndian_length (width : ℕ) (value : Int) : (signedLittleEndian width value).length = width :=
  littleEndian_length _ _

theorem fromSignedLittleEndian_signedLittleEndian {width : ℕ} {value : Int} (low : -256^width ≤ 2 * value)
    (high : 2 * value < 256^width) : fromSignedLittleEndian (signedLittleEndian width value) = value := by
  have positive : (0 : Int) < 256^width := by positivity
  have raw : (value % 256^width).toNat < 256^width := by
    have := Int.emod_lt_of_pos value positive
    have := Int.emod_nonneg value positive.ne'
    zify
    rwa [Int.toNat_of_nonneg this]
  have back : fromLittleEndian (signedLittleEndian width value) = (value % 256^width).toNat := fromLittleEndian_littleEndian raw
  have unsigned : ((value % 256^width).toNat : Int) = value % 256^width := Int.toNat_of_nonneg (Int.emod_nonneg value positive.ne')
  unfold fromSignedLittleEndian
  rw [back,signedLittleEndian_length]
  dsimp only
  by_cases sign : 0 ≤ value
  · have same : value % 256^width = value := Int.emod_eq_of_lt sign (by omega)
    rw [if_pos]
    · rw [unsigned,same]
    · zify
      rw [unsigned,same]
      exact high
  · have wrapped : value % 256^width = value + 256^width := by
      rw [← Int.add_emod_right,Int.emod_eq_of_lt (by omega) (by omega)]
    rw [if_neg]
    · rw [unsigned,wrapped]
      omega
    · zify
      rw [unsigned,wrapped]
      omega

theorem signedLittleEndian_fromSignedLittleEndian (data : List Byte) :
    signedLittleEndian data.length (fromSignedLittleEndian data) = data := by
  have bound := fromLittleEndian_lt data
  have raw : (fromSignedLittleEndian data % 256^data.length).toNat = fromLittleEndian data := by
    have small : (fromLittleEndian data : Int) < 256^data.length := by exact_mod_cast bound
    have same : (fromLittleEndian data : Int) % 256^data.length = fromLittleEndian data := Int.emod_eq_of_lt (by omega) small
    unfold fromSignedLittleEndian
    dsimp only
    split
    · rw [same,Int.toNat_natCast]
    · rw [Int.sub_emod_right,same,Int.toNat_natCast]
  unfold signedLittleEndian
  rw [raw]
  exact littleEndian_fromLittleEndian data

theorem fromSignedLittleEndian_range (data : List Byte) :
    -256^data.length ≤ 2 * fromSignedLittleEndian data ∧ 2 * fromSignedLittleEndian data < 256^data.length := by
  have small : (fromLittleEndian data : Int) < 256^data.length := by exact_mod_cast fromLittleEndian_lt data
  unfold fromSignedLittleEndian
  dsimp only
  split
  · rename_i positive
    have : 2 * (fromLittleEndian data : Int) < 256^data.length := by exact_mod_cast positive
    omega
  · rename_i negative
    have : (256^data.length : Int) ≤ 2 * fromLittleEndian data := by exact_mod_cast Nat.le_of_not_lt negative
    omega

end FlaconVault.Bytes
