import Mathlib
namespace FlaconVault

-- Machine words as the programs' own field types, so a value outside the range cannot be built.
abbrev Byte := Fin 256
abbrev U8 := Fin 256
abbrev U16 := Fin (2^16)
abbrev U24 := Fin (2^24)
abbrev U32 := Fin (2^32)
abbrev U64 := Fin (2^64)
abbrev I64 := {value : Int // -2^63 ≤ value ∧ value < 2^63}

instance byte_neZero : NeZero 256 := ⟨by decide⟩
instance u16_neZero : NeZero (2^16) := ⟨by decide⟩
instance u24_neZero : NeZero (2^24) := ⟨by decide⟩
instance u32_neZero : NeZero (2^32) := ⟨by decide⟩
instance u64_neZero : NeZero (2^64) := ⟨by decide⟩

def I64.zero : I64 := ⟨0,by decide⟩

def I64.clip (value : Int) : I64 :=
  ⟨max (-2^63) (min value (2^63-1)),by omega⟩

def checkedAdd {bound : ℕ} (value : Fin bound) (amount : ℕ) : Option (Fin bound) :=
  if fits : value.val + amount < bound then some ⟨value.val+amount,fits⟩ else none

theorem checkedAdd_some {bound : ℕ} {value sum : Fin bound} {amount : ℕ} :
    checkedAdd value amount = some sum ↔ sum.val = value.val + amount := by
  unfold checkedAdd
  split
  · rename_i fits
    rw [Option.some.injEq,Fin.ext_iff]
    exact eq_comm
  · rename_i overflows
    have := sum.isLt
    simp only [reduceCtorEq,false_iff]
    omega

abbrev Bytes32 := {bytes : List Byte // bytes.length = 32}

namespace Bytes

def littleEndian : ℕ → ℕ → List Byte
  | 0, _ => []
  | width+1, value => Fin.ofNat 256 value :: littleEndian width (value/256)

def fromLittleEndian : List Byte → ℕ
  | [] => 0
  | low :: rest => low.val + 256 * fromLittleEndian rest

@[simp] theorem littleEndian_length (width value : ℕ) : (littleEndian width value).length = width := by
  induction width generalizing value with
  | zero => rfl
  | succ width ih => simp [littleEndian,ih]

theorem fromLittleEndian_littleEndian {width value : ℕ} (fits : value < 256^width) :
    fromLittleEndian (littleEndian width value) = value := by
  induction width generalizing value with
  | zero =>
    have : value = 0 := by simpa using fits
    simp [littleEndian,fromLittleEndian,this]
  | succ width ih =>
    have rest : value/256 < 256^width := by
      rw [Nat.pow_succ] at fits
      exact Nat.div_lt_of_lt_mul (by omega)
    simp only [littleEndian,fromLittleEndian,ih rest,Fin.val_ofNat]
    omega

def signedLittleEndian (width : ℕ) (value : Int) : List Byte := littleEndian width (value % 256^width).toNat

-- Copying a part over the bytes from an offset on.
def overwrite (data : List Byte) (offset : ℕ) (part : List Byte) : List Byte :=
  data.take offset ++ part ++ data.drop (offset+part.length)

-- Writing the fields of a zeroed buffer from front to back appends them.
theorem overwrite_next {written part : List Byte} {offset left : ℕ} (here : offset = written.length) :
    overwrite (written ++ List.replicate left 0) offset part =
      (written ++ part) ++ List.replicate (left-part.length) 0 := by
  subst here
  simp only [overwrite,List.take_left',List.drop_append,Nat.add_sub_cancel_left,List.drop_replicate]
  rw [List.drop_eq_nil_of_le (by omega)]
  simp

-- A slice as the byte-string languages take it: nothing unless the whole range lies inside.
def slice (data : List Byte) (offset size : ℕ) : Option (List Byte) :=
  if offset + size ≤ data.length then some ((data.drop offset).take size) else none

theorem slice_length {data part : List Byte} {offset size : ℕ} (found : slice data offset size = some part) :
    part.length = size := by
  unfold slice at found
  split at found
  · cases found
    simp only [List.length_take,List.length_drop]
    omega
  · cases found

end Bytes
end FlaconVault
