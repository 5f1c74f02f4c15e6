import FlaconVault.Lib.Layouts
import FlaconVault.Lib.Reading
import FlaconVault.Verifier.Decoders
namespace FlaconVault

-- How the programs write a field: little endian, a vector after its length.
namespace Borsh
open Bytes

def u8 (value : U8) : List Byte := [value]
def u16 (value : U16) : List Byte := littleEndian 2 value.val
def u32 (value : U32) : List Byte := littleEndian 4 value.val
def u64 (value : U64) : List Byte := littleEndian 8 value.val
def i64 (value : I64) : List Byte := signedLittleEndian 8 value.val
def bool (value : Bool) : List Byte := [if value then 1 else 0]
def bytes32 (value : Bytes32) : List Byte := value.val

def vec {α : Type} (element : α → List Byte) (values : List α) : List Byte :=
  littleEndian 4 values.length ++ (values.map element).flatten

end Borsh

namespace Verifier
open Bytes Reading

def Cursor.input : Input Cursor Byte where
  rest := Cursor.rest
  resume cursor items := ⟨cursor.offset,items⟩
  rest_resume _ _ := rfl
  resume_rest _ := rfl
  resume_resume _ _ _ := rfl

-- What a reader makes of the bytes of a value, and that it takes no byte it does not need. The second is an instance of a
-- reader put together from such readers.
abbrev Reads {α : Type} (reader : Reader α) (bytes : List Byte) (value : α) : Prop := Spells Cursor.input reader bytes value

class Exact {α : Type} (reader : Reader α) : Prop where
  tight : Tight Cursor.input reader

instance pure_exact {α : Type} (value : α) : Exact (pure value : Reader α) := ⟨.pure _ value⟩
instance throw_exact {α : Type} (error : DecodeError) : Exact (throw error : Reader α) := ⟨.throw _ error⟩

instance bind_exact {α β : Type} (reader : Reader α) (rest : α → Reader β) [first : Exact reader] [second : ∀ value, Exact (rest value)] :
    Exact (reader >>= rest) := ⟨first.tight.bind fun value => (second value).tight⟩

instance ite_exact {α : Type} (condition : Prop) [Decidable condition] (reader other : Reader α) [first : Exact reader]
    [second : Exact other] : Exact (if condition then reader else other) := ⟨first.tight.ite second.tight⟩

-- A reader that takes the same number of bytes whatever they are, and gives the same value wherever they are.
class Sized {α : Type} (reader : Reader α) (size : outParam ℕ) : Prop where
  enough : ∀ data : List Byte, size ≤ data.length →
    ∃ value, ∀ offset, reader ⟨offset,data⟩ = .ok (value,⟨offset+size,data.drop size⟩)
  short : ∀ data : List Byte, data.length < size → ∀ offset, ∃ error, reader ⟨offset,data⟩ = .error error

instance pure_sized {α : Type} (value : α) : Sized (pure value : Reader α) 0 where
  enough _ _ := ⟨value,fun _ => rfl⟩
  short _ below := absurd below (Nat.not_lt_zero _)

instance bind_sized {α β : Type} (reader : Reader α) (rest : α → Reader β) (size later : ℕ) [first : Sized reader size]
    [second : ∀ value, Sized (rest value) later] : Sized (reader >>= rest) (size+later) where
  enough data enough := by
    obtain ⟨value,read⟩ := first.enough data (by omega)
    obtain ⟨result,read'⟩ := (second value).enough (data.drop size) (by rw [List.length_drop]; omega)
    refine ⟨result,?_⟩
    intro offset
    rw [bind_ran (read offset),read',List.drop_drop,Nat.add_assoc]
  short data short offset := by
    by_cases early : data.length < size
    · obtain ⟨error,refused⟩ := first.short data early offset
      exact ⟨error,bind_refused refused⟩
    · obtain ⟨value,read⟩ := first.enough data (by omega)
      obtain ⟨error,refused⟩ := (second value).short (data.drop size) (by rw [List.length_drop]; omega) (offset+size)
      exact ⟨error,(bind_ran (read offset)).trans refused⟩

namespace Reader

theorem take_reads (bytes : List Byte) : Reads (take bytes.length) bytes bytes := by
  intro cursor
  refine ⟨⟨cursor.offset+bytes.length,[]⟩,?_⟩
  intro tail
  simp [take,Cursor.input]

theorem take_short {size : ℕ} {cursor : Cursor} (short : cursor.rest.length < size) :
    take size cursor = .error (.truncated cursor.offset size cursor.rest.length) := if_neg (Nat.not_le_of_lt short)

theorem take_ran {size : ℕ} {cursor later : Cursor} {bytes : List Byte} (read : take size cursor = .ok (bytes,later)) :
    size ≤ cursor.rest.length ∧ bytes = cursor.rest.take size ∧ later = ⟨cursor.offset+size,cursor.rest.drop size⟩ := by
  unfold take at read
  split at read
  · rename_i enough
    cases read
    exact ⟨enough,rfl,rfl⟩
  · cases read

instance take_exact (size : ℕ) : Exact (take size) where
  tight := by
    intro cursor bytes later read
    obtain ⟨enough,rfl,rfl⟩ := take_ran read
    have whole : (cursor.rest.take size).length = size := List.length_take_of_le enough
    refine ⟨cursor.rest.take size,(List.take_append_drop size cursor.rest).symm,?_,?_⟩
    · intro tail
      simp [take,Cursor.input,whole]
    · intro k below
      refine ⟨_,take_short ?_⟩
      rw [whole] at below
      simp only [Cursor.input,List.length_take]
      omega

theorem hash32_reads (value : Bytes32) : Reads hash32 (Borsh.bytes32 value) value := by
  obtain ⟨bytes,length⟩ := value
  intro cursor
  refine ⟨⟨cursor.offset+32,[]⟩,?_⟩
  intro tail
  simp [hash32,Cursor.input,Borsh.bytes32,length]

instance hash32_exact : Exact hash32 where
  tight := by
    intro cursor value later read
    unfold hash32 at read
    split at read
    · rename_i enough
      cases read
      have whole : (cursor.rest.take 32).length = 32 := List.length_take_of_le enough
      refine ⟨cursor.rest.take 32,(List.take_append_drop 32 cursor.rest).symm,?_,?_⟩
      · intro tail
        simp [hash32,Cursor.input,whole]
      · intro k below
        rw [whole] at below
        refine ⟨_,dif_neg ?_⟩
        simp only [Cursor.input,List.length_take]
        omega
    · cases read

instance take_sized (size : ℕ) : Sized (take size) size where
  enough data enough := ⟨data.take size,fun _ => if_pos enough⟩
  short _ short _ := ⟨_,take_short short⟩

instance hash32_sized : Sized hash32 32 where
  enough data enough := ⟨⟨data.take 32,List.length_take_of_le enough⟩,fun _ => dif_pos enough⟩
  short _ short _ := ⟨_,dif_neg (Nat.not_le_of_lt short)⟩

-- A number in so many bytes.
theorem number_reads {α : Type} (f : ℕ → α) (width : ℕ) {value : ℕ} (small : value < 256^width) :
    Reads (do return f (fromLittleEndian (← take width))) (littleEndian width value) (f value) := by
  have bytes := (take_reads (littleEndian width value)).map fun bytes => f (fromLittleEndian bytes)
  rwa [littleEndian_length,fromLittleEndian_littleEndian small] at bytes

theorem u8_reads (value : U8) : Reads u8 (Borsh.u8 value) value := by
  have number := number_reads (Fin.ofNat 256) 1 value.isLt
  have byte : littleEndian 1 value.val = Borsh.u8 value := by simp [littleEndian,Borsh.u8]
  rwa [Fin.ofNat_val_eq_self,byte] at number

theorem u16_reads (value : U16) : Reads u16 (Borsh.u16 value) value := by
  have number := number_reads (Fin.ofNat (2^16)) 2 value.isLt
  rwa [Fin.ofNat_val_eq_self] at number

theorem u32_reads (value : U32) : Reads u32 (Borsh.u32 value) value := by
  have number := number_reads (Fin.ofNat (2^32)) 4 value.isLt
  rwa [Fin.ofNat_val_eq_self] at number

theorem u64_reads (value : U64) : Reads u64 (Borsh.u64 value) value := by
  have number := number_reads (Fin.ofNat (2^64)) 8 value.isLt
  rwa [Fin.ofNat_val_eq_self] at number

theorem i64_reads (value : I64) : Reads i64 (Borsh.i64 value) value := by
  obtain ⟨value,low,high⟩ := value
  have bytes := (take_reads (signedLittleEndian 8 value)).map fun bytes =>
    I64.clip (if fromLittleEndian bytes < 2^63 then (fromLittleEndian bytes : Int) else (fromLittleEndian bytes : Int) - 2^64)
  have back : fromSignedLittleEndian (signedLittleEndian 8 value) = value :=
    fromSignedLittleEndian_signedLittleEndian (by omega) (by omega)
  unfold fromSignedLittleEndian at back
  rw [signedLittleEndian_length] at bytes back
  have same : (if fromLittleEndian (signedLittleEndian 8 value) < 2^63 then (fromLittleEndian (signedLittleEndian 8 value) : Int)
      else (fromLittleEndian (signedLittleEndian 8 value) : Int) - 2^64) = value := by
    dsimp only at back
    split at back
    · rw [if_pos (by omega)]
      exact back
    · rw [if_neg (by omega)]
      exact back
  rw [same] at bytes
  have clipped : I64.clip value = ⟨value,low,high⟩ := by
    apply Subtype.ext
    simp only [I64.clip]
    omega
  rwa [clipped] at bytes

theorem bool_reads (value : Bool) : Reads bool (Borsh.bool value) value := by
  have read := (u8_reads (if value then 1 else 0)).map fun byte => decide (byte ≠ 0)
  cases value <;> exact read

instance u8_exact : Exact u8 := inferInstanceAs (Exact (take 1 >>= _))
instance u16_exact : Exact u16 := inferInstanceAs (Exact (take 2 >>= _))
instance u32_exact : Exact u32 := inferInstanceAs (Exact (take 4 >>= _))
instance u64_exact : Exact u64 := inferInstanceAs (Exact (take 8 >>= _))
instance i64_exact : Exact i64 := inferInstanceAs (Exact (take 8 >>= _))
instance bool_exact : Exact bool := inferInstanceAs (Exact (u8 >>= _))

instance u8_sized : Sized u8 1 := inferInstanceAs (Sized (take 1 >>= _) _)
instance u16_sized : Sized u16 2 := inferInstanceAs (Sized (take 2 >>= _) _)
instance u32_sized : Sized u32 4 := inferInstanceAs (Sized (take 4 >>= _) _)
instance u64_sized : Sized u64 8 := inferInstanceAs (Sized (take 8 >>= _) _)
instance i64_sized : Sized i64 8 := inferInstanceAs (Sized (take 8 >>= _) _)
instance bool_sized : Sized bool 1 := inferInstanceAs (Sized (u8 >>= _) _)

-- A key as the reader of it shows it.
def key {κ : Type} (shown : Bytes32 → κ) : Reader κ := do return shown (← hash32)

theorem key_reads {κ : Type} (shown : Bytes32 → κ) (value : Bytes32) : Reads (key shown) (Borsh.bytes32 value) (shown value) :=
  (hash32_reads value).map shown

instance key_exact {κ : Type} (shown : Bytes32 → κ) : Exact (key shown) := inferInstanceAs (Exact (hash32 >>= _))

instance key_sized {κ : Type} (shown : Bytes32 → κ) : Sized (key shown) 32 := inferInstanceAs (Sized (hash32 >>= _) _)

theorem items_times {α : Type} (element : Reader α) (count : ℕ) : items element count = times element count := by
  induction count with
  | zero => rfl
  | succ count ih =>
    unfold items times
    rw [ih]

theorem vec_reads {α β : Type} {element : Reader β} {spelled : α → List Byte} {shown : α → β}
    (each : ∀ value, Reads element (spelled value) (shown value)) {values : List α} (few : values.length < 2^32) :
    Reads (vec element) (Borsh.vec spelled values) (values.map shown) := by
  have count := u32_reads ⟨values.length,few⟩
  refine count.bind ?_
  rw [items_times]
  exact Spells.times each values

instance vec_exact {α : Type} (element : Reader α) [each : Exact element] : Exact (vec element) := by
  have rounds (count : U32) : Exact (items element count.val) := by
    rw [items_times]
    exact ⟨each.tight.times _⟩
  exact inferInstanceAs (Exact (u32 >>= _))

-- So many elements of one size.
theorem items_short {α : Type} {element : Reader α} {size : ℕ} [sized : Sized element size] (count : ℕ) (cursor : Cursor)
    (short : cursor.rest.length < count*size) : ∃ error, items element count cursor = .error error := by
  have rounds (count : ℕ) : Sized (items element count) (count*size) := by
    induction count with
    | zero =>
      rw [Nat.zero_mul]
      exact pure_sized []
    | succ count ih =>
      rw [Nat.succ_mul,Nat.add_comm (count*size)]
      exact bind_sized element (fun first => items element count >>= fun rest => pure (first :: rest)) _ _
  exact (rounds count).short cursor.rest short cursor.offset

-- A count beyond the bytes that are left costs no more rounds than there are bytes.
theorem items_stop {α : Type} {element : Reader α} {size : ℕ} [sized : Sized element size] (positive : 0 < size) (count : ℕ)
    (cursor : Cursor) (many : cursor.rest.length < count) :
    items element count cursor = items element (cursor.rest.length+1) cursor := by
  have takes (s : Cursor) (value : α) (s' : Cursor) (read : element s = .ok (value,s')) : s'.rest.length < s.rest.length := by
    by_cases short : s.rest.length < size
    · obtain ⟨error,refused⟩ := sized.short s.rest short s.offset
      rw [refused] at read
      cases read
    · obtain ⟨other,read'⟩ := sized.enough s.rest (Nat.le_of_not_lt short)
      cases (read' s.offset).symm.trans read
      rw [List.length_drop]
      omega
  rw [items_times,items_times]
  have stops := @times_stops _ _ _ _ Cursor.input element takes cursor count many
  exact stops.1

variable {α : Type} {reader : Reader α} {bytes data : List Byte} {value : α}

theorem run_reads (reads : Reads reader bytes value) (tail : List Byte) : Reader.run reader (bytes ++ tail) = .ok value := by
  obtain ⟨later,read⟩ := reads ⟨0,[]⟩
  have read : reader ⟨0,bytes ++ tail⟩ = .ok (value,_) := read tail
  unfold Reader.run
  rw [read]
  rfl

theorem run_ran : Reader.run reader data = .ok value ↔ ∃ cursor, reader ⟨0,data⟩ = .ok (value,cursor) := by
  unfold Reader.run
  cases reader ⟨0,data⟩ with
  | error error => simp [Except.map]
  | ok result => simp [Except.map,Prod.ext_iff]

theorem run_refused (refused : ∃ error, reader ⟨0,data⟩ = .error error) : ∃ error, Reader.run reader data = .error error := by
  obtain ⟨error,refused⟩ := refused
  refine ⟨error,?_⟩
  unfold Reader.run
  rw [refused]
  rfl

theorem run_cut [exact : Exact reader] (reads : Reads reader bytes value) {k : ℕ} (short : k < bytes.length) :
    ∃ error, Reader.run reader (bytes.take k) = .error error :=
  run_refused (reads.cut exact.tight ⟨0,[]⟩ short)

-- The bytes an accepted text rests on.
theorem run_needs [exact : Exact reader] (accepted : Reader.run reader data = .ok value) :
    ∃ used, used ≤ data.length ∧ (∀ k, k < used → ∃ error, Reader.run reader (data.take k) = .error error) ∧
      ∀ tail, Reader.run reader (data.take used ++ tail) = .ok value := by
  obtain ⟨later,read⟩ := run_ran.mp accepted
  obtain ⟨used,split,same,short⟩ := exact.tight _ _ _ read
  have split : data = used ++ later.rest := split
  refine ⟨used.length,by rw [split,List.length_append]; omega,?_,?_⟩
  · intro k below
    rw [split,List.take_append_of_le_length (Nat.le_of_lt below)]
    exact run_refused (short k below)
  · intro tail
    rw [split,List.take_left]
    exact run_ran.mpr ⟨_,same tail⟩

theorem sized_length {size : ℕ} [sized : Sized reader size] (reads : Reads reader bytes value) : bytes.length = size := by
  obtain ⟨later,read⟩ := reads ⟨0,[]⟩
  have read : reader ⟨0,bytes⟩ = .ok (value,⟨later.offset,[]⟩) := by simpa [Cursor.input] using read []
  by_cases short : bytes.length < size
  · obtain ⟨error,refused⟩ := sized.short bytes short 0
    rw [refused] at read
    cases read
  · obtain ⟨other,read'⟩ := sized.enough bytes (Nat.le_of_not_lt short)
    have left : bytes.drop size = [] := congrArg Cursor.rest (Prod.mk.inj (Except.ok.inj ((read' 0).symm.trans read))).2
    have := List.drop_eq_nil_iff.mp left
    omega

end Reader
end Verifier
end FlaconVault
