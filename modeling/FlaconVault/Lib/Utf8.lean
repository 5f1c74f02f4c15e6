import FlaconVault.Lib.Bytes
namespace FlaconVault.PyText

-- str.encode() and bytes.decode("utf-8", errors="replace").
def encodeUtf8 (text : List Char) : List Byte := (text.flatMap String.utf8EncodeChar).map fun byte => Fin.ofNat 256 byte.toNat

def firstChar (bytes : List Byte) : Option Char :=
  (bytes.map fun byte => UInt8.ofNat byte.val).toByteArray.utf8DecodeChar? 0

-- The second bytes that may follow the first one of a character of three or four bytes.
def secondOf (lead second : ℕ) : Bool :=
  if lead = 0xe0 then 0xa0 ≤ second ∧ second ≤ 0xbf
  else if lead = 0xed then 0x80 ≤ second ∧ second ≤ 0x9f
  else if lead = 0xf0 then 0x90 ≤ second ∧ second ≤ 0xbf
  else if lead = 0xf4 then 0x80 ≤ second ∧ second ≤ 0x8f
  else 0xe1 ≤ lead ∧ lead ≤ 0xf3 ∧ 0x80 ≤ second ∧ second ≤ 0xbf

-- Bytes that begin no character: the longest start of one is replaced as a whole.
def malformed : List Byte → ℕ
  | lead :: second :: rest =>
    if secondOf lead.val second.val then
      match rest with
      | third :: _ => if 0xf0 ≤ lead.val ∧ 0x80 ≤ third.val ∧ third.val ≤ 0xbf then 3 else 2
      | [] => 2
    else 1
  | _ => 1

def decodeFrom : ℕ → List Byte → List Char
  | 0, _ => []
  | fuel+1, bytes =>
    if bytes = [] then []
    else match firstChar bytes with
      | some c => c :: decodeFrom fuel (bytes.drop c.utf8Size)
      | none => '\ufffd' :: decodeFrom fuel (bytes.drop (malformed bytes))

-- Every round takes a byte or more.
def decodeUtf8 (bytes : List Byte) : List Char := decodeFrom bytes.length bytes

theorem bytes_back (bytes : List UInt8) :
    (bytes.map fun byte => (Fin.ofNat 256 byte.toNat : Byte)).map (fun byte => UInt8.ofNat byte.val) = bytes := by
  rw [List.map_map]
  refine (List.map_congr_left ?_).trans (List.map_id bytes)
  intro byte _
  have small : byte.toNat % 256 = byte.toNat := Nat.mod_eq_of_lt byte.toNat_lt
  simp only [Function.comp_apply,Fin.val_ofNat,small,id_eq]
  exact UInt8.ofNat_toNat

theorem firstChar_encode (c : Char) (text : List Char) : firstChar (encodeUtf8 (c :: text)) = some c := by
  unfold firstChar encodeUtf8
  rw [bytes_back]
  exact List.utf8DecodeChar?_utf8Encode_cons

theorem encodeUtf8_cons (c : Char) (text : List Char) : (encodeUtf8 (c :: text)).drop c.utf8Size = encodeUtf8 text ∧
    (encodeUtf8 (c :: text)).length = c.utf8Size + (encodeUtf8 text).length := by
  have split : encodeUtf8 (c :: text) = encodeUtf8 [c] ++ encodeUtf8 text := by simp [encodeUtf8]
  have size : (encodeUtf8 [c]).length = c.utf8Size := by simp [encodeUtf8]
  rw [split,← size,List.length_append]
  exact ⟨List.drop_left,rfl⟩

theorem decodeFrom_encode (text : List Char) {fuel : ℕ} (enough : (encodeUtf8 text).length ≤ fuel) :
    decodeFrom fuel (encodeUtf8 text) = text := by
  induction text generalizing fuel with
  | nil => cases fuel <;> rfl
  | cons c text ih =>
    obtain ⟨rest,length⟩ := encodeUtf8_cons c text
    have positive := c.utf8Size_pos
    obtain ⟨fuel,rfl⟩ := Nat.exists_eq_succ_of_ne_zero (show fuel ≠ 0 by omega)
    have some_left : encodeUtf8 (c :: text) ≠ [] := by
      intro empty
      rw [empty,List.length_nil] at length
      omega
    unfold decodeFrom
    rw [if_neg some_left,firstChar_encode]
    dsimp only
    rw [rest,ih (by omega)]

theorem decodeUtf8_encode (text : List Char) : decodeUtf8 (encodeUtf8 text) = text := decodeFrom_encode text (Nat.le_refl _)

example : decodeUtf8 [0xc3,0xa9,0xe2,0x82,0x41,0xff] = ['é','\ufffd','A','\ufffd'] := by decide +kernel

end FlaconVault.PyText
