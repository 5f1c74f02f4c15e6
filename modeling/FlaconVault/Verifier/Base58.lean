import FlaconVault.Lib.Radix
import FlaconVault.Lib.PyText
namespace FlaconVault.Verifier
open Radix

-- Base58 as the transaction checks read and write it, on the characters of a text.
def B58 : List Char :=
  ['1','2','3','4','5','6','7','8','9','A','B','C','D','E','F','G','H','J','K','L','M','N','P','Q','R','S','T','U','V','W','X',
   'Y','Z','a','b','c','d','e','f','g','h','i','j','k','m','n','o','p','q','r','s','t','u','v','w','x','y','z']

def b58Index (c : Char) : Option ℕ := B58.idxOf? c
def b58Char (digit : ℕ) : Char := B58.getD digit '1'

-- int.to_bytes and int.from_bytes, big endian, and int.bit_length.
def toBytes : ℕ → ℕ → List Byte
  | _, 0 => []
  | n, length+1 => toBytes (n/256) length ++ [Fin.ofNat 256 n]

def fromBytes (b : List Byte) : ℕ := b.foldl (fun n byte => n*256 + byte.val) 0

def bitLength (n : ℕ) : ℕ := Nat.size n

-- `none` is the ValueError at a character outside the alphabet.
def b58decode (s : List Char) : Option (List Byte) := do
  let n ← s.foldlM (fun n c => (b58Index c).map fun digit => n*58 + digit) 0
  let body := if n = 0 then [] else toBytes n ((bitLength n + 7)/8)
  pure (List.replicate (s.length - (s.dropWhile (· = '1')).length) 0 ++ body)

def b58Digits (n : ℕ) (out : List Char) : List Char :=
  if n = 0 then out else b58Digits (n/58) (b58Char (n%58) :: out)
termination_by n
decreasing_by omega

def b58encode (b : List Byte) : List Char :=
  List.replicate (b.length - (b.dropWhile (· = 0)).length) '1' ++ b58Digits (fromBytes b) []

def isSignature (s : Option (List Char)) : Bool :=
  match s with
  | none => false
  | some s => decide (64 ≤ s.length ∧ s.length ≤ 88) && decide ((b58decode s).map List.length = some 64)

theorem b58Index_char {digit : ℕ} (small : digit < 58) : b58Index (b58Char digit) = some digit := by
  have all : ∀ digit : Fin 58, b58Index (b58Char digit) = some digit.val := by decide
  exact all ⟨digit,small⟩

theorem b58Char_index {c : Char} {digit : ℕ} (known : b58Index c = some digit) : b58Char digit = c ∧ digit < 58 := by
  obtain ⟨inside,here,_⟩ := List.idxOf?_eq_some_iff.mp known
  exact ⟨(List.getD_eq_getElem _ _ inside).trans here,inside⟩

theorem b58Index_none {c : Char} : b58Index c = none ↔ c ∉ B58 := List.idxOf?_eq_none_iff

theorem b58Char_one {digit : ℕ} (small : digit < 58) : b58Char digit = '1' ↔ digit = 0 := by
  have all : ∀ digit : Fin 58, b58Char digit = '1' ↔ digit.val = 0 := by decide
  exact all ⟨digit,small⟩

-- A text over the alphabet is the spelling of digits.
theorem spelled_or_not (s : List Char) :
    (∃ digits, Valid 58 digits ∧ s = digits.map b58Char) ∨ ∃ c ∈ s, c ∉ B58 := by
  induction s with
  | nil => exact .inl ⟨[],by simp [Valid],rfl⟩
  | cons c rest ih =>
    cases known : b58Index c with
    | none => exact .inr ⟨c,List.mem_cons_self,b58Index_none.mp known⟩
    | some digit =>
      obtain ⟨spelled,small⟩ := b58Char_index known
      obtain ⟨digits,valid,same⟩ | ⟨other,inside,foreign⟩ := ih
      · exact .inl ⟨digit :: digits,List.forall_mem_cons.mpr ⟨small,valid⟩,by rw [same,List.map_cons,spelled]⟩
      · exact .inr ⟨other,List.mem_cons_of_mem c inside,foreign⟩

theorem foldlM_value {digits : List ℕ} (valid : Valid 58 digits) (n : ℕ) :
    (digits.map b58Char).foldlM (fun n c => (b58Index c).map fun digit => n*58 + digit) n =
      some (digits.foldl (fun n digit => n*58 + digit) n) := by
  induction digits generalizing n with
  | nil => rfl
  | cons first rest ih =>
    obtain ⟨small,valid⟩ := List.forall_mem_cons.mp valid
    rw [List.map_cons,List.foldlM_cons,b58Index_char small]
    exact ih valid (n*58 + first)

theorem foldlM_foreign {s : List Char} {c : Char} (inside : c ∈ s) (foreign : c ∉ B58) (n : ℕ) :
    s.foldlM (fun n c => (b58Index c).map fun digit => n*58 + digit) n = none := by
  induction s generalizing n with
  | nil => cases inside
  | cons first rest ih =>
    rw [List.foldlM_cons]
    rcases List.mem_cons.mp inside with here | later
    · rw [← here,b58Index_none.mpr foreign]
      rfl
    · cases b58Index first with
      | none => rfl
      | some digit => exact ih later (n*58 + digit)

-- How many characters or bytes lstrip takes off.
theorem length_lstrip {α : Type} (p : α → Bool) (s : List α) : s.length - (s.dropWhile p).length = (s.takeWhile p).length := by
  have whole := congrArg List.length (List.takeWhile_append_dropWhile (p := p) (l := s))
  rw [List.length_append] at whole
  omega

theorem length_takeWhile_map {α β : Type} {f : α → β} {p : β → Bool} {q : α → Bool} {s : List α} (same : ∀ a ∈ s, p (f a) = q a) :
    ((s.map f).takeWhile p).length = (s.takeWhile q).length := by
  induction s with
  | nil => rfl
  | cons first rest ih =>
    obtain ⟨here,later⟩ := List.forall_mem_cons.mp same
    rw [List.map_cons,List.takeWhile_cons,List.takeWhile_cons,here]
    split
    · rw [List.length_cons,List.length_cons,ih later]
    · rfl

theorem ones_count {digits : List ℕ} (valid : Valid 58 digits) :
    (digits.map b58Char).length - ((digits.map b58Char).dropWhile (· = '1')).length = zeros digits := by
  rw [length_lstrip]
  apply length_takeWhile_map
  intro digit inside
  exact decide_eq_decide.mpr (b58Char_one (valid digit inside))

theorem zeros_count (b : List Byte) : b.length - (b.dropWhile (· = 0)).length = zeros (b.map (·.val)) := by
  rw [length_lstrip,zeros]
  symm
  apply length_takeWhile_map
  intro byte _
  exact decide_eq_decide.mpr Fin.val_eq_zero_iff

theorem b58Digits_spell (n : ℕ) (out : List Char) : b58Digits n out = (spell 58 n).map b58Char ++ out := by
  induction n using Nat.strong_induction_on generalizing out with
  | _ n ih =>
    rw [b58Digits]
    split
    case isTrue zero => simp [zero,spell]
    case isFalse some_digits =>
      have positive : 0 < n := Nat.pos_of_ne_zero some_digits
      rw [ih (n/58) (Nat.div_lt_self positive (by decide))]
      simp [spell,Nat.digits_def' (by decide : 1 < 58) positive]

theorem fromBytes_value (b : List Byte) : fromBytes b = value 256 (b.map (·.val)) := by
  rw [fromBytes,value,List.foldl_map]

theorem toBytes_spell (n length : ℕ) (exact_length : (spell 256 n).length = length) :
    toBytes n length = (spell 256 n).map (Fin.ofNat 256) := by
  induction length generalizing n with
  | zero => rw [toBytes,List.length_eq_zero_iff.mp exact_length,List.map_nil]
  | succ length ih =>
    have positive : 0 < n := by
      apply Nat.pos_of_ne_zero
      intro zero
      simp [zero,spell] at exact_length
    have digits : spell 256 n = spell 256 (n/256) ++ [n%256] := by
      simp [spell,Nat.digits_def' (by decide : 1 < 256) positive]
    rw [digits,List.length_append] at exact_length
    rw [toBytes,ih (n/256) (by simpa using exact_length),digits,List.map_append]
    simp [Fin.ofNat]

theorem byte_count {n : ℕ} (positive : 0 < n) : (spell 256 n).length = (bitLength n + 7)/8 := by
  have size : bitLength n = Nat.log 2 n + 1 := by
    have bits : Nat.digits 2 n = n.bits.map fun bit => bit.toNat := Nat.digits_two_eq_bits n
    have := congrArg List.length bits
    rw [List.length_map,Nat.size_eq_bits_len,Nat.length_digits 2 n (by decide) positive.ne'] at this
    exact this.symm
  have log : Nat.log 256 n = Nat.log 2 n/8 := Nat.log_pow_left 2 8 n
  rw [spell,List.length_reverse,Nat.length_digits 256 n (by decide) positive.ne',size,log]
  omega

-- Decoding and encoding are conversions between base 58 and base 256.
theorem b58decode_convert {digits : List ℕ} (valid : Valid 58 digits) :
    b58decode (digits.map b58Char) = some ((convert 58 256 digits).map (Fin.ofNat 256)) := by
  unfold b58decode
  rw [foldlM_value valid,ones_count valid]
  change some _ = _
  rw [convert,List.map_append,List.map_replicate]
  congr 2
  change (if value 58 digits = 0 then [] else _) = _
  split
  case isTrue zero => simp [zero,spell]
  case isFalse nonzero => exact toBytes_spell _ _ (byte_count (Nat.pos_of_ne_zero nonzero))

theorem b58decode_foreign {s : List Char} {c : Char} (inside : c ∈ s) (foreign : c ∉ B58) : b58decode s = none := by
  unfold b58decode
  rw [foldlM_foreign inside foreign]
  rfl

theorem b58encode_convert (b : List Byte) : b58encode b = (convert 256 58 (b.map (·.val))).map b58Char := by
  rw [b58encode,zeros_count,b58Digits_spell,fromBytes_value,convert,List.map_append,List.map_replicate,List.append_nil]
  rfl

theorem bytes_valid (b : List Byte) : Valid 256 (b.map (·.val)) := by
  intro digit inside
  obtain ⟨byte,_,same⟩ := List.mem_map.mp inside
  rw [← same]
  exact byte.isLt

theorem bytes_digits {digits : List ℕ} (valid : Valid 256 digits) : (digits.map (Fin.ofNat 256)).map (·.val) = digits := by
  rw [List.map_map]
  have same : digits.map ((·.val) ∘ Fin.ofNat 256) = digits.map id := by
    apply List.map_congr_left
    intro digit inside
    exact Nat.mod_eq_of_lt (valid digit inside)
  rw [same,List.map_id]

theorem digits_bytes (b : List Byte) : (b.map (·.val)).map (Fin.ofNat 256) = b := by
  rw [List.map_map]
  apply List.map_id''
  exact Fin.ofNat_val_eq_self

theorem decode_encode (b : List Byte) : b58decode (b58encode b) = some b := by
  have valid : Valid 58 (convert 256 58 (b.map (·.val))) := convert_valid (by decide) _
  rw [b58encode_convert,b58decode_convert valid,convert_convert (by decide) (bytes_valid b),digits_bytes]

theorem encode_decode (s : List Char) : (b58decode s).map b58encode = if ∀ c ∈ s, c ∈ B58 then some s else none := by
  obtain ⟨digits,valid,same⟩ | ⟨c,inside,foreign⟩ := spelled_or_not s
  · have known : ∀ c ∈ s, c ∈ B58 := by
      intro c inside
      by_contra foreign
      have none := b58decode_foreign inside foreign
      rw [same,b58decode_convert valid] at none
      cases none
    have bytes : Valid 256 (convert 58 256 digits) := convert_valid (by decide) digits
    rw [if_pos known,same,b58decode_convert valid,Option.map_some,b58encode_convert,bytes_digits bytes,
      convert_convert (by decide) valid]
  · rw [if_neg (fun known => foreign (known c inside)),b58decode_foreign inside foreign]
    rfl

-- The spelling of 64 bytes has 64 to 88 characters, so the window of lengths leaves none of them out.
theorem signature_window {b : List Byte} (length : b.length = 64) : 64 ≤ (b58encode b).length ∧ (b58encode b).length ≤ 88 := by
  have digits : (b.map (·.val)).length = 64 := by rw [List.length_map,length]
  rw [b58encode_convert,List.length_map]
  constructor
  · have := length_le_convert (by decide : 1 < 58) (by decide : 58 ≤ 256) (bytes_valid b)
    rwa [digits] at this
  · exact length_convert_le (by decide) (by decide) (by norm_num : 256^64 ≤ 58^88) (bytes_valid b) digits

theorem base58_round_trip : (∀ b, b58decode (b58encode b) = some b) ∧
    (∀ s, (b58decode s).map b58encode = if ∀ c ∈ s, c ∈ B58 then some s else none) ∧
    ∀ s, isSignature s = true ↔ ∃ b : List Byte, b.length = 64 ∧ s = some (b58encode b) := by
  refine ⟨decode_encode,encode_decode,?_⟩
  intro s
  constructor
  · intro accepted
    cases s with
    | none => cases accepted
    | some s =>
      simp only [isSignature,Bool.and_eq_true,decide_eq_true_eq] at accepted
      obtain ⟨_,sixty_four⟩ := accepted
      obtain ⟨b,decoded,length⟩ := Option.map_eq_some_iff.mp sixty_four
      have back := encode_decode s
      rw [decoded,Option.map_some] at back
      split at back
      · exact ⟨b,length,back.symm⟩
      · cases back
  · intro ⟨b,length,spelled⟩
    have window := signature_window length
    simp [isSignature,spelled,window,decode_encode,length]

example : b58decode ['1','1','5','R'] = some [0,0,1,0] := by decide

end FlaconVault.Verifier
