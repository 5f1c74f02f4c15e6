import FlaconVault.Lib.PyText
namespace FlaconVault.PyText

-- bytes.hex().upper().
def upperDigit (digit : ℕ) : Char := Char.ofNat (if digit < 10 then 48+digit else 55+digit)
def hexUpper (bytes : List Byte) : List Char := bytes.flatMap fun byte => [upperDigit (byte.val/16),upperDigit (byte.val%16)]

-- A text of upper-case hex digits.
def UpperHex (text : List Char) : Prop := ∀ c ∈ text, ∃ digit < 16, c = upperDigit digit

-- What each reader sees in one digit.
structure PlainDigit (digit : ℕ) : Prop where
  value : hexDigit (upperDigit digit) = some digit
  unspaced : isSpace (upperDigit digit) = false
  unspacedAscii : isAsciiSpace (upperDigit digit) = false
  ascii : toAscii (upperDigit digit) = upperDigit digit
  unmarked : upperDigit digit ≠ 'x' ∧ upperDigit digit ≠ 'X' ∧ upperDigit digit ≠ '_' ∧ upperDigit digit ≠ '-' ∧ upperDigit digit ≠ '+'

theorem upperDigit_plain {digit : ℕ} (small : digit < 16) : PlainDigit digit := by
  have values : ∀ digit : Fin 16, hexDigit (upperDigit digit.val) = some digit.val := by decide
  have spaces : ∀ digit : Fin 16, isSpace (upperDigit digit.val) = false := by decide
  have asciiSpaces : ∀ digit : Fin 16, isAsciiSpace (upperDigit digit.val) = false := by decide
  have asciis : ∀ digit : Fin 16, toAscii (upperDigit digit.val) = upperDigit digit.val := by decide
  have marks : ∀ digit : Fin 16, upperDigit digit.val ≠ 'x' ∧ upperDigit digit.val ≠ 'X' ∧ upperDigit digit.val ≠ '_' ∧
    upperDigit digit.val ≠ '-' ∧ upperDigit digit.val ≠ '+' := by decide
  exact ⟨values ⟨digit,small⟩,spaces ⟨digit,small⟩,asciiSpaces ⟨digit,small⟩,asciis ⟨digit,small⟩,marks ⟨digit,small⟩⟩

theorem hexUpper_cons (byte : Byte) (rest : List Byte) :
    hexUpper (byte :: rest) = upperDigit (byte.val/16) :: upperDigit (byte.val%16) :: hexUpper rest := rfl

theorem hexUpper_upper (bytes : List Byte) : UpperHex (hexUpper bytes) := by
  intro c inside
  obtain ⟨byte,-,here⟩ := List.mem_flatMap.mp inside
  have small := byte.isLt
  rcases List.mem_cons.mp here with high | low
  · exact ⟨byte.val/16,by omega,high⟩
  · exact ⟨byte.val%16,by omega,List.mem_singleton.mp low⟩

@[simp] theorem hexUpper_length (bytes : List Byte) : (hexUpper bytes).length = 2*bytes.length := by
  induction bytes with
  | nil => rfl
  | cons byte rest ih =>
    rw [hexUpper_cons,List.length_cons,List.length_cons,ih,List.length_cons]
    omega

-- Reading the digits of some bytes gives the bytes.
theorem fromHex_hexUpper (bytes : List Byte) : fromHex (hexUpper bytes) = some bytes := by
  induction bytes with
  | nil => rfl
  | cons byte rest ih =>
    have small := byte.isLt
    have high := upperDigit_plain (show byte.val/16 < 16 by omega)
    have low := upperDigit_plain (show byte.val%16 < 16 by omega)
    have same : (Fin.ofNat 256 (16*(byte.val/16)+byte.val%16) : Byte) = byte := by
      apply Fin.ext
      rw [Fin.val_ofNat]
      omega
    rw [hexUpper_cons,fromHex,high.unspacedAscii]
    simp only [Bool.false_eq_true,if_false,high.value,low.value,ih]
    exact congrArg (fun first => some (first :: rest)) same

theorem dropWhile_unspaced {text : List Char} (unspaced : ∀ c ∈ text, isSpace c = false) : text.dropWhile isSpace = text := by
  cases text with
  | nil => rfl
  | cons c rest => rw [List.dropWhile_cons_of_neg (by rw [unspaced c List.mem_cons_self]; exact Bool.false_ne_true)]

theorem strip_unspaced {text : List Char} (unspaced : ∀ c ∈ text, isSpace c = false) : strip text = text := by
  rw [strip,dropWhile_unspaced unspaced,dropWhile_unspaced fun c inside => unspaced c (List.mem_reverse.mp inside),List.reverse_reverse]

theorem UpperHex.unspaced {text : List Char} (upper : UpperHex text) : ∀ c ∈ text, isSpace c = false := by
  intro c inside
  obtain ⟨digit,small,rfl⟩ := upper c inside
  exact (upperDigit_plain small).unspaced

theorem strip_upper {text : List Char} (upper : UpperHex text) : strip text = text := strip_unspaced upper.unspaced

-- No text of digits starts with 0x.
theorem take_upper {text : List Char} (upper : UpperHex text) (mark : Char) (marked : mark = 'x' ∨ mark = 'X') : text.take 2 ≠ ['0',mark] := by
  intro start
  cases text with
  | nil => cases start
  | cons c rest =>
    cases rest with
    | nil => cases start
    | cons d rest =>
      obtain ⟨digit,small,rfl⟩ := upper d (List.mem_cons_of_mem _ List.mem_cons_self)
      have plain := (upperDigit_plain small).unmarked
      simp only [List.take_succ_cons,List.take_zero,List.cons.injEq,and_true] at start
      rcases marked with rfl | rfl
      · exact plain.1 start.2
      · exact plain.2.1 start.2

theorem removePrefix_upper {text : List Char} (upper : UpperHex text) : removePrefix "0x".toList text = text := by
  unfold removePrefix
  split
  · rename_i start
    obtain ⟨rest,same⟩ := List.isPrefixOf_iff_prefix.mp start
    exact absurd (by rw [← same]; rfl) (take_upper upper 'x' (.inl rfl))
  · rfl

theorem moreHexDigits_upper {digits : List ℕ} (valid : ∀ digit ∈ digits, digit < 16) (read : ℕ) :
    moreHexDigits (digits.map upperDigit) read = some (digits.foldl (fun n digit => 16*n+digit) read) := by
  induction digits generalizing read with
  | nil => rfl
  | cons first rest ih =>
    have plain := upperDigit_plain (valid first List.mem_cons_self)
    have later := ih fun digit inside => valid digit (List.mem_cons_of_mem _ inside)
    cases rest with
    | nil => simp [moreHexDigits,plain.value]
    | cons second rest =>
      rw [List.map_cons,List.map_cons,moreHexDigits,if_neg plain.unmarked.2.2.1,plain.value]
      simpa using later (16*read+first)

theorem natBase16_unmarked {c : Char} {rest : List Char} (unmarked : ∀ d tail, rest = d :: tail → d ≠ 'x' ∧ d ≠ 'X') :
    natBase16 (c :: rest) = (hexDigit c).bind (moreHexDigits rest) := by
  have not_marked (mark : Char) (tail : List Char) (marked : mark = 'x' ∨ mark = 'X') : c :: rest ≠ '0' :: mark :: tail := by
    intro same
    have := unmarked mark tail (List.cons.inj same).2
    rcases marked with rfl | rfl
    · exact this.1 rfl
    · exact this.2 rfl
  unfold natBase16
  dsimp only
  split
  · rename_i digits
    split at digits
    · rename_i same
      exact absurd same (not_marked 'x' _ (.inl rfl))
    · rename_i same
      exact absurd same (not_marked 'X' _ (.inr rfl))
    · rename_i same
      exact absurd same (not_marked 'x' _ (.inl rfl))
    · rename_i same
      exact absurd same (not_marked 'X' _ (.inr rfl))
    · cases digits
  · rename_i digits
    split at digits
    · rename_i same
      exact absurd same (not_marked 'x' _ (.inl rfl))
    · rename_i same
      exact absurd same (not_marked 'X' _ (.inr rfl))
    · rename_i same
      exact absurd same (not_marked 'x' _ (.inl rfl))
    · rename_i same
      exact absurd same (not_marked 'X' _ (.inr rfl))
    · cases digits
      rfl

-- int(text, 16) of digits.
theorem intBase16_upper {first : ℕ} {digits : List ℕ} (valid : ∀ digit ∈ first :: digits, digit < 16) :
    intBase16 ((first :: digits).map upperDigit) = some (((first :: digits).foldl (fun n digit => 16*n+digit) 0 : ℕ) : Int) := by
  have plain := upperDigit_plain (valid first List.mem_cons_self)
  have unspaced (text : List ℕ) (valid : ∀ digit ∈ text, digit < 16) :
      (text.map upperDigit).dropWhile isAsciiSpace = text.map upperDigit := by
    cases text with
    | nil => rfl
    | cons digit rest =>
      have := (upperDigit_plain (valid digit List.mem_cons_self)).unspacedAscii
      rw [List.map_cons,List.dropWhile_cons_of_neg (by rw [this]; exact Bool.false_ne_true)]
  have asciis : ((first :: digits).map upperDigit).map toAscii = (first :: digits).map upperDigit := by
    rw [List.map_map]
    apply List.map_congr_left
    intro digit inside
    exact (upperDigit_plain (valid digit inside)).ascii
  have read : natBase16 ((first :: digits).map upperDigit) = some ((first :: digits).foldl (fun n digit => 16*n+digit) 0) := by
    have rest := moreHexDigits_upper (fun digit inside => valid digit (List.mem_cons_of_mem _ inside)) first
    rw [List.map_cons,natBase16_unmarked,plain.value]
    · simpa using rest
    · intro d tail same
      cases digits with
      | nil => cases same
      | cons second digits =>
        have marks := (upperDigit_plain (valid second (List.mem_cons_of_mem _ List.mem_cons_self))).unmarked
        have here : upperDigit second = d := (List.cons.inj same).1
        exact here ▸ ⟨marks.1,marks.2.1⟩
  have reversed := unspaced (first :: digits).reverse fun digit inside => valid digit (List.mem_reverse.mp inside)
  unfold intBase16
  simp only [asciis,unspaced (first :: digits) valid,← List.map_reverse,reversed]
  rw [List.reverse_reverse]
  have minus := plain.unmarked.2.2.2.1
  have plus := plain.unmarked.2.2.2.2
  split
  · rename_i same
    exact absurd (List.cons.inj same).1 minus
  · rename_i same
    exact absurd (List.cons.inj same).1 plus
  · rw [read]
    rfl

end FlaconVault.PyText
