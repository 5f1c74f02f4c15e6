import FlaconVault.Lib.Patterns
import FlaconVault.Web.Canonical
import FlaconVault.Web.VerifyApi
namespace FlaconVault.Web
open Verifier Schemas

-- What a person types into the web app: serials and prices.

-- The classes of the serial pattern, on the code units of a text.
def isAlnumUnit (unit : ℕ) : Bool := (48 ≤ unit ∧ unit ≤ 57) ∨ (65 ≤ unit ∧ unit ≤ 90) ∨ (97 ≤ unit ∧ unit ≤ 122)

def isSerialUnit (unit : ℕ) : Bool := isAlnumUnit unit || unit == 46 || unit == 95 || unit == 45

def SERIAL_RE : Pattern ℕ := .seq (.one isAlnumUnit) (.times isSerialUnit 2 63)

def isValidSerial (s : String) : Bool := SERIAL_RE.reaches Pattern.atEnd (utf16 s)

-- The verifier has the same pattern, on characters and with the other end anchor.
def VERIFIER_SERIAL_RE : Pattern Char := .seq (.one isAlnum) (.times isSerialChar 2 63)

-- The grammar both sides are after.
structure WellFormedSerial (s : String) : Prop where
  length : 3 ≤ s.length ∧ s.length ≤ 64
  first : ∀ c ∈ s.toList.head?, isAlnum c = true
  others : ∀ c ∈ s.toList.tail, isAlnum c = true ∨ c = '.' ∨ c = '_' ∨ c = '-'

theorem isSerialChar_iff {c : Char} : isSerialChar c = true ↔ isAlnum c = true ∨ c = '.' ∨ c = '_' ∨ c = '-' := by
  unfold isSerialChar
  simp only [Bool.or_eq_true,beq_iff_eq,or_assoc]

theorem spells_serial {s : String} : VERIFIER_SERIAL_RE.Spells s.toList ↔ WellFormedSerial s := by
  unfold VERIFIER_SERIAL_RE
  simp only [Pattern.Spells]
  constructor
  · rintro ⟨_,back,same,⟨first,single,letter⟩,least,most,own⟩
    subst single
    have size : s.length = back.length+1 := by
      rw [← String.length_toList,same]
      simp
    refine ⟨by omega,?_,?_⟩
    · rw [same]
      intro c here
      exact Option.some.inj here ▸ letter
    · rw [same]
      exact fun c inside => isSerialChar_iff.mp (own c inside)
  · intro fits
    have size := fits.length
    cases text : s.toList with
    | nil =>
      rw [← String.length_toList,text] at size
      simp at size
    | cons first back =>
      have length : s.length = back.length+1 := by rw [← String.length_toList,text,List.length_cons]
      refine ⟨[first],back,rfl,⟨first,rfl,fits.first first (by rw [text]; rfl)⟩,by omega,by omega,?_⟩
      exact fun c inside => isSerialChar_iff.mpr (fits.others c (by rw [text]; exact inside))

-- The verifier's check, as its requests have it, is this pattern.
theorem validSerial_spells (s : String) : validSerial s = true ↔
    VERIFIER_SERIAL_RE.Spells (if s.toList.getLast? = some '\n' then s.toList.dropLast else s.toList) := by
  unfold validSerial VERIFIER_SERIAL_RE
  dsimp only
  generalize (if s.toList.getLast? = some '\n' then s.toList.dropLast else s.toList) = text
  cases text with
  | nil => simp [Pattern.Spells]
  | cons first rest =>
    simp only [Pattern.Spells,Bool.and_eq_true,decide_eq_true_eq,List.all_eq_true]
    constructor
    · rintro ⟨⟨letter,least,most⟩,own⟩
      exact ⟨[first],rest,rfl,⟨first,rfl,letter⟩,least,most,own⟩
    · rintro ⟨_,back,same,⟨_,single,letter⟩,least,most,own⟩
      subst single
      obtain ⟨rfl,rfl⟩ := List.cons.inj same
      exact ⟨⟨letter,least,most⟩,own⟩

theorem no_break {text : List Char} (fits : VERIFIER_SERIAL_RE.Spells text) : '\n' ∉ text := by
  obtain ⟨_,back,same,⟨first,single,letter⟩,_,_,own⟩ := fits
  subst single
  subst same
  intro inside
  rcases List.mem_cons.mp inside with here | later
  · rw [← here] at letter
    exact absurd letter (by decide)
  · exact absurd (own _ later) (by decide)

theorem validSerial_reaches (s : String) : validSerial s = VERIFIER_SERIAL_RE.reaches (Pattern.beforeBreak '\n') s.toList := by
  rw [Bool.eq_iff_iff,Pattern.reaches_beforeBreak,validSerial_spells]
  split
  · rename_i ends
    have split_text := (List.dropLast_append_getLast? '\n' ends).symm
    constructor
    · exact fun head => .inr ⟨_,split_text,head⟩
    · rintro (head | ⟨front,same,head⟩)
      · exact absurd (List.mem_of_getLast? ends) (no_break head)
      · rw [same,List.dropLast_concat]
        exact head
  · rename_i open_end
    constructor
    · exact .inl
    · rintro (head | ⟨front,same,head⟩)
      · exact head
      · rw [same] at open_end
        exact absurd List.getLast?_concat open_end

-- Code units of the pattern's classes are characters.
theorem isSerialUnit_low {unit : ℕ} (fits : isSerialUnit unit = true) : unit < 128 := by
  unfold isSerialUnit isAlnumUnit at fits
  simp only [Bool.or_eq_true,decide_eq_true_eq,beq_iff_eq] at fits
  omega

theorem isAlnumUnit_serial {unit : ℕ} (fits : isAlnumUnit unit = true) : isSerialUnit unit = true := by
  unfold isSerialUnit
  rw [fits]
  rfl

theorem isSerialUnit_toNat (c : Char) : isSerialUnit c.toNat = isSerialChar c := by
  have same (d : Char) : (c.toNat == d.toNat) = (c == d) := by
    rw [Bool.eq_iff_iff,beq_iff_eq,beq_iff_eq]
    exact Char.toNat_inj
  unfold isSerialUnit isSerialChar
  rw [← same '.',← same '_',← same '-']
  rfl

theorem basic_of_units {s : String} (low : ∀ unit ∈ utf16 s, unit < 0xd800) : basic s = true := by
  unfold basic
  rw [List.all_eq_true]
  intro c inside
  by_contra high
  have units : unitsOf c = [0xd800+(c.toNat-0x10000)/0x400,0xdc00+(c.toNat-0x10000)%0x400] := if_neg fun small => high (decide_eq_true small)
  have first : 0xd800+(c.toNat-0x10000)/0x400 ∈ utf16 s :=
    List.mem_flatMap.mpr ⟨c,inside,units ▸ List.mem_cons_self⟩
  have := low _ first
  omega

theorem isValidSerial_iff (s : String) : isValidSerial s = true ↔ WellFormedSerial s := by
  unfold isValidSerial
  rw [Pattern.reaches_atEnd,← spells_serial]
  unfold SERIAL_RE VERIFIER_SERIAL_RE
  simp only [Pattern.Spells]
  constructor
  · rintro ⟨_,back,same,⟨first,single,letter⟩,least,most,own⟩
    subst single
    have is_basic : basic s = true := by
      refine basic_of_units fun unit inside => ?_
      rw [same] at inside
      rcases List.mem_cons.mp inside with here | later
      · have := isSerialUnit_low (isAlnumUnit_serial (here ▸ letter))
        omega
      · have := isSerialUnit_low (own unit later)
        omega
    rw [utf16_basic is_basic] at same
    obtain ⟨c,rest,text,head,tail⟩ := List.map_eq_cons_iff.mp same
    subst head
    subst tail
    rw [List.length_map] at least most
    refine ⟨[c],rest,text,⟨c,rfl,letter⟩,least,most,?_⟩
    intro d inside
    exact isSerialUnit_toNat d ▸ own _ (List.mem_map_of_mem inside)
  · rintro ⟨_,back,same,⟨first,single,letter⟩,least,most,own⟩
    subst single
    have is_basic : basic s = true := by
      unfold basic
      rw [List.all_eq_true,same]
      intro c inside
      refine decide_eq_true ?_
      rcases List.mem_cons.mp inside with here | later
      · have serial : isSerialChar c = true := isSerialChar_iff.mpr (.inl (here ▸ letter))
        have := isSerialUnit_low (isSerialUnit_toNat c ▸ serial)
        omega
      · have := isSerialUnit_low (isSerialUnit_toNat c ▸ own c later)
        omega
    rw [utf16_basic is_basic,same]
    refine ⟨[first.toNat],back.map Char.toNat,rfl,⟨first.toNat,rfl,letter⟩,by simpa using least,by simpa using most,?_⟩
    intro unit inside
    obtain ⟨c,there,rfl⟩ := List.mem_map.mp inside
    exact (isSerialUnit_toNat c).symm ▸ own c there

-- Characters that stand for themselves in a path or a query.
def urlSafe (c : Char) : Bool := isAlnum c || c == '-' || c == '_' || c == '.' || c == '~'

-- The two checks and the grammar agree on a text.
structure SerialsAgree (s : String) : Prop where
  verifier : validSerial s = true ↔ WellFormedSerial s
  web : isValidSerial s = true ↔ WellFormedSerial s
  alike : validSerial s = isValidSerial s
  safe : validSerial s = true → ∀ c ∈ s.toList, urlSafe c = true

theorem wellFormed_safe {s : String} (fits : WellFormedSerial s) : ∀ c ∈ s.toList, urlSafe c = true := by
  intro c inside
  have shown : isAlnum c = true ∨ c = '.' ∨ c = '_' ∨ c = '-' := by
    cases text : s.toList with
    | nil =>
      rw [text] at inside
      cases inside
    | cons first rest =>
      rw [text] at inside
      rcases List.mem_cons.mp inside with here | later
      · exact .inl (here ▸ fits.first first (by rw [text]; rfl))
      · exact fits.others c (by rw [text]; exact later)
  unfold urlSafe
  rcases shown with letter | same | same | same
  · rw [letter]
    rfl
  · rw [same]
    decide
  · rw [same]
    decide
  · rw [same]
    decide

-- They do unless a line break follows a serial: the verifier's end anchor does not see it.
theorem serials_agree_iff (s : String) : SerialsAgree s ↔ ¬∃ serial, WellFormedSerial serial ∧ s = serial ++ "\n" := by
  have verifier : validSerial s = true ↔ WellFormedSerial s ∨ ∃ serial, WellFormedSerial serial ∧ s = serial ++ "\n" := by
    rw [validSerial_reaches,Pattern.reaches_beforeBreak,spells_serial]
    refine or_congr_right ?_
    constructor
    · rintro ⟨front,same,head⟩
      refine ⟨String.ofList front,spells_serial.mp (by rwa [String.toList_ofList]),?_⟩
      rw [← String.toList_inj,same,String.toList_append,String.toList_ofList]
      rfl
    · rintro ⟨serial,fits,same⟩
      refine ⟨serial.toList,?_,spells_serial.mpr fits⟩
      rw [same,String.toList_append]
      rfl
  constructor
  · intro agree ⟨serial,fits,same⟩
    have broken := agree.safe (verifier.mpr (.inr ⟨serial,fits,same⟩)) '\n' (by rw [same,String.toList_append]; simp)
    exact absurd broken (by decide)
  · intro plain
    have own : validSerial s = true ↔ WellFormedSerial s := verifier.trans (or_iff_left plain)
    exact ⟨own,isValidSerial_iff s,Bool.eq_iff_iff.mpr (own.trans (isValidSerial_iff s).symm),
      fun accepted => wellFormed_safe (own.mp accepted)⟩

-- A serial with a line break is accepted by the verifier alone.
theorem serial_with_break : ¬SerialsAgree "SN-2026-000001\n" := by
  intro agree
  have alike := agree.alike
  revert alike
  decide +kernel

-- Prices in USDC, six decimals.
def MICRO : ℕ := 1000000
def U64_MAX : ℕ := 18446744073709551615

def isDigit (c : Char) : Bool := 48 ≤ c.toNat ∧ c.toNat ≤ 57

-- The two groups of `^(\d{1,13})(?:\.(\d{1,6}))?$`. A dot or the end follows the first one, so it takes every digit there is.
def priceGroups (text : List Char) : Option (List Char × Option (List Char)) :=
  let whole := text.takeWhile isDigit
  if 1 ≤ whole.length ∧ whole.length ≤ 13 then
    match text.dropWhile isDigit with
    | [] => some (whole,none)
    | c :: frac => if c = '.' ∧ 1 ≤ frac.length ∧ frac.length ≤ 6 ∧ frac.all isDigit then some (whole,some frac) else none
  else none

def padEnd (size : ℕ) (fill : Char) (text : List Char) : List Char := text ++ List.replicate (size-text.length) fill

def padStart (size : ℕ) (fill : Char) (text : List Char) : List Char := List.replicate (size-text.length) fill ++ text

-- BigInt of a text of digits.
def bigInt (digits : List Char) : ℕ := Nat.ofDigitChars 10 digits 0

def parsePriceUsdc (input : String) : Option ℕ :=
  (priceGroups (trim input).toList).bind fun groups =>
    let padded := padEnd 6 '0' (groups.2.getD [])
    let base := bigInt groups.1*MICRO + bigInt (if padded = [] then ['0'] else padded)
    if base ≤ 0 ∨ base > U64_MAX then none else some base

-- `.replace(/0+$/, "")`.
def dropZeros (text : List Char) : List Char := (text.reverse.dropWhile (· == '0')).reverse

def formatUsdc (base : ℕ) : String :=
  let whole := base/MICRO
  let frac := base%MICRO
  if frac = 0 then String.ofList (Nat.toDigits 10 whole)
  else String.ofList (Nat.toDigits 10 whole ++ '.' :: dropZeros (padStart 6 '0' (Nat.toDigits 10 frac)))

-- Decimal numbers as they are written, and what they are worth.
structure Decimal where
  whole : List Char
  frac : List Char
  digits : ∀ c ∈ whole ++ frac, isDigit c = true
  nonempty : whole ≠ []

namespace Decimal

def text (number : Decimal) : List Char := number.whole ++ if number.frac = [] then [] else '.' :: number.frac

def value (number : Decimal) : ℚ := bigInt number.whole + bigInt number.frac/10^number.frac.length

-- No superfluous zeros in front, at most six fraction digits.
structure Plain (number : Decimal) : Prop where
  front : number.whole.head? = some '0' → number.whole.length = 1
  fraction : number.frac.length ≤ 6

-- In base units.
def units (number : Decimal) : ℕ := bigInt number.whole*MICRO + bigInt number.frac*10^(6-number.frac.length)

theorem units_value {number : Decimal} (short : number.frac.length ≤ 6) : (number.units : ℚ) = number.value*10^6 := by
  have powers : (10 : ℚ)^6 = 10^(6-number.frac.length)*10^number.frac.length := by
    rw [← pow_add,Nat.sub_add_cancel short]
  have positive : (10 : ℚ)^number.frac.length ≠ 0 := pow_ne_zero _ (by norm_num)
  have million : ((MICRO : ℕ) : ℚ) = 10^6 := by norm_num [MICRO]
  unfold units value
  push_cast
  rw [million,add_mul,div_mul_eq_mul_div,powers,← mul_assoc (_ : ℚ) _ (10^number.frac.length),mul_div_assoc,mul_div_assoc,
    div_self positive,mul_one]

theorem units_padded (number : Decimal) : number.units = bigInt number.whole*MICRO +
    bigInt (if padEnd 6 '0' number.frac = [] then ['0'] else padEnd 6 '0' number.frac) := by
  have full : padEnd 6 '0' number.frac ≠ [] := by
    intro empty
    have size := congrArg List.length empty
    simp only [padEnd,List.length_append,List.length_replicate,List.length_nil] at size
    omega
  rw [if_neg full]
  unfold units padEnd bigInt
  rw [Nat.ofDigitChars_append,Nat.ofDigitChars_replicate_zero,mul_comm (10^_)]

end Decimal

theorem isDigit_point : isDigit '.' = false := by decide

-- The groups are those of a decimal number with a bounded whole part.
theorem priceGroups_text {number : Decimal} (short : number.frac.length ≤ 6) :
    priceGroups number.text = if number.whole.length ≤ 13 then some (number.whole,if number.frac = [] then none else some number.frac)
      else none := by
  have whole : ∀ c ∈ number.whole, isDigit c = true := fun c inside => number.digits c (List.mem_append_left _ inside)
  have frac : ∀ c ∈ number.frac, isDigit c = true := fun c inside => number.digits c (List.mem_append_right _ inside)
  have front : number.text.takeWhile isDigit = number.whole := by
    unfold Decimal.text
    rw [List.takeWhile_append_of_pos whole]
    split
    · exact List.append_nil _
    · rw [List.takeWhile_cons_of_neg (by simp [isDigit_point]),List.append_nil]
  have back : number.text.dropWhile isDigit = if number.frac = [] then [] else '.' :: number.frac := by
    unfold Decimal.text
    rw [List.dropWhile_append_of_pos whole]
    split
    · rfl
    · exact List.dropWhile_cons_of_neg (by simp [isDigit_point])
  have size : 1 ≤ number.whole.length := List.length_pos_iff.mpr number.nonempty
  unfold priceGroups
  simp only [front,back,size,true_and]
  by_cases fits : number.whole.length ≤ 13
  · rw [if_pos fits,if_pos fits]
    by_cases empty : number.frac = []
    · simp only [if_pos empty]
    · have some_frac : 1 ≤ number.frac.length := List.length_pos_iff.mpr empty
      simp only [if_neg empty]
      rw [if_pos ⟨trivial,some_frac,short,List.all_eq_true.mpr frac⟩]
  · rw [if_neg fits,if_neg fits]

theorem priceGroups_some {text : List Char} {groups : List Char × Option (List Char)} (read : priceGroups text = some groups) :
    ∃ number : Decimal, text = number.text ∧ number.frac.length ≤ 6 ∧ number.whole.length ≤ 13 := by
  unfold priceGroups at read
  dsimp only at read
  have split_text : text = text.takeWhile isDigit ++ text.dropWhile isDigit := (List.takeWhile_append_dropWhile ..).symm
  have whole : ∀ c ∈ text.takeWhile isDigit, isDigit c = true := fun c inside => List.mem_takeWhile_imp inside
  split at read
  · rename_i size
    have nonempty : text.takeWhile isDigit ≠ [] := List.length_pos_iff.mp size.1
    split at read
    · rename_i rest
      refine ⟨⟨text.takeWhile isDigit,[],by simpa using whole,nonempty⟩,?_,Nat.zero_le _,size.2⟩
      rw [rest] at split_text
      exact split_text
    · rename_i c frac rest
      split at read
      · rename_i shape
        obtain ⟨point,some_frac,short,own⟩ := shape
        subst point
        have nonempty_frac : frac ≠ [] := List.length_pos_iff.mp some_frac
        refine ⟨⟨text.takeWhile isDigit,frac,?_,nonempty⟩,?_,short,size.2⟩
        · intro c inside
          rcases List.mem_append.mp inside with front | back
          · exact whole c front
          · exact List.all_eq_true.mp own c back
        · unfold Decimal.text
          rw [if_neg nonempty_frac,← rest]
          exact split_text
      · cases read
  · cases read

-- The pattern as a whole matches what has these groups.
def PRICE_RE : Pattern Char := .seq (.times isDigit 1 13) (.maybe (.seq (.one (· == '.')) (.times isDigit 1 6)))

theorem priceGroups_reaches (text : List Char) : (priceGroups text).isSome = PRICE_RE.reaches Pattern.atEnd text := by
  rw [Bool.eq_iff_iff,Pattern.reaches_atEnd,Option.isSome_iff_exists]
  unfold PRICE_RE
  simp only [Pattern.Spells,beq_iff_eq]
  constructor
  · rintro ⟨groups,read⟩
    obtain ⟨number,same,short,fits⟩ := priceGroups_some read
    have whole : ∀ c ∈ number.whole, isDigit c = true := fun c inside => number.digits c (List.mem_append_left _ inside)
    have frac : ∀ c ∈ number.frac, isDigit c = true := fun c inside => number.digits c (List.mem_append_right _ inside)
    refine ⟨number.whole,_,same,⟨List.length_pos_iff.mpr number.nonempty,fits,whole⟩,?_⟩
    split
    · exact .inl rfl
    · rename_i some_frac
      exact .inr ⟨['.'],number.frac,rfl,⟨'.',rfl,rfl⟩,List.length_pos_iff.mpr some_frac,short,frac⟩
  · rintro ⟨whole,back,same,⟨some_whole,fits,own⟩,part⟩
    have nonempty : whole ≠ [] := List.length_pos_iff.mp some_whole
    rcases part with none_frac | ⟨_,frac,same',⟨_,single,point⟩,some_frac,short,own'⟩
    · have digits : ∀ c ∈ whole ++ [], isDigit c = true := by rwa [List.append_nil]
      have number : text = Decimal.text ⟨whole,[],digits,nonempty⟩ := by
        rw [same,none_frac]
        rfl
      have none_read := @priceGroups_text ⟨whole,[],digits,nonempty⟩ (Nat.zero_le 6)
      rw [number,none_read,if_pos fits]
      exact ⟨_,rfl⟩
    · subst single
      subst point
      have digits : ∀ c ∈ whole ++ frac, isDigit c = true := fun c inside => (List.mem_append.mp inside).elim (own c) (own' c)
      have number : text = Decimal.text ⟨whole,frac,digits,nonempty⟩ := by
        unfold Decimal.text
        rw [same,same',if_neg (List.length_pos_iff.mp some_frac)]
        rfl
      rw [number,priceGroups_text short,if_pos fits]
      exact ⟨_,rfl⟩

-- A run of digits lies between two powers of ten.
theorem digit_value {c : Char} (digit : isDigit c = true) : c.toNat - '0'.toNat < 10 := by
  unfold isDigit at digit
  have zero : '0'.toNat = 48 := rfl
  have := of_decide_eq_true digit
  omega

theorem ofDigitChars_bounds {digits : List Char} (own : ∀ c ∈ digits, isDigit c = true) (start : ℕ) :
    start*10^digits.length ≤ Nat.ofDigitChars 10 digits start ∧ Nat.ofDigitChars 10 digits start < (start+1)*10^digits.length := by
  induction digits generalizing start with
  | nil => simp
  | cons c rest ih =>
    have small := digit_value (own c List.mem_cons_self)
    obtain ⟨low,high⟩ := ih (fun d inside => own d (List.mem_cons_of_mem c inside)) (10*start + (c.toNat - '0'.toNat))
    rw [Nat.ofDigitChars_cons,List.length_cons,pow_succ]
    have positive : 0 < 10^rest.length := by positivity
    constructor
    · refine le_trans ?_ low
      nlinarith
    · refine lt_of_lt_of_le high ?_
      nlinarith

theorem bigInt_lt {digits : List Char} (own : ∀ c ∈ digits, isDigit c = true) : bigInt digits < 10^digits.length := by
  have bound := (ofDigitChars_bounds own 0).2
  rwa [zero_add,one_mul] at bound

theorem length_le_iff {digits : List Char} (own : ∀ c ∈ digits, isDigit c = true)
    (front : digits.head? = some '0' → digits.length = 1) {most : ℕ} (some_most : 1 ≤ most) :
    digits.length ≤ most ↔ bigInt digits < 10^most := by
  constructor
  · intro short
    exact (bigInt_lt own).trans_le (Nat.pow_le_pow_right (by decide) short)
  · intro small
    by_contra long
    cases digits with
    | nil => exact long (Nat.zero_le _)
    | cons c rest =>
      rw [List.length_cons] at long front
      have leading : c ≠ '0' := by
        intro zero
        have := front (by rw [zero]; rfl)
        omega
      have nonzero : 1 ≤ c.toNat - '0'.toNat := by
        have digit := own c List.mem_cons_self
        unfold isDigit at digit
        have bounds := of_decide_eq_true digit
        have zero : '0'.toNat = 48 := rfl
        have other : c.toNat ≠ 48 := fun same => leading (Char.toNat_inj.mp same)
        omega
      have low := (ofDigitChars_bounds (fun d inside => own d (List.mem_cons_of_mem c inside)) (c.toNat - '0'.toNat)).1
      have read : bigInt (c :: rest) = Nat.ofDigitChars 10 rest (c.toNat - '0'.toNat) := by
        unfold bigInt
        rw [Nat.ofDigitChars_cons,mul_zero,zero_add]
      have powers : 10^most ≤ 10^rest.length := Nat.pow_le_pow_right (by decide) (by omega)
      have := Nat.mul_le_mul_right (10^rest.length) nonzero
      omega

-- Texts of numbers have no white space to trim.
theorem digit_solid {c : Char} (digit : isDigit c = true) : Web.isSpace c = false := by
  unfold isDigit at digit
  have bounds := of_decide_eq_true digit
  unfold Web.isSpace
  refine decide_eq_false ?_
  omega

theorem trim_solid {text : List Char} (solid : ∀ c ∈ text, Web.isSpace c = false) : (trim (String.ofList text)).toList = text := by
  have same {chars : List Char} (inside : ∀ c ∈ chars, c ∈ text) : chars.dropWhile Web.isSpace = chars := by
    rw [List.dropWhile_eq_self_iff]
    intro some_chars
    rw [solid _ (inside _ (List.getElem_mem some_chars))]
    exact Bool.false_ne_true
  unfold trim
  rw [String.toList_ofList,String.toList_ofList,same fun c inside => inside,same fun c inside => List.mem_reverse.mp inside,
    List.reverse_reverse]

theorem Decimal.text_solid (number : Decimal) : ∀ c ∈ number.text, Web.isSpace c = false := by
  intro c inside
  unfold Decimal.text at inside
  rcases List.mem_append.mp inside with front | back
  · exact digit_solid (number.digits c (List.mem_append_left _ front))
  · split at back
    · cases back
    · rcases List.mem_cons.mp back with point | frac
      · rw [point]
        decide
      · exact digit_solid (number.digits c (List.mem_append_right _ frac))

-- What the parser makes of a decimal number.
theorem parse_text {input : String} {number : Decimal} (same : (trim input).toList = number.text) (short : number.frac.length ≤ 6) :
    parsePriceUsdc input = if number.whole.length ≤ 13 ∧ 0 < number.units ∧ number.units ≤ U64_MAX then some number.units else none := by
  unfold parsePriceUsdc
  rw [same,priceGroups_text short]
  by_cases fits : number.whole.length ≤ 13
  · have groups : (if number.frac = [] then none else some number.frac).getD [] = number.frac := by
      split
      · rename_i empty
        exact empty.symm
      · rfl
    rw [if_pos fits,Option.bind_some]
    dsimp only
    rw [groups,← number.units_padded]
    by_cases range : 0 < number.units ∧ number.units ≤ U64_MAX
    · rw [if_neg (by omega),if_pos ⟨fits,range⟩]
    · rw [if_pos (by omega),if_neg fun all => range all.2]
  · rw [if_neg fits,if_neg fun all => fits all.1]
    rfl

-- The number that stands for some base units.
theorem dropZeros_pad (text : List Char) : dropZeros text ++ List.replicate (text.length-(dropZeros text).length) '0' = text := by
  have split_text : text.reverse.takeWhile (· == '0') ++ text.reverse.dropWhile (· == '0') = text.reverse := List.takeWhile_append_dropWhile ..
  have zeros : text.reverse.takeWhile (· == '0') = List.replicate (text.reverse.takeWhile (· == '0')).length '0' := by
    refine List.eq_replicate_of_mem fun c inside => ?_
    have zero : (c == '0') = true := List.mem_takeWhile_imp (p := fun d => d == '0') inside
    exact beq_iff_eq.mp zero
  have size : text.length-(dropZeros text).length = (text.reverse.takeWhile (· == '0')).length := by
    have lengths := congrArg List.length split_text
    rw [List.length_append,List.length_reverse] at lengths
    unfold dropZeros
    rw [List.length_reverse]
    omega
  rw [size]
  unfold dropZeros
  have back := congrArg List.reverse split_text
  rw [List.reverse_append,List.reverse_reverse] at back
  conv_rhs => rw [← back]
  rw [zeros]
  simp

theorem toDigits_isDigit {n : ℕ} : ∀ c ∈ Nat.toDigits 10 n, isDigit c = true := by
  intro c inside
  have digit := Nat.isDigit_of_mem_toDigits (by decide) (by decide) inside
  unfold Char.isDigit at digit
  unfold isDigit
  rw [Bool.and_eq_true,decide_eq_true_eq,decide_eq_true_eq] at digit
  exact decide_eq_true digit

theorem toDigits_front (n : ℕ) (front : (Nat.toDigits 10 n).head? = some '0') : (Nat.toDigits 10 n).length = 1 := by
  rcases Nat.eq_zero_or_pos n with zero | positive
  · rw [zero]
    rfl
  · obtain ⟨digit,more,starts,nonzero⟩ := Json.toDigits_head positive
    rw [starts] at front
    exact absurd (Option.some.inj front) nonzero

theorem length_padStart {size : ℕ} {fill : Char} {text : List Char} (short : text.length ≤ size) : (padStart size fill text).length = size := by
  simp [padStart,short]

theorem bigInt_padStart (size : ℕ) (text : List Char) : bigInt (padStart size '0' text) = bigInt text := by
  unfold bigInt padStart
  rw [Nat.ofDigitChars_append,Nat.ofDigitChars_replicate_zero,mul_zero]

theorem toDigits_short {n : ℕ} (small : n < MICRO) : (Nat.toDigits 10 n).length ≤ 6 :=
  (Nat.length_toDigits_le_iff (by decide) (by decide)).mpr small

theorem mem_dropZeros {text : List Char} {c : Char} (inside : c ∈ dropZeros text) : c ∈ text :=
  List.mem_reverse.mp ((List.dropWhile_sublist _).mem (List.mem_reverse.mp inside))

theorem length_dropZeros (text : List Char) : (dropZeros text).length ≤ text.length := by
  have size := congrArg List.length (dropZeros_pad text)
  rw [List.length_append] at size
  omega

-- Six digits of a fraction with their zeros cut off are worth the same.
theorem bigInt_dropZeros {text : List Char} (six : text.length = 6) : bigInt (dropZeros text)*10^(6-(dropZeros text).length) = bigInt text := by
  conv_rhs => rw [← dropZeros_pad text]
  unfold bigInt
  rw [Nat.ofDigitChars_append,Nat.ofDigitChars_replicate_zero,six,mul_comm]

theorem fraction_digits {frac : ℕ} {c : Char} (inside : c ∈ padStart 6 '0' (Nat.toDigits 10 frac)) : isDigit c = true := by
  rcases List.mem_append.mp inside with padding | own
  · rw [List.eq_of_mem_replicate padding]
    decide
  · exact toDigits_isDigit c own

theorem formatted_digits (base : ℕ) : ∀ c ∈ Nat.toDigits 10 (base/MICRO) ++
    (if base%MICRO = 0 then [] else dropZeros (padStart 6 '0' (Nat.toDigits 10 (base%MICRO)))), isDigit c = true := by
  intro c inside
  rcases List.mem_append.mp inside with front | back
  · exact toDigits_isDigit c front
  · split at back
    · cases back
    · exact fraction_digits (mem_dropZeros back)

def formatted (base : ℕ) : Decimal where
  whole := Nat.toDigits 10 (base/MICRO)
  frac := if base%MICRO = 0 then [] else dropZeros (padStart 6 '0' (Nat.toDigits 10 (base%MICRO)))
  digits := formatted_digits base
  nonempty := Nat.toDigits_ne_nil

theorem fraction_six (base : ℕ) : (padStart 6 '0' (Nat.toDigits 10 (base%MICRO))).length = 6 :=
  length_padStart (toDigits_short (Nat.mod_lt base (by decide)))

theorem formatted_short (base : ℕ) : (formatted base).frac.length ≤ 6 := by
  unfold formatted
  dsimp only
  split
  · exact Nat.zero_le _
  · exact (length_dropZeros _).trans (fraction_six base).le

theorem formatted_units (base : ℕ) : (formatted base).units = base := by
  have whole : bigInt (Nat.toDigits 10 (base/MICRO)) = base/MICRO := Nat.ofDigitChars_ten_toDigits
  have frac : bigInt (Nat.toDigits 10 (base%MICRO)) = base%MICRO := Nat.ofDigitChars_ten_toDigits
  unfold Decimal.units formatted
  dsimp only
  rw [whole]
  split
  · rename_i exact_base
    have := Nat.div_add_mod' base MICRO
    simp only [bigInt,Nat.ofDigitChars_nil,zero_mul]
    omega
  · rw [bigInt_dropZeros (fraction_six base),bigInt_padStart,frac]
    exact Nat.div_add_mod' base MICRO

theorem formatUsdc_text (base : ℕ) : formatUsdc base = String.ofList (formatted base).text := by
  unfold formatUsdc Decimal.text formatted
  dsimp only
  by_cases exact_base : base%MICRO = 0
  · simp [exact_base]
  · have some_frac : dropZeros (padStart 6 '0' (Nat.toDigits 10 (base%MICRO))) ≠ [] := by
      intro empty
      have worth := bigInt_dropZeros (fraction_six base)
      rw [empty,bigInt_padStart] at worth
      have frac : bigInt (Nat.toDigits 10 (base%MICRO)) = base%MICRO := Nat.ofDigitChars_ten_toDigits
      rw [frac] at worth
      exact exact_base (worth.symm.trans (Nat.zero_mul _))
    simp only [if_neg exact_base,if_neg some_frac]

-- The most a whole part of thirteen digits can be worth.
def PRICE_LIMIT : ℕ := 10^19

theorem units_lt_iff {number : Decimal} (short : number.frac.length ≤ 6) : number.units < PRICE_LIMIT ↔ bigInt number.whole < 10^13 := by
  have own : ∀ c ∈ number.frac, isDigit c = true := fun c inside => number.digits c (List.mem_append_right _ inside)
  have frac := bigInt_lt own
  have below : bigInt number.frac*10^(6-number.frac.length) < MICRO := by
    have powers : 10^number.frac.length*10^(6-number.frac.length) = MICRO := by
      rw [← pow_add,Nat.add_sub_of_le short]
      rfl
    rw [← powers]
    exact Nat.mul_lt_mul_of_pos_right frac (by positivity)
  have million : MICRO = 1000000 := rfl
  unfold Decimal.units PRICE_LIMIT
  rw [million] at below ⊢
  omega

theorem whole_fits {number : Decimal} (plain : number.Plain) : number.whole.length ≤ 13 ↔ number.units < PRICE_LIMIT := by
  rw [units_lt_iff plain.fraction]
  exact length_le_iff (fun c inside => number.digits c (List.mem_append_left _ inside)) plain.front (by decide)

-- Formatting and parsing prices. The pattern's whole part stops a digit short of the largest prices.
structure PriceTexts (base : ℕ) (input : String) (number : Decimal) : Prop where
  round_trip : 0 < base → base ≤ U64_MAX → (parsePriceUsdc (formatUsdc base) = some base ↔ base < PRICE_LIMIT)
  exact_value : ∀ base, parsePriceUsdc input = some base →
    ∃ number : Decimal, (trim input).toList = number.text ∧ number.frac.length ≤ 6 ∧ (base : ℚ) = number.value*10^6 ∧ 0 < base ∧ base ≤ U64_MAX
  accepts : number.Plain → 0 < number.value*10^6 → number.value*10^6 ≤ U64_MAX →
    ((∃ base, parsePriceUsdc (String.ofList number.text) = some base) ↔ number.value*10^6 < PRICE_LIMIT)

theorem parse_number {number : Decimal} (plain : number.Plain) : parsePriceUsdc (String.ofList number.text) =
    if number.units < PRICE_LIMIT ∧ 0 < number.units ∧ number.units ≤ U64_MAX then some number.units else none := by
  rw [parse_text (trim_solid number.text_solid) plain.fraction]
  simp only [whole_fits plain]

theorem price_texts (base : ℕ) (input : String) (number : Decimal) : PriceTexts base input number where
  round_trip positive small := by
    rw [formatUsdc_text,parse_number ⟨toDigits_front _,formatted_short base⟩,formatted_units]
    constructor
    · intro read
      by_contra large
      rw [if_neg fun all => large all.1] at read
      cases read
    · intro below
      exact if_pos ⟨below,positive,small⟩
  exact_value base read := by
    have groups := read
    unfold parsePriceUsdc at groups
    obtain ⟨pair,found,_⟩ := Option.bind_eq_some_iff.mp groups
    obtain ⟨number,same,short,fits⟩ := priceGroups_some found
    rw [parse_text same short] at read
    split at read
    · rename_i range
      cases read
      exact ⟨number,same,short,number.units_value short,range.2⟩
    · cases read
  accepts plain positive small := by
    have worth := Decimal.units_value plain.fraction
    rw [← worth] at positive small ⊢
    have positive : 0 < number.units := by exact_mod_cast positive
    have small : number.units ≤ U64_MAX := by exact_mod_cast small
    rw [parse_number plain,Nat.cast_lt]
    constructor
    · rintro ⟨base,read⟩
      by_contra large
      rw [if_neg fun all => large all.1] at read
      cases read
    · intro below
      exact ⟨number.units,if_pos ⟨below,positive,small⟩⟩

-- The first price that does not come back.
theorem largest_prices_lost : ¬∀ base, 0 < base → base ≤ U64_MAX → parsePriceUsdc (formatUsdc base) = some base := by
  intro all
  have read := all 10000000000000000000 (by decide) (by decide)
  revert read
  decide +kernel

end FlaconVault.Web
