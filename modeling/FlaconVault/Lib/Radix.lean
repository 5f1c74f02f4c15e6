import Mathlib
namespace FlaconVault.Radix

-- Numerals as lists of digits, the most significant first, and their conversion between bases. Leading zeros are kept: as
-- many in the result as in the numeral.
def value (base : ℕ) (digits : List ℕ) : ℕ := digits.foldl (fun n digit => n*base + digit) 0

def spell (base n : ℕ) : List ℕ := (Nat.digits base n).reverse

def zeros (digits : List ℕ) : ℕ := (digits.takeWhile (· = 0)).length

def convert (source target : ℕ) (digits : List ℕ) : List ℕ :=
  List.replicate (zeros digits) 0 ++ spell target (value source digits)

def Valid (base : ℕ) (digits : List ℕ) : Prop := ∀ digit ∈ digits, digit < base

theorem foldl_value (base n : ℕ) (digits : List ℕ) :
    digits.foldl (fun n digit => n*base + digit) n = n*base^digits.length + value base digits := by
  induction digits generalizing n with
  | nil => simp [value]
  | cons first rest ih =>
    have here : value base (first :: rest) = first*base^rest.length + value base rest := by
      have := ih (0*base + first)
      simpa [value] using this
    rw [List.foldl_cons,ih,here,List.length_cons,pow_succ]
    ring

theorem value_cons (base first : ℕ) (rest : List ℕ) : value base (first :: rest) = first*base^rest.length + value base rest := by
  have := foldl_value base (0*base + first) rest
  simpa [value] using this

theorem value_append (base : ℕ) (front back : List ℕ) : value base (front ++ back) = value base front*base^back.length + value base back := by
  unfold value
  rw [List.foldl_append]
  apply foldl_value

theorem value_reverse (base : ℕ) (digits : List ℕ) : value base digits.reverse = Nat.ofDigits base digits := by
  induction digits with
  | nil => rfl
  | cons first rest ih =>
    rw [List.reverse_cons,value_append,ih,Nat.ofDigits_cons]
    simp [value]
    ring

theorem value_zeros (base count : ℕ) : value base (List.replicate count 0) = 0 := by
  induction count with
  | zero => rfl
  | succ count ih => rw [List.replicate_succ,value_cons,ih,Nat.zero_mul]

-- A numeral is its leading zeros and the rest.
theorem zeros_rest (digits : List ℕ) : List.replicate (zeros digits) 0 ++ digits.dropWhile (· = 0) = digits := by
  have same : digits.takeWhile (· = 0) = List.replicate (zeros digits) 0 := by
    apply List.eq_replicate_of_mem
    intro digit inside
    simpa using List.mem_takeWhile_imp inside
  rw [← same]
  exact List.takeWhile_append_dropWhile

theorem value_rest (base : ℕ) (digits : List ℕ) : value base (digits.dropWhile (· = 0)) = value base digits := by
  have whole := congrArg (value base) (zeros_rest digits)
  rw [value_append,value_zeros] at whole
  simpa using whole

theorem spell_valid {base : ℕ} (large : 1 < base) (n : ℕ) : Valid base (spell base n) := by
  intro digit inside
  exact Nat.digits_lt_base large (List.mem_reverse.mp inside)

theorem spell_value (base n : ℕ) : value base (spell base n) = n := by
  rw [spell,value_reverse]
  exact Nat.ofDigits_digits base n

-- A numeral without leading zeros is the spelling of its value.
theorem value_spell {base : ℕ} (large : 1 < base) {digits : List ℕ} (valid : Valid base digits) (first : digits.head? ≠ some 0) :
    spell base (value base digits) = digits := by
  have reversed := value_reverse base digits.reverse
  rw [List.reverse_reverse] at reversed
  rw [spell,reversed,Nat.digits_ofDigits base large]
  · exact List.reverse_reverse digits
  · intro digit inside
    exact valid digit (List.mem_reverse.mp inside)
  · intro some_digits zero
    apply first
    rw [List.getLast_reverse] at zero
    rw [List.head?_eq_some_head (by simpa using some_digits),zero]

theorem spell_head (base n : ℕ) : (spell base n).head? ≠ some 0 := by
  intro zero
  rw [spell,List.head?_reverse] at zero
  have nonzero : n ≠ 0 := by
    intro none
    simp [none] at zero
  have some_digits : Nat.digits base n ≠ [] := Nat.digits_ne_nil_iff_ne_zero.mpr nonzero
  have last := Nat.getLast_digit_ne_zero base nonzero
  rw [List.getLast?_eq_some_getLast some_digits] at zero
  exact last (Option.some.inj zero)

theorem rest_head (digits : List ℕ) : (digits.dropWhile (· = 0)).head? ≠ some 0 := by
  intro zero
  have tested := List.head?_dropWhile_not (· = 0) digits
  rw [zero] at tested
  simp at tested

theorem takeWhile_of_head {rest : List ℕ} (first : rest.head? ≠ some 0) : rest.takeWhile (· = 0) = [] := by
  cases rest with
  | nil => rfl
  | cons digit rest =>
    have nonzero : digit ≠ 0 := fun zero => first (by rw [zero]; rfl)
    simp [nonzero]

theorem zeros_convert (source target : ℕ) (digits : List ℕ) : zeros (convert source target digits) = zeros digits := by
  have none_left := takeWhile_of_head (spell_head target (value source digits))
  rw [convert,zeros,List.takeWhile_append_of_pos (by simp),none_left]
  simp

theorem value_convert (source target : ℕ) (digits : List ℕ) : value target (convert source target digits) = value source digits := by
  rw [convert,value_append,value_zeros,spell_value]
  simp

theorem convert_valid {source target : ℕ} (large : 1 < target) (digits : List ℕ) : Valid target (convert source target digits) := by
  intro digit inside
  rcases List.mem_append.mp inside with zero | spelled
  · rw [List.eq_of_mem_replicate zero]
    exact Nat.lt_trans Nat.zero_lt_one large
  · exact spell_valid large _ digit spelled

-- Converting back gives the numeral again.
theorem convert_convert {source target : ℕ} (large : 1 < source) {digits : List ℕ} (valid : Valid source digits) :
    convert target source (convert source target digits) = digits := by
  have rest_valid : Valid source (digits.dropWhile (· = 0)) :=
    fun digit inside => valid digit (List.dropWhile_subset _ inside)
  calc convert target source (convert source target digits)
      = List.replicate (zeros digits) 0 ++ spell source (value source digits) := by
        rw [convert,zeros_convert,value_convert]
    _ = List.replicate (zeros digits) 0 ++ spell source (value source (digits.dropWhile (· = 0))) := by rw [value_rest]
    _ = List.replicate (zeros digits) 0 ++ digits.dropWhile (· = 0) := by rw [value_spell large rest_valid (rest_head digits)]
    _ = digits := zeros_rest digits

theorem length_spell_le {base count : ℕ} (large : 1 < base) {n : ℕ} : (spell base n).length ≤ count ↔ n < base^count := by
  rw [spell,List.length_reverse]
  exact Nat.digits_length_le_iff large n

theorem value_lt {base : ℕ} (large : 1 < base) {digits : List ℕ} (valid : Valid base digits) : value base digits < base^digits.length := by
  have := Nat.ofDigits_lt_base_pow_length large (l := digits.reverse) fun digit inside => valid digit (List.mem_reverse.mp inside)
  rwa [← value_reverse,List.reverse_reverse,List.length_reverse] at this

theorem zeros_le (digits : List ℕ) : zeros digits ≤ digits.length := (List.takeWhile_sublist _).length_le

theorem length_rest (digits : List ℕ) : (digits.dropWhile (· = 0)).length = digits.length - zeros digits := by
  have whole := congrArg List.length (zeros_rest digits)
  rw [List.length_append,List.length_replicate] at whole
  omega

theorem length_convert (source target : ℕ) (digits : List ℕ) :
    (convert source target digits).length = zeros digits + (spell target (value source digits)).length := by
  rw [convert,List.length_append,List.length_replicate]

-- A numeral does not get shorter in a smaller base.
theorem length_le_convert {source target : ℕ} (large : 1 < target) (smaller : target ≤ source) {digits : List ℕ}
    (valid : Valid source digits) : digits.length ≤ (convert source target digits).length := by
  have large' : 1 < source := Nat.lt_of_lt_of_le large smaller
  have rest_valid : Valid source (digits.dropWhile (· = 0)) :=
    fun digit inside => valid digit (List.dropWhile_subset _ inside)
  have spelled := value_spell large' rest_valid (rest_head digits)
  rw [value_rest] at spelled
  have bound : value source digits < source^(spell target (value source digits)).length :=
    Nat.lt_of_lt_of_le ((length_spell_le large).mp (Nat.le_refl _)) (Nat.pow_le_pow_left smaller _)
  have shorter := (length_spell_le large').mpr bound
  rw [spelled,length_rest] at shorter
  rw [length_convert]
  omega

-- How long a numeral can get: where the longest numerals of a length fit, all fit.
theorem length_convert_le {source target most count : ℕ} (large : 1 < target) (smaller : target ≤ source)
    (fits : source^most ≤ target^count) {digits : List ℕ} (valid : Valid source digits) (length : digits.length = most) :
    (convert source target digits).length ≤ count := by
  have large' : 1 < source := Nat.lt_of_lt_of_le large smaller
  have few := zeros_le digits
  have most_le : most ≤ count := by
    by_contra less
    have : target^count < source^most :=
      Nat.lt_of_lt_of_le (Nat.pow_lt_pow_right large (not_le.mp less)) (Nat.pow_le_pow_left smaller _)
    omega
  have rest_valid : Valid source (digits.dropWhile (· = 0)) :=
    fun digit inside => valid digit (List.dropWhile_subset _ inside)
  have below := value_lt large' rest_valid
  rw [value_rest,length_rest,length] at below
  have cancel : source^(most-zeros digits) ≤ target^(count-zeros digits) := by
    apply Nat.le_of_mul_le_mul_right _ (Nat.pow_pos (Nat.lt_trans Nat.zero_lt_one large) : 0 < target^zeros digits)
    calc source^(most-zeros digits)*target^zeros digits
        ≤ source^(most-zeros digits)*source^zeros digits := Nat.mul_le_mul_left _ (Nat.pow_le_pow_left smaller _)
      _ = source^most := by rw [← pow_add]; congr 1; omega
      _ ≤ target^count := fits
      _ = target^(count-zeros digits)*target^zeros digits := by rw [← pow_add]; congr 1; omega
  have spelled := (length_spell_le large).mpr (Nat.lt_of_lt_of_le below cancel)
  rw [length_convert]
  omega

end FlaconVault.Radix
