import FlaconVault.Lib.Bytes
namespace FlaconVault.Blocks

variable {α β κ ρ : Type*}

-- Reading a stream in pieces of one size until it is empty: only the last piece may be shorter.
def read (size : ℕ) : ℕ → List α → List (List α)
  | 0, _ => []
  | fuel+1, data => if data.isEmpty then [] else data.take size :: read size fuel (data.drop size)

def blocksOf (size : ℕ) (data : List α) : List (List α) := read size data.length data

section Reading
variable {size : ℕ}

theorem read_enough (positive : 0 < size) {fuel fuel' : ℕ} {data : List α} (enough : data.length ≤ fuel) (enough' : data.length ≤ fuel') :
    read size fuel data = read size fuel' data := by
  induction fuel generalizing fuel' data with
  | zero =>
    have : data = [] := List.eq_nil_of_length_eq_zero (by omega)
    subst this
    cases fuel' <;> rfl
  | succ fuel ih =>
    cases data with
    | nil => cases fuel' <;> rfl
    | cons first rest =>
      simp only [List.length_cons] at enough enough'
      cases fuel' with
      | zero => omega
      | succ fuel' =>
        have shorter : ((first :: rest).drop size).length ≤ rest.length := by
          simp only [List.length_drop,List.length_cons]
          omega
        have left : read size fuel ((first :: rest).drop size) = read size fuel' ((first :: rest).drop size) :=
          ih (Nat.le_trans shorter (by omega)) (Nat.le_trans shorter (by omega))
        simp only [read,List.isEmpty_cons,Bool.false_eq_true,if_false,left]

@[simp] theorem blocksOf_nil : blocksOf size ([] : List α) = [] := rfl

theorem blocksOf_cons (positive : 0 < size) {data : List α} (something : data ≠ []) :
    blocksOf size data = data.take size :: blocksOf size (data.drop size) := by
  cases data with
  | nil => exact absurd rfl something
  | cons first rest =>
    have shorter : ((first :: rest).drop size).length ≤ rest.length := by
      simp only [List.length_drop,List.length_cons]
      omega
    have left := read_enough positive shorter (Nat.le_refl ((first :: rest).drop size).length)
    simp only [blocksOf,List.length_cons,read,List.isEmpty_cons,Bool.false_eq_true,if_false]
    rw [left]

theorem blocksOf_append (positive : 0 < size) {front : List α} (full : front.length = size) (rest : List α) :
    blocksOf size (front ++ rest) = front :: blocksOf size rest := by
  have something : front ++ rest ≠ [] := by
    intro nothing
    have := congrArg List.length nothing
    simp only [List.length_append,List.length_nil] at this
    omega
  rw [blocksOf_cons positive something,List.take_left' full,List.drop_left' full]

-- Whole blocks put together are read back one by one.
theorem blocksOf_flatten (positive : 0 < size) {blocks : List (List α)} (full : ∀ block ∈ blocks, block.length = size) :
    blocksOf size blocks.flatten = blocks := by
  induction blocks with
  | nil => rfl
  | cons block rest ih =>
    rw [List.flatten_cons,blocksOf_append positive (full block List.mem_cons_self)]
    rw [ih fun other inside => full other (List.mem_cons_of_mem _ inside)]

-- Nothing of a stream is lost, and one of a whole number of blocks has only full ones.
theorem flatten_blocksOf (positive : 0 < size) (data : List α) : (blocksOf size data).flatten = data := by
  induction length : data.length using Nat.strong_induction_on generalizing data with
  | _ length_ ih =>
    by_cases something : data = []
    · subst something
      rfl
    · have positive' : 0 < data.length := List.length_pos_iff.mpr something
      have left := ih (data.drop size).length (by rw [List.length_drop]; omega) (data.drop size) rfl
      rw [blocksOf_cons positive something,List.flatten_cons,left]
      exact List.take_append_drop size data

theorem blocksOf_full (positive : 0 < size) {data : List α} (whole : size ∣ data.length) :
    ∀ block ∈ blocksOf size data, block.length = size := by
  induction length : data.length using Nat.strong_induction_on generalizing data with
  | _ length_ ih =>
    by_cases something : data = []
    · subst something
      intro block inside
      cases inside
    · have positive' : 0 < data.length := List.length_pos_iff.mpr something
      have large : size ≤ data.length := Nat.le_of_dvd positive' whole
      have whole' : size ∣ (data.drop size).length := by
        rw [List.length_drop]
        exact Nat.dvd_sub whole (dvd_refl size)
      rw [blocksOf_cons positive something]
      intro block inside
      rcases List.mem_cons.mp inside with here | later
      · rw [here,List.length_take]
        omega
      · exact ih (data.drop size).length (by rw [List.length_drop]; omega) whole' rfl block later

end Reading

-- Bit padding: a mark, then as few zeros as fill the last block.
def zerosTo (size length : ℕ) : ℕ := (size - length%size)%size

def pad (size : ℕ) (mark zero : α) (data : List α) : List α := data ++ mark :: List.replicate (zerosTo size (data.length+1)) zero

theorem zerosTo_dvd {size : ℕ} (positive : 0 < size) (length : ℕ) : size ∣ length + zerosTo size length := by
  have below := Nat.mod_lt length positive
  have split := Nat.div_add_mod length size
  unfold zerosTo
  rcases Nat.eq_zero_or_pos (length%size) with exact_ | partial_
  · rw [exact_,Nat.sub_zero,Nat.mod_self]
    exact Nat.dvd_of_mod_eq_zero exact_
  · rw [Nat.mod_eq_of_lt (by omega)]
    refine ⟨length/size+1,?_⟩
    rw [Nat.mul_add,Nat.mul_one]
    omega

theorem pad_dvd {size : ℕ} (positive : 0 < size) (mark zero : α) (data : List α) : size ∣ (pad size mark zero data).length := by
  have whole := zerosTo_dvd positive (data.length+1)
  simp only [pad,List.length_append,List.length_cons,List.length_replicate]
  rwa [show data.length+(zerosTo size (data.length+1)+1) = data.length+1+zerosTo size (data.length+1) by omega]

-- A family of permutations of blocks: what a key encrypts, the same key decrypts.
structure BlockCipher (κ β : Type*) where
  encrypt : κ → β → β
  decrypt : κ → β → β
  decrypt_encrypt : ∀ key block, decrypt key (encrypt key block) = block
  encrypt_decrypt : ∀ key block, encrypt key (decrypt key block) = block

-- A block under a mask of the key.
def BlockCipher.masking (mix : β → κ → β) (mix_mix : ∀ block key, mix (mix block key) key = block) : BlockCipher κ β :=
  ⟨fun key block => mix block key,fun key block => mix block key,fun key block => mix_mix block key,fun key block => mix_mix block key⟩

theorem BlockCipher.eq_encrypt (cipher : BlockCipher κ β) {key : κ} {block sent : β} :
    cipher.decrypt key sent = block ↔ sent = cipher.encrypt key block := by
  constructor
  · intro opened
    rw [← opened,cipher.encrypt_decrypt]
  · intro sealed_
    rw [sealed_,cipher.decrypt_encrypt]

section Counter
variable (keyAt : ρ → κ) (next : ρ → ρ)

-- A counter mode: each block goes through `one` under the key of the counter's value, which then moves on.
def counterRun (one : κ → β → β) : ρ → List β → ρ × List β
  | r, [] => (r,[])
  | r, block :: rest =>
    let later := counterRun one (next r) rest
    (later.1,one (keyAt r) block :: later.2)

variable {keyAt next}

@[simp] theorem counterRun_length (one : κ → β → β) (r : ρ) (blocks : List β) :
    (counterRun keyAt next one r blocks).2.length = blocks.length := by
  induction blocks generalizing r with
  | nil => rfl
  | cons block rest ih => simp [counterRun,ih]

-- Where the counter stands after a run depends on the number of blocks only.
theorem counterRun_counter (one : κ → β → β) (r : ρ) (blocks : List β) :
    (counterRun keyAt next one r blocks).1 = next^[blocks.length] r := by
  induction blocks generalizing r with
  | nil => rfl
  | cons block rest ih => simp [counterRun,ih]

theorem counterRun_block (one : κ → β → β) (r : ρ) (blocks : List β) (i : ℕ) :
    (counterRun keyAt next one r blocks).2[i]? = blocks[i]?.map (one (keyAt (next^[i] r))) := by
  induction blocks generalizing r i with
  | nil => rfl
  | cons block rest ih =>
    cases i with
    | zero => rfl
    | succ i => simpa [counterRun] using ih (next r) i

-- A run over two parts is two runs, the second from where the first left the counter.
theorem counterRun_append (one : κ → β → β) (r : ρ) (front back : List β) :
    (counterRun keyAt next one r (front ++ back)).2 =
      (counterRun keyAt next one r front).2 ++ (counterRun keyAt next one (next^[front.length] r) back).2 := by
  induction front generalizing r with
  | nil => rfl
  | cons block rest ih => simp [counterRun,ih]

-- Inverse blocks make inverse runs.
theorem counterRun_undone {one back : κ → β → β} (undone : ∀ key block, back key (one key block) = block) (r : ρ) (blocks : List β) :
    counterRun keyAt next back r (counterRun keyAt next one r blocks).2 = ((counterRun keyAt next one r blocks).1,blocks) := by
  induction blocks generalizing r with
  | nil => rfl
  | cons block rest ih => simp [counterRun,ih,undone]

end Counter

section Chaining
variable (cipher : BlockCipher κ β) (mix : β → β → β) (key : κ)

-- Cipher block chaining: each block is mixed with the ciphertext before it.
def chainEncrypt : β → List β → List β
  | _, [] => []
  | before, block :: rest =>
    let sent := cipher.encrypt key (mix block before)
    sent :: chainEncrypt sent rest

def chainDecrypt : β → List β → List β
  | _, [] => []
  | before, sent :: rest => mix (cipher.decrypt key sent) before :: chainDecrypt sent rest

variable {cipher mix key}

theorem chainDecrypt_iff (undone : ∀ block before, mix (mix block before) before = block) (before : β) (blocks sent : List β) :
    chainDecrypt cipher mix key before sent = blocks ↔ sent = chainEncrypt cipher mix key before blocks := by
  induction sent generalizing before blocks with
  | nil =>
    cases blocks with
    | nil => simp [chainDecrypt,chainEncrypt]
    | cons block rest => simp [chainDecrypt,chainEncrypt]
  | cons first rest ih =>
    cases blocks with
    | nil => simp [chainDecrypt,chainEncrypt]
    | cons block blocks =>
      simp only [chainDecrypt,chainEncrypt,List.cons.injEq]
      constructor
      · rintro ⟨here,later⟩
        have opened : cipher.decrypt key first = mix block before := by rw [← here,undone]
        have first_is := cipher.eq_encrypt.mp opened
        refine ⟨first_is,?_⟩
        rw [← first_is]
        exact (ih first blocks).mp later
      · rintro ⟨here,later⟩
        refine ⟨?_,?_⟩
        · rw [cipher.eq_encrypt.mpr here,undone]
        · rw [← here] at later
          exact (ih first blocks).mpr later

end Chaining
end FlaconVault.Blocks
