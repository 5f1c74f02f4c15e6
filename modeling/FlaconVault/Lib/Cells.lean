import Mathlib
namespace FlaconVault

-- A finite partial map. Finiteness travels with the map, so a count over its entries never needs it as a
-- separate invariant.
structure Cells (κ ν : Type*) where
  find : κ → Option ν
  finite : {key | find key ≠ none}.Finite

namespace Cells
variable {κ ν : Type*}

instance : CoeFun (Cells κ ν) (fun _ => κ → Option ν) := ⟨find⟩

@[ext] theorem ext {first second : Cells κ ν} (same : ∀ key, first key = second key) : first = second := by
  cases first; cases second
  simp only [mk.injEq]
  exact funext same

def empty : Cells κ ν := ⟨fun _ => none,by simp⟩

@[simp] theorem empty_apply (key : κ) : (empty : Cells κ ν) key = none := rfl

-- Every entry of the first map is still there in the second, as a value related to the old one.
def Extends (R : ν → ν → Prop) (first second : Cells κ ν) : Prop :=
  ∀ key value, first key = some value → ∃ later, second key = some later ∧ R value later

theorem Extends.refl {R : ν → ν → Prop} (reflexive : ∀ value, R value value) (cells : Cells κ ν) : Extends R cells cells :=
  fun _ value found => ⟨value,found,reflexive value⟩

theorem Extends.trans {R : ν → ν → Prop} {first second third : Cells κ ν} (transitive : ∀ {a b c}, R a b → R b c → R a c)
    (left : Extends R first second) (right : Extends R second third) : Extends R first third := by
  intro key value found
  obtain ⟨middle,there,related⟩ := left key value found
  obtain ⟨later,present,beyond⟩ := right key middle there
  exact ⟨later,present,transitive related beyond⟩

section Writes
variable [DecidableEq κ]

def write (cells : Cells κ ν) (key : κ) (value : Option ν) : Cells κ ν where
  find other := if other = key then value else cells other
  finite := by
    refine (cells.finite.insert key).subset ?_
    intro other present
    by_cases same : other = key
    · exact .inl same
    · exact .inr (by simpa [same] using present)

def put (cells : Cells κ ν) (key : κ) (value : ν) : Cells κ ν := cells.write key (some value)
def erase (cells : Cells κ ν) (key : κ) : Cells κ ν := cells.write key none

theorem put_apply (cells : Cells κ ν) (key other : κ) (value : ν) :
    cells.put key value other = if other = key then some value else cells other := rfl
theorem erase_apply (cells : Cells κ ν) (key other : κ) :
    cells.erase key other = if other = key then none else cells other := rfl

theorem put_some {cells : Cells κ ν} {key other : κ} {value found : ν} :
    cells.put key value other = some found ↔ other = key ∧ value = found ∨ other ≠ key ∧ cells other = some found := by
  rw [put_apply]
  split
  · rename_i same
    simp [same]
  · rename_i different
    simp [different]

theorem erase_some {cells : Cells κ ν} {key other : κ} {found : ν} :
    cells.erase key other = some found ↔ other ≠ key ∧ cells other = some found := by
  rw [erase_apply]
  split
  · rename_i same
    simp [same]
  · rename_i different
    simp [different]

@[simp] theorem put_self (cells : Cells κ ν) (key : κ) (value : ν) : cells.put key value key = some value := by
  simp [put_apply]
@[simp] theorem erase_self (cells : Cells κ ν) (key : κ) : cells.erase key key = none := by
  simp [erase_apply]
@[simp] theorem put_other (cells : Cells κ ν) (value : ν) {key other : κ} (different : other ≠ key) :
    cells.put key value other = cells other := by
  simp [put_apply,different]
@[simp] theorem erase_other (cells : Cells κ ν) {key other : κ} (different : other ≠ key) :
    cells.erase key other = cells other := by
  simp [erase_apply,different]

-- Every entry stands at the address computed from its value.
def Placed (address : ν → κ) (cells : Cells κ ν) : Prop := ∀ key value, cells key = some value → key = address value

theorem Placed.put {address : ν → κ} {cells : Cells κ ν} {key : κ} {value : ν} (placed : Placed address cells)
    (here : key = address value) : Placed address (cells.put key value) := by
  intro other found there
  rcases put_some.mp there with ⟨same,rfl⟩ | ⟨-,old⟩
  · exact same.trans here
  · exact placed other found old

theorem Extends.put_fresh {R : ν → ν → Prop} {cells : Cells κ ν} {key : κ} {value : ν} (reflexive : ∀ value, R value value)
    (fresh : cells key = none) : Extends R cells (cells.put key value) := by
  intro other old found
  refine ⟨old,?_,reflexive old⟩
  rw [put_other]
  · exact found
  · rintro rfl
    simp [fresh] at found

theorem Extends.put_update {R : ν → ν → Prop} {cells : Cells κ ν} {key : κ} {old value : ν}
    (reflexive : ∀ value, R value value) (known : cells key = some old) (related : R old value) :
    Extends R cells (cells.put key value) := by
  intro other found there
  by_cases same : other = key
  · subst same
    rw [known] at there
    cases Option.some.inj there
    exact ⟨value,put_self _ _ _,related⟩
  · exact ⟨found,by rw [put_other _ _ same]; exact there,reflexive found⟩

end Writes

-- How many entries satisfy a property of key and value.
noncomputable def population (cells : Cells κ ν) (counted : κ → ν → Prop) : ℕ :=
  {key | ∃ value, cells key = some value ∧ counted key value}.ncard

section Population
variable {cells : Cells κ ν} {counted other : κ → ν → Prop}

theorem counted_finite (cells : Cells κ ν) (counted : κ → ν → Prop) :
    {key | ∃ value, cells key = some value ∧ counted key value}.Finite := by
  refine cells.finite.subset ?_
  rintro key ⟨value,found,-⟩
  simp [show cells.find key = some value from found]

@[simp] theorem population_empty (counted : κ → ν → Prop) : (empty : Cells κ ν).population counted = 0 := by
  simp [population]

theorem population_congr {first second : Cells κ ν} {counted other : κ → ν → Prop}
    (same : ∀ key, (∃ value, first key = some value ∧ counted key value) ↔
      ∃ value, second key = some value ∧ other key value) :
    first.population counted = second.population other := by
  unfold population
  exact congrArg Set.ncard (Set.ext same)

theorem population_add_one {first second : Cells κ ν} {counted other : κ → ν → Prop} {key : κ}
    (absent : ¬∃ value, first key = some value ∧ counted key value)
    (present : ∃ value, second key = some value ∧ other key value)
    (same : ∀ probe, probe ≠ key → ((∃ value, first probe = some value ∧ counted probe value) ↔
      ∃ value, second probe = some value ∧ other probe value)) :
    second.population other = first.population counted + 1 := by
  have grown : {probe | ∃ value, second probe = some value ∧ other probe value} =
      insert key {probe | ∃ value, first probe = some value ∧ counted probe value} := by
    ext probe
    by_cases atKey : probe = key
    · subst atKey
      simp only [Set.mem_ofPred_eq,Set.mem_insert_iff,true_or,iff_true]
      exact present
    · simp only [Set.mem_ofPred_eq,Set.mem_insert_iff,atKey,false_or]
      exact (same probe atKey).symm
  unfold population
  rw [grown]
  exact Set.ncard_insert_of_notMem absent (counted_finite first counted)

section Update
variable [DecidableEq κ] {key : κ} {old value : ν}

theorem population_put_update (known : cells key = some old) (same : counted key old ↔ counted key value) :
    (cells.put key value).population counted = cells.population counted := by
  refine population_congr fun other => ?_
  by_cases atKey : other = key
  · subst atKey
    simp [known,same]
  · simp [atKey]

theorem population_put_uncounted (fresh : cells key = none) (uncounted : ¬counted key value) :
    (cells.put key value).population counted = cells.population counted := by
  refine population_congr fun other => ?_
  by_cases atKey : other = key
  · subst atKey
    simp [fresh,uncounted]
  · simp [atKey]

theorem population_put_counted (fresh : cells key = none) (holds : counted key value) :
    (cells.put key value).population counted = cells.population counted + 1 := by
  refine population_add_one (by simp [fresh]) ⟨value,put_self _ _ _,holds⟩ fun other different => ?_
  simp [different]

end Update

theorem population_zero (nothing : ∀ key value, cells key = some value → ¬counted key value) :
    cells.population counted = 0 := by
  have none_ : {key | ∃ value, cells key = some value ∧ counted key value} = ∅ := by
    refine Set.eq_empty_of_forall_notMem ?_
    rintro key ⟨value,found,holds⟩
    exact nothing key value found holds
  rw [population,none_,Set.ncard_empty]

-- Entries that each name an entry of a second map, and are told apart by a number below a bound, are at most
-- the bound times as many.
theorem population_le_mul {κ' ν' : Type*} {second : Cells κ' ν'} {hosting : κ' → ν' → Prop} {bound : ℕ} (host : κ → κ')
    (code : κ → ℕ)
    (hosted : ∀ key value, cells key = some value → counted key value →
      (∃ home, second (host key) = some home ∧ hosting (host key) home) ∧ code key < bound)
    (distinct : ∀ key value other worth, cells key = some value → cells other = some worth → host key = host other →
      code key = code other → key = other) :
    cells.population counted ≤ second.population hosting * bound := by
  let source := {key | ∃ value, cells key = some value ∧ counted key value}
  let target := {key | ∃ home, second key = some home ∧ hosting key home} ×ˢ (Finset.range bound : Set ℕ)
  have lands : (fun key => (host key,code key)) '' source ⊆ target := by
    rintro _ ⟨key,⟨value,found,holds⟩,rfl⟩
    obtain ⟨home,below⟩ := hosted key value found holds
    exact ⟨home,Finset.mem_coe.mpr (Finset.mem_range.mpr below)⟩
  have injective : Set.InjOn (fun key => (host key,code key)) source := by
    rintro key ⟨value,found,-⟩ other ⟨worth,foundOther,-⟩ same
    obtain ⟨sameHost,sameCode⟩ := Prod.mk.inj same
    exact distinct key value other worth found foundOther sameHost sameCode
  calc cells.population counted
      = ((fun key => (host key,code key)) '' source).ncard := injective.ncard_image.symm
    _ ≤ target.ncard := Set.ncard_le_ncard lands ((counted_finite second hosting).prod (Finset.finite_toSet _))
    _ = second.population hosting * bound := by
        rw [Set.ncard_prod,Set.ncard_coe_finset,Finset.card_range]
        rfl

end Population
end Cells
end FlaconVault
