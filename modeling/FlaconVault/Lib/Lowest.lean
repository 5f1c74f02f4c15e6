import Mathlib
namespace FlaconVault.Lowest

variable {α β : Type*} [LinearOrder β]

-- The first items in the order of a rank; where ranks are equal, in the order of the list.
def lowest (rank : α → β) (count : ℕ) (items : List α) : List α := (items.insertionSort fun a b => rank a ≤ rank b).take count

-- No item taken has the rank of one left.
def Separated (rank : α → β) (count : ℕ) (items : List α) : Prop :=
  ∀ taken ∈ lowest rank count items, ∀ left ∈ (items.insertionSort fun a b => rank a ≤ rank b).drop count, rank taken < rank left

instance (rank : α → β) (count : ℕ) (items : List α) : Decidable (Separated rank count items) :=
  inferInstanceAs (Decidable (∀ taken ∈ lowest rank count items, _))

theorem ascending (rank : α → β) (items : List α) :
    (items.insertionSort fun a b => rank a ≤ rank b).Pairwise fun a b => rank a ≤ rank b := by
  have total : Std.Total fun a b : α => rank a ≤ rank b := ⟨fun a b => le_total (rank a) (rank b)⟩
  have through : IsTrans α fun a b => rank a ≤ rank b := ⟨fun _ _ _ => le_trans⟩
  exact List.pairwise_insertionSort _ items

theorem mem_of_mem_lowest {rank : α → β} {count : ℕ} {items : List α} {item : α} (inside : item ∈ lowest rank count items) :
    item ∈ items :=
  (List.perm_insertionSort _ _).mem_iff.mp (List.mem_of_mem_take inside)

theorem length_lowest {rank : α → β} {count : ℕ} {items : List α} (enough : count ≤ items.length) :
    (lowest rank count items).length = count := by
  rw [lowest,List.length_take,List.length_insertionSort]
  exact min_eq_left enough

-- In an ascending list those below a bound come first.
theorem take_below {rank : α → β} {bound : β} {sorted : List α} (ordered : sorted.Pairwise fun a b => rank a ≤ rank b) :
    sorted.take (sorted.countP fun item => rank item < bound) = sorted.filter fun item => rank item < bound := by
  induction sorted with
  | nil => rfl
  | cons first rest ih =>
    obtain ⟨least,others⟩ := List.pairwise_cons.mp ordered
    by_cases below : rank first < bound
    · simp [below,ih others]
    · have none_below : ∀ item ∈ rest, ¬rank item < bound :=
        fun item inside => not_lt.mpr (le_trans (not_lt.mp below) (least item inside))
      have nothing : rest.filter (fun item => rank item < bound) = [] := by simpa using none_below
      have count : rest.countP (fun item => rank item < bound) = 0 := by simpa using none_below
      simp [below,nothing,count]

-- Where the ranks separate, the items taken do not depend on the order of the list.
theorem lowest_perm {rank : α → β} {count : ℕ} {items others : List α} (permuted : items.Perm others)
    (separated : Separated rank count items) (item : α) : item ∈ lowest rank count items ↔ item ∈ lowest rank count others := by
  have sorted := (List.perm_insertionSort (fun a b => rank a ≤ rank b) items)
  have sorted' := (List.perm_insertionSort (fun a b => rank a ≤ rank b) others)
  cases left : (items.insertionSort fun a b => rank a ≤ rank b).drop count with
  | nil =>
    have many : items.length ≤ count := by simpa using List.drop_eq_nil_iff.mp left
    have all : lowest rank count items = items.insertionSort fun a b => rank a ≤ rank b :=
      List.take_of_length_le (by simpa using many)
    have all' : lowest rank count others = others.insertionSort fun a b => rank a ≤ rank b :=
      List.take_of_length_le (by simpa [permuted.length_eq] using many)
    rw [all,all',sorted.mem_iff,sorted'.mem_iff,permuted.mem_iff]
  | cons bound rest =>
    -- the ranks below the first item left are the ranks of the items taken
    have taken_below : ∀ taken ∈ lowest rank count items, rank taken < rank bound := by
      intro taken inside
      exact separated taken inside bound (left ▸ List.mem_cons_self)
    have left_above : ∀ other ∈ bound :: rest, ¬rank other < rank bound := by
      intro other inside
      have ordered : (bound :: rest).Pairwise fun a b => rank a ≤ rank b := left ▸ (ascending rank items).sublist (List.drop_sublist _ _)
      rcases List.mem_cons.mp inside with here | later
      · exact here ▸ lt_irrefl _
      · exact not_lt.mpr ((List.pairwise_cons.mp ordered).1 other later)
    have enough : count ≤ items.length := by
      by_contra short
      have : (items.insertionSort fun a b => rank a ≤ rank b).drop count = [] :=
        List.drop_eq_nil_of_le (by simpa using (not_le.mp short).le)
      rw [left] at this
      cases this
    have counted : items.countP (fun item => rank item < rank bound) = count := by
      rw [← sorted.countP_eq,← List.take_append_drop count (items.insertionSort fun a b => rank a ≤ rank b),left,List.countP_append]
      have here : (lowest rank count items).countP (fun item => rank item < rank bound) = (lowest rank count items).length :=
        List.countP_eq_length.mpr (by simpa using taken_below)
      have there : (bound :: rest).countP (fun item => rank item < rank bound) = 0 :=
        List.countP_eq_zero.mpr (by simpa using left_above)
      unfold lowest at here
      rw [here,there,← lowest,length_lowest enough,Nat.add_zero]
    have mem : ∀ {list : List α}, list.Perm items → (item ∈ lowest rank count list ↔ item ∈ items ∧ rank item < rank bound) := by
      intro list same
      have number : (list.insertionSort fun a b => rank a ≤ rank b).countP (fun item => rank item < rank bound) = count := by
        rw [(List.perm_insertionSort _ _).countP_eq,same.countP_eq,counted]
      have cut : lowest rank count list = (list.insertionSort fun a b => rank a ≤ rank b).filter fun item => rank item < rank bound := by
        rw [← take_below (ascending rank list),number]
        rfl
      rw [cut,List.mem_filter,(List.perm_insertionSort _ _).mem_iff,same.mem_iff]
      simp
    rw [mem (List.Perm.refl _),mem permuted.symm]

theorem separated_of_nodup {rank : α → β} {items : List α} (distinct : (items.map rank).Nodup) (count : ℕ) :
    Separated rank count items := by
  have apart : (items.insertionSort fun a b => rank a ≤ rank b).Pairwise fun a b => rank a ≠ rank b :=
    List.pairwise_map.mp (((List.perm_insertionSort _ items).map rank).nodup_iff.mpr distinct)
  have strict : (items.insertionSort fun a b => rank a ≤ rank b).Pairwise fun a b => rank a < rank b :=
    ((ascending rank items).and apart).imp fun pair => lt_of_le_of_ne pair.1 pair.2
  rw [← List.take_append_drop count (items.insertionSort fun a b => rank a ≤ rank b)] at strict
  exact (List.pairwise_append.mp strict).2.2

end FlaconVault.Lowest
