import Mathlib
namespace FlaconVault.Newest

variable {α β : Type*} (newer : α → α → Prop)

-- A chain of overtakings inside a set of items.
def Overtaken (items : List α) : α → α → Prop := Relation.ReflTransGen fun item other => newer other item ∧ other ∈ items

-- The items that every item is overtaken by in the end. Where the relation has cycles there can be several.
def Top (items : List α) (item : α) : Prop := item ∈ items ∧ ∀ other ∈ items, Overtaken newer items other item

-- The relation decides every pair one way or the other.
def Decides (items : List α) : Prop :=
  ∀ item ∈ items, ∀ other ∈ items, item ≠ other → newer item other ∨ newer other item

variable {newer}

theorem Overtaken.widen {small large : List α} (inside : small ⊆ large) {item other : α}
    (chain : Overtaken newer small item other) : Overtaken newer large item other :=
  Relation.ReflTransGen.mono (fun _ _ link => ⟨link.1,inside link.2⟩) item other chain

-- The edge by which a chain enters a set.
theorem entering {items arrived : List α} {item other : α} (chain : Overtaken newer items item other) (outside : item ∉ arrived)
    (known : item ∈ items) (inside : other ∈ arrived) :
    ∃ next ∈ items, next ∉ arrived ∧ ∃ blocker ∈ arrived, newer blocker next := by
  induction chain using Relation.ReflTransGen.head_induction_on with
  | refl => exact absurd inside outside
  | @head first second link rest ih =>
    by_cases there : second ∈ arrived
    · exact ⟨first,known,outside,second,there,link.1⟩
    · exact ih there link.2

variable [DecidableRel newer]

variable (newer) in
-- Who holds the place after some arrivals, listed from the last one back to the first: a newcomer takes it unless
-- something that was there before is newer.
def holder : List α → Option α
  | [] => none
  | item :: earlier => if ∃ other ∈ earlier, newer other item then holder earlier else some item

theorem holder_mem {arrived : List α} {item : α} (held : holder newer arrived = some item) : item ∈ arrived := by
  induction arrived with
  | nil => cases held
  | cons last earlier ih =>
    unfold holder at held
    split at held
    · exact List.mem_cons_of_mem _ (ih held)
    · cases held
      exact List.mem_cons_self

theorem holder_some {arrived : List α} (some_arrived : arrived ≠ []) : ∃ item, holder newer arrived = some item := by
  induction arrived with
  | nil => exact absurd rfl some_arrived
  | cons last earlier ih =>
    unfold holder
    split
    · rename_i overtaken
      obtain ⟨other,before,_⟩ := overtaken
      exact ih (List.ne_nil_of_mem before)
    · exact ⟨last,rfl⟩

-- Whoever holds the place in the end, every arrival is overtaken by it: those before it directly, those after it
-- through the item that kept them from taking the place.
theorem holder_top {arrived : List α} (distinct : arrived.Nodup) (decides : Decides newer arrived) {item : α}
    (held : holder newer arrived = some item) : Top newer arrived item := by
  refine ⟨holder_mem held,?_⟩
  induction arrived with
  | nil => cases held
  | cons last earlier ih =>
    have below : Decides newer earlier := by
      intro first here second there
      exact decides first (List.mem_cons_of_mem _ here) second (List.mem_cons_of_mem _ there)
    obtain ⟨apart,rest⟩ := List.nodup_cons.mp distinct
    unfold holder at held
    split at held
    · rename_i overtaken
      obtain ⟨blocker,before,blocks⟩ := overtaken
      intro other arrived
      rcases List.mem_cons.mp arrived with here | there
      · subst here
        exact Relation.ReflTransGen.head ⟨blocks,List.mem_cons_of_mem _ before⟩
          ((ih rest below held blocker before).widen (List.subset_cons_self _ _))
      · exact (ih rest below held other there).widen (List.subset_cons_self _ _)
    · rename_i free
      cases held
      intro other arrived
      rcases List.mem_cons.mp arrived with here | there
      · subst here
        exact Relation.ReflTransGen.refl
      · have different : item ≠ other := fun same => apart (same ▸ there)
        rcases decides item List.mem_cons_self other arrived different with later | blocked
        · exact Relation.ReflTransGen.single ⟨later,List.mem_cons_self⟩
        · exact absurd ⟨other,there,blocked⟩ free

-- Every top item can be the one that holds the place in the end: it arrives first, and each later arrival is one that
-- something already there is newer than.
theorem top_holds {items : List α} (distinct : items.Nodup) {item : α} (top : Top newer items item) :
    ∃ arrived, arrived.Perm items ∧ holder newer arrived = some item := by
  have extend : ∀ missing, ∀ arrived : List α, arrived.Nodup → arrived ⊆ items → item ∈ arrived →
      holder newer arrived = some item → items.length = arrived.length + missing →
      ∃ complete, complete.Perm items ∧ holder newer complete = some item := by
    intro missing
    induction missing with
    | zero =>
      intro arrived different inside _ held full
      exact ⟨arrived,(List.subperm_of_subset different inside).perm_of_length_le (by omega),held⟩
    | succ missing ih =>
      intro arrived different inside present held short
      have left_out : ∃ other ∈ items, other ∉ arrived := by
        by_contra nothing
        push Not at nothing
        have := (List.subperm_of_subset distinct nothing).length_le
        omega
      obtain ⟨other,known,outside⟩ := left_out
      obtain ⟨next,there,fresh,blocker,before,blocks⟩ := entering (top.2 other known) outside known present
      refine ih (next :: arrived) (List.nodup_cons.mpr ⟨fresh,different⟩) (List.cons_subset.mpr ⟨there,inside⟩)
        (List.mem_cons_of_mem _ present) ?_ (by simp only [List.length_cons]; omega)
      unfold holder
      rw [if_pos ⟨blocker,before,blocks⟩]
      exact held
  have many : 1 ≤ items.length := List.length_pos_of_mem top.1
  refine extend (items.length-1) [item] (List.nodup_singleton _) (by simpa using top.1) (by simp) ?_ (by simp; omega)
  simp [holder]

-- The arrivals end alike in every order exactly when all top items carry the same value.
theorem order_free_iff {items : List α} (distinct : items.Nodup) (decides : Decides newer items) (value : α → β) :
    (∀ first second : List α, first.Perm items → second.Perm items →
      (holder newer first).map value = (holder newer second).map value) ↔
    ∀ item other, Top newer items item → Top newer items other → value item = value other := by
  constructor
  · intro same item other top also
    obtain ⟨first,permuted,held⟩ := top_holds distinct top
    obtain ⟨second,permuted',held'⟩ := top_holds distinct also
    simpa [held,held'] using same first second permuted permuted'
  · intro same first second permuted permuted'
    rcases List.eq_nil_or_concat items with none_there | ⟨_,_,some_there⟩
    · rw [none_there] at permuted permuted'
      rw [permuted.eq_nil,permuted'.eq_nil]
    · have filled : ∀ {arrived : List α}, arrived.Perm items → ∃ item, holder newer arrived = some item ∧ Top newer items item := by
        intro arrived permuted
        have nonempty : arrived ≠ [] := by
          intro empty
          have := permuted.length_eq
          simp [empty,some_there] at this
        obtain ⟨item,held⟩ : ∃ item, holder newer arrived = some item := holder_some nonempty
        have members : ∀ other, other ∈ arrived ↔ other ∈ items := fun other => permuted.mem_iff
        have among : Decides newer arrived := by
          intro first here second there
          exact decides first ((members _).mp here) second ((members _).mp there)
        obtain ⟨_,reached⟩ := holder_top (permuted.nodup_iff.mpr distinct) among held
        refine ⟨item,held,(members _).mp (holder_mem held),?_⟩
        intro other known
        exact (reached other ((members _).mpr known)).widen permuted.subset
      obtain ⟨item,held,top⟩ := filled permuted
      obtain ⟨other,held',also⟩ := filled permuted'
      rw [held,held',Option.map_some,Option.map_some,same item other top also]

end FlaconVault.Newest
