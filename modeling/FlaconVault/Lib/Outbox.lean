import Mathlib
namespace FlaconVault.Outbox

-- Items waiting for delivery, told apart by a key and tried oldest first.
variable {ε κ : Type*} [DecidableEq κ] (key : ε → κ)

-- An item takes the place of one with its key, or comes last.
def put (items : List ε) (item : ε) : List ε :=
  if items.any fun old => key old = key item then items.map fun old => if key old = key item then item else old else items ++ [item]

def remove (items : List ε) (gone : κ) : List ε := items.filter fun item => key item ≠ gone

-- How one delivery ended: done, or failed with an error.
inductive Answer (ω : Type*) where
  | done
  | failed (error : ω)

variable {ω : Type*}

def Answer.isDone : Answer ω → Bool
  | .done => true
  | .failed _ => false

-- One pass over the items: what is done leaves, the first error is kept.
def deliver (result : List ε × Option ω) (tried : ε × Answer ω) : List ε × Option ω :=
  match tried.2 with
  | .done => (remove key result.1 (key tried.1),result.2)
  | .failed error => (result.1,result.2.or (some error))

def drain (items : List ε) (answers : List (Answer ω)) : List ε × Option ω :=
  (items.zip answers).foldl (deliver key) (items,none)

variable {key}

theorem mem_remove {items : List ε} {gone : κ} {item : ε} : item ∈ remove key items gone ↔ item ∈ items ∧ key item ≠ gone := by
  simp [remove]

theorem keys_put (items : List ε) (item : ε) :
    (put key items item).map key = if key item ∈ items.map key then items.map key else items.map key ++ [key item] := by
  unfold put
  by_cases known : key item ∈ items.map key
  · have found : (items.any fun old => key old = key item) = true := by
      obtain ⟨old,there,same⟩ := List.mem_map.mp known
      exact List.any_eq_true.mpr ⟨old,there,decide_eq_true same⟩
    rw [if_pos known,if_pos found,List.map_map]
    apply List.map_congr_left
    intro old _
    by_cases same : key old = key item
    · simp [same]
    · simp [same]
  · have missing : ¬(items.any fun old => key old = key item) = true := by
      intro found
      obtain ⟨old,there,same⟩ := List.any_eq_true.mp found
      exact known (List.mem_map.mpr ⟨old,there,of_decide_eq_true same⟩)
    rw [if_neg known,if_neg missing,List.map_append]
    rfl

theorem mem_put {items : List ε} {item other : ε} (inside : other ∈ put key items item) : other = item ∨ other ∈ items := by
  unfold put at inside
  split at inside
  · obtain ⟨old,there,rfl⟩ := List.mem_map.mp inside
    split
    · exact .inl rfl
    · exact .inr there
  · rcases List.mem_append.mp inside with there | last
    · exact .inr there
    · exact .inl (List.mem_singleton.mp last)

theorem self_mem_put (items : List ε) (item : ε) : item ∈ put key items item := by
  unfold put
  split
  · rename_i found
    obtain ⟨old,there,same⟩ := List.any_eq_true.mp found
    exact List.mem_map.mpr ⟨old,there,if_pos (of_decide_eq_true same)⟩
  · exact List.mem_append_right _ (List.mem_singleton.mpr rfl)

theorem nodup_put {items : List ε} (distinct : (items.map key).Nodup) (item : ε) : ((put key items item).map key).Nodup := by
  rw [keys_put]
  split
  · exact distinct
  · rename_i fresh
    refine distinct.append (List.nodup_singleton _) ?_
    intro found there same
    exact fresh (List.mem_singleton.mp same ▸ there)

theorem nodup_remove {items : List ε} (distinct : (items.map key).Nodup) (gone : κ) : ((remove key items gone).map key).Nodup :=
  distinct.sublist (List.filter_sublist.map key)

-- What a pass leaves: every item none of whose key was done, in its place.
theorem foldl_deliver (tried : List (ε × Answer ω)) (left : List ε) (error : Option ω) :
    tried.foldl (deliver key) (left,error) =
      (left.filter fun item => !tried.any fun entry => entry.2.isDone && decide (key entry.1 = key item),
        error.or (tried.findSome? fun entry => match entry.2 with
          | .done => none
          | .failed reason => some reason)) := by
  induction tried generalizing left error with
  | nil => simp
  | cons entry rest ih =>
    obtain ⟨item,answer⟩ := entry
    cases answer with
    | done =>
      rw [List.foldl_cons,deliver,ih]
      simp only [remove,List.filter_filter,List.any_cons,Answer.isDone,Bool.true_and,List.findSome?_cons]
      congr 2
      funext other
      by_cases same : key other = key item
      · simp [same]
      · simp [same,Ne.symm same]
    | failed reason =>
      rw [List.foldl_cons,deliver,ih]
      simp [Answer.isDone]

theorem drain_left (items : List ε) (answers : List (Answer ω)) :
    (drain key items answers).1 =
      items.filter fun item => !(items.zip answers).any fun entry => entry.2.isDone && decide (key entry.1 = key item) := by
  rw [drain,foldl_deliver]

theorem mem_drain {items : List ε} {answers : List (Answer ω)} {item : ε} :
    item ∈ (drain key items answers).1 ↔
      item ∈ items ∧ ∀ (i : ℕ) (tried : ε), items[i]? = some tried → key tried = key item → answers[i]? ≠ some .done := by
  rw [drain_left,List.mem_filter,Bool.not_eq_true',← Bool.not_eq_true,List.any_eq_true]
  refine and_congr_right fun _ => ?_
  constructor
  · intro untouched i tried there same done
    refine untouched ⟨(tried,.done),?_,by simp [Answer.isDone,same]⟩
    rw [List.mem_iff_getElem?]
    refine ⟨i,?_⟩
    rw [List.getElem?_zip_eq_some]
    exact ⟨there,done⟩
  · rintro open_ ⟨⟨tried,answer⟩,there,counted⟩
    obtain ⟨i,place⟩ := List.mem_iff_getElem?.mp there
    obtain ⟨here,answered⟩ := List.getElem?_zip_eq_some.mp place
    cases answer with
    | done => exact open_ i tried here (by simpa [Answer.isDone] using counted) answered
    | failed reason => simp [Answer.isDone] at counted

omit [DecidableEq κ] in
-- Items told apart by their keys are judged one by one: what is left is what failed.
theorem zip_same {items : List ε} {answers : List (Answer ω)} (distinct : (items.map key).Nodup) {first second : ε × Answer ω}
    (here : first ∈ items.zip answers) (there : second ∈ items.zip answers) (same : key first.1 = key second.1) : first = second := by
  obtain ⟨i,place⟩ := List.mem_iff_getElem?.mp here
  obtain ⟨j,place'⟩ := List.mem_iff_getElem?.mp there
  obtain ⟨item,answer⟩ := List.getElem?_zip_eq_some.mp place
  obtain ⟨item',answer'⟩ := List.getElem?_zip_eq_some.mp place'
  have equal : i = j := by
    refine (List.getElem?_inj ?_ distinct).mp ?_
    · rw [List.length_map]
      exact (List.getElem?_eq_some_iff.mp item).1
    · rw [List.getElem?_map,List.getElem?_map,item,item',Option.map_some,Option.map_some,same]
  subst equal
  exact Prod.ext (Option.some.inj (item.symm.trans item')) (Option.some.inj (answer.symm.trans answer'))

theorem drain_distinct {items : List ε} {answers : List (Answer ω)} (distinct : (items.map key).Nodup)
    (whole : answers.length = items.length) :
    (drain key items answers).1 = ((items.zip answers).filter fun entry => !entry.2.isDone).map Prod.fst := by
  have firsts : (items.zip answers).map Prod.fst = items := List.map_fst_zip (by omega)
  rw [drain_left]
  conv_lhs => rw [← firsts]
  rw [List.filter_map]
  congr 1
  apply List.filter_congr
  intro entry inside
  rw [Function.comp_apply,firsts]
  congr 1
  rw [Bool.eq_iff_iff,List.any_eq_true]
  constructor
  · rintro ⟨other,there,counted⟩
    have parts := Bool.and_eq_true_iff.mp counted
    have equal := zip_same distinct there inside (of_decide_eq_true parts.2)
    exact equal ▸ parts.1
  · intro done
    exact ⟨entry,inside,by simp [done]⟩

end FlaconVault.Outbox
