import Mathlib
namespace FlaconVault.Loops

variable {σ α β : Type*} (turn : σ → α → σ × β) (stops : β → Bool)

-- A for loop that breaks after a turn: the state it leaves, and what its turns told.
def breaking (s : σ) : List α → σ × List β
  | [] => (s,[])
  | item :: rest =>
    let told := turn s item
    if stops told.2 then (told.1,[told.2])
    else
      let later := breaking told.1 rest
      (later.1,told.2 :: later.2)

-- The turns of the same loop without its break.
def unbroken (s : σ) : List α → List β
  | [] => []
  | item :: rest => (turn s item).2 :: unbroken (turn s item).1 rest

-- A list up to and with the first element that stops it.
def upTo : List β → List β
  | [] => []
  | told :: rest => if stops told then [told] else told :: upTo rest

variable {turn stops}

@[simp] theorem breaking_nil (s : σ) : breaking turn stops s [] = (s,[]) := rfl

theorem breaking_stop {s : σ} {item : α} (rest : List α) (stop : stops (turn s item).2 = true) :
    breaking turn stops s (item :: rest) = ((turn s item).1,[(turn s item).2]) := by
  simp [breaking,stop]

theorem breaking_go {s : σ} {item : α} (rest : List α) (go : stops (turn s item).2 = false) :
    breaking turn stops s (item :: rest) =
      ((breaking turn stops (turn s item).1 rest).1,(turn s item).2 :: (breaking turn stops (turn s item).1 rest).2) := by
  simp [breaking,go]

theorem unbroken_length (s : σ) (items : List α) : (unbroken turn s items).length = items.length := by
  induction items generalizing s with
  | nil => rfl
  | cons item rest ih => simp [unbroken,ih]

theorem unbroken_turn {s : σ} {items : List α} {told : β} (there : told ∈ unbroken turn s items) :
    ∃ before item, told = (turn before item).2 := by
  induction items generalizing s with
  | nil => cases there
  | cons item rest ih =>
    rcases List.mem_cons.mp there with here | later
    · exact ⟨s,item,here⟩
    · exact ih later

-- The break only cuts the loop short.
theorem breaking_told (s : σ) (items : List α) : (breaking turn stops s items).2 = upTo stops (unbroken turn s items) := by
  induction items generalizing s with
  | nil => rfl
  | cons item rest ih =>
    cases stop : stops (turn s item).2 with
    | true =>
      rw [breaking_stop rest stop]
      simp [unbroken,upTo,stop]
    | false =>
      rw [breaking_go rest stop]
      simp [unbroken,upTo,stop,ih]

theorem upTo_prefix (told : List β) : upTo stops told <+: told := by
  induction told with
  | nil => exact List.prefix_rfl
  | cons first rest ih =>
    unfold upTo
    split
    · exact ⟨rest,rfl⟩
    · exact List.prefix_cons_inj first |>.mpr ih

-- Where a loop ends early, its last turn has stopped it.
theorem upTo_short {told : List β} (short : (upTo stops told).length < told.length) :
    ∃ last, (upTo stops told)[(upTo stops told).length-1]? = some last ∧ stops last = true := by
  induction told with
  | nil => cases short
  | cons first rest ih =>
    unfold upTo at short ⊢
    split
    · rename_i here
      exact ⟨first,rfl,here⟩
    · rename_i here
      rw [if_neg here] at short
      obtain ⟨last,there,stop⟩ := ih (Nat.lt_of_succ_lt_succ short)
      refine ⟨last,?_,stop⟩
      have some_turn : 0 < (upTo stops rest).length := by
        by_contra none_turn
        rw [List.length_eq_zero_iff.mp (Nat.eq_zero_of_not_pos none_turn)] at there
        cases there
      rw [List.length_cons,Nat.add_sub_cancel,List.getElem?_cons,if_neg some_turn.ne']
      exact there

-- A loop whose stopping turns are bad turns ends at its first bad turn exactly if that one stops, or is its last anyway.
theorem bad_last_iff {bad : β → Prop} {told : List β} (sound : ∀ turn ∈ told, stops turn = true → bad turn) :
    (∀ k turn, (upTo stops told)[k]? = some turn → bad turn → k+1 = (upTo stops told).length) ↔
      ∀ k turn, told[k]? = some turn → (∀ earlier ∈ told.take k, ¬bad earlier) → bad turn → stops turn = true ∨ k+1 = told.length := by
  induction told with
  | nil =>
    constructor
    · intro _ _ _ there
      cases there
    · intro _ _ _ there
      cases there
  | cons first rest ih =>
    have tail := ih fun turn inside => sound turn (List.mem_cons_of_mem _ inside)
    unfold upTo
    by_cases stop : stops first = true
    · rw [if_pos stop]
      constructor
      · intro _ k turn there earlier _
        cases k with
        | zero => exact .inl (Option.some.inj there ▸ stop)
        | succ k => exact absurd (sound first List.mem_cons_self stop) (earlier first (by simp))
      · intro _ k turn there _
        cases k with
        | zero => rfl
        | succ k => cases there
    · rw [if_neg stop]
      by_cases ill : bad first
      · constructor
        · intro ends k turn there earlier _
          cases k with
          | zero =>
            refine .inr ?_
            have single : 0 = (upTo stops rest).length := Nat.succ.inj (ends 0 first rfl ill)
            have empty : rest = [] := by
              cases rest with
              | nil => rfl
              | cons next others =>
                unfold upTo at single
                split at single <;> cases single
            rw [empty]
            rfl
          | succ k => exact absurd ill (earlier first (by simp))
        · intro ends k turn there _
          have single : rest = [] := by
            rcases ends 0 first rfl (by simp) ill with stopped | last
            · exact absurd stopped stop
            · exact List.length_eq_zero_iff.mp (Nat.succ.inj last).symm
          subst single
          cases k with
          | zero => rfl
          | succ k => cases there
      · have shifted : (∀ k turn, (first :: upTo stops rest)[k]? = some turn → bad turn → k+1 = (first :: upTo stops rest).length) ↔
            ∀ k turn, (upTo stops rest)[k]? = some turn → bad turn → k+1 = (upTo stops rest).length := by
          constructor
          · intro ends k turn there is_bad
            exact Nat.succ.inj (ends (k+1) turn there is_bad)
          · intro ends k turn there is_bad
            cases k with
            | zero => exact absurd (Option.some.inj there ▸ is_bad) ill
            | succ k => exact congrArg (·+1) (ends k turn there is_bad)
        rw [shifted,tail]
        constructor
        · intro ends k turn there earlier is_bad
          cases k with
          | zero => exact absurd (Option.some.inj there ▸ is_bad) ill
          | succ k =>
            rcases ends k turn there (fun turn inside => earlier turn (List.mem_cons_of_mem _ inside)) is_bad with stopped | last
            · exact .inl stopped
            · exact .inr (congrArg (·+1) last)
        · intro ends k turn there earlier is_bad
          have before : ∀ turn ∈ (first :: rest).take (k+1), ¬bad turn := by
            intro turn inside
            rcases List.mem_cons.mp inside with here | later
            · exact here ▸ ill
            · exact earlier turn later
          rcases ends (k+1) turn there before is_bad with stopped | last
          · exact .inl stopped
          · exact .inr (Nat.succ.inj last)

-- What every turn over an item of the list respects, the loop respects.
theorem breaking_related {R : σ → σ → Prop} (reflexive : ∀ s, R s s) (transitive : ∀ {a b c}, R a b → R b c → R a c) {items : List α}
    (stepped : ∀ s, ∀ item ∈ items, R s (turn s item).1) (s : σ) : R s (breaking turn stops s items).1 := by
  induction items generalizing s with
  | nil => exact reflexive s
  | cons item rest ih =>
    have first := stepped s item List.mem_cons_self
    cases stop : stops (turn s item).2 with
    | true =>
      rw [breaking_stop rest stop]
      exact first
    | false =>
      rw [breaking_go rest stop]
      exact transitive first (ih (fun s item inside => stepped s item (List.mem_cons_of_mem _ inside)) _)

-- The items that had their turn, where each turn tells its item.
theorem breaking_items {named : β → α} (tells : ∀ s item, named (turn s item).2 = item) (s : σ) (items : List α) :
    (breaking turn stops s items).2.map named = items.take (breaking turn stops s items).2.length := by
  induction items generalizing s with
  | nil => rfl
  | cons item rest ih =>
    cases stop : stops (turn s item).2 with
    | true =>
      rw [breaking_stop rest stop]
      simp [tells]
    | false =>
      rw [breaking_go rest stop]
      simp [tells,ih]

-- The items after the break do not matter.
theorem breaking_take (s : σ) (items : List α) :
    breaking turn stops s (items.take (breaking turn stops s items).2.length) = breaking turn stops s items := by
  induction items generalizing s with
  | nil => rfl
  | cons item rest ih =>
    cases stop : stops (turn s item).2 with
    | true =>
      rw [breaking_stop rest stop,List.length_singleton,List.take_succ_cons,breaking_stop _ stop]
    | false =>
      rw [breaking_go rest stop,List.length_cons,List.take_succ_cons,breaking_go _ stop,ih]

-- Each turn that was taken, with the loops before and after it.
theorem breaking_turn {s : σ} {items : List α} {told : β} (there : told ∈ (breaking turn stops s items).2) :
    ∃ front item back, items = front ++ item :: back ∧ told = (turn (breaking turn stops s front).1 item).2 ∧
      ((breaking turn stops s items).1 = (turn (breaking turn stops s front).1 item).1 ∨
        (breaking turn stops s items).1 = (breaking turn stops (turn (breaking turn stops s front).1 item).1 back).1) := by
  induction items generalizing s with
  | nil => cases there
  | cons item rest ih =>
    cases stop : stops (turn s item).2 with
    | true =>
      rw [breaking_stop rest stop] at there ⊢
      exact ⟨[],item,rest,rfl,List.mem_singleton.mp there,.inl rfl⟩
    | false =>
      rw [breaking_go rest stop] at there ⊢
      rcases List.mem_cons.mp there with here | later
      · exact ⟨[],item,rest,rfl,here,.inr rfl⟩
      · obtain ⟨front,other,back,parts,same,ends⟩ := ih later
        refine ⟨item :: front,other,back,by rw [parts,List.cons_append],?_⟩
        rw [breaking_go front stop]
        exact ⟨same,ends⟩

end FlaconVault.Loops
