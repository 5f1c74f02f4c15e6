import FlaconVault.Lib.Json
namespace FlaconVault.Json

-- Dictionaries up to the order of their keys: every value is dumped with its keys sorted.
def get (fields : List (String × Json)) (key : String) : Option Json :=
  (fields.find? fun field => field.1 = key).map Prod.snd

def dropField (fields : List (String × Json)) (key : String) : List (String × Json) := fields.filter fun field => field.1 ≠ key

-- The keys in order.
def ordered (fields : List (String × Json)) : List (String × Json) := fields.insertionSort fun a b => a.1 ≤ b.1

mutual
def sorted : Json → Json
  | .arr items => .arr (sortedItems items)
  | .obj fields => .obj (ordered (sortedFields fields))
  | value => value
termination_by structural value => value

def sortedItems : List Json → List Json
  | [] => []
  | item :: rest => sorted item :: sortedItems rest
termination_by structural items => items

def sortedField : String × Json → String × Json
  | (key,value) => (key,sorted value)
termination_by structural field => field

def sortedFields : List (String × Json) → List (String × Json)
  | [] => []
  | field :: rest => sortedField field :: sortedFields rest
termination_by structural fields => fields
end

-- json.dumps with sorted keys.
def dumps (gap : ℕ) (value : Json) : List Char := write gap (sorted value)

theorem sortedField_eq (field : String × Json) : sortedField field = (field.1,sorted field.2) := by
  cases field
  rfl

theorem sortedFields_eq (fields : List (String × Json)) : sortedFields fields = fields.map fun field => (field.1,sorted field.2) := by
  induction fields with
  | nil => rfl
  | cons field rest ih => rw [sortedFields,sortedField_eq,ih,List.map_cons]

theorem sortedItems_eq (items : List Json) : sortedItems items = items.map sorted := by
  induction items with
  | nil => rfl
  | cons item rest ih => rw [sortedItems,ih,List.map_cons]

@[simp] theorem keys_sortedFields (fields : List (String × Json)) : (sortedFields fields).map Prod.fst = fields.map Prod.fst := by
  rw [sortedFields_eq,List.map_map]
  rfl

@[simp] theorem get_nil (key : String) : get [] key = none := rfl

theorem get_cons (field : String × Json) (rest : List (String × Json)) (key : String) :
    get (field :: rest) key = if field.1 = key then some field.2 else get rest key := by
  unfold get
  by_cases here : field.1 = key <;> simp [here]

theorem get_append (first second : List (String × Json)) (key : String) : get (first ++ second) key = (get first key).or (get second key) := by
  induction first with
  | nil => simp
  | cons field rest ih =>
    rw [List.cons_append,get_cons,get_cons,ih]
    split <;> simp

theorem get_none {fields : List (String × Json)} {key : String} : get fields key = none ↔ key ∉ fields.map Prod.fst := by
  induction fields with
  | nil => simp
  | cons field rest ih =>
    rw [get_cons,List.map_cons,List.mem_cons,not_or]
    by_cases here : field.1 = key
    · simp [here]
    · rw [if_neg here,ih]
      exact ⟨fun absent => ⟨fun same => here same.symm,absent⟩,fun both => both.2⟩

theorem get_some {fields : List (String × Json)} (nodup : (fields.map Prod.fst).Nodup) {key : String} {value : Json} :
    get fields key = some value ↔ (key,value) ∈ fields := by
  induction fields with
  | nil => simp
  | cons field rest ih =>
    rw [List.map_cons,List.nodup_cons] at nodup
    rw [get_cons,List.mem_cons]
    by_cases here : field.1 = key
    · have absent : (key,value) ∉ rest := fun inside => nodup.1 (here ▸ List.mem_map_of_mem inside)
      subst here
      simp only [if_true,Option.some.injEq,absent,or_false]
      constructor
      · intro same
        rw [← same]
      · intro same
        rw [← same]
    · rw [if_neg here,ih nodup.2]
      constructor
      · exact .inr
      · intro inside
        rcases inside with same | inside
        · exact absurd (congrArg Prod.fst same).symm here
        · exact inside

theorem get_sortedFields (fields : List (String × Json)) (key : String) : get (sortedFields fields) key = (get fields key).map sorted := by
  induction fields with
  | nil => rfl
  | cons field rest ih =>
    rw [sortedFields,sortedField_eq,get_cons,get_cons,ih]
    split <;> rfl

theorem get_setField (fields : List (String × Json)) (key : String) (value : Json) (wanted : String) :
    get (setField fields key value) wanted = if wanted = key then some value else get fields wanted := by
  by_cases taken : key ∈ fields.map Prod.fst
  · rw [setField,if_pos taken]
    by_cases own : wanted = key
    · subst own
      rw [if_pos rfl]
      induction fields with
      | nil => cases taken
      | cons field rest ih =>
        rw [List.map_cons,get_cons]
        by_cases here : field.1 = wanted
        · simp [here]
        · have inside : wanted ∈ rest.map Prod.fst := (List.mem_cons.mp taken).resolve_left fun same => here same.symm
          simp only [here,if_false]
          exact ih inside
    · rw [if_neg own]
      clear taken
      induction fields with
      | nil => rfl
      | cons field rest ih =>
        rw [List.map_cons,get_cons,get_cons,ih]
        by_cases here : field.1 = key
        · have other : field.1 ≠ wanted := fun same => own (same.symm.trans here)
          have other' : key ≠ wanted := fun same => own same.symm
          simp [here,other']
        · rw [if_neg here]
  · rw [setField,if_neg taken,get_append,get_cons,get_nil]
    by_cases own : wanted = key
    · subst own
      rw [get_none.mpr taken]
      simp
    · have other : key ≠ wanted := fun same => own same.symm
      simp [own,other]

theorem get_dropField (fields : List (String × Json)) (key wanted : String) :
    get (dropField fields key) wanted = if wanted = key then none else get fields wanted := by
  unfold dropField
  induction fields with
  | nil => simp
  | cons field rest ih =>
    by_cases here : field.1 = key
    · rw [List.filter_cons_of_neg (by simpa using here),ih,get_cons]
      by_cases own : wanted = key
      · rw [if_pos own,if_pos own]
      · have other : field.1 ≠ wanted := fun same => own (same.symm.trans here)
        rw [if_neg own,if_neg own,if_neg other]
    · rw [List.filter_cons_of_pos (by simpa using here),get_cons,get_cons,ih]
      by_cases own : wanted = key
      · have other : field.1 ≠ wanted := fun same => here (same.trans own)
        rw [if_neg other,if_pos own,if_pos own]
      · rw [if_neg own,if_neg own]

theorem nodup_setField {fields : List (String × Json)} (nodup : (fields.map Prod.fst).Nodup) (key : String) (value : Json) :
    ((setField fields key value).map Prod.fst).Nodup := by
  unfold setField
  split
  · have same : (fun field : String × Json => (if field.1 = key then (key,value) else field).1) = Prod.fst := by
      funext field
      split
      · rename_i here
        exact here.symm
      · rfl
    rw [List.map_map,Function.comp_def,same]
    exact nodup
  · rename_i fresh
    rw [List.map_append]
    exact List.nodup_append'.mpr ⟨nodup,List.nodup_singleton _,List.disjoint_singleton.mpr fresh⟩

theorem nodup_dropField {fields : List (String × Json)} (nodup : (fields.map Prod.fst).Nodup) (key : String) :
    ((dropField fields key).map Prod.fst).Nodup :=
  (List.filter_sublist.map Prod.fst).nodup nodup

theorem keys_ordered (fields : List (String × Json)) : (ordered fields).Pairwise fun a b => a.1 ≤ b.1 := by
  have total : Std.Total fun a b : String × Json => a.1 ≤ b.1 := ⟨fun a b => le_total a.1 b.1⟩
  have through : IsTrans (String × Json) fun a b => a.1 ≤ b.1 := ⟨fun _ _ _ => le_trans⟩
  exact List.pairwise_insertionSort _ fields

theorem ordered_perm {first second : List (String × Json)} (nodup : (first.map Prod.fst).Nodup) (permuted : first.Perm second) :
    ordered first = ordered second := by
  have both : (ordered first).Perm (ordered second) :=
    (List.perm_insertionSort _ first).trans (permuted.trans (List.perm_insertionSort _ second).symm)
  refine both.eq_of_pairwise ?_ (keys_ordered first) (keys_ordered second)
  intro a b inside inside' low high
  have here : a ∈ first := (List.perm_insertionSort _ first).mem_iff.mp inside
  have there : b ∈ first := permuted.mem_iff.mpr ((List.perm_insertionSort _ second).mem_iff.mp inside')
  exact List.inj_on_of_nodup_map nodup here there (le_antisymm low high)

-- Dictionaries with the same entries have the same sorted form.
theorem sorted_same {first second : List (String × Json)} (nodup : (first.map Prod.fst).Nodup) (nodup' : (second.map Prod.fst).Nodup)
    (same : ∀ key, (get first key).map sorted = (get second key).map sorted) : sorted (.obj first) = sorted (.obj second) := by
  have keys : ((sortedFields first).map Prod.fst).Nodup := by simpa using nodup
  have keys' : ((sortedFields second).map Prod.fst).Nodup := by simpa using nodup'
  have permuted : (sortedFields first).Perm (sortedFields second) := by
    refine (List.perm_ext_iff_of_nodup keys.of_map keys'.of_map).mpr ?_
    intro field
    obtain ⟨key,value⟩ := field
    rw [← get_some keys,← get_some keys',get_sortedFields,get_sortedFields,same]
  rw [sorted,sorted,ordered_perm keys permuted]

theorem get_ordered {fields : List (String × Json)} (nodup : (fields.map Prod.fst).Nodup) (key : String) :
    get (ordered fields) key = get fields key := by
  have permuted : (ordered fields).Perm fields := List.perm_insertionSort _ fields
  have keys : ((ordered fields).map Prod.fst).Nodup := (permuted.map Prod.fst).nodup_iff.mpr nodup
  ext value
  rw [get_some keys,get_some nodup,permuted.mem_iff]

-- The sorted form tells the entries, up to the order of keys inside them.
theorem sorted_entries {first second : List (String × Json)} (nodup : (first.map Prod.fst).Nodup) (nodup' : (second.map Prod.fst).Nodup)
    (same : sorted (.obj first) = sorted (.obj second)) (key : String) : (get first key).map sorted = (get second key).map sorted := by
  rw [sorted,sorted,Json.obj.injEq] at same
  have keys : ((sortedFields first).map Prod.fst).Nodup := by simpa using nodup
  have keys' : ((sortedFields second).map Prod.fst).Nodup := by simpa using nodup'
  rw [← get_sortedFields,← get_sortedFields,← get_ordered keys,← get_ordered keys',same]

theorem distinctAll_iff {items : List Json} : distinctAll items = true ↔ ∀ item ∈ items, distinct item = true := by
  induction items with
  | nil => simp [distinctAll]
  | cons item rest ih => simp [distinctAll,ih]

theorem distinctFields_iff {fields : List (String × Json)} : distinctFields fields = true ↔ ∀ field ∈ fields, distinct field.2 = true := by
  induction fields with
  | nil => simp [distinctFields]
  | cons field rest ih =>
    cases field
    simp [distinctFields,distinctField,ih]

theorem distinct_obj {fields : List (String × Json)} :
    distinct (.obj fields) = true ↔ (fields.map Prod.fst).Nodup ∧ ∀ field ∈ fields, distinct field.2 = true := by
  simp only [distinct,Bool.and_eq_true,decide_eq_true_eq,distinctFields_iff]

theorem distinct_setField {fields : List (String × Json)} {value : Json} (apart : distinct (.obj fields) = true) (key : String)
    (own : distinct value = true) : distinct (.obj (setField fields key value)) = true := by
  obtain ⟨nodup,each⟩ := distinct_obj.mp apart
  refine distinct_obj.mpr ⟨nodup_setField nodup key value,?_⟩
  intro field inside
  have nodup' := nodup_setField nodup key value
  have found := (get_some nodup').mpr inside
  rw [get_setField] at found
  split at found
  · exact Option.some.inj found ▸ own
  · exact each _ ((get_some nodup).mp found)

theorem distinct_dropField {fields : List (String × Json)} (apart : distinct (.obj fields) = true) (key : String) :
    distinct (.obj (dropField fields key)) = true := by
  obtain ⟨nodup,each⟩ := distinct_obj.mp apart
  exact distinct_obj.mpr ⟨nodup_dropField nodup key,fun field inside => each field (List.mem_filter.mp inside).1⟩

mutual
theorem distinct_sorted : ∀ value : Json, distinct value = true → distinct (sorted value) = true
  | .null,_ => rfl
  | .bool _,_ => rfl
  | .int _,_ => rfl
  | .str _,_ => rfl
  | .arr items,apart => by
    have each := distinctItems_sorted items (distinctAll_iff.mp apart)
    rw [sorted,sortedItems_eq]
    refine distinctAll_iff.mpr ?_
    intro item inside
    obtain ⟨original,there,rfl⟩ := List.mem_map.mp inside
    exact each original there
  | .obj fields,apart => by
    obtain ⟨nodup,apart⟩ := distinct_obj.mp apart
    have each := distinctFields_sorted fields apart
    have permuted : (ordered (sortedFields fields)).Perm (sortedFields fields) := List.perm_insertionSort _ _
    have keys : ((ordered (sortedFields fields)).map Prod.fst).Nodup :=
      (permuted.map Prod.fst).nodup_iff.mpr (by simpa using nodup)
    refine distinct_obj.mpr ⟨keys,?_⟩
    intro field inside
    have inside := permuted.mem_iff.mp inside
    rw [sortedFields_eq] at inside
    obtain ⟨original,there,rfl⟩ := List.mem_map.mp inside
    exact each original there

theorem distinctItems_sorted : ∀ items : List Json, (∀ item ∈ items, distinct item = true) →
    ∀ item ∈ items, distinct (sorted item) = true
  | [],_,_,inside => by cases inside
  | first :: rest,apart,item,inside => by
    rcases List.mem_cons.mp inside with here | later
    · exact here ▸ distinct_sorted first (apart first List.mem_cons_self)
    · exact distinctItems_sorted rest (fun other there => apart other (List.mem_cons_of_mem _ there)) item later

theorem distinctField_sorted : ∀ field : String × Json, distinct field.2 = true → distinct (sorted field.2) = true
  | (_,value),apart => distinct_sorted value apart

theorem distinctFields_sorted : ∀ fields : List (String × Json), (∀ field ∈ fields, distinct field.2 = true) →
    ∀ field ∈ fields, distinct (sorted field.2) = true
  | [],_,_,inside => by cases inside
  | first :: rest,apart,field,inside => by
    rcases List.mem_cons.mp inside with here | later
    · exact here ▸ distinctField_sorted first (apart first List.mem_cons_self)
    · exact distinctFields_sorted rest (fun other there => apart other (List.mem_cons_of_mem _ there)) field later
end

mutual
theorem sorted_sorted : ∀ value : Json, distinct value = true → sorted (sorted value) = sorted value
  | .null,_ => rfl
  | .bool _,_ => rfl
  | .int _,_ => rfl
  | .str _,_ => rfl
  | .arr items,apart => by
    have each := sortedItems_sorted items (distinctAll_iff.mp apart)
    simp only [sorted,sortedItems_eq,List.map_map]
    congr 1
    exact List.map_congr_left each
  | .obj fields,apart => by
    obtain ⟨nodup,apart⟩ := distinct_obj.mp apart
    have each := sortedFields_sorted fields apart
    have keys : ((sortedFields fields).map Prod.fst).Nodup := by simpa using nodup
    have permuted : (ordered (sortedFields fields)).Perm (sortedFields fields) := List.perm_insertionSort _ _
    have keys' : ((ordered (sortedFields fields)).map Prod.fst).Nodup := (permuted.map Prod.fst).nodup_iff.mpr keys
    refine sorted_same keys' nodup ?_
    intro key
    rw [get_ordered keys,get_sortedFields]
    cases found : get fields key with
    | none => rfl
    | some value => exact congrArg some (each (key,value) ((get_some nodup).mp found))

theorem sortedItems_sorted : ∀ items : List Json, (∀ item ∈ items, distinct item = true) →
    ∀ item ∈ items, sorted (sorted item) = sorted item
  | [],_,_,inside => by cases inside
  | first :: rest,apart,item,inside => by
    rcases List.mem_cons.mp inside with here | later
    · exact here ▸ sorted_sorted first (apart first List.mem_cons_self)
    · exact sortedItems_sorted rest (fun other there => apart other (List.mem_cons_of_mem _ there)) item later

theorem sortedField_sorted : ∀ field : String × Json, distinct field.2 = true → sorted (sorted field.2) = sorted field.2
  | (_,value),apart => sorted_sorted value apart

theorem sortedFields_sorted : ∀ fields : List (String × Json), (∀ field ∈ fields, distinct field.2 = true) →
    ∀ field ∈ fields, sorted (sorted field.2) = sorted field.2
  | [],_,_,inside => by cases inside
  | first :: rest,apart,field,inside => by
    rcases List.mem_cons.mp inside with here | later
    · exact here ▸ sortedField_sorted first (apart first List.mem_cons_self)
    · exact sortedFields_sorted rest (fun other there => apart other (List.mem_cons_of_mem _ there)) field later
end

-- Dumping and loading only sorts the keys.
theorem loads_dumps {gap : ℕ} {value : Json} (apart : distinct value = true) : loads (dumps gap value) = some (sorted value) :=
  loads_write (distinct_sorted value apart)

end FlaconVault.Json
