import FlaconVault.Lib.Tables
namespace FlaconVault

-- Items that stand in the rows of a table, no two of them in the same row.
namespace Table
variable {ρ κ ι : Type*} {key : ρ → κ}

-- The counted rows are those of the chosen items: there are as many of one as of the other.
theorem countP_placed {table : Table key} {items : List ι} {place : ι → Option κ} {counted : ρ → Bool} {chosen : ι → Bool}
    (different : items.Nodup)
    (apart : ∀ a ∈ items, ∀ b ∈ items, ∀ wanted, place a = some wanted → place b = some wanted → a = b)
    (there : ∀ item ∈ items, chosen item = true → ∃ row ∈ table.rows, place item = some (key row) ∧ counted row = true)
    (only : ∀ row ∈ table.rows, counted row = true → ∃ item ∈ items, chosen item = true ∧ place item = some (key row)) :
    table.rows.countP counted = items.countP chosen := by
  have rows : ((table.rows.filter counted).map fun row => some (key row)).Nodup := by
    have keys : ((table.rows.filter counted).map key).Nodup := table.unique.sublist (List.filter_sublist.map key)
    have wrapped := keys.map (Option.some_injective κ)
    rwa [List.map_map] at wrapped
  have places : ((items.filter chosen).map place).Nodup := by
    refine (List.nodup_map_iff_inj_on (different.filter chosen)).mpr ?_
    intro a inside b inside' same
    obtain ⟨here,picked⟩ := List.mem_filter.mp inside
    obtain ⟨row,_,placed,_⟩ := there a here picked
    exact apart a here b (List.mem_filter.mp inside').1 (key row) placed (same ▸ placed)
  have same : ((table.rows.filter counted).map fun row => some (key row)).Perm ((items.filter chosen).map place) := by
    refine (List.perm_ext_iff_of_nodup rows places).mpr ?_
    intro spot
    rw [List.mem_map,List.mem_map]
    constructor
    · intro ⟨row,inside,named⟩
      obtain ⟨present,picked⟩ := List.mem_filter.mp inside
      obtain ⟨item,here,wanted,placed⟩ := only row present picked
      exact ⟨item,List.mem_filter.mpr ⟨here,wanted⟩,placed.trans named⟩
    · intro ⟨item,inside,named⟩
      obtain ⟨here,wanted⟩ := List.mem_filter.mp inside
      obtain ⟨row,present,placed,picked⟩ := there item here wanted
      exact ⟨row,List.mem_filter.mpr ⟨present,picked⟩,placed.symm.trans named⟩
  have lengths := same.length_eq
  rwa [List.length_map,List.length_map,← List.countP_eq_length_filter,← List.countP_eq_length_filter] at lengths

theorem any_get [DecidableEq κ] {table : Table key} {counted : ρ → Bool} {wanted : κ} :
    (table.get wanted).any counted = true ↔ ∃ row ∈ table.rows, key row = wanted ∧ counted row = true := by
  rw [Option.any_eq_true]
  constructor
  · intro ⟨row,found,picked⟩
    obtain ⟨present,named⟩ := get_some.mp found
    exact ⟨row,present,named,picked⟩
  · intro ⟨row,present,named,picked⟩
    exact ⟨row,get_some.mpr ⟨present,named⟩,picked⟩

-- Tables that answer alike under every key count alike.
theorem countP_congr [DecidableEq κ] {table other : Table key} {counted : ρ → Bool}
    (same : ∀ wanted, (table.get wanted).any counted = (other.get wanted).any counted) :
    table.rows.countP counted = other.rows.countP counted := by
  refine @countP_placed _ _ _ key table other.rows (fun row => some (key row)) counted counted (other.unique.of_map key) ?_ ?_ ?_
  · intro a inside b inside' wanted named named'
    exact same_row inside inside' (Option.some.inj (named.trans named'.symm))
  · intro row present picked
    obtain ⟨found,there,named,counts⟩ := any_get.mp ((same (key row)).trans (any_get.mpr ⟨row,present,rfl,picked⟩))
    exact ⟨found,there,congrArg some named.symm,counts⟩
  · intro row present picked
    obtain ⟨found,there,named,counts⟩ := any_get.mp ((same (key row)).symm.trans (any_get.mpr ⟨row,present,rfl,picked⟩))
    exact ⟨found,there,counts,congrArg some named⟩

end Table
end FlaconVault
