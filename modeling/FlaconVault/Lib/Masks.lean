import FlaconVault.Lib.Guards
import FlaconVault.Lib.Tables
namespace FlaconVault

-- Changing some fields of every row of a table: what is computed without these fields is computed alike before and after.
def Blind {ρ α : Type*} (hide : ρ → ρ) (f : ρ → α) : Prop := ∀ row, f (hide row) = f row

namespace Blind
variable {ρ α β γ : Type*} {hide : ρ → ρ}

theorem comp {f : ρ → α} (blind : Blind hide f) : f ∘ hide = f := funext blind

theorem map {f : ρ → α} (blind : Blind hide f) (g : α → β) : Blind hide fun row => g (f row) := fun row => congrArg g (blind row)

theorem and {p q : ρ → Bool} (first : Blind hide p) (second : Blind hide q) : Blind hide fun row => p row && q row := by
  intro row
  dsimp only
  rw [first,second]

theorem find? {p : ρ → Bool} (blind : Blind hide p) (rows : List ρ) : (rows.map hide).find? p = (rows.find? p).map hide := by
  rw [List.find?_map,blind.comp]

theorem filter {p : ρ → Bool} (blind : Blind hide p) (rows : List ρ) : (rows.map hide).filter p = (rows.filter p).map hide := by
  rw [List.filter_map,blind.comp]

theorem any {p : ρ → Bool} (blind : Blind hide p) (rows : List ρ) : (rows.map hide).any p = rows.any p := by
  rw [List.any_map,blind.comp]

theorem countP {p : ρ → Bool} (blind : Blind hide p) (rows : List ρ) : (rows.map hide).countP p = rows.countP p := by
  rw [List.countP_map,blind.comp]

theorem filterMap {f : ρ → Option α} (blind : Blind hide f) (rows : List ρ) : (rows.map hide).filterMap f = rows.filterMap f := by
  rw [List.filterMap_map,blind.comp]

theorem map_eq {f : ρ → α} (blind : Blind hide f) (rows : List ρ) : (rows.map hide).map f = rows.map f := by
  rw [List.map_map,blind.comp]

end Blind

namespace Log
variable {ρ : Type*} {id : ρ → ℕ}

theorem eq_of_rows {log other : Log id} (rows : log.rows = other.rows) (next : log.next = other.next) : log = other := by
  obtain ⟨⟨_,_⟩,_,_,_⟩ := log
  obtain ⟨⟨_,_⟩,_,_,_⟩ := other
  cases rows
  cases next
  rfl

def mask (log : Log id) (hide : ρ → ρ) (keeps : ∀ row, id (hide row) = id row) : Log id := log.update (fun _ => true) hide keeps

variable {log : Log id} {hide : ρ → ρ} {keeps : ∀ row, id (hide row) = id row}

@[simp] theorem mask_rows : (log.mask hide keeps).rows = log.rows.map hide := rfl
@[simp] theorem mask_next : (log.mask hide keeps).next = log.next := rfl

theorem mask_get (wanted : ℕ) : (log.mask hide keeps).get wanted = (log.get wanted).map hide := get_update

-- A change that does not look at the hidden fields and leaves them alone.
theorem mask_update {chosen : ρ → Bool} {change : ρ → ρ} {kept : ∀ row, id (change row) = id row} (blind : Blind hide chosen)
    (commutes : ∀ row, chosen row = true → change (hide row) = hide (change row)) :
    (log.mask hide keeps).update chosen change kept = (log.update chosen change kept).mask hide keeps := by
  refine eq_of_rows ?_ rfl
  have inner : ((log.mask hide keeps).update chosen change kept).rows =
      (log.rows.map hide).map fun row => if chosen row then change row else row := rfl
  have outer : ((log.update chosen change kept).mask hide keeps).rows =
      (log.rows.map fun row => if chosen row then change row else row).map hide := rfl
  rw [inner,outer,List.map_map,List.map_map]
  refine List.map_congr_left ?_
  intro row _
  simp only [Function.comp_apply,blind row]
  split
  · rename_i picked
    exact commutes row picked
  · rfl

theorem mask_delete {chosen : ρ → Bool} (blind : Blind hide chosen) :
    (log.mask hide keeps).delete chosen = (log.delete chosen).mask hide keeps := by
  refine eq_of_rows ?_ rfl
  have inner : ((log.mask hide keeps).delete chosen).rows = (log.rows.map hide).filter (!chosen ·) := rfl
  have outer : ((log.delete chosen).mask hide keeps).rows = (log.rows.filter (!chosen ·)).map hide := rfl
  rw [inner,outer]
  exact (blind.map fun gone => !gone).filter log.rows

theorem mask_append {make : ℕ → ρ} {named : ∀ number, id (make number) = number} (open_row : hide (make log.next) = make log.next) :
    (log.mask hide keeps).append make named = (log.append make named).mask hide keeps := by
  refine eq_of_rows ?_ rfl
  have inner : ((log.mask hide keeps).append make named).rows = log.rows.map hide ++ [make log.next] := rfl
  have outer : ((log.append make named).mask hide keeps).rows = (log.rows ++ [make log.next]).map hide := rfl
  rw [inner,outer,List.map_append,List.map_cons,open_row]
  rfl

end Log

namespace Guards
variable {ε : Type u} {α α' β β' : Type v}

-- Two programs that differ by a change of what they return, composed along the program text.
theorem bind_map {program : Except ε α} {first : α → Except ε β'} {second : α → Except ε β} {change : β → β'}
    (rest : ∀ value, program = .ok value → first value = (second value).map change) :
    (program >>= first) = (program >>= second).map change := by
  cases passed : program with
  | error => rfl
  | ok value => exact rest value passed

theorem map_bind {program : Except ε α} {before : α → α'} {first : α' → Except ε β'} {second : α → Except ε β} {change : β → β'}
    (rest : ∀ value, program = .ok value → first (before value) = (second value).map change) :
    (program.map before >>= first) = (program >>= second).map change := by
  cases passed : program with
  | error => rfl
  | ok value => exact rest value passed

theorem orRefuse_map {found : Option α} {before : α → α'} {error : ε} :
    orRefuse (found.map before) error = (orRefuse found error).map before := by
  cases found <;> rfl

theorem ite_map {condition : Prop} [Decidable condition] {first second : Except ε β'} {first' second' : Except ε β} {change : β → β'}
    (held : condition → first = first'.map change) (failed : ¬condition → second = second'.map change) :
    (if condition then first else second) = (if condition then first' else second').map change := by
  split
  · rename_i holds
    exact held holds
  · rename_i fails
    exact failed fails

end Guards
end FlaconVault
