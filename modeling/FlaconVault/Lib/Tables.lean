import Mathlib
namespace FlaconVault

-- A table with a primary key: its rows in the order of insertion, and no key twice.
structure Table {ρ κ : Type*} (key : ρ → κ) where
  rows : List ρ
  unique : (rows.map key).Nodup

namespace Table
variable {ρ κ : Type*} {key : ρ → κ}

def empty : Table key := ⟨[],by simp⟩

@[simp] theorem empty_rows : (empty : Table key).rows = [] := rfl

-- UPDATE … WHERE, for a change that leaves the key alone.
def update (table : Table key) (chosen : ρ → Bool) (change : ρ → ρ) (keeps : ∀ row, key (change row) = key row) :
    Table key where
  rows := table.rows.map fun row => if chosen row then change row else row
  unique := by
    have same : (fun row => key (if chosen row then change row else row)) = key := by
      funext row
      split
      · exact keeps row
      · rfl
    rw [List.map_map,Function.comp_def,same]
    exact table.unique

-- DELETE … WHERE.
def delete (table : Table key) (chosen : ρ → Bool) : Table key where
  rows := table.rows.filter (!chosen ·)
  unique := (List.filter_sublist.map key).nodup table.unique

theorem mem_update {table : Table key} {chosen : ρ → Bool} {change : ρ → ρ} {keeps : ∀ row, key (change row) = key row}
    {row : ρ} : row ∈ (table.update chosen change keeps).rows ↔
      ∃ old ∈ table.rows, (if chosen old then change old else old) = row := List.mem_map

theorem mem_delete {table : Table key} {chosen : ρ → Bool} {row : ρ} :
    row ∈ (table.delete chosen).rows ↔ row ∈ table.rows ∧ chosen row = false := by
  simp [delete]

theorem same_row {table : Table key} {first second : ρ} (here : first ∈ table.rows) (there : second ∈ table.rows)
    (same : key first = key second) : first = second :=
  List.inj_on_of_nodup_map table.unique here there same

variable [DecidableEq κ]

def get (table : Table key) (wanted : κ) : Option ρ := table.rows.find? (key · = wanted)

theorem get_some {table : Table key} {wanted : κ} {row : ρ} :
    table.get wanted = some row ↔ row ∈ table.rows ∧ key row = wanted := by
  unfold get
  constructor
  · intro found
    exact ⟨List.mem_of_find?_eq_some found,by simpa using List.find?_some found⟩
  · intro ⟨present,named⟩
    cases found : table.rows.find? (key · = wanted) with
    | none =>
      have absent := List.find?_eq_none.mp found row present
      exact absurd named (by simpa using absent)
    | some other =>
      have named' : key other = wanted := by simpa using List.find?_some found
      have := same_row (List.mem_of_find?_eq_some found) present (named'.trans named.symm)
      rw [this]

theorem get_none {table : Table key} {wanted : κ} :
    table.get wanted = none ↔ ∀ row ∈ table.rows, key row ≠ wanted := by
  simp [get,List.find?_eq_none]

theorem get_of_mem {table : Table key} {row : ρ} (present : row ∈ table.rows) : table.get (key row) = some row :=
  get_some.mpr ⟨present,rfl⟩

@[simp] theorem get_empty (wanted : κ) : (empty : Table key).get wanted = none := rfl

theorem get_update {table : Table key} {chosen : ρ → Bool} {change : ρ → ρ} {keeps : ∀ row, key (change row) = key row}
    {wanted : κ} : (table.update chosen change keeps).get wanted =
      (table.get wanted).map fun row => if chosen row then change row else row := by
  cases found : table.get wanted with
  | none =>
    rw [get_none] at found
    simp only [Option.map_none,get_none]
    intro row present
    obtain ⟨old,there,rfl⟩ := mem_update.mp present
    split
    · exact keeps old ▸ found old there
    · exact found old there
  | some row =>
    obtain ⟨present,named⟩ := get_some.mp found
    simp only [Option.map_some,get_some]
    refine ⟨mem_update.mpr ⟨row,present,rfl⟩,?_⟩
    split
    · exact (keeps row).trans named
    · exact named

theorem get_delete {table : Table key} {chosen : ρ → Bool} {wanted : κ} :
    (table.delete chosen).get wanted = (table.get wanted).filter (!chosen ·) := by
  cases found : table.get wanted with
  | none =>
    rw [get_none] at found
    simp only [Option.filter_none,get_none]
    exact fun row present => found row (mem_delete.mp present).1
  | some row =>
    obtain ⟨present,named⟩ := get_some.mp found
    cases gone : chosen row with
    | false =>
      simp only [Option.filter,gone,Bool.not_false,if_true]
      exact get_some.mpr ⟨mem_delete.mpr ⟨present,gone⟩,named⟩
    | true =>
      simp only [Option.filter,gone,Bool.not_true,Bool.false_eq_true,if_false,get_none]
      intro other remains same
      obtain ⟨there,kept⟩ := mem_delete.mp remains
      have := same_row there present (same.trans named.symm)
      rw [this,gone] at kept
      cases kept

-- INSERT, refused on a key that is taken.
def insert (table : Table key) (row : ρ) : Option (Table key) :=
  if free : table.get (key row) = none then
    some ⟨table.rows ++ [row],by
      have apart : key row ∉ table.rows.map key := by simpa using get_none.mp free
      simp only [List.map_append,List.map_cons,List.map_nil]
      exact List.nodup_append'.mpr ⟨table.unique,List.nodup_singleton _,List.disjoint_singleton.mpr apart⟩⟩
  else none

theorem insert_some {table grown : Table key} {row : ρ} :
    table.insert row = some grown ↔ table.get (key row) = none ∧ grown.rows = table.rows ++ [row] := by
  unfold insert
  split
  · rename_i free
    cases grown
    simp only [Option.some.injEq,mk.injEq,free,true_and]
    exact eq_comm
  · rename_i taken
    simp [taken]

theorem get_insert {table grown : Table key} {row : ρ} {wanted : κ} (inserted : table.insert row = some grown) :
    grown.get wanted = if wanted = key row then some row else table.get wanted := by
  obtain ⟨fresh,grew⟩ := insert_some.mp inserted
  unfold get at fresh ⊢
  rw [grew,List.find?_append]
  by_cases here : wanted = key row
  · subst here
    simp [fresh]
  · have : key row ≠ wanted := fun same => here same.symm
    simp [here,this]

-- INSERT … ON CONFLICT (key) DO NOTHING.
def ensure (table : Table key) (row : ρ) : Table key := (table.insert row).getD table

theorem get_ensure {table : Table key} {row : ρ} {wanted : κ} :
    (table.ensure row).get wanted = if wanted = key row then some ((table.get wanted).getD row) else table.get wanted := by
  unfold ensure
  cases inserted : table.insert row with
  | some grown =>
    rw [Option.getD_some,get_insert inserted]
    by_cases here : wanted = key row
    · rw [if_pos here,if_pos here,here,(insert_some.mp inserted).1]
      rfl
    · rw [if_neg here,if_neg here]
  | none =>
    rw [Option.getD_none]
    by_cases here : wanted = key row
    · cases found : table.get wanted with
      | some old => simp [here]
      | none =>
        subst here
        simp [insert,found] at inserted
    · rw [if_neg here]

-- Assignment to a key: in place where the key is taken, at the end otherwise.
def put (table : Table key) (row : ρ) : Table key where
  rows := if table.get (key row) = none then table.rows ++ [row]
    else table.rows.map fun old => if key old = key row then row else old
  unique := by
    split
    · rename_i free
      have apart : key row ∉ table.rows.map key := by simpa using get_none.mp free
      simp only [List.map_append,List.map_cons,List.map_nil]
      exact List.nodup_append'.mpr ⟨table.unique,List.nodup_singleton _,List.disjoint_singleton.mpr apart⟩
    · have same : (fun old => key (if key old = key row then row else old)) = key := by
        funext old
        split
        · rename_i here
          exact here.symm
        · rfl
      rw [List.map_map,Function.comp_def,same]
      exact table.unique

theorem get_put {table : Table key} {row : ρ} {wanted : κ} :
    (table.put row).get wanted = if wanted = key row then some row else table.get wanted := by
  by_cases free : table.get (key row) = none
  · have grew : (table.put row).rows = table.rows ++ [row] := by simp [put,free]
    unfold get at free ⊢
    rw [grew,List.find?_append]
    by_cases here : wanted = key row
    · subst here
      simp [free]
    · have : key row ≠ wanted := fun same => here same.symm
      simp [here,this]
  · have changed : (table.put row).rows = table.rows.map fun old => if key old = key row then row else old := by simp [put,free]
    obtain ⟨taken,found⟩ := Option.ne_none_iff_exists'.mp free
    obtain ⟨inside,named⟩ := get_some.mp found
    by_cases here : wanted = key row
    · rw [if_pos here,get_some,changed]
      exact ⟨List.mem_map.mpr ⟨taken,inside,by simp [named]⟩,here.symm⟩
    · rw [if_neg here]
      ext other
      simp only [get_some,changed,List.mem_map]
      constructor
      · intro ⟨⟨old,there,becomes⟩,wanted_here⟩
        split at becomes
        · exact absurd (wanted_here.symm.trans (congrArg key becomes.symm)) here
        · exact ⟨becomes ▸ there,wanted_here⟩
      · intro ⟨there,wanted_here⟩
        refine ⟨⟨other,there,?_⟩,wanted_here⟩
        exact if_neg fun same => here (wanted_here.symm.trans same)

theorem length_put {table : Table key} {row : ρ} :
    (table.put row).rows.length = table.rows.length + if table.get (key row) = none then 1 else 0 := by
  unfold put
  split <;> simp

-- Two tables with the same entries differ in the order of insertion alone.
theorem perm_of_get {table other : Table key} (same : ∀ wanted, table.get wanted = other.get wanted) :
    table.rows.Perm other.rows := by
  refine (List.perm_ext_iff_of_nodup table.unique.of_map other.unique.of_map).mpr ?_
  intro row
  constructor
  · intro inside
    exact (get_some.mp ((same _).symm.trans (get_of_mem inside))).1
  · intro inside
    exact (get_some.mp ((same _).trans (get_of_mem inside))).1

-- ORDER BY … LIMIT 1: the earliest of the rows that no other one precedes.
def first (before : ρ → ρ → Prop) [DecidableRel before] (rows : List ρ) : Option ρ :=
  rows.foldl (fun best row => match best with
    | none => some row
    | some held => if before row held then some row else some held) none

section first
variable {before : ρ → ρ → Prop} [DecidableRel before]

-- The row held so far is replaced only by one that precedes it.
theorem first_from (asymmetric : ∀ a b, before a b → ¬before b a) (through : ∀ a b c, ¬before b a → ¬before c b → ¬before c a)
    (rows : List ρ) (held : ρ) : ∃ row, rows.foldl (fun best row => match best with
      | none => some row
      | some held => if before row held then some row else some held) (some held) = some row ∧
      (row = held ∨ row ∈ rows) ∧ ¬before held row ∧ ∀ other ∈ rows, ¬before other row := by
  induction rows generalizing held with
  | nil =>
    have irreflexive : ¬before held held := fun itself => asymmetric held held itself itself
    exact ⟨held,rfl,.inl rfl,irreflexive,fun _ inside => absurd inside List.not_mem_nil⟩
  | cons next rest ih =>
    rw [List.foldl_cons]
    dsimp only
    by_cases earlier : before next held
    · rw [if_pos earlier]
      obtain ⟨row,reached,known,least,rest_least⟩ := ih next
      refine ⟨row,reached,.inr ?_,through row next held least (asymmetric next held earlier),?_⟩
      · rcases known with same | inside
        · exact same ▸ List.mem_cons_self
        · exact List.mem_cons_of_mem next inside
      · intro other inside
        rcases List.mem_cons.mp inside with same | later
        · exact same ▸ least
        · exact rest_least other later
    · rw [if_neg earlier]
      obtain ⟨row,reached,known,least,rest_least⟩ := ih held
      refine ⟨row,reached,known.imp_right (List.mem_cons_of_mem next),least,?_⟩
      intro other inside
      rcases List.mem_cons.mp inside with same | later
      · exact same ▸ through row held next least earlier
      · exact rest_least other later

theorem first_some (asymmetric : ∀ a b, before a b → ¬before b a) (through : ∀ a b c, ¬before b a → ¬before c b → ¬before c a)
    {rows : List ρ} {row : ρ} (found : first before rows = some row) : row ∈ rows ∧ ∀ other ∈ rows, ¬before other row := by
  cases rows with
  | nil => cases found
  | cons held rest =>
    obtain ⟨reached,same,known,least,rest_least⟩ := first_from asymmetric through rest held
    have here : reached = row := Option.some.inj (same.symm.trans found)
    subst here
    refine ⟨?_,?_⟩
    · rcases known with own | inside
      · exact own ▸ List.mem_cons_self
      · exact List.mem_cons_of_mem held inside
    · intro other inside
      rcases List.mem_cons.mp inside with own | later
      · exact own ▸ least
      · exact rest_least other later

theorem first_none (asymmetric : ∀ a b, before a b → ¬before b a) (through : ∀ a b c, ¬before b a → ¬before c b → ¬before c a)
    {rows : List ρ} (absent : first before rows = none) : rows = [] := by
  cases rows with
  | nil => rfl
  | cons held rest =>
    obtain ⟨reached,same,_⟩ := first_from asymmetric through rest held
    exact absurd (same.symm.trans absent) (by simp)

end first
end Table

-- A table whose integer key is handed out by the table, in rising order and never again.
structure Log {ρ : Type*} (id : ρ → ℕ) where
  table : Table id
  next : ℕ
  sorted : (table.rows.map id).Pairwise (· < ·)
  below : ∀ row ∈ table.rows, id row < next

namespace Log
variable {ρ : Type*} {id : ρ → ℕ}

def empty : Log id := ⟨.empty,1,by simp,by simp⟩

def rows (log : Log id) : List ρ := log.table.rows
def get (log : Log id) (wanted : ℕ) : Option ρ := log.table.get wanted

def append (log : Log id) (make : ℕ → ρ) (named : ∀ number, id (make number) = number) : Log id where
  table := ⟨log.table.rows ++ [make log.next],by
    simp only [List.map_append,List.map_cons,List.map_nil,named]
    refine List.nodup_append'.mpr ⟨log.table.unique,List.nodup_singleton _,List.disjoint_singleton.mpr ?_⟩
    intro taken
    obtain ⟨row,present,same⟩ := List.mem_map.mp taken
    exact absurd (log.below row present) (by omega)⟩
  next := log.next+1
  sorted := by
    simp only [List.map_append,List.map_cons,List.map_nil,named,List.pairwise_append]
    refine ⟨log.sorted,List.pairwise_singleton _ _,?_⟩
    intro number earlier newest fresh
    obtain ⟨row,present,rfl⟩ := List.mem_map.mp earlier
    exact List.mem_singleton.mp fresh ▸ log.below row present
  below := by
    intro row present
    rcases List.mem_append.mp present with old | fresh
    · exact Nat.lt_succ_of_lt (log.below row old)
    · rw [List.mem_singleton.mp fresh,named]
      exact Nat.lt_succ_self _

def update (log : Log id) (chosen : ρ → Bool) (change : ρ → ρ) (keeps : ∀ row, id (change row) = id row) : Log id where
  table := log.table.update chosen change keeps
  next := log.next
  sorted := by
    have same : (fun row => id (if chosen row then change row else row)) = id := by
      funext row
      split
      · exact keeps row
      · rfl
    simpa [Table.update,Function.comp_def,same] using log.sorted
  below := by
    intro row present
    obtain ⟨old,there,rfl⟩ := Table.mem_update.mp present
    split
    · exact keeps old ▸ log.below old there
    · exact log.below old there

def delete (log : Log id) (chosen : ρ → Bool) : Log id where
  table := log.table.delete chosen
  next := log.next
  sorted := log.sorted.sublist (List.filter_sublist.map id)
  below row present := log.below row (Table.mem_delete.mp present).1

theorem get_some {log : Log id} {wanted : ℕ} {row : ρ} : log.get wanted = some row ↔ row ∈ log.rows ∧ id row = wanted :=
  Table.get_some

@[simp] theorem append_rows {log : Log id} {make : ℕ → ρ} {named : ∀ number, id (make number) = number} :
    (log.append make named).rows = log.rows ++ [make log.next] := rfl

theorem get_append {log : Log id} {make : ℕ → ρ} {named : ∀ number, id (make number) = number} {wanted : ℕ} :
    (log.append make named).get wanted = if wanted = log.next then some (make log.next) else log.get wanted := by
  split
  · rename_i here
    exact get_some.mpr ⟨by simp,(named _).trans here.symm⟩
  · rename_i elsewhere
    unfold get Table.get
    have other : log.next ≠ wanted := fun same => elsewhere same.symm
    simp [append,List.find?_append,named,other]

theorem get_update {log : Log id} {chosen : ρ → Bool} {change : ρ → ρ} {keeps : ∀ row, id (change row) = id row}
    {wanted : ℕ} : (log.update chosen change keeps).get wanted =
      (log.get wanted).map fun row => if chosen row then change row else row := 
  @Table.get_update ρ ℕ id _ log.table chosen change keeps wanted

theorem get_delete {log : Log id} {chosen : ρ → Bool} {wanted : ℕ} :
    (log.delete chosen).get wanted = (log.get wanted).filter (!chosen ·) := Table.get_delete

theorem mem_update {log : Log id} {chosen : ρ → Bool} {change : ρ → ρ} {keeps : ∀ row, id (change row) = id row}
    {row : ρ} : row ∈ (log.update chosen change keeps).rows ↔
      ∃ old ∈ log.rows, (if chosen old then change old else old) = row := 
  @Table.mem_update ρ ℕ id log.table chosen change keeps row

theorem mem_delete {log : Log id} {chosen : ρ → Bool} {row : ρ} :
    row ∈ (log.delete chosen).rows ↔ row ∈ log.rows ∧ chosen row = false := Table.mem_delete

theorem get_of_mem {log : Log id} {row : ρ} (present : row ∈ log.rows) : log.get (id row) = some row :=
  Table.get_of_mem present

-- The rows with a property, counted number by number.
theorem count_get (log : Log id) (counted : ρ → Bool) :
    log.rows.countP counted = (List.range log.next).countP fun number => (log.get number).any counted := by
  have same : ((log.rows.filter counted).map id).Perm ((List.range log.next).filter fun number => (log.get number).any counted) := by
    refine (List.perm_ext_iff_of_nodup ((List.filter_sublist.map id).nodup log.table.unique) (List.nodup_range.filter _)).mpr ?_
    intro number
    simp only [List.mem_map,List.mem_filter,List.mem_range]
    constructor
    · intro ⟨row,⟨present,holds⟩,named⟩
      have found : log.get number = some row := get_some.mpr ⟨present,named⟩
      exact ⟨named ▸ log.below row present,by simp [found,holds]⟩
    · intro ⟨_,held⟩
      cases found : log.get number with
      | none => simp [found] at held
      | some row =>
        obtain ⟨present,named⟩ := get_some.mp found
        exact ⟨row,⟨present,by simpa [found] using held⟩,named⟩
  have lengths := same.length_eq
  rw [List.length_map] at lengths
  rw [List.countP_eq_length_filter,List.countP_eq_length_filter]
  exact lengths

theorem countP_at (counted other : ℕ → Bool) {place size : ℕ} (inside : place < size)
    (elsewhere : ∀ number < size, number ≠ place → other number = counted number) :
    (List.range size).countP other + (counted place).toNat = (List.range size).countP counted + (other place).toNat := by
  induction size with
  | zero => omega
  | succ size ih =>
    simp only [List.range_succ,List.countP_append,List.countP_singleton]
    rcases Nat.lt_succ_iff_lt_or_eq.mp inside with before | here
    · have := ih before fun number below => elsewhere number (by omega)
      rw [elsewhere size (by omega) (by omega)]
      omega
    · subst here
      have same : (List.range place).countP other = (List.range place).countP counted := by
        refine List.countP_congr ?_
        intro number below
        rw [elsewhere number (by simp at below; omega) (by simp at below; omega)]
      rw [same]
      cases counted place <;> cases other place <;> simp

end Log
end FlaconVault
