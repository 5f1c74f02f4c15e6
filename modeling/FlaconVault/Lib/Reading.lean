import FlaconVault.Lib.Guards
namespace FlaconVault.Reading
open Guards

-- Readers that may be refused and that take what they need from the front of an input. A place in the input says what
-- is left, and can be put before other items.
structure Input (σ τ : Type) where
  rest : σ → List τ
  resume : σ → List τ → σ
  rest_resume : ∀ s items, rest (resume s items) = items
  resume_rest : ∀ s, resume s (rest s) = s
  resume_resume : ∀ s items later, resume (resume s items) later = resume s later

variable {σ τ ε : Type} {α β : Type} {input : Input σ τ}
variable {reader : StateT σ (Except ε) α} {rest : α → StateT σ (Except ε) β}

theorem run_bind {s : σ} {result : β × σ} : (reader >>= rest) s = .ok result ↔
    ∃ value s', reader s = .ok (value,s') ∧ rest value s' = .ok result := by
  refine bind_ok.trans ?_
  constructor
  · intro read
    obtain ⟨⟨value,s'⟩,first,later⟩ := read
    exact ⟨value,s',first,later⟩
  · intro read
    obtain ⟨value,s',first,later⟩ := read
    exact ⟨(value,s'),first,later⟩

theorem bind_ran {s s' : σ} {value : α} (first : reader s = .ok (value,s')) : (reader >>= rest) s = rest value s' := by
  have step : (reader >>= rest) s = reader s >>= fun read => rest read.1 read.2 := rfl
  rw [step,first,ok_bind]

theorem bind_refused {s : σ} {error : ε} (first : reader s = .error error) : (reader >>= rest) s = .error error := by
  have step : (reader >>= rest) s = reader s >>= fun read => rest read.1 read.2 := rfl
  rw [step,first,error_bind]

-- The items spell the value: whatever follows them, the reader takes them, gives the value and stops behind them.
def Spells (input : Input σ τ) (reader : StateT σ (Except ε) α) (items : List τ) (value : α) : Prop :=
  ∀ s, ∃ s', ∀ tail, reader (input.resume s (items ++ tail)) = .ok (value,input.resume s' tail)

theorem Spells.pure (input : Input σ τ) (value : α) : Spells input (pure value : StateT σ (Except ε) α) [] value :=
  fun s => ⟨s,fun _ => rfl⟩

theorem Spells.bind {items later : List τ} {value : α} {result : β} (first : Spells input reader items value)
    (second : Spells input (rest value) later result) : Spells input (reader >>= rest) (items ++ later) result := by
  intro s
  obtain ⟨s',first⟩ := first s
  obtain ⟨s'',second⟩ := second s'
  refine ⟨s'',?_⟩
  intro tail
  rw [List.append_assoc,bind_ran (first _),second]

theorem Spells.map {items : List τ} {value : α} (first : Spells input reader items value) (f : α → β) :
    Spells input (do return f (← reader)) items (f value) := by
  have whole : Spells input (do return f (← reader)) (items ++ []) (f value) := first.bind (.pure input (f value))
  rwa [List.append_nil] at whole

-- A reader that looks at nothing behind what it takes and cannot do with less: cut anywhere before its last item, the
-- input is refused.
def Tight (input : Input σ τ) (reader : StateT σ (Except ε) α) : Prop :=
  ∀ s value s', reader s = .ok (value,s') → ∃ used, input.rest s = used ++ input.rest s' ∧
    (∀ tail, reader (input.resume s (used ++ tail)) = .ok (value,input.resume s' tail)) ∧
    ∀ k < used.length, ∃ error, reader (input.resume s (used.take k)) = .error error

theorem Tight.pure (input : Input σ τ) (value : α) : Tight input (pure value : StateT σ (Except ε) α) := by
  intro s result s' read
  cases read
  refine ⟨[],rfl,fun _ => rfl,?_⟩
  intro k below
  cases below

theorem Tight.throw (input : Input σ τ) (error : ε) : Tight input (throw error : StateT σ (Except ε) α) := by
  intro s value s' read
  cases read

theorem Tight.bind (first : Tight input reader) (second : ∀ value, Tight input (rest value)) : Tight input (reader >>= rest) := by
  intro s result s'' read
  obtain ⟨value,s',read,later⟩ := run_bind.mp read
  obtain ⟨used,split,same,short⟩ := first s value s' read
  obtain ⟨used',split',same',short'⟩ := second value s' result s'' later
  refine ⟨used ++ used',by rw [split,split',List.append_assoc],?_,?_⟩
  · intro tail
    rw [List.append_assoc,bind_ran (same _),same']
  · intro k below
    rw [List.length_append] at below
    -- The cut falls into what the first reader takes, or behind it.
    by_cases early : k < used.length
    · obtain ⟨error,refused⟩ := short k early
      refine ⟨error,bind_refused ?_⟩
      rw [List.take_append_of_le_length (Nat.le_of_lt early),refused]
    · obtain ⟨error,refused⟩ := short' (k-used.length) (by omega)
      refine ⟨error,?_⟩
      rw [List.take_append,List.take_of_length_le (Nat.le_of_not_lt early),bind_ran (same _),refused]

theorem Tight.ite {condition : Prop} [Decidable condition] {other : StateT σ (Except ε) α} (first : Tight input reader)
    (second : Tight input other) : Tight input (if condition then reader else other) := by
  split
  · exact first
  · exact second

-- A spelling cut short is refused.
theorem Spells.cut {items : List τ} {value : α} (spells : Spells input reader items value) (tight : Tight input reader) (s : σ)
    {k : ℕ} (short : k < items.length) : ∃ error, reader (input.resume s (items.take k)) = .error error := by
  obtain ⟨s',whole⟩ := spells s
  have whole := whole []
  rw [List.append_nil] at whole
  obtain ⟨used,split,-,refused⟩ := tight _ _ _ whole
  rw [input.rest_resume,input.rest_resume,List.append_nil] at split
  subst split
  obtain ⟨error,refused⟩ := refused k short
  rw [input.resume_resume] at refused
  exact ⟨error,refused⟩

-- One element after the other.
def times (reader : StateT σ (Except ε) α) : ℕ → StateT σ (Except ε) (List α)
  | 0 => pure []
  | count+1 => do
    let first ← reader
    let rest ← times reader count
    return first :: rest

theorem Tight.times (tight : Tight input reader) (count : ℕ) : Tight input (times reader count) := by
  induction count with
  | zero => exact .pure input []
  | succ count ih =>
    apply tight.bind
    intro first
    apply ih.bind
    intro rest
    exact .pure input _

theorem Spells.times {γ : Type} {shown : γ → α} {spelled : γ → List τ}
    (each : ∀ value, Spells input reader (spelled value) (shown value)) (values : List γ) :
    Spells input (Reading.times reader values.length) (values.map spelled).flatten (values.map shown) := by
  induction values with
  | nil => exact .pure input []
  | cons first rest ih =>
    apply (each first).bind
    have whole := ih.map (shown first :: ·)
    exact whole

-- However many elements are asked for: an input of this many items ends the loop after so many rounds.
theorem times_stops (takes : ∀ s value s', reader s = .ok (value,s') → (input.rest s').length < (input.rest s).length) (s : σ)
    {count : ℕ} (many : (input.rest s).length < count) :
    times reader count s = times reader ((input.rest s).length+1) s ∧ ∃ error, times reader count s = .error error := by
  obtain ⟨left,known⟩ : ∃ left, (input.rest s).length = left := ⟨_,rfl⟩
  rw [known] at many ⊢
  induction left using Nat.strong_induction_on generalizing s count with
  | _ left ih =>
    obtain ⟨count,rfl⟩ := Nat.exists_eq_succ_of_ne_zero (Nat.ne_of_gt (Nat.zero_lt_of_lt many))
    unfold times
    cases read : reader s with
    | error error =>
      rw [bind_refused read,bind_refused read]
      exact ⟨rfl,error,rfl⟩
    | ok result =>
      obtain ⟨value,s'⟩ := result
      have fewer := takes s value s' read
      rw [known] at fewer
      -- Both loops go on with more rounds than there are items left.
      obtain ⟨same,error,refused⟩ := ih _ fewer s' (show (input.rest s').length < count by omega) rfl
      obtain ⟨same',-⟩ := ih _ fewer s' fewer rfl
      rw [bind_ran read,bind_ran read,bind_refused refused,bind_refused (same'.trans (same.symm.trans refused))]
      exact ⟨rfl,error,rfl⟩

end FlaconVault.Reading
