import Mathlib
namespace FlaconVault.Guards

variable {ε : Type u} {α β : Type v}

-- Programs that may be refused are written in `Except`. A caller never unfolds a program: it peels the
-- accepted run apart with `bind_ok`, `require_ok`, `orRefuse_ok` and `pure_ok`, one guard at a time, in the order
-- of the program text.
def require (condition : Prop) [Decidable condition] (error : ε) : Except ε Unit :=
  if condition then .ok () else .error error

def orRefuse (found : Option α) (error : ε) : Except ε α :=
  match found with
  | some value => .ok value
  | none => .error error

theorem bind_ok {program : Except ε α} {rest : α → Except ε β} {result : β} :
    (program >>= rest) = .ok result ↔ ∃ value, program = .ok value ∧ rest value = .ok result := by
  cases program with
  | error => simp [bind,Except.bind]
  | ok value => simp [bind,Except.bind]

@[simp] theorem require_ok {condition : Prop} [Decidable condition] {error : ε} {done : Unit} :
    require condition error = .ok done ↔ condition := by
  unfold require
  split <;> simp_all

@[simp] theorem orRefuse_ok {found : Option α} {error : ε} {value : α} :
    orRefuse found error = .ok value ↔ found = some value := by
  cases found with
  | none => simp [orRefuse]
  | some => simp [orRefuse]

@[simp] theorem pure_ok {value result : α} : (pure value : Except ε α) = .ok result ↔ value = result := by
  simp [pure,Except.pure]

@[simp] theorem ok_bind {value : α} {rest : α → Except ε β} : ((Except.ok value : Except ε α) >>= rest) = rest value := rfl

@[simp] theorem error_bind {error : ε} {rest : α → Except ε β} :
    ((Except.error error : Except ε α) >>= rest) = .error error := rfl

theorem map_ok {program : Except ε α} {change : α → β} {result : β} :
    program.map change = .ok result ↔ ∃ value, program = .ok value ∧ change value = result := by
  cases program <;> simp [Except.map]

-- What an evaluation shows to be accepted.
theorem exists_ok {program : Except ε α} (accepted : program.toOption.isSome = true) : ∃ value, program = .ok value := by
  cases program with
  | error => cases accepted
  | ok value => exact ⟨value,rfl⟩

theorem require_pass {condition : Prop} [Decidable condition] {error : ε} (holds : condition) :
    require condition error = .ok () := require_ok.mpr holds

-- The outer branch of a result, without looking into its condition.
theorem branch {ρ : Sort*} {condition : Prop} [Decidable condition] {first second result : ρ}
    (taken : (if condition then first else second) = result) : condition ∧ first = result ∨ ¬condition ∧ second = result := by
  split at taken
  · rename_i holds
    exact .inl ⟨holds,taken⟩
  · rename_i fails
    exact .inr ⟨fails,taken⟩

-- What every accepted run of a program satisfies, composed along the program text where its checks do not
-- matter for the result.
def Yields (program : Except ε α) (post : α → Prop) : Prop := ∀ value, program = .ok value → post value

theorem Yields.pure {value : α} {post : α → Prop} (holds : post value) : Yields (pure value : Except ε α) post := by
  intro result returned
  exact pure_ok.mp returned ▸ holds

theorem Yields.bind {program : Except ε α} {rest : α → Except ε β} {M : α → Prop} {post : β → Prop}
    (first : Yields program M) (next : ∀ value, M value → Yields (rest value) post) : Yields (program >>= rest) post := by
  intro result returned
  obtain ⟨value,passed,finished⟩ := bind_ok.mp returned
  exact next value (first value passed) result finished

theorem Yields.after {program : Except ε α} {rest : α → Except ε β} {post : β → Prop}
    (next : ∀ value, Yields (rest value) post) : Yields (program >>= rest) post :=
  Yields.bind (M := fun _ => True) (fun _ _ => trivial) (fun value _ => next value)

theorem Yields.ite {condition : Prop} [Decidable condition] {first second : Except ε α} {post : α → Prop}
    (held : Yields first post) (failed : Yields second post) : Yields (if condition then first else second) post := by
  split
  · exact held
  · exact failed

-- A program that is never refused with a given error, composed in the same way.
def Avoids (error : ε) (program : Except ε α) : Prop := program ≠ .error error

theorem Avoids.require {condition : Prop} [Decidable condition] {error other : ε} (different : other ≠ error) :
    Avoids error (require condition other) := by
  unfold Avoids Guards.require
  split
  · exact nofun
  · exact fun refused => different (Except.error.inj refused)

theorem Avoids.orRefuse {found : Option α} {error other : ε} (different : other ≠ error) :
    Avoids error (orRefuse found other) := by
  cases found with
  | some => exact nofun
  | none => exact fun refused => different (Except.error.inj refused)

theorem Avoids.pure {value : α} {error : ε} : Avoids error (pure value) := nofun

theorem Avoids.bind {program : Except ε α} {rest : α → Except ε β} {error : ε} (first : Avoids error program)
    (next : ∀ value, program = .ok value → Avoids error (rest value)) : Avoids error (program >>= rest) := by
  cases held : program with
  | error other => exact fun refused => first (held.trans (congrArg _ (Except.error.inj refused)))
  | ok value => exact next value held

-- A refused program leaves the state it was given.
def committed {σ : Type*} (before : σ) (outcome : Except ε σ) : σ :=
  match outcome with
  | .ok after => after
  | .error _ => before

theorem committed_cases {σ : Type*} (before : σ) (outcome : Except ε σ) :
    committed before outcome = before ∨ ∃ after, outcome = .ok after ∧ committed before outcome = after := by
  cases outcome with
  | error => exact .inl rfl
  | ok after => exact .inr ⟨after,rfl,rfl⟩

end FlaconVault.Guards
