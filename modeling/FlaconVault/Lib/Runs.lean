import Mathlib
namespace FlaconVault.Runs

variable {σ ℓ : Type*} {step : ℓ → σ → σ} {start : σ} {schedule : ℕ → ℓ}

-- The state a schedule has reached before its label number `n`.
def reached (step : ℓ → σ → σ) (start : σ) (schedule : ℕ → ℓ) : ℕ → σ
  | 0 => start
  | n+1 => step (schedule n) (reached step start schedule n)

@[simp] theorem reached_zero : reached step start schedule 0 = start := rfl
theorem reached_succ (n : ℕ) : reached step start schedule (n+1) = step (schedule n) (reached step start schedule n) := rfl

-- What a run has reached depends on the labels before that point only.
theorem reached_congr {other : ℕ → ℓ} {n : ℕ} (same : ∀ k < n, schedule k = other k) :
    reached step start schedule n = reached step start other n := by
  induction n with
  | zero => rfl
  | succ n ih =>
    have before := ih fun k below => same k (by omega)
    rw [reached_succ,reached_succ,before,same n (by omega)]

theorem invariant {P : σ → Prop} (initial : P start) (preserved : ∀ label s, P s → P (step label s)) :
    ∀ n, P (reached step start schedule n)
  | 0 => initial
  | n+1 => preserved _ _ (invariant initial preserved n)

-- A relation between states that every step respects holds between any two points of a run.
theorem related {R : σ → σ → Prop} (reflexive : ∀ s, R s s) (transitive : ∀ {a b c}, R a b → R b c → R a c)
    (stepped : ∀ n, R (reached step start schedule n) (reached step start schedule (n+1)))
    {i j : ℕ} (ordered : i ≤ j) : R (reached step start schedule i) (reached step start schedule j) := by
  induction j, ordered using Nat.le_induction with
  | base => exact reflexive _
  | succ j _ ih => exact transitive ih (stepped j)

-- A property that fails now and holds later was switched on by one step, after which it has held ever since.
theorem switched_on {P : σ → Prop} {i j : ℕ} (ordered : i ≤ j) (before : ¬P (reached step start schedule i))
    (after : P (reached step start schedule j)) :
    ∃ k, i ≤ k ∧ k < j ∧ ¬P (reached step start schedule k) ∧
      ∀ m, k < m → m ≤ j → P (reached step start schedule m) := by
  induction j, ordered using Nat.le_induction with
  | base => exact absurd after before
  | succ j later ih =>
    by_cases held : P (reached step start schedule j)
    · obtain ⟨k,low,high,off,on⟩ := ih held
      refine ⟨k,low,by omega,off,?_⟩
      intro m above within
      rcases Nat.lt_or_ge j m with beyond | inside
      · have : m = j+1 := by omega
        exact this ▸ after
      · exact on m above inside
    · refine ⟨j,later,by omega,held,?_⟩
      intro m above within
      have : m = j+1 := by omega
      exact this ▸ after

end FlaconVault.Runs
