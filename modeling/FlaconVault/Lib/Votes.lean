import Mathlib
namespace FlaconVault.Votes

variable {α β : Type*} [DecidableEq α]

-- Counting votes in a map that keeps the order of first occurrence.
def bump (counts : List (α × ℕ)) (v : α) : List (α × ℕ) :=
  if counts.any (·.1 = v) then counts.map fun entry => if entry.1 = v then (v,entry.2+1) else entry
  else counts ++ [(v,1)]

def tally (votes : List α) : List (α × ℕ) := votes.foldl bump []

-- The first value that enough votes name.
def reached (votes : List α) (quorum : ℕ) : Option α := ((tally votes).find? fun entry => quorum ≤ entry.2).map (·.1)

-- The map holds each value named, with the number of its votes.
def Counts (votes : List α) (counts : List (α × ℕ)) : Prop := ∀ v n, (v,n) ∈ counts ↔ v ∈ votes ∧ n = votes.count v

theorem Counts.known {votes : List α} {counts : List (α × ℕ)} (sound : Counts votes counts) (v : α) :
    counts.any (·.1 = v) = true ↔ v ∈ votes := by
  rw [List.any_eq_true]
  constructor
  · intro ⟨entry,inside,same⟩
    rw [← of_decide_eq_true same]
    exact ((sound entry.1 entry.2).mp inside).1
  · intro voted
    exact ⟨(v,votes.count v),(sound _ _).mpr ⟨voted,rfl⟩,by simp⟩

theorem Counts.bump {votes : List α} {counts : List (α × ℕ)} (sound : Counts votes counts) (last : α) :
    Counts (votes ++ [last]) (bump counts last) := by
  intro v n
  unfold Votes.bump
  by_cases voted : last ∈ votes
  · rw [if_pos ((sound.known last).mpr voted),List.mem_map]
    constructor
    · intro ⟨entry,inside,same⟩
      obtain ⟨before,count⟩ := (sound entry.1 entry.2).mp inside
      split at same
      case isTrue here =>
        cases same
        exact ⟨by simp,by rw [count,here]; simp⟩
      case isFalse other =>
        cases same
        dsimp only at before count other
        exact ⟨List.mem_append_left _ before,by rw [count]; simp [List.count_append,Ne.symm other]⟩
    · intro ⟨inside,count⟩
      by_cases here : v = last
      · refine ⟨(last,votes.count last),(sound _ _).mpr ⟨voted,rfl⟩,?_⟩
        rw [if_pos rfl,count,here]
        simp
      · have before : v ∈ votes := by simpa [here] using inside
        refine ⟨(v,votes.count v),(sound _ _).mpr ⟨before,rfl⟩,?_⟩
        rw [if_neg here,count]
        simp [List.count_append,Ne.symm here]
  · rw [if_neg (fun some_entry => voted ((sound.known last).mp some_entry)),List.mem_append,sound]
    have none_yet := List.count_eq_zero_of_not_mem voted
    constructor
    · intro entry
      obtain ⟨before,count⟩ | new := entry
      · have other : v ≠ last := fun same => voted (same ▸ before)
        exact ⟨List.mem_append_left _ before,by simp [count,List.count_append,Ne.symm other]⟩
      · cases List.mem_singleton.mp new
        exact ⟨by simp,by simp [none_yet]⟩
    · intro ⟨inside,count⟩
      by_cases here : v = last
      · right
        rw [count,here]
        simp [none_yet]
      · left
        refine ⟨by simpa [here] using inside,?_⟩
        rw [count]
        simp [List.count_append,Ne.symm here]

theorem mem_tally (votes : List α) : Counts votes (tally votes) := by
  induction votes using List.reverseRecOn with
  | nil => intro v n; simp [tally]
  | append_singleton earlier last ih =>
    have step : tally (earlier ++ [last]) = bump (tally earlier) last := by simp [tally]
    rw [step]
    exact ih.bump last

theorem reached_some {votes : List α} {quorum : ℕ} {v : α} (decided : reached votes quorum = some v) :
    v ∈ votes ∧ quorum ≤ votes.count v := by
  obtain ⟨entry,found,same⟩ := Option.map_eq_some_iff.mp decided
  obtain ⟨voted,count⟩ := (mem_tally votes entry.1 entry.2).mp (List.mem_of_find?_eq_some found)
  have enough : quorum ≤ entry.2 := by simpa using List.find?_some found
  rw [← same]
  exact ⟨voted,count ▸ enough⟩

theorem reached_none {votes : List α} {quorum : ℕ} (undecided : reached votes quorum = none) {v : α} (voted : v ∈ votes) :
    votes.count v < quorum := by
  have none_found := List.find?_eq_none.mp (Option.map_eq_none_iff.mp undecided) (v,votes.count v) ((mem_tally votes _ _).mpr ⟨voted,rfl⟩)
  simpa using none_found

theorem count_two {votes : List α} {v w : α} (different : v ≠ w) : votes.count v + votes.count w ≤ votes.length := by
  induction votes with
  | nil => simp
  | cons first rest ih =>
    rw [List.count_cons,List.count_cons,List.length_cons]
    by_cases here : first = v
    · have other : first ≠ w := fun same => different (here.symm.trans same)
      simp only [beq_iff_eq,here,if_true,if_neg (here ▸ other)]
      omega
    · simp only [beq_iff_eq,if_neg here]
      split <;> omega

-- At most one value has more than half of the votes, so the count does not depend on their order.
theorem one_majority {votes : List α} {quorum : ℕ} (strict : votes.length < 2*quorum) {v w : α} (many : quorum ≤ votes.count v)
    (many' : quorum ≤ votes.count w) : v = w := by
  by_contra different
  have both : votes.count v + votes.count w ≤ votes.length := count_two different
  omega

theorem reached_perm {votes others : List α} {quorum : ℕ} (strict : votes.length < 2*quorum) (permuted : votes.Perm others) :
    reached votes quorum = reached others quorum := by
  cases here : reached votes quorum with
  | none =>
    cases there : reached others quorum with
    | none => rfl
    | some w =>
      obtain ⟨voted,many⟩ := reached_some there
      have few := reached_none here (permuted.mem_iff.mpr voted)
      rw [permuted.count_eq] at few
      omega
  | some v =>
    obtain ⟨voted,many⟩ := reached_some here
    cases there : reached others quorum with
    | none =>
      have few := reached_none there (permuted.mem_iff.mp voted)
      rw [← permuted.count_eq] at few
      omega
    | some w =>
      obtain ⟨_,many'⟩ := reached_some there
      rw [← permuted.count_eq] at many'
      rw [one_majority strict many many']

-- More than half of the voters answer yes.
def Most (voters : List β) (yes : β → Bool) : Prop := (voters.filter yes).length*2 > voters.length

instance (voters : List β) (yes : β → Bool) : Decidable (Most voters yes) := inferInstanceAs (Decidable (_ > _))

omit [DecidableEq α] in
theorem most_perm {voters others : List α} {yes : α → Bool} (permuted : voters.Perm others) : Most voters yes ↔ Most others yes := by
  unfold Most
  rw [(permuted.filter yes).length_eq,permuted.length_eq]

omit [DecidableEq α] in
theorem Most.mono {voters : List α} {yes also : α → Bool} (most : Most voters yes) (implied : ∀ voter ∈ voters, yes voter = true → also voter = true) :
    Most voters also := by
  have more : (voters.filter yes).length ≤ (voters.filter also).length := by
    rw [← List.countP_eq_length_filter,← List.countP_eq_length_filter]
    exact List.countP_mono_left implied
  unfold Most at most ⊢
  omega

omit [DecidableEq α] in
theorem Most.some {voters : List α} {yes : α → Bool} (most : Most voters yes) : ∃ voter ∈ voters, yes voter = true := by
  unfold Most at most
  have positive : 0 < (voters.filter yes).length := by omega
  obtain ⟨voter,inside⟩ := List.exists_mem_of_length_pos positive
  exact ⟨voter,List.mem_filter.mp inside⟩

omit [DecidableEq α] in
theorem most_all {voters : List α} {yes : α → Bool} (some_voter : voters ≠ []) (all : ∀ voter ∈ voters, yes voter = true) :
    Most voters yes := by
  unfold Most
  rw [List.filter_eq_self.mpr all]
  have := List.length_pos_of_ne_nil some_voter
  omega

end FlaconVault.Votes
