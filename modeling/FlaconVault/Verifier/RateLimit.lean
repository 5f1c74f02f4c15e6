import FlaconVault.Lib.Lowest
import FlaconVault.Lib.Runs
import FlaconVault.Lib.Tables
namespace FlaconVault.Verifier

-- The tokens a client had left when its bucket was last brought up to date.
structure TokenBucket where
  tokens : ℚ
  refilledAt : ℚ
deriving DecidableEq

-- The dictionary of the limiter, in the order of insertion.
abbrev Buckets (κ : Type*) := Table (Prod.fst : κ × TokenBucket → κ)

structure RateLimiter where
  capacity : ℚ
  rate : ℚ
  maxKeys : ℕ

-- int(), which cuts towards zero.
def truncated (value : ℚ) : ℤ := if 0 ≤ value then ⌊value⌋ else ⌈value⌉

namespace RateLimiter
variable {κ : Type*} [DecidableEq κ] (limiter : RateLimiter) (buckets : Buckets κ)

def perMinute (n : ℚ) (maxKeys : ℕ) : RateLimiter := ⟨n,n/60,maxKeys⟩

def isFull (now : ℚ) (entry : κ × TokenBucket) : Bool :=
  limiter.capacity ≤ entry.2.tokens+(now-entry.2.refilledAt)*limiter.rate

-- The buckets dropped when there are still too many: the half that was refilled longest ago.
def oldestHalf (rows : List (κ × TokenBucket)) : List (κ × TokenBucket) :=
  Lowest.lowest (fun entry => entry.2.refilledAt) (rows.length/2) rows

def evict (now : ℚ) : Buckets κ :=
  let remaining := buckets.delete (limiter.isFull now)
  if limiter.maxKeys ≤ remaining.rows.length then
    remaining.delete fun entry => (oldestHalf remaining.rows).any fun dropped => dropped.1 = entry.1
  else remaining

-- The dictionary with the client's bucket refilled up to `now`, and that bucket.
def refilled (key : κ) (now : ℚ) : Buckets κ × TokenBucket :=
  match buckets.get key with
  | none =>
    let room := if limiter.maxKeys ≤ buckets.rows.length then limiter.evict buckets now else buckets
    let bucket := ⟨limiter.capacity,now⟩
    (room.put (key,bucket),bucket)
  | some entry =>
    let bucket := ⟨min limiter.capacity (entry.2.tokens+(now-entry.2.refilledAt)*limiter.rate),now⟩
    (buckets.put (key,bucket),bucket)

def hit (key : κ) (cost now : ℚ) : Buckets κ × Bool :=
  let refreshed := limiter.refilled buckets key now
  if cost ≤ refreshed.2.tokens then
    (refreshed.1.put (key,{refreshed.2 with tokens := refreshed.2.tokens-cost}),true)
  else (refreshed.1,false)

def retryAfter (key : κ) (cost : ℚ) : ℤ :=
  let missing := cost-((buckets.get key).map fun entry => entry.2.tokens).getD 0
  if 0 < limiter.rate then max 1 (truncated (missing/limiter.rate)+1) else 60

-- The tokens a client can spend at a time. A client without a bucket can spend a full one.
def level (key : κ) (time : ℚ) : ℚ :=
  match buckets.get key with
  | none => limiter.capacity
  | some entry => min limiter.capacity (entry.2.tokens+(time-entry.2.refilledAt)*limiter.rate)

-- The dictionary a client's bucket is put into: its creation may evict others.
def room (key : κ) (now : ℚ) : Buckets κ :=
  if buckets.get key = none ∧ limiter.maxKeys ≤ buckets.rows.length then limiter.evict buckets now else buckets

variable {limiter buckets}

theorem refilled_parts (key : κ) (now : ℚ) :
    limiter.refilled buckets key now =
      ((limiter.room buckets key now).put (key,⟨limiter.level buckets key now,now⟩),⟨limiter.level buckets key now,now⟩) := by
  unfold refilled room level
  cases found : buckets.get key with
  | none => simp
  | some entry => simp

theorem hit_accepted (key : κ) (cost now : ℚ) :
    (limiter.hit buckets key cost now).2 = decide (cost ≤ limiter.level buckets key now) := by
  unfold hit
  rw [refilled_parts]
  dsimp only
  split
  · rename_i enough
    simp [enough]
  · rename_i short
    simp [short]

-- What a call leaves the client with.
def remainder (buckets : Buckets κ) (limiter : RateLimiter) (key : κ) (cost now : ℚ) : ℚ :=
  if cost ≤ limiter.level buckets key now then limiter.level buckets key now-cost else limiter.level buckets key now

theorem get_hit (key : κ) (cost now : ℚ) (wanted : κ) :
    (limiter.hit buckets key cost now).1.get wanted =
      if wanted = key then some (key,⟨remainder buckets limiter key cost now,now⟩)
      else (limiter.room buckets key now).get wanted := by
  unfold hit remainder
  rw [refilled_parts]
  dsimp only
  split
  · by_cases here : wanted = key
    · simp [here,Table.get_put]
    · simp [here,Table.get_put]
  · by_cases here : wanted = key
    · simp [here,Table.get_put]
    · simp [here,Table.get_put]

variable (limiter buckets) in
theorem level_le (key : κ) (time : ℚ) : limiter.level buckets key time ≤ limiter.capacity := by
  unfold level
  split
  · exact le_refl _
  · exact min_le_left _ _

theorem level_none {key : κ} (absent : buckets.get key = none) (time : ℚ) : limiter.level buckets key time = limiter.capacity := by
  simp [level,absent]

theorem level_some {key : κ} {entry : κ × TokenBucket} (found : buckets.get key = some entry) (time : ℚ) :
    limiter.level buckets key time = min limiter.capacity (entry.2.tokens+(time-entry.2.refilledAt)*limiter.rate) := by
  simp [level,found]

theorem level_full {key : κ} {entry : κ × TokenBucket} (found : buckets.get key = some entry) {time : ℚ}
    (full : limiter.isFull time entry = true) : limiter.level buckets key time = limiter.capacity := by
  rw [level_some found]
  exact min_eq_left (of_decide_eq_true full)

theorem level_congr {other : Buckets κ} {key : κ} (same : buckets.get key = other.get key) (time : ℚ) :
    limiter.level buckets key time = limiter.level other key time := by
  simp only [level,same]

-- In the time that passes a level rises by what is refilled, and by no more.
theorem level_rises (refills : 0 ≤ limiter.rate) (key : κ) {earlier later : ℚ} (ordered : earlier ≤ later) :
    limiter.level buckets key earlier ≤ limiter.level buckets key later ∧
      limiter.level buckets key later ≤ limiter.level buckets key earlier+limiter.rate*(later-earlier) := by
  have refill : 0 ≤ limiter.rate*(later-earlier) := mul_nonneg refills (sub_nonneg.mpr ordered)
  cases found : buckets.get key with
  | none =>
    rw [level_none found,level_none found]
    exact ⟨le_refl _,le_add_of_nonneg_right refill⟩
  | some entry =>
    rw [level_some found,level_some found]
    have sum : (later-entry.2.refilledAt)*limiter.rate =
        (earlier-entry.2.refilledAt)*limiter.rate+limiter.rate*(later-earlier) := by ring
    rw [sum]
    constructor
    · exact min_le_min (le_refl _) (by linarith)
    · rw [← min_add_add_right]
      exact min_le_min (by linarith) (by linarith)

omit [DecidableEq κ] in
theorem isFull_later (refills : 0 ≤ limiter.rate) {earlier later : ℚ} (ordered : earlier ≤ later) {entry : κ × TokenBucket}
    (full : limiter.isFull earlier entry = true) : limiter.isFull later entry = true := by
  unfold isFull at full ⊢
  have := mul_le_mul_of_nonneg_right (sub_le_sub_right ordered entry.2.refilledAt) refills
  simp only [decide_eq_true_eq] at full ⊢
  linarith

-- The buckets worth keeping.
def remaining (buckets : Buckets κ) (limiter : RateLimiter) (now : ℚ) : Buckets κ := buckets.delete (limiter.isFull now)

theorem get_remaining (now : ℚ) (key : κ) :
    (remaining buckets limiter now).get key = (buckets.get key).filter (!limiter.isFull now ·) := Table.get_delete

theorem level_remaining (key : κ) (now : ℚ) :
    limiter.level (remaining buckets limiter now) key now = limiter.level buckets key now := by
  cases found : buckets.get key with
  | none =>
    have absent : (remaining buckets limiter now).get key = none := by simp [get_remaining,found]
    rw [level_none found,level_none absent]
  | some entry =>
    cases full : limiter.isFull now entry with
    | true =>
      have absent : (remaining buckets limiter now).get key = none := by simp [get_remaining,found,full]
      rw [level_full found full,level_none absent]
    | false =>
      have kept : (remaining buckets limiter now).get key = some entry := by simp [get_remaining,found,full]
      exact level_congr (kept.trans found.symm) now

-- Dropping the oldest half.
def halved (buckets : Buckets κ) : Buckets κ :=
  buckets.delete fun entry => (oldestHalf buckets.rows).any fun dropped => dropped.1 = entry.1

-- When a call drops the oldest half.
def Halves (buckets : Buckets κ) (limiter : RateLimiter) (key : κ) (now : ℚ) : Prop :=
  buckets.get key = none ∧ limiter.maxKeys ≤ buckets.rows.length ∧ limiter.maxKeys ≤ (remaining buckets limiter now).rows.length

instance (key : κ) (now : ℚ) : Decidable (Halves buckets limiter key now) :=
  inferInstanceAs (Decidable (_ ∧ _ ∧ _))

variable (limiter buckets) in
theorem room_cases (key : κ) (now : ℚ) :
    (buckets.get key ≠ none ∨ buckets.rows.length < limiter.maxKeys) ∧ limiter.room buckets key now = buckets ∨
    buckets.get key = none ∧ (remaining buckets limiter now).rows.length < limiter.maxKeys ∧
      limiter.room buckets key now = remaining buckets limiter now ∨
    Halves buckets limiter key now ∧ limiter.room buckets key now = halved (remaining buckets limiter now) := by
  unfold room
  by_cases crowded : buckets.get key = none ∧ limiter.maxKeys ≤ buckets.rows.length
  · rw [if_pos crowded]
    by_cases still : limiter.maxKeys ≤ (remaining buckets limiter now).rows.length
    · exact .inr (.inr ⟨⟨crowded.1,crowded.2,still⟩,if_pos still⟩)
    · exact .inr (.inl ⟨crowded.1,not_le.mp still,if_neg still⟩)
  · rw [if_neg crowded]
    refine .inl ⟨?_,rfl⟩
    by_cases absent : buckets.get key = none
    · exact .inr (not_le.mp fun many => crowded ⟨absent,many⟩)
    · exact .inl absent

variable (limiter buckets) in
-- An entry stays as it is or goes.
theorem get_room (key : κ) (now : ℚ) (wanted : κ) :
    (limiter.room buckets key now).get wanted = buckets.get wanted ∨ (limiter.room buckets key now).get wanted = none := by
  have goes : ∀ (found : Option (κ × TokenBucket)) (kept : κ × TokenBucket → Bool), found.filter kept = found ∨ found.filter kept = none := by
    intro found kept
    cases found with
    | none => exact .inl rfl
    | some entry => cases held : kept entry <;> simp [held]
  rcases room_cases limiter buckets key now with ⟨_,same⟩ | ⟨_,_,same⟩ | ⟨_,same⟩
  · exact .inl (by rw [same])
  · rw [same,get_remaining]
    exact goes _ _
  · rw [same,halved,Table.get_delete,get_remaining]
    rcases goes (buckets.get wanted) (!limiter.isFull now ·) with kept | gone
    · rw [kept]
      exact goes _ _
    · exact .inr (by rw [gone]; rfl)

-- What every run keeps true of the buckets: no debt, and no refill ahead of the clock.
def Sound (buckets : Buckets κ) (time : ℚ) : Prop :=
  ∀ key entry, buckets.get key = some entry → 0 ≤ entry.2.tokens ∧ entry.2.refilledAt ≤ time

theorem Sound.level_nonneg {time now : ℚ} (sound : Sound buckets time) (later : time ≤ now) (room : 0 ≤ limiter.capacity)
    (refills : 0 ≤ limiter.rate) (key : κ) : 0 ≤ limiter.level buckets key now := by
  cases found : buckets.get key with
  | none => exact level_none found now ▸ room
  | some entry =>
    rw [level_some found]
    obtain ⟨tokens,earlier⟩ := sound key entry found
    have := mul_nonneg (sub_nonneg.mpr (earlier.trans later)) refills
    exact le_min room (by linarith)

theorem Sound.hit {time now : ℚ} (sound : Sound buckets time) (later : time ≤ now) (room : 0 ≤ limiter.capacity)
    (refills : 0 ≤ limiter.rate) (key : κ) (cost : ℚ) : Sound (limiter.hit buckets key cost now).1 now := by
  intro wanted entry found
  rw [get_hit] at found
  split at found
  · cases found
    refine ⟨?_,le_refl _⟩
    have := sound.level_nonneg later room refills key
    unfold remainder
    split
    · linarith
    · exact this
  · rcases get_room limiter buckets key now wanted with same | gone
    · obtain ⟨tokens,earlier⟩ := sound wanted entry (same.symm.trans found)
      exact ⟨tokens,earlier.trans later⟩
    · rw [gone] at found
      cases found

omit [DecidableEq κ] in
theorem length_delete_le (buckets : Buckets κ) (chosen : κ × TokenBucket → Bool) : (buckets.delete chosen).rows.length ≤ buckets.rows.length :=
  List.length_filter_le _ _

-- Half of two or more entries is at least one.
theorem length_halved (many : 2 ≤ buckets.rows.length) : (halved buckets).rows.length < buckets.rows.length := by
  have dropped : (oldestHalf buckets.rows).length = buckets.rows.length/2 := Lowest.length_lowest (Nat.div_le_self _ _)
  obtain ⟨entry,inside⟩ := List.exists_mem_of_length_pos (l := oldestHalf buckets.rows) (by omega)
  refine List.length_filter_lt_length_iff_exists.mpr ⟨entry,Lowest.mem_of_mem_lowest inside,?_⟩
  simp only [Bool.not_eq_true',Bool.not_eq_false,List.any_eq_true,decide_eq_true_eq]
  exact ⟨entry,inside,rfl⟩

theorem length_room (two : 2 ≤ limiter.maxKeys) (bounded : buckets.rows.length ≤ limiter.maxKeys) {key : κ} (now : ℚ)
    (fresh : buckets.get key = none) : (limiter.room buckets key now).rows.length < limiter.maxKeys := by
  rcases room_cases limiter buckets key now with ⟨free,same⟩ | ⟨_,few,same⟩ | ⟨⟨_,_,many⟩,same⟩
  · rw [same]
    exact free.resolve_left (not_not.mpr fresh)
  · exact same ▸ few
  · rw [same]
    have := length_halved (two.trans many)
    have := length_delete_le buckets (limiter.isFull now)
    unfold remaining at *
    omega

theorem length_hit (two : 2 ≤ limiter.maxKeys) (bounded : buckets.rows.length ≤ limiter.maxKeys) (key : κ) (cost now : ℚ) :
    (limiter.hit buckets key cost now).1.rows.length ≤ limiter.maxKeys := by
  have refreshed : ((limiter.room buckets key now).put (key,⟨limiter.level buckets key now,now⟩)).rows.length ≤ limiter.maxKeys := by
    rw [Table.length_put]
    by_cases fresh : buckets.get key = none
    · have := length_room two bounded now fresh
      split <;> omega
    · have same : limiter.room buckets key now = buckets := if_neg fun crowded => fresh crowded.1
      rw [same,if_neg fresh]
      exact bounded
  unfold hit
  rw [refilled_parts]
  dsimp only
  split
  · rw [Table.length_put]
    simpa [Table.get_put] using refreshed
  · exact refreshed

end RateLimiter
end FlaconVault.Verifier
