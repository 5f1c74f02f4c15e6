import FlaconVault.Verifier.RateLimit
namespace FlaconVault.Verifier

structure Call (κ : Type*) where
  key : κ
  cost : ℚ
  now : ℚ
  positive : 0 < cost

-- Calls under a clock that never goes back.
structure Traffic (κ : Type*) where
  calls : ℕ → Call κ
  steady : ∀ n, (calls n).now ≤ (calls (n+1)).now

structure RefillingLimiter extends RateLimiter where
  holds : 0 < capacity
  refills : 0 < rate

namespace RateLimiter
variable {κ : Type*} [DecidableEq κ] (limiter : RateLimiter)

def called (call : Call κ) (buckets : Buckets κ) : Buckets κ := (limiter.hit buckets call.key call.cost call.now).1
def answer (call : Call κ) (buckets : Buckets κ) : Bool := (limiter.hit buckets call.key call.cost call.now).2

-- The buckets before call number `n`, from given ones and from none.
def bucketsFrom (start : Buckets κ) (calls : ℕ → Call κ) : ℕ → Buckets κ := Runs.reached limiter.called start calls
def bucketsAt (calls : ℕ → Call κ) : ℕ → Buckets κ := limiter.bucketsFrom Table.empty calls

def accepted (calls : ℕ → Call κ) (n : ℕ) : Bool := limiter.answer (calls n) (limiter.bucketsAt calls n)

-- What a client was granted inside a window of time by the calls before number `n`.
def granted (calls : ℕ → Call κ) (key : κ) (opens closes : ℚ) (n : ℕ) : ℚ :=
  ∑ i ∈ Finset.range n,
    if (calls i).key = key ∧ opens ≤ (calls i).now ∧ (calls i).now ≤ closes ∧ limiter.accepted calls i then (calls i).cost else 0

-- Call number `n` throws out a bucket that is not full.
def Robs (calls : ℕ → Call κ) (key : κ) (n : ℕ) : Prop :=
  ∃ entry, (limiter.bucketsAt calls n).get key = some entry ∧ limiter.isFull (calls n).now entry = false ∧
    (limiter.bucketsAt calls (n+1)).get key = none

-- Dropping the oldest half, where the call does so, meets no two buckets refilled at one moment on either side of the cut.
def CleanCut (call : Call κ) (buckets : Buckets κ) : Prop :=
  Halves buckets limiter call.key call.now →
    Lowest.Separated (fun entry => entry.2.refilledAt) ((remaining buckets limiter call.now).rows.length/2)
      (remaining buckets limiter call.now).rows

-- Two dictionaries that hold the same buckets that are not full.
def Similar (now : ℚ) (buckets other : Buckets κ) : Prop :=
  ∀ key, (remaining buckets limiter now).get key = (remaining other limiter now).get key

variable {limiter}

theorem Similar.level {now : ℚ} {buckets other : Buckets κ} (similar : limiter.Similar now buckets other) (key : κ) :
    limiter.level buckets key now = limiter.level other key now := by
  have here : limiter.level (remaining buckets limiter now) key now = limiter.level buckets key now := level_remaining key now
  have there : limiter.level (remaining other limiter now) key now = limiter.level other key now := level_remaining key now
  rw [← here,← there]
  exact level_congr (similar key) now

theorem Similar.answer {call : Call κ} {buckets other : Buckets κ} (similar : limiter.Similar call.now buckets other) :
    limiter.answer call buckets = limiter.answer call other := by
  unfold RateLimiter.answer
  rw [hit_accepted,hit_accepted,similar.level]

theorem Similar.later {earlier later : ℚ} (refills : 0 ≤ limiter.rate) (ordered : earlier ≤ later) {buckets other : Buckets κ}
    (similar : limiter.Similar earlier buckets other) : limiter.Similar later buckets other := by
  have twice : ∀ (some_buckets : Buckets κ) key, (remaining some_buckets limiter later).get key =
      ((remaining some_buckets limiter earlier).get key).filter (!limiter.isFull later ·) := by
    intro some_buckets key
    rw [get_remaining,get_remaining,Option.filter_filter]
    congr 1
    funext entry
    cases full : limiter.isFull earlier entry with
    | true => simp [isFull_later refills ordered full]
    | false => simp
  intro key
  rw [twice,twice,similar key]

theorem room_remaining {buckets : Buckets κ} (key : κ) (now : ℚ) (wanted : κ) :
    (remaining (limiter.room buckets key now) limiter now).get wanted =
      if Halves buckets limiter key now then (halved (remaining buckets limiter now)).get wanted
      else (remaining buckets limiter now).get wanted := by
  rcases room_cases limiter buckets key now with ⟨free,same⟩ | ⟨_,few,same⟩ | ⟨halves,same⟩
  · have whole : ¬Halves buckets limiter key now := by
      intro halves
      rcases free with taken | few
      · exact taken halves.1
      · exact absurd halves.2.1 (not_le.mpr few)
    rw [same,if_neg whole]
  · rw [same,if_neg fun halves => absurd halves.2.2 (not_le.mpr few),get_remaining,get_remaining,Option.filter_filter]
    simp
  · rw [same,if_pos halves]
    simp only [halved,get_remaining,Table.get_delete,Option.filter_filter]
    congr 1
    funext entry
    cases limiter.isFull now entry <;> simp

theorem Similar.halves {now : ℚ} {buckets other : Buckets κ} (similar : limiter.Similar now buckets other)
    (bounded : buckets.rows.length ≤ limiter.maxKeys) {key : κ} (halves : Halves other limiter key now)  :
    Halves buckets limiter key now := by
  obtain ⟨absent,_,many⟩ := halves
  have lengths := (Table.perm_of_get similar).length_eq
  have below := length_delete_le buckets (limiter.isFull now)
  have all : (remaining buckets limiter now).rows.length = buckets.rows.length := by
    unfold remaining at *
    omega
  have none_full : (remaining buckets limiter now).rows = buckets.rows :=
    List.filter_eq_self.mpr (List.length_filter_eq_length_iff.mp all)
  refine ⟨?_,by omega,by omega⟩
  have gone : (remaining buckets limiter now).get key = none := by
    rw [similar key,get_remaining,absent]
    rfl
  unfold Table.get at gone ⊢
  rw [none_full] at gone
  exact gone

theorem Similar.halved {now : ℚ} {buckets other : Buckets κ} (similar : limiter.Similar now buckets other)
    (separated : Lowest.Separated (fun entry => entry.2.refilledAt) ((remaining buckets limiter now).rows.length/2)
      (remaining buckets limiter now).rows) (key : κ) :
    (RateLimiter.halved (remaining buckets limiter now)).get key = (RateLimiter.halved (remaining other limiter now)).get key := by
  have permuted := Table.perm_of_get similar
  have members : ∀ entry, entry ∈ oldestHalf (remaining buckets limiter now).rows ↔
      entry ∈ oldestHalf (remaining other limiter now).rows := by
    intro entry
    unfold oldestHalf
    rw [← permuted.length_eq]
    exact Lowest.lowest_perm permuted separated entry
  unfold RateLimiter.halved
  rw [Table.get_delete,Table.get_delete,similar key]
  congr 1
  funext entry
  rw [Bool.eq_iff_iff]
  simp [members]

theorem Similar.called {call : Call κ} {buckets other : Buckets κ} (similar : limiter.Similar call.now buckets other)
    (bounded : buckets.rows.length ≤ limiter.maxKeys) (bounded' : other.rows.length ≤ limiter.maxKeys)
    (clean : limiter.CleanCut call buckets) :
    limiter.Similar call.now (limiter.called call buckets) (limiter.called call other) := by
  intro wanted
  unfold RateLimiter.called
  rw [get_remaining,get_remaining,get_hit,get_hit]
  by_cases own : wanted = call.key
  · have same : remainder buckets limiter call.key call.cost call.now = remainder other limiter call.key call.cost call.now := by
      unfold remainder
      rw [similar.level]
    rw [if_pos own,if_pos own,same]
  · have backwards : limiter.Similar call.now other buckets := fun key => (similar key).symm
    rw [if_neg own,if_neg own,← get_remaining,← get_remaining,room_remaining,room_remaining]
    by_cases halves : Halves buckets limiter call.key call.now
    · rw [if_pos halves,if_pos (backwards.halves bounded' halves)]
      exact similar.halved (clean halves) wanted
    · rw [if_neg halves,if_neg fun there => halves (similar.halves bounded there)]
      exact similar wanted

theorem bucketsAt_succ (calls : ℕ → Call κ) (n : ℕ) :
    limiter.bucketsAt calls (n+1) = limiter.called (calls n) (limiter.bucketsAt calls n) := rfl

theorem bucketsAt_add (calls : ℕ → Call κ) (n m : ℕ) :
    limiter.bucketsAt calls (n+m) = limiter.bucketsFrom (limiter.bucketsAt calls n) (fun i => calls (n+i)) m := by
  induction m with
  | zero => rfl
  | succ m ih =>
    rw [← Nat.add_assoc,bucketsAt_succ,ih]
    rfl

theorem bucketsFrom_sized (two : 2 ≤ limiter.maxKeys) {start : Buckets κ} (bounded : start.rows.length ≤ limiter.maxKeys)
    (calls : ℕ → Call κ) (n : ℕ) : (limiter.bucketsFrom start calls n).rows.length ≤ limiter.maxKeys :=
  Runs.invariant (P := fun buckets : Buckets κ => buckets.rows.length ≤ limiter.maxKeys) bounded
    (fun (call : Call κ) _ sized => length_hit two sized call.key call.cost call.now) n

theorem bucketsAt_sized (two : 2 ≤ limiter.maxKeys) (calls : ℕ → Call κ) (n : ℕ) :
    (limiter.bucketsAt calls n).rows.length ≤ limiter.maxKeys :=
  bucketsFrom_sized two (Nat.zero_le _) calls n

-- Two similar dictionaries stay so, call after call, as long as the cuts are clean.
theorem Similar.run (calls : ℕ → Call κ) {start other : Buckets κ} (similar : limiter.Similar (calls 0).now start other)
    (refills : 0 ≤ limiter.rate) (two : 2 ≤ limiter.maxKeys) (steady : ∀ i, (calls i).now ≤ (calls (i+1)).now)
    (bounded : start.rows.length ≤ limiter.maxKeys) (bounded' : other.rows.length ≤ limiter.maxKeys) {m : ℕ}
    (clean : ∀ i < m, limiter.CleanCut (calls i) (limiter.bucketsFrom start calls i)) :
    limiter.Similar (calls m).now (limiter.bucketsFrom start calls m) (limiter.bucketsFrom other calls m) := by
  induction m with
  | zero => exact similar
  | succ m ih =>
    have before := ih fun i below => clean i (by omega)
    have after := before.called (bucketsFrom_sized two bounded calls m) (bucketsFrom_sized two bounded' calls m) (clean m (by omega))
    exact after.later refills (steady m)

-- Forgetting full buckets is not seen.
theorem similar_of_full {buckets : Buckets κ} {chosen : κ → Bool} {now : ℚ}
    (full : ∀ key entry, buckets.get key = some entry → chosen key = true → limiter.isFull now entry = true) :
    limiter.Similar now buckets (buckets.delete fun entry => chosen entry.1) := by
  intro key
  rw [get_remaining,get_remaining,Table.get_delete,Option.filter_filter]
  cases found : buckets.get key with
  | none => rfl
  | some entry =>
    have named : entry.1 = key := (Table.get_some.mp found).2
    cases gone : chosen key with
    | false => simp [Option.filter,named,gone]
    | true => simp [Option.filter,full key entry found gone]

-- Under a clock that moves on with every call no two buckets were refilled at one moment.
def Ticked (buckets : Buckets κ) (now : ℚ) : Prop :=
  (∀ key entry, buckets.get key = some entry → entry.2.refilledAt < now) ∧
    ∀ key entry key' entry', buckets.get key = some entry → buckets.get key' = some entry' →
      entry.2.refilledAt = entry'.2.refilledAt → key = key'

theorem Ticked.called {call : Call κ} {buckets : Buckets κ} (ticked : Ticked buckets call.now) {later : ℚ}
    (moves : call.now < later) : Ticked (limiter.called call buckets) later := by
  obtain ⟨past,apart⟩ := ticked
  have old : ∀ {key entry}, (limiter.called call buckets).get key = some entry → key ≠ call.key → buckets.get key = some entry := by
    intro key entry found other
    unfold RateLimiter.called at found
    rw [get_hit,if_neg other] at found
    rcases get_room limiter buckets call.key call.now key with same | gone
    · exact same.symm.trans found
    · rw [gone] at found
      cases found
  have own : ∀ {entry}, (limiter.called call buckets).get call.key = some entry → entry.2.refilledAt = call.now := by
    intro entry found
    unfold RateLimiter.called at found
    rw [get_hit,if_pos rfl] at found
    cases found
    rfl
  constructor
  · intro key entry found
    by_cases here : key = call.key
    · subst here
      exact (own found).trans_lt moves
    · exact (past key entry (old found here)).trans moves
  · intro key entry key' entry' found found' same
    by_cases here : key = call.key
    · by_cases there : key' = call.key
      · exact here.trans there.symm
      · subst here
        have := past key' entry' (old found' there)
        rw [← same,own found] at this
        exact absurd this (lt_irrefl _)
    · by_cases there : key' = call.key
      · subst there
        have := past key entry (old found here)
        rw [same,own found'] at this
        exact absurd this (lt_irrefl _)
      · exact apart key entry key' entry' (old found here) (old found' there) same

theorem Ticked.clean {call : Call κ} {buckets : Buckets κ} (ticked : Ticked buckets call.now) : limiter.CleanCut call buckets := by
  intro _
  refine Lowest.separated_of_nodup ?_ _
  refine List.Nodup.map_on ?_ (remaining buckets limiter call.now).unique.of_map
  intro entry inside entry' inside' same
  have inside := (Table.mem_delete.mp inside).1
  have inside' := (Table.mem_delete.mp inside').1
  have := ticked.2 _ entry _ entry' (Table.get_of_mem inside) (Table.get_of_mem inside') same
  exact Table.same_row inside inside' this

theorem ticking_clean {calls : ℕ → Call κ} (ticks : ∀ i, (calls i).now < (calls (i+1)).now) (n : ℕ) :
    limiter.CleanCut (calls n) (limiter.bucketsAt calls n) := by
  have ticked : ∀ n, Ticked (limiter.bucketsAt calls n) (calls n).now := by
    intro n
    induction n with
    | zero => exact ⟨fun _ _ found => (by cases found),fun _ _ _ _ found => (by cases found)⟩
    | succ n ih => exact ih.called (ticks n)
  exact (ticked n).clean

theorem granted_succ (calls : ℕ → Call κ) (key : κ) (opens closes : ℚ) (n : ℕ) :
    limiter.granted calls key opens closes (n+1) = limiter.granted calls key opens closes n +
      if (calls n).key = key ∧ opens ≤ (calls n).now ∧ (calls n).now ≤ closes ∧ limiter.accepted calls n then (calls n).cost else 0 :=
  Finset.sum_range_succ _ n

theorem called_own (call : Call κ) (buckets : Buckets κ) {time : ℚ} :
    limiter.level (limiter.called call buckets) call.key time =
      min limiter.capacity (remainder buckets limiter call.key call.cost call.now+(time-call.now)*limiter.rate) := by
  have found : (limiter.called call buckets).get call.key =
      some (call.key,⟨remainder buckets limiter call.key call.cost call.now,call.now⟩) := by
    unfold called
    rw [get_hit,if_pos rfl]
  rw [level_some found]

variable (limiter) in
theorem called_other {call : Call κ} (buckets : Buckets κ) {key : κ} (other : key ≠ call.key) :
    (limiter.called call buckets).get key = buckets.get key ∨ (limiter.called call buckets).get key = none := by
  unfold called
  rw [get_hit,if_neg other]
  exact get_room limiter buckets call.key call.now key

end RateLimiter

section runs
variable {κ : Type*} [DecidableEq κ] (limiter : RefillingLimiter) (traffic : Traffic κ)

omit [DecidableEq κ] in
theorem steady_le {i j : ℕ} (ordered : i ≤ j) : (traffic.calls i).now ≤ (traffic.calls j).now :=
  monotone_nat_of_le_succ traffic.steady ordered

open RateLimiter

-- Three calls a minute: the fourth waits until a token is back.
example : (List.range 6).map ((RateLimiter.perMinute 3 10).accepted fun
    | 4 => ⟨"a",1,20,by decide +kernel⟩
    | 5 => ⟨"a",1,20,by decide +kernel⟩
    | _ => ⟨"a",1,0,by decide +kernel⟩) = [true,true,true,false,true,false] := by decide +kernel

theorem sound_at : ∀ n, Sound (limiter.bucketsAt traffic.calls n) (traffic.calls n).now
  | 0 => fun _ _ found => by cases found
  | n+1 => by
    have after := (sound_at n).hit (le_refl _) limiter.holds.le limiter.refills.le (traffic.calls n).key (traffic.calls n).cost
    intro key entry found
    obtain ⟨tokens,earlier⟩ := after key entry found
    exact ⟨tokens,earlier.trans (traffic.steady n)⟩

-- What was granted since the window opened and what can still be spent come out of one full bucket and its refill.
theorem granted_level {key : κ} {opens closes : ℚ} {n : ℕ}
    (kept : ∀ i < n, opens ≤ (traffic.calls i).now → (traffic.calls i).now ≤ closes → ¬limiter.Robs traffic.calls key i)
    {time : ℚ} (open_now : opens ≤ time) (before : time ≤ closes) (past : ∀ i < n, (traffic.calls i).now ≤ time) :
    limiter.granted traffic.calls key opens closes n+limiter.level (limiter.bucketsAt traffic.calls n) key time ≤
      limiter.capacity+limiter.rate*(time-opens) := by
  induction n generalizing time with
  | zero =>
    have := level_le limiter.toRateLimiter (limiter.bucketsAt traffic.calls 0) key time
    have := mul_nonneg limiter.refills.le (sub_nonneg.mpr open_now)
    simp only [granted,Finset.range_zero,Finset.sum_empty]
    linarith
  | succ n ih =>
    have now_past := past n (Nat.lt_succ_self n)
    rw [granted_succ]
    by_cases inside : opens ≤ (traffic.calls n).now
    · have spent := ih (fun i below => kept i (by omega)) inside (now_past.trans before)
        fun i below => steady_le traffic (Nat.le_of_lt below)
      rw [bucketsAt_succ]
      by_cases own : key = (traffic.calls n).key
      · subst own
        rw [called_own]
        have top := min_le_right limiter.capacity (remainder (limiter.bucketsAt traffic.calls n) limiter.toRateLimiter
          (traffic.calls n).key (traffic.calls n).cost (traffic.calls n).now+(time-(traffic.calls n).now)*limiter.rate)
        have answered : limiter.accepted traffic.calls n = decide ((traffic.calls n).cost ≤
            limiter.level (limiter.bucketsAt traffic.calls n) (traffic.calls n).key (traffic.calls n).now) := hit_accepted _ _ _
        have within := now_past.trans before
        unfold remainder at top ⊢
        by_cases enough : (traffic.calls n).cost ≤
            limiter.level (limiter.bucketsAt traffic.calls n) (traffic.calls n).key (traffic.calls n).now
        · have yes : limiter.accepted traffic.calls n = true := answered.trans (decide_eq_true enough)
          rw [if_pos ⟨rfl,inside,within,yes⟩]
          rw [if_pos enough] at top ⊢
          linarith
        · have no : ¬limiter.accepted traffic.calls n = true := by rw [answered]; simpa using enough
          rw [if_neg fun all => no all.2.2.2]
          rw [if_neg enough] at top ⊢
          linarith
      · rw [if_neg fun all => own all.1.symm]
        have same_level : limiter.level (limiter.called (traffic.calls n) (limiter.bucketsAt traffic.calls n)) key time ≤
            limiter.level (limiter.bucketsAt traffic.calls n) key (traffic.calls n).now+limiter.rate*(time-(traffic.calls n).now) := by
          rcases called_other limiter.toRateLimiter (limiter.bucketsAt traffic.calls n) own with same | gone
          · rw [level_congr same]
            exact (level_rises limiter.refills.le key now_past).2
          · have full : limiter.level (limiter.bucketsAt traffic.calls n) key (traffic.calls n).now = limiter.capacity := by
              cases found : (limiter.bucketsAt traffic.calls n).get key with
              | none => exact level_none found _
              | some entry =>
                cases whole : limiter.isFull (traffic.calls n).now entry with
                | true => exact level_full found whole
                | false => exact absurd ⟨entry,found,whole,gone⟩ (kept n (by omega) inside (now_past.trans before))
            have := mul_nonneg limiter.refills.le (sub_nonneg.mpr now_past)
            rw [level_none gone,full]
            linarith
        linarith
    · have nothing : limiter.granted traffic.calls key opens closes n = 0 := by
        refine Finset.sum_eq_zero ?_
        intro i below
        refine if_neg fun all => inside ?_
        exact all.2.1.trans (steady_le traffic (Nat.le_of_lt (Finset.mem_range.mp below)))
      have := level_le limiter.toRateLimiter (limiter.bucketsAt traffic.calls (n+1)) key time
      have := mul_nonneg limiter.refills.le (sub_nonneg.mpr open_now)
      rw [nothing,if_neg fun all => inside all.2.1]
      linarith

theorem granted_bound {key : κ} {opens closes : ℚ} (ordered : opens ≤ closes) {n : ℕ}
    (kept : ∀ i < n, opens ≤ (traffic.calls i).now → (traffic.calls i).now ≤ closes → ¬limiter.Robs traffic.calls key i) :
    limiter.granted traffic.calls key opens closes n ≤ limiter.capacity+limiter.rate*(closes-opens) := by
  induction n with
  | zero =>
    have := mul_nonneg limiter.refills.le (sub_nonneg.mpr ordered)
    have := limiter.holds
    simp only [granted,Finset.range_zero,Finset.sum_empty]
    linarith
  | succ n ih =>
    by_cases within : (traffic.calls n).now ≤ closes
    · have past : ∀ i < n+1, (traffic.calls i).now ≤ closes := fun i below => (steady_le traffic (by omega)).trans within
      have spent := granted_level limiter traffic kept ordered (le_refl _) past
      have debt_free : 0 ≤ limiter.level (limiter.bucketsAt traffic.calls (n+1)) key closes := by
        have after := (sound_at limiter traffic n).hit (le_refl _) limiter.holds.le limiter.refills.le (traffic.calls n).key
          (traffic.calls n).cost
        exact after.level_nonneg within limiter.holds.le limiter.refills.le key
      linarith
    · rw [granted_succ,if_neg fun all => within all.2.2.1,add_zero]
      exact ih fun i below => kept i (by omega)

-- A client that leaves its bucket alone keeps at least the level it had.
theorem level_waits {key : κ} {n m : ℕ} (ordered : n ≤ m) (unused : ∀ i, n ≤ i → i < m → (traffic.calls i).key ≠ key) (time : ℚ) :
    limiter.level (limiter.bucketsAt traffic.calls n) key time ≤ limiter.level (limiter.bucketsAt traffic.calls m) key time := by
  induction m, ordered using Nat.le_induction with
  | base => exact le_refl _
  | succ m later ih =>
    refine (ih fun i low high => unused i low (by omega)).trans ?_
    rw [bucketsAt_succ]
    rcases called_other limiter.toRateLimiter (limiter.bucketsAt traffic.calls m)
      (unused m later (Nat.lt_succ_self m)).symm with same | gone
    · exact (level_congr same time).ge
    · exact (level_none gone time).symm ▸ level_le _ _ key time

theorem truncated_covers {value : ℚ} (positive : 0 ≤ value) : value ≤ truncated value+1 := by
  rw [truncated,if_pos positive]
  exact (Int.lt_floor_add_one value).le

-- The waiting time reported after a refusal refills what was missing.
theorem retryAfter_covers {call : Call κ} {buckets : Buckets κ} (refused : limiter.answer call buckets = false) :
    call.cost-limiter.level buckets call.key call.now ≤
      limiter.rate*limiter.retryAfter (limiter.called call buckets) call.key call.cost := by
  have short : ¬call.cost ≤ limiter.level buckets call.key call.now := by
    unfold answer at refused
    rw [hit_accepted] at refused
    exact of_decide_eq_false refused
  have found : (limiter.called call buckets).get call.key = some (call.key,⟨limiter.level buckets call.key call.now,call.now⟩) := by
    unfold called
    rw [get_hit,if_pos rfl,remainder,if_neg short]
  have missing : 0 ≤ (call.cost-limiter.level buckets call.key call.now)/limiter.rate :=
    div_nonneg (sub_nonneg.mpr (not_le.mp short).le) limiter.refills.le
  have waits : (call.cost-limiter.level buckets call.key call.now)/limiter.rate ≤
      limiter.retryAfter (limiter.called call buckets) call.key call.cost := by
    unfold retryAfter
    rw [found,if_pos limiter.refills]
    have := le_max_right 1 (truncated ((call.cost-limiter.level buckets call.key call.now)/limiter.rate)+1)
    refine (truncated_covers missing).trans ?_
    exact_mod_cast this
  have := (div_le_iff₀ limiter.refills).mp waits
  linarith

theorem retry_accepted {n m : ℕ} (refused : limiter.accepted traffic.calls n = false) (fits : (traffic.calls n).cost ≤ limiter.capacity)
    (later : n < m) (unused : ∀ i, n < i → i < m → (traffic.calls i).key ≠ (traffic.calls n).key)
    (same : (traffic.calls m).key = (traffic.calls n).key ∧ (traffic.calls m).cost = (traffic.calls n).cost)
    (waited : (traffic.calls n).now+
      limiter.retryAfter (limiter.bucketsAt traffic.calls (n+1)) (traffic.calls n).key (traffic.calls n).cost ≤ (traffic.calls m).now) :
    limiter.accepted traffic.calls m = true := by
  have covers := retryAfter_covers limiter refused
  have short : ¬(traffic.calls n).cost ≤ limiter.level (limiter.bucketsAt traffic.calls n) (traffic.calls n).key (traffic.calls n).now := by
    unfold accepted answer at refused
    rw [hit_accepted] at refused
    exact of_decide_eq_false refused
  have kept := level_waits limiter traffic later unused (traffic.calls m).now
  rw [bucketsAt_succ] at waited
  have refilled : (traffic.calls n).cost ≤ limiter.level (limiter.bucketsAt traffic.calls (n+1)) (traffic.calls n).key (traffic.calls m).now := by
    rw [bucketsAt_succ,called_own,remainder,if_neg short]
    have passed := mul_le_mul_of_nonneg_left (sub_le_sub_right waited (traffic.calls n).now) limiter.refills.le
    refine le_min fits ?_
    rw [add_sub_cancel_left] at passed
    linarith
  unfold accepted answer
  rw [hit_accepted,same.1,same.2]
  exact decide_eq_true (refilled.trans kept)

-- Buckets that have refilled completely are thrown out before call number `n`: call number `n+m` is answered as it would
-- have been, if no earlier call had to choose between buckets refilled at one moment.
theorem unseen (two : 2 ≤ limiter.maxKeys) {n m : ℕ} {chosen : κ → Bool} {time : ℚ} (before : time ≤ (traffic.calls n).now)
    (full : ∀ key entry, (limiter.bucketsAt traffic.calls n).get key = some entry → chosen key = true → limiter.isFull time entry = true)
    (clean : ∀ i < m, limiter.CleanCut (traffic.calls (n+i)) (limiter.bucketsAt traffic.calls (n+i))) :
    limiter.accepted traffic.calls (n+m) = limiter.answer (traffic.calls (n+m))
      (limiter.bucketsFrom ((limiter.bucketsAt traffic.calls n).delete fun entry => chosen entry.1) (fun i => traffic.calls (n+i)) m) := by
  have similar := (similar_of_full full).later limiter.refills.le before
  have sized := bucketsAt_sized two traffic.calls n
  have sized' := (length_delete_le (limiter.bucketsAt traffic.calls n) fun entry => chosen entry.1).trans sized
  have clean : ∀ i < m, limiter.CleanCut (traffic.calls (n+i))
      (limiter.bucketsFrom (limiter.bucketsAt traffic.calls n) (fun i => traffic.calls (n+i)) i) := by
    intro i below
    rw [← bucketsAt_add]
    exact clean i below
  have run := Similar.run (fun i => traffic.calls (n+i)) similar limiter.refills.le two (fun i => traffic.steady (n+i)) sized sized' clean
  unfold accepted
  rw [bucketsAt_add]
  exact run.answer

end runs

structure RateLimitLaw (κ : Type*) [DecidableEq κ] : Prop where
  bounded : ∀ (limiter : RefillingLimiter) (traffic : Traffic κ) (key : κ) (opens closes : ℚ) (n : ℕ), opens ≤ closes →
    (∀ i < n, opens ≤ (traffic.calls i).now → (traffic.calls i).now ≤ closes → ¬limiter.Robs traffic.calls key i) →
    limiter.granted traffic.calls key opens closes n ≤ limiter.capacity+limiter.rate*(closes-opens)
  sized : ∀ (limiter : RefillingLimiter) (traffic : Traffic κ) (n : ℕ), 2 ≤ limiter.maxKeys →
    (limiter.bucketsAt traffic.calls n).rows.length ≤ limiter.maxKeys
  unseen : ∀ (limiter : RefillingLimiter) (traffic : Traffic κ) (n m : ℕ) (chosen : κ → Bool) (time : ℚ), 2 ≤ limiter.maxKeys →
    time ≤ (traffic.calls n).now →
    (∀ key entry, (limiter.bucketsAt traffic.calls n).get key = some entry → chosen key = true → limiter.isFull time entry = true) →
    (∀ i < m, limiter.CleanCut (traffic.calls (n+i)) (limiter.bucketsAt traffic.calls (n+i))) →
    limiter.accepted traffic.calls (n+m) = limiter.answer (traffic.calls (n+m))
      (limiter.bucketsFrom ((limiter.bucketsAt traffic.calls n).delete fun entry => chosen entry.1) (fun i => traffic.calls (n+i)) m)
  clean : ∀ (limiter : RefillingLimiter) (traffic : Traffic κ), (∀ i, (traffic.calls i).now < (traffic.calls (i+1)).now) →
    ∀ n, limiter.CleanCut (traffic.calls n) (limiter.bucketsAt traffic.calls n)
  waits : ∀ (limiter : RefillingLimiter) (traffic : Traffic κ) (n m : ℕ), limiter.accepted traffic.calls n = false →
    (traffic.calls n).cost ≤ limiter.capacity → n < m →
    (∀ i, n < i → i < m → (traffic.calls i).key ≠ (traffic.calls n).key) →
    (traffic.calls m).key = (traffic.calls n).key ∧ (traffic.calls m).cost = (traffic.calls n).cost →
    (traffic.calls n).now+limiter.retryAfter (limiter.bucketsAt traffic.calls (n+1)) (traffic.calls n).key (traffic.calls n).cost ≤
      (traffic.calls m).now →
    limiter.accepted traffic.calls m = true

theorem rate_limit_law {κ : Type*} [DecidableEq κ] : RateLimitLaw κ where
  bounded limiter traffic _ _ _ _ ordered kept := granted_bound limiter traffic ordered kept
  sized _ traffic n two := RateLimiter.bucketsAt_sized two traffic.calls n
  unseen limiter traffic _ _ _ _ two before full clean := unseen limiter traffic two before full clean
  clean _ _ ticks n := RateLimiter.ticking_clean ticks n
  waits limiter traffic _ _ refused fits later unused same waited := retry_accepted limiter traffic refused fits later unused same waited

-- Two buckets at most, two tokens each, one token a second. After `a` has refilled, `b`, `a` and `c` call at one moment:
-- the bucket of `c` takes the place of the one that is first in the dictionary, `a`'s if it was kept and `b`'s if not.
def cramped : RefillingLimiter := ⟨⟨2,1,2⟩,by decide +kernel,by decide +kernel⟩

def rush : Traffic String where
  calls
    | 0 => ⟨"a",1,0,by decide +kernel⟩
    | 1 => ⟨"b",1,5,by decide +kernel⟩
    | 2 => ⟨"a",1,5,by decide +kernel⟩
    | 3 => ⟨"c",1,5,by decide +kernel⟩
    | _ => ⟨"a",2,5,by decide +kernel⟩
  steady
    | 0 => by decide +kernel
    | 1 => by decide +kernel
    | 2 => by decide +kernel
    | 3 => by decide +kernel
    | _+4 => le_refl _

theorem full_bucket_missed :
    2 ≤ cramped.maxKeys ∧ (∀ entry ∈ (cramped.bucketsAt rush.calls 1).rows, entry.1 = "a" → cramped.isFull 5 entry = true) ∧
      cramped.accepted rush.calls 4 = true ∧
      cramped.answer (rush.calls 4) (cramped.bucketsFrom ((cramped.bucketsAt rush.calls 1).delete fun entry => entry.1 = "a")
        (fun i => rush.calls (1+i)) 3) = false := by
  decide +kernel

end FlaconVault.Verifier
