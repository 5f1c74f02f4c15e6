import Mathlib
namespace FlaconVault.Web

-- A tap handed from one browser tab to another through localStorage. The code of a tab between two awaits is one step; tabs
-- differ in nothing but the takes they run, so a run is an interleaving of takes.
structure TapHandoff (τ ι : Type) where
  tag : τ
  ts : Int
  id : ι
  deriving DecidableEq

structure Claim (ι : Type) where
  id : ι
  owner : ι
  deriving DecidableEq

structure Storage (τ ι : Type) where
  handoff : Option (TapHandoff τ ι)
  claim : Option (Claim ι)

-- Where a take stands: waiting for the lock, or settling with the hand-off it read and its claim, or returned.
inductive Phase (τ ι : Type) where
  | idle
  | locking
  | settling (t : TapHandoff τ ι) (me : ι)
  | done (returned : Option (TapHandoff τ ι))

variable {τ ι : Type} [DecidableEq ι]

def fresh (t : TapHandoff τ ι) (now : Int) : Option (TapHandoff τ ι) := if now-t.ts < 3*60*1000 then some t else none

def takeLocked (store : Storage τ ι) (now : Int) : Option (TapHandoff τ ι) × Storage τ ι :=
  match store.handoff with
  | none => ⟨none,store⟩
  | some t => ⟨fresh t now,{store with handoff := none}⟩

-- takeClaimed up to its await, and after it.
def takeClaimed (store : Storage τ ι) (me : ι) : Phase τ ι × Storage τ ι :=
  match store.handoff with
  | none => ⟨.done none,store⟩
  | some t => ⟨.settling t me,{store with claim := some ⟨t.id,me⟩}⟩

def recheck (store : Storage τ ι) (t : TapHandoff τ ι) (me : ι) (now : Int) : Option (TapHandoff τ ι) × Storage τ ι :=
  match store.claim, store.handoff with
  | some claim, some current => if claim.owner ≠ me ∨ current.id ≠ t.id then ⟨none,store⟩ else ⟨fresh t now,⟨none,none⟩⟩
  | _, _ => ⟨none,store⟩

-- `used` holds every id made so far and `reads` the hand-off each take read first.
structure Tabs (τ ι : Type) where
  store : Storage τ ι
  takes : ℕ → Phase τ ι
  used : List ι
  reads : ℕ → Option (TapHandoff τ ι)

inductive TabEvent (τ ι : Type) where
  | set (tag : τ) (ts : Int) (id : ι)
  | request (take : ℕ)
  | locked (take : ℕ) (now : Int)
  | claimed (take : ℕ) (me : ι)
  | rechecked (take : ℕ) (now : Int)

-- A take starts with a lock request or, without Web Locks or when the request throws, with its claim.
def next (s : Tabs τ ι) : TabEvent τ ι → Option (Tabs τ ι)
  | .set tag ts id =>
    if id ∈ s.used then none
    else some {s with
      store := {s.store with handoff := some ⟨tag,ts,id⟩}
      used := id :: s.used}
  | .request take =>
    match s.takes take with
    | .idle => some {s with takes := Function.update s.takes take .locking}
    | _ => none
  | .locked take now =>
    match s.takes take with
    | .locking =>
      some {s with
        store := (takeLocked s.store now).2
        takes := Function.update s.takes take (.done (takeLocked s.store now).1)
        reads := Function.update s.reads take s.store.handoff}
    | _ => none
  | .claimed take me =>
    match s.takes take with
    | .idle | .locking =>
      if me ∈ s.used then none
      else some {s with
        store := (takeClaimed s.store me).2
        takes := Function.update s.takes take (takeClaimed s.store me).1
        used := me :: s.used
        reads := Function.update s.reads take s.store.handoff}
    | _ => none
  | .rechecked take now =>
    match s.takes take with
    | .settling t me =>
      some {s with
        store := (recheck s.store t me now).2
        takes := Function.update s.takes take (.done (recheck s.store t me now).1)}
    | _ => none

def run (s : Tabs τ ι) (events : List (TabEvent τ ι)) : Option (Tabs τ ι) := events.foldlM next s

-- Any storage to begin with, and no take yet.
def opened (store : Storage τ ι) : Tabs τ ι where
  store := store
  takes := fun _ => .idle
  used := (store.handoff.toList.map (·.id)) ++ (store.claim.toList.map (·.owner))
  reads := fun _ => none

-- Everything one step can do.
inductive TabStep (s : Tabs τ ι) : TabEvent τ ι → Tabs τ ι → Prop
  | set {tag ts id} (new : id ∉ s.used) : TabStep s (.set tag ts id) {s with
      store := {s.store with handoff := some ⟨tag,ts,id⟩}
      used := id :: s.used}
  | request {i} (idle : s.takes i = .idle) : TabStep s (.request i) {s with takes := Function.update s.takes i .locking}
  | lockedNone {i now} (locking : s.takes i = .locking) (empty : s.store.handoff = none) : TabStep s (.locked i now) {s with
      takes := Function.update s.takes i (.done none)
      reads := Function.update s.reads i none}
  | lockedSome {i now t} (locking : s.takes i = .locking) (stored : s.store.handoff = some t) : TabStep s (.locked i now) {s with
      store := {s.store with handoff := none}
      takes := Function.update s.takes i (.done (fresh t now))
      reads := Function.update s.reads i (some t)}
  | claimedNone {i me} (starts : s.takes i = .idle ∨ s.takes i = .locking) (new : me ∉ s.used) (empty : s.store.handoff = none) :
    TabStep s (.claimed i me) {s with
      takes := Function.update s.takes i (.done none)
      used := me :: s.used
      reads := Function.update s.reads i none}
  | claimedSome {i me t} (starts : s.takes i = .idle ∨ s.takes i = .locking) (new : me ∉ s.used) (stored : s.store.handoff = some t) :
    TabStep s (.claimed i me) {s with
      store := {s.store with claim := some ⟨t.id,me⟩}
      takes := Function.update s.takes i (.settling t me)
      used := me :: s.used
      reads := Function.update s.reads i (some t)}
  | lost {i now t me} (settling : s.takes i = .settling t me)
      (failed : ∀ claim current, s.store.claim = some claim → s.store.handoff = some current → claim.owner = me → current.id ≠ t.id) :
    TabStep s (.rechecked i now) {s with takes := Function.update s.takes i (.done none)}
  | won {i now t me claim current} (settling : s.takes i = .settling t me) (claimed : s.store.claim = some claim)
      (stored : s.store.handoff = some current) (mine : claim.owner = me) (same : current.id = t.id) :
    TabStep s (.rechecked i now) {s with
      store := ⟨none,none⟩
      takes := Function.update s.takes i (.done (fresh t now))}

theorem next_step {s s' : Tabs τ ι} {event : TabEvent τ ι} (stepped : next s event = some s') : TabStep s event s' := by
  cases event with
  | set tag ts id =>
    dsimp only [next] at stepped
    split at stepped
    case isTrue => cases stepped
    case isFalse new => cases stepped; exact .set new
  | request i =>
    dsimp only [next] at stepped
    split at stepped
    case h_1 idle => cases stepped; exact .request idle
    case h_2 => cases stepped
  | locked i now =>
    dsimp only [next] at stepped
    split at stepped
    case h_2 => cases stepped
    case h_1 locking =>
      cases here : s.store.handoff with
      | none =>
        have nothing : takeLocked s.store now = ⟨none,s.store⟩ := by rw [takeLocked,here]
        rw [nothing,here] at stepped
        cases stepped
        exact .lockedNone locking here
      | some t =>
        have taken : takeLocked s.store now = ⟨fresh t now,{s.store with handoff := none}⟩ := by rw [takeLocked,here]
        rw [taken,here] at stepped
        cases stepped
        exact .lockedSome locking here
  | claimed i me =>
    have claims (starts : s.takes i = .idle ∨ s.takes i = .locking)
        (stepped : (if me ∈ s.used then none else some {s with
          store := (takeClaimed s.store me).2
          takes := Function.update s.takes i (takeClaimed s.store me).1
          used := me :: s.used
          reads := Function.update s.reads i s.store.handoff}) = some s') : TabStep s (.claimed i me) s' := by
      split at stepped
      case isTrue => cases stepped
      case isFalse new =>
        cases here : s.store.handoff with
        | none =>
          have nothing : takeClaimed s.store me = ⟨.done none,s.store⟩ := by rw [takeClaimed,here]
          rw [nothing,here] at stepped
          cases stepped
          exact .claimedNone starts new here
        | some t =>
          have claimed : takeClaimed s.store me = ⟨.settling t me,{s.store with claim := some ⟨t.id,me⟩}⟩ := by
            simp [takeClaimed,here]
          rw [claimed,here] at stepped
          cases stepped
          exact .claimedSome starts new here
    dsimp only [next] at stepped
    split at stepped
    case h_1 idle => exact claims (.inl idle) stepped
    case h_2 locking => exact claims (.inr locking) stepped
    case h_3 => cases stepped
  | rechecked i now =>
    dsimp only [next] at stepped
    split at stepped
    case h_2 => cases stepped
    case h_1 t me settling =>
      unfold recheck at stepped
      split at stepped
      case h_2 nothing =>
        cases stepped
        exact .lost settling fun claim current claimed stored _ => absurd stored (nothing claim current claimed)
      case h_1 claim current claimed stored =>
        split at stepped
        case isTrue differs =>
          cases stepped
          apply TabStep.lost settling
          intro claim' current' claimed' stored' mine same
          rw [claimed] at claimed'
          rw [stored] at stored'
          cases claimed'
          cases stored'
          obtain other | newer := differs
          · exact other mine
          · exact newer same
        case isFalse mine =>
          cases stepped
          rw [not_or,not_not,not_not] at mine
          exact .won settling claimed stored mine.1 mine.2

structure TabsSound (s : Tabs τ ι) : Prop where
  stored : ∀ t, s.store.handoff = some t → t.id ∈ s.used
  settled : ∀ i t me, s.takes i = .settling t me → t.id ∈ s.used ∧ s.reads i = some t
  returned : ∀ i t, s.takes i = .done (some t) → t.id ∈ s.used ∧ s.reads i = some t
  gone : ∀ i t current, s.takes i = .done (some t) → s.store.handoff = some current → current.id ≠ t.id
  once : ∀ i j t t', s.takes i = .done (some t) → s.takes j = .done (some t') → t.id = t'.id → i = j
  one : ∀ i t me current, s.takes i = .settling t me → s.store.handoff = some current → current.id = t.id → current = t

omit [DecidableEq ι] in
theorem fresh_some {t found : TapHandoff τ ι} {now : Int} (here : fresh t now = some found) : found = t := by
  unfold fresh at here
  split at here <;> cases here
  rfl

omit [DecidableEq ι] in
theorem TabStep.sound {s s' : Tabs τ ι} {event : TabEvent τ ι} (step : TabStep s event s') (sound : TabsSound s) : TabsSound s' := by
  obtain ⟨stored,settled,returned,gone,once,one⟩ := sound
  cases step with
  | set new => constructor <;> grind
  | request idle => constructor <;> grind [Function.update_apply]
  | lockedNone locking empty => constructor <;> grind [Function.update_apply]
  | lockedSome locking here => constructor <;> grind [Function.update_apply,fresh_some]
  | claimedNone starts new empty => constructor <;> grind [Function.update_apply]
  | claimedSome starts new here => constructor <;> grind [Function.update_apply]
  | lost settling failed => constructor <;> grind [Function.update_apply]
  | won settling claimed here mine same => constructor <;> grind [Function.update_apply,fresh_some]

-- An invariant of the steps a run takes holds at its end.
theorem run_invariant {P : Tabs τ ι → Prop} {Q : TabEvent τ ι → Prop} (kept : ∀ s event s', TabStep s event s' → Q event → P s → P s')
    {events : List (TabEvent τ ι)} {s s' : Tabs τ ι} (ran : run s events = some s') (allowed : ∀ event ∈ events, Q event) (here : P s) :
    P s' := by
  induction events generalizing s with
  | nil => cases ran; exact here
  | cons event rest ih =>
    obtain ⟨middle,stepped,ran⟩ := Option.bind_eq_some_iff.mp ran
    obtain ⟨first,later⟩ := List.forall_mem_cons.mp allowed
    exact ih ran later (kept s event middle (next_step stepped) first here)

omit [DecidableEq ι] in
theorem opened_sound (store : Storage τ ι) : TabsSound (opened store) where
  stored t here := by
    have here : store.handoff = some t := here
    simp [opened,here]
  settled _ _ _ settling := by cases settling
  returned _ _ done := by cases done
  gone _ _ _ done := by cases done
  once _ _ _ _ done := by cases done
  one _ _ _ _ settling := by cases settling

theorem run_sound {store : Storage τ ι} {events : List (TabEvent τ ι)} {s : Tabs τ ι} (ran : run (opened store) events = some s) :
    TabsSound s :=
  run_invariant (Q := fun _ => True) (fun _ _ _ step _ sound => step.sound sound) ran (fun _ _ => trivial) (opened_sound store)

-- Nothing newer is stored, and a take that returns now still finds the hand-off fresh.
def Undisturbed (ts : Int) : TabEvent τ ι → Prop
  | .set _ _ _ => False
  | .locked _ now | .rechecked _ now => now-ts < 3*60*1000
  | .request _ | .claimed _ _ => True

-- Since `before`, the hand-off `t` was returned, or it is still there and the last take that claimed it is going to find its
-- claim, or no take has come to it.
structure Awaiting (before : Tabs τ ι) (t : TapHandoff τ ι) (s : Tabs τ ι) : Prop where
  sound : TabsSound s
  on : (∃ i, s.takes i = .done (some t)) ∨ s.store.handoff = some t ∧
    ((∃ i me id, s.takes i = .settling t me ∧ s.store.claim = some ⟨id,me⟩) ∨
      ∀ i, before.takes i = .idle → s.takes i = .idle ∨ s.takes i = .locking)

omit [DecidableEq ι] in
theorem TabStep.awaiting {before s s' : Tabs τ ι} {t : TapHandoff τ ι} {event : TabEvent τ ι} (step : TabStep s event s')
    (undisturbed : Undisturbed t.ts event) (awaiting : Awaiting before t s) : Awaiting before t s' := by
  have sound := step.sound awaiting.sound
  have one := awaiting.sound.one
  refine ⟨sound,?_⟩
  obtain ⟨i,done⟩ | ⟨here,waiting⟩ := awaiting.on
  · -- what was returned stays returned: a take that is done takes no further step
    left
    refine ⟨i,?_⟩
    cases step <;> grind [Function.update_apply]
  · cases step with
    | set => exact undisturbed.elim
    | @request i idle =>
      right
      refine ⟨here,?_⟩
      obtain ⟨claimer,owner,id,waits,claimed⟩ | untouched := waiting
      · left
        refine ⟨claimer,owner,id,?_,claimed⟩
        have different : claimer ≠ i := by
          intro same
          rw [same] at waits
          cases idle.symm.trans waits
        dsimp only
        rw [Function.update_of_ne different]
        exact waits
      · right
        grind [Function.update_apply]
    | lockedNone locking empty => rw [here] at empty; cases empty
    | @lockedSome i now found locking stored =>
      left
      cases here.symm.trans stored
      have young : fresh t now = some t := if_pos undisturbed
      exact ⟨i,by dsimp only; rw [Function.update_self,young]⟩
    | claimedNone starts new empty => rw [here] at empty; cases empty
    | @claimedSome i me found starts new stored =>
      right
      cases here.symm.trans stored
      exact ⟨here,.inl ⟨i,me,t.id,by simp,rfl⟩⟩
    | @lost i now other me settling failed =>
      right
      refine ⟨here,?_⟩
      obtain ⟨claimer,owner,id,waits,claimed⟩ | untouched := waiting
      · -- the take that has the claim would have won
        left
        refine ⟨claimer,owner,id,?_,claimed⟩
        have different : claimer ≠ i := by
          intro same
          rw [same] at waits
          cases settling.symm.trans waits
          exact failed _ _ claimed here rfl rfl
        dsimp only
        rw [Function.update_of_ne different]
        exact waits
      · right
        grind [Function.update_apply]
    | @won i now other me claim current settling claimed stored mine same =>
      left
      cases here.symm.trans stored
      cases one i other me t settling here same
      have young : fresh t now = some t := if_pos undisturbed
      exact ⟨i,by dsimp only; rw [Function.update_self,young]⟩

structure ExactlyOnce (store : Storage τ ι) : Prop where
  once : ∀ events s i j t t', run (opened store) events = some s → s.takes i = .done (some t) → s.takes j = .done (some t') →
    t.id = t'.id → i = j
  first_read : ∀ events s i t, run (opened store) events = some s → s.takes i = .done (some t) → s.reads i = some t
  delivered : ∀ earlier tag ts id later s s', run (opened store) (earlier ++ [.set tag ts id]) = some s → run s later = some s' →
    (∀ event ∈ later, Undisturbed ts event) → (∃ i, s.takes i = .idle ∧ s'.takes i ≠ .idle) →
    (∀ i, s'.takes i = .idle ∨ ∃ returned, s'.takes i = .done returned) → ∃! i, s'.takes i = .done (some ⟨tag,ts,id⟩)

theorem run_append {s s'' : Tabs τ ι} {first second : List (TabEvent τ ι)} :
    run s (first ++ second) = some s'' ↔ ∃ s', run s first = some s' ∧ run s' second = some s'' := by
  unfold run
  rw [List.foldlM_append]
  exact Option.bind_eq_some_iff

theorem handoff_once (store : Storage τ ι) : ExactlyOnce store where
  once events s i j t t' ran first second same := (run_sound ran).once i j t t' first second same
  first_read events s i t ran done := ((run_sound ran).returned i t done).2
  delivered earlier tag ts id later s s' stored ran undisturbed started finished := by
    have sound := run_sound stored
    obtain ⟨old,_,last⟩ := run_append.mp stored
    have just_stored : s.store.handoff = some ⟨tag,ts,id⟩ := by
      obtain ⟨after,stepped,same⟩ := Option.bind_eq_some_iff.mp last
      cases same
      dsimp only [next] at stepped
      split at stepped
      · cases stepped
      · cases stepped; rfl
    have waiting : Awaiting s ⟨tag,ts,id⟩ s := ⟨sound,.inr ⟨just_stored,.inr fun _ idle => .inl idle⟩⟩
    have ended := run_invariant (fun _ _ _ step undisturbed awaiting => TabStep.awaiting step undisturbed awaiting) ran undisturbed waiting
    have whole : run (opened store) (earlier ++ [.set tag ts id] ++ later) = some s' := run_append.mpr ⟨s,stored,ran⟩
    have unique := (run_sound whole).once
    obtain ⟨i,done⟩ | ⟨_,⟨i,me,_,settling,_⟩ | untouched⟩ := ended.on
    · exact ⟨i,done,fun j other => unique j i _ _ other done rfl⟩
    · obtain idle | ⟨returned,done⟩ := finished i
      · cases settling.symm.trans idle
      · cases settling.symm.trans done
    · obtain ⟨i,idle,left⟩ := started
      obtain still | locking := untouched i idle
      · exact absurd still left
      · obtain idle | ⟨returned,done⟩ := finished i
        · exact absurd idle left
        · cases locking.symm.trans done

end FlaconVault.Web
