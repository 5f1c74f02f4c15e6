import FlaconVault.Verifier.Credits
namespace FlaconVault.Verifier
open Guards

-- The replay memory: the counters of the seals, and for chips without a seal the log of taps.

namespace Database

-- The highest counter seen of a chip.
def lastCounter (db : Database) (uid : Uid) : ℕ :=
  match db.getSealByUid uid with
  | some row => row.lastCounter
  | none => db.lastCounterUnregistered uid

-- No chip is in two seals.
def UidsApart (db : Database) : Prop := ∀ first ∈ db.seals.rows, ∀ second ∈ db.seals.rows, first.uid = second.uid → first = second

variable {db : Database} {uid : Uid}

theorem getSealByUid_mem {row : SealRow} (found : db.getSealByUid uid = some row) : row ∈ db.seals.rows ∧ row.uid = uid :=
  ⟨List.mem_of_find?_eq_some found,Subtype.ext (by simpa using List.find?_some found)⟩

theorem getSealByUid_none : db.getSealByUid uid = none ↔ ∀ row ∈ db.seals.rows, row.uid ≠ uid := by
  unfold getSealByUid
  simp [Subtype.ext_iff]

theorem getSealByUid_of_mem (apart : db.UidsApart) {row : SealRow} (present : row ∈ db.seals.rows) :
    db.getSealByUid row.uid = some row := by
  cases found : db.getSealByUid row.uid with
  | none => exact absurd rfl (getSealByUid_none.mp found row present)
  | some other =>
    obtain ⟨there,same⟩ := getSealByUid_mem found
    rw [apart other there row present same]

theorem lastCounter_some {row : SealRow} (found : db.getSealByUid uid = some row) : db.lastCounter uid = row.lastCounter := by
  unfold lastCounter
  rw [found]

theorem lastCounter_none (absent : db.getSealByUid uid = none) : db.lastCounter uid = db.lastCounterUnregistered uid := by
  unfold lastCounter
  rw [absent]

theorem foldr_max_le {counters : List U24} {bound : ℕ} :
    counters.foldr (fun ctr highest => max ctr.val highest) 0 ≤ bound ↔ ∀ ctr ∈ counters, ctr.val ≤ bound := by
  induction counters with
  | nil => simp
  | cons first rest ih => simp [ih]

theorem lastCounterUnregistered_le {bound : ℕ} : db.lastCounterUnregistered uid ≤ bound ↔ ∀ tap ∈ db.taps.rows,
    tap.uid = some (.chip uid) → consumingVerdict tap.verdict = true → ∀ counter, tap.ctr = some counter → counter.val ≤ bound := by
  unfold lastCounterUnregistered
  rw [foldr_max_le]
  simp only [List.mem_filterMap,List.mem_filter,Bool.and_eq_true,beq_iff_eq,forall_exists_index,and_imp]
  exact ⟨fun all tap present shown consumed counter counted => all counter tap present shown consumed counted,
    fun all counter tap present shown consumed counted => all tap present shown consumed counter counted⟩

theorem le_lastCounterUnregistered {tap : TapRow} {counter : U24} (present : tap ∈ db.taps.rows) (shown : tap.uid = some (.chip uid))
    (consumed : consumingVerdict tap.verdict = true) (counted : tap.ctr = some counter) :
    counter.val ≤ db.lastCounterUnregistered uid :=
  lastCounterUnregistered_le.mp le_rfl tap present shown consumed counter counted

end Database

-- A seal and the same seal later.
structure SealFollows (row later : SealRow) : Prop where
  uidHash : later.uidHash = row.uidHash
  uid : later.uid = row.uid
  serial : later.serial = row.serial
  counter : row.lastCounter ≤ later.lastCounter

theorem SealFollows.refl (row : SealRow) : SealFollows row row := ⟨rfl,rfl,rfl,le_rfl⟩

theorem SealFollows.trans {row middle later : SealRow} (first : SealFollows row middle) (second : SealFollows middle later) :
    SealFollows row later :=
  ⟨second.uidHash.trans first.uidHash,second.uid.trans first.uid,second.serial.trans first.serial,first.counter.trans second.counter⟩

-- A logged tap and the same tap later: only its adoption is added, once.
structure TapFollows (tap later : TapRow) : Prop where
  same : later = {tap with adoptedAt := later.adoptedAt}
  adopted : tap.adoptedAt.isSome → later.adoptedAt = tap.adoptedAt

theorem TapFollows.refl (tap : TapRow) : TapFollows tap tap := ⟨rfl,fun _ => rfl⟩

theorem TapFollows.trans {tap middle later : TapRow} (first : TapFollows tap middle) (second : TapFollows middle later) :
    TapFollows tap later := by
  refine ⟨?_,?_⟩
  · have outer := second.same
    rw [first.same] at outer
    exact outer
  · intro adopted
    have same := first.adopted adopted
    exact (second.adopted (same ▸ adopted)).trans same

-- What every step keeps: seals, their counters, and the taps that count.
structure Remembers (db later : Database) : Prop where
  seals : ∀ row ∈ db.seals.rows, ∃ row' ∈ later.seals.rows, SealFollows row row'
  fresh : ∀ row' ∈ later.seals.rows, (∃ row ∈ db.seals.rows, row.uidHash = row'.uidHash) ∨
    db.getSealByUid row'.uid = none ∧ db.lastCounterUnregistered row'.uid ≤ row'.lastCounter
  taps : ∀ tap ∈ db.taps.rows, tap.verdict ≠ .invalid → ∃ tap' ∈ later.taps.rows, TapFollows tap tap'
  apart : db.UidsApart → later.UidsApart

namespace Remembers
variable {db middle later : Database}

theorem seen (remembers : Remembers db later) (uid : Uid) : db.lastCounterUnregistered uid ≤ later.lastCounterUnregistered uid := by
  rw [Database.lastCounterUnregistered_le]
  intro tap present shown consumed counter counted
  have sound : tap.verdict ≠ .invalid := by
    intro invalid
    rw [invalid] at consumed
    cases consumed
  obtain ⟨tap',present',follows⟩ := remembers.taps tap present sound
  have same := follows.same
  exact Database.le_lastCounterUnregistered present' (by rw [same]; exact shown) (by rw [same]; exact consumed) (by rw [same]; exact counted)

theorem old_row (remembers : Remembers db later) {row row' : SealRow} (present : row ∈ db.seals.rows)
    (present' : row' ∈ later.seals.rows) (same : row.uidHash = row'.uidHash) : SealFollows row row' := by
  obtain ⟨other,there,follows⟩ := remembers.seals row present
  have := Table.same_row there present' (follows.uidHash.trans same)
  exact this ▸ follows

theorem registered (remembers : Remembers db later) {uid : Uid} (found : (db.getSealByUid uid).isSome) :
    (later.getSealByUid uid).isSome := by
  obtain ⟨row,there⟩ := Option.isSome_iff_exists.mp found
  obtain ⟨present,named⟩ := Database.getSealByUid_mem there
  obtain ⟨row',present',follows⟩ := remembers.seals row present
  by_contra absent
  rw [Option.not_isSome_iff_eq_none,Database.getSealByUid_none] at absent
  exact absent row' present' (follows.uid.trans named)

theorem refl (db : Database) : Remembers db db :=
  ⟨fun row present => ⟨row,present,.refl row⟩,fun row present => .inl ⟨row,present,rfl⟩,fun tap present _ => ⟨tap,present,.refl tap⟩,id⟩

theorem trans (first : Remembers db middle) (second : Remembers middle later) : Remembers db later := by
  refine ⟨?_,?_,?_,fun apart => second.apart (first.apart apart)⟩
  · intro row present
    obtain ⟨row',present',follows⟩ := first.seals row present
    obtain ⟨row'',present'',follows'⟩ := second.seals row' present'
    exact ⟨row'',present'',follows.trans follows'⟩
  · intro row'' present''
    rcases second.fresh row'' present'' with old | new
    · obtain ⟨row',present',same⟩ := old
      have follows := second.old_row present' present'' same
      rcases first.fresh row' present' with old | new
      · obtain ⟨row,present,same'⟩ := old
        exact .inl ⟨row,present,same'.trans same⟩
      · rw [← follows.uid] at new
        exact .inr ⟨new.1,new.2.trans follows.counter⟩
    · obtain ⟨absent,counted⟩ := new
      refine .inr ⟨?_,(first.seen _).trans counted⟩
      by_contra found
      have registered := first.registered (Option.isSome_iff_ne_none.mpr found)
      rw [absent] at registered
      cases registered
  · intro tap present sound
    obtain ⟨tap',present',follows⟩ := first.taps tap present sound
    have sound' : tap'.verdict ≠ .invalid := by
      rw [follows.same]
      exact sound
    obtain ⟨tap'',present'',follows'⟩ := second.taps tap' present' sound'
    exact ⟨tap'',present'',follows.trans follows'⟩

theorem lastCounter (remembers : Remembers db later) (apart : db.UidsApart) (uid : Uid) : db.lastCounter uid ≤ later.lastCounter uid := by
  cases found : db.getSealByUid uid with
  | some row =>
    obtain ⟨present,named⟩ := Database.getSealByUid_mem found
    obtain ⟨row',present',follows⟩ := remembers.seals row present
    have found' := Database.getSealByUid_of_mem (remembers.apart apart) present'
    rw [follows.uid,named] at found'
    rw [Database.lastCounter_some found,Database.lastCounter_some found']
    exact follows.counter
  | none =>
    rw [Database.lastCounter_none found]
    cases found' : later.getSealByUid uid with
    | none =>
      rw [Database.lastCounter_none found']
      exact remembers.seen uid
    | some row' =>
      obtain ⟨present',named'⟩ := Database.getSealByUid_mem found'
      rw [Database.lastCounter_some found']
      rcases remembers.fresh row' present' with old | new
      · obtain ⟨row,present,same⟩ := old
        have follows := remembers.old_row present present' same
        exact absurd (follows.uid.symm.trans named') (Database.getSealByUid_none.mp found row present)
      · exact named' ▸ new.2

-- Steps on other tables, on single seals and on the taps.
theorem of_same (seals : later.seals = db.seals) (taps : later.taps = db.taps) : Remembers db later := by
  refine ⟨?_,?_,?_,?_⟩
  · intro row present
    exact ⟨row,seals ▸ present,.refl row⟩
  · intro row present
    exact .inl ⟨row,seals ▸ present,rfl⟩
  · intro tap present _
    exact ⟨tap,taps ▸ present,.refl tap⟩
  · intro apart
    unfold Database.UidsApart
    rw [seals]
    exact apart

theorem of_map {change : SealRow → SealRow} (seals : later.seals.rows = db.seals.rows.map change) (taps : later.taps = db.taps)
    (follows : ∀ row ∈ db.seals.rows, SealFollows row (change row)) : Remembers db later := by
  refine ⟨?_,?_,?_,?_⟩
  · intro row present
    exact ⟨change row,seals ▸ List.mem_map_of_mem present,follows row present⟩
  · intro row' present'
    rw [seals] at present'
    obtain ⟨row,present,same⟩ := List.mem_map.mp present'
    exact .inl ⟨row,present,same ▸ (follows row present).uidHash.symm⟩
  · intro tap present _
    exact ⟨tap,taps ▸ present,.refl tap⟩
  · intro apart first here second there same
    rw [seals] at here there
    obtain ⟨row,present,rfl⟩ := List.mem_map.mp here
    obtain ⟨row',present',rfl⟩ := List.mem_map.mp there
    have := apart row present row' present' ((follows row present).uid.symm.trans (same.trans (follows row' present').uid))
    rw [this]

theorem of_insert {row : SealRow} (seals : later.seals.rows = db.seals.rows ++ [row]) (taps : later.taps = db.taps)
    (new : ∀ other ∈ db.seals.rows, other.uid ≠ row.uid) (counted : db.lastCounterUnregistered row.uid ≤ row.lastCounter) :
    Remembers db later := by
  refine ⟨?_,?_,?_,?_⟩
  · intro old present
    exact ⟨old,by simp [seals,present],.refl old⟩
  · intro row' present'
    rw [seals,List.mem_append,List.mem_singleton] at present'
    rcases present' with old | same
    · exact .inl ⟨row',old,rfl⟩
    · subst same
      exact .inr ⟨Database.getSealByUid_none.mpr new,counted⟩
  · intro tap present _
    exact ⟨tap,taps ▸ present,.refl tap⟩
  · intro apart first here second there same
    rw [seals,List.mem_append,List.mem_singleton] at here there
    rcases here with here | here
    · rcases there with there | there
      · exact apart first here second there same
      · exact absurd (there ▸ same) (new first here)
    · rcases there with there | there
      · exact absurd (here ▸ same.symm) (new second there)
      · exact here.trans there.symm

theorem of_taps (seals : later.seals = db.seals)
    (taps : ∀ tap ∈ db.taps.rows, tap.verdict ≠ .invalid → ∃ tap' ∈ later.taps.rows, TapFollows tap tap') : Remembers db later := by
  have same : Remembers db {db with seals := later.seals} := of_same seals rfl
  refine ⟨same.seals,same.fresh,taps,same.apart⟩

end Remembers

-- Steps that consume no tap and no session.
structure Undisturbed (db later : Database) : Prop where
  remembers : Remembers db later
  taps : later.taps = db.taps
  nonces : later.nonces = db.nonces

theorem Undisturbed.refl (db : Database) : Undisturbed db db := ⟨.refl db,rfl,rfl⟩

theorem Undisturbed.trans {db middle later : Database} (first : Undisturbed db middle) (second : Undisturbed middle later) :
    Undisturbed db later :=
  ⟨first.remembers.trans second.remembers,second.taps.trans first.taps,second.nonces.trans first.nonces⟩

theorem Undisturbed.of_same {db later : Database} (seals : later.seals = db.seals) (taps : later.taps = db.taps)
    (nonces : later.nonces = db.nonces) : Undisturbed db later := ⟨.of_same seals taps,taps,nonces⟩

theorem markSealDead_undisturbed (db : Database) (uidHash : Bytes32) : Undisturbed db (db.markSealDead uidHash) := by
  refine ⟨.of_map rfl rfl ?_,rfl,rfl⟩
  intro row _
  dsimp only
  split
  · exact ⟨rfl,rfl,rfl,le_rfl⟩
  · exact .refl row

theorem refreshSeal_undisturbed (settings : Settings) (db : Database) (entry : SealRow × Option (List Byte)) :
    Undisturbed db (refreshSeal settings db entry) := by
  unfold refreshSeal
  split
  · exact .refl db
  · split
    · refine ⟨.of_map rfl rfl ?_,rfl,rfl⟩
      intro row _
      dsimp only
      split
      · exact ⟨rfl,rfl,rfl,le_max_left _ _⟩
      · exact .refl row
    · exact .refl db

theorem upsertSeal_undisturbed {db later : Database} {uidHash : Bytes32} {uid : Uid} {serial : String} {kind : ℕ} {attachedAt : Int}
    (own : ∀ other ∈ db.getSealByHash uidHash, other.serial = serial)
    (accepted : db.upsertSeal uidHash uid serial kind attachedAt = .ok later) : Undisturbed db later := by
  unfold Database.upsertSeal at accepted
  dsimp only at accepted
  split at accepted
  · rename_i seals inserted
    obtain ⟨_,rows⟩ := Table.insert_some.mp inserted
    rcases branch accepted with taken | free
    · cases taken.2
    · obtain ⟨free,same⟩ := free
      cases same
      refine ⟨.of_insert rows rfl ?_ (le_max_right _ _),rfl,rfl⟩
      intro other present same
      refine free (List.any_eq_true.mpr ⟨other,present,?_⟩)
      rw [same,beq_self_eq_true]
  · cases accepted
    refine ⟨.of_map rfl rfl ?_,rfl,rfl⟩
    intro row present
    dsimp only
    split
    · rename_i chosen
      have named : row.uidHash = uidHash := by simpa using chosen
      exact ⟨rfl,rfl,(own row (Table.get_some.mpr ⟨present,named⟩)).symm,le_max_left _ _⟩
    · exact .refl row

theorem applyConfirmedScan_undisturbed (db : Database) (event : EventRow) (attester : Option Pubkey) (ts : Int)
    (chain : Option ChainValues) : Undisturbed db (db.applyConfirmedScan event attester ts chain) := by
  obtain ⟨_,_,_,same,_⟩ := Database.applyConfirmedScan_only db event attester ts chain
  rw [same]
  exact .of_same rfl rfl rfl

theorem effects_undisturbed (settings : Settings) (job : ConfirmJob) (confirmed : Database) (current event : EventRow) (now : I64) :
    Undisturbed confirmed (job.effects settings confirmed current event now) := by
  unfold ConfirmJob.effects
  split
  · refine Undisturbed.trans ?_ (applyConfirmedScan_undisturbed _ _ _ _ _)
    exact .of_same rfl rfl rfl
  · split
    · dsimp only
      unfold applySealDead
      split
      · exact (markSealDead_undisturbed confirmed _).trans (.of_same rfl rfl rfl)
      · exact .of_same rfl rfl rfl
    · exact .refl confirmed

theorem edit_undisturbed {settings : Settings} {cause : Cause} {db later : Database} (edit : Edit settings cause db later) :
    Undisturbed db later := by
  cases edit with
  | aside _ rest => exact .of_same rest.seals rest.taps rest.nonces
  | attached uidHash uid serial kind attachedAt _ own accepted => exact upsertSeal_undisturbed own accepted
  | sealDead uidHash => exact markSealDead_undisturbed db uidHash
  | refreshed entry => exact refreshSeal_undisturbed settings db entry
  | posted job current now =>
    refine Undisturbed.trans ?_ (effects_undisturbed settings job _ current _ now)
    exact .of_same rfl rfl rfl
  | reconciled item acct ts current _ knows found status proof accepted =>
    obtain ⟨label,mismatch,same⟩ := confirmScan_parts found accepted
    rw [same]
    refine Undisturbed.trans ?_ (applyConfirmedScan_undisturbed _ _ _ _ _)
    exact .of_same rfl rfl rfl
  | _ => exact .of_same rfl rfl rfl

theorem edits_undisturbed {settings : Settings} {cause : Cause} {db later : Database} (edits : Edits settings cause db later) :
    Undisturbed db later := by
  induction edits with
  | refl => exact .refl db
  | tail _ edit ih => exact ih.trans (edit_undisturbed edit)

-- The parts of a request that consumes a tap.
theorem Checked.remembers {settings : Settings} {db checked : Database} {check : TapCheck} (step : Checked settings db check checked) :
    Remembers db checked := by
  cases step with
  | valid uid counter cmac encrypted row found fresh =>
    refine .of_map rfl rfl ?_
    intro other _
    dsimp only
    split
    · rename_i chosen
      have low : other.lastCounter < counter.val := by
        simp only [decide_eq_true_eq] at chosen
        exact chosen.2
      exact ⟨rfl,rfl,rfl,low.le⟩
    · exact .refl other
  | _ => exact .refl db

theorem Logged.remembers {db later : Database} {tap : TapRow} (logged : Logged db tap later) : Remembers db later := by
  refine .of_taps (by rw [logged.rest]) ?_
  intro old present _
  exact ⟨old,by simp [logged.rows,present],.refl old⟩

theorem Purged.remembers {db later : Database} (purged : Purged db later) : Remembers db later := by
  cases purged with
  | kept => exact .refl db
  | purged before =>
    refine .of_taps rfl ?_
    intro tap present sound
    exact ⟨tap,Table.mem_delete.mpr ⟨present,by simp [sound]⟩,.refl tap⟩

theorem Adopts.follows {settings : Settings} {db : Database} {tapId : ℕ} {token : Option String} {now : Int} {tap old : TapRow}
    (adopts : Adopts settings db tapId token now tap) (present : old ∈ db.taps.rows) :
    TapFollows old (if decide (old.id = tapId) = true then {old with adoptedAt := some now} else old) := by
  by_cases here : old.id = tapId
  · have same : old = tap := Option.some.inj ((Table.get_some.mpr ⟨present,here⟩).symm.trans adopts.found)
    rw [if_pos (by simpa using here)]
    refine ⟨rfl,?_⟩
    intro adopted
    rw [same,adopts.unused] at adopted
    cases adopted
  · rw [if_neg (by simpa using here)]
    exact .refl old

theorem Adopts.remembers {settings : Settings} {db : Database} {tapId : ℕ} {token : Option String} {now : Int} {tap : TapRow}
    (adopts : Adopts settings db tapId token now tap) : Remembers db (db.adopted tapId now) :=
  .of_taps rfl fun _ present _ => ⟨_,List.mem_map_of_mem present,adopts.follows present⟩

theorem Tapped.remembers {settings : Settings} {db checked : Database} {body : VerifyBody} {now : Int} {check : TapCheck}
    (tapped : Tapped settings db body now check checked) : Remembers db checked := by
  cases tapped with
  | direct _ direct => exact direct.remembers
  | adopted tapId _ adoption =>
    cases adoption with
    | refused => exact .refl db
    | adopted tap uid counter adopts => exact adopts.remembers

theorem Landing.remembers {settings : Settings} {db later : Database} {around : Surroundings} {answer : TagAnswer}
    (landing : Landing settings db around answer later) : Remembers db later := by
  cases landing with
  | unlogged _ _ rest => exact rest.remembers
  | quiet checked logged tap check log _ _ _ rest => exact check.remembers.trans (log.remembers.trans rest.remembers)
  | sighted checked logged tap row counter check log _ _ _ _ _ _ rest =>
    refine check.remembers.trans (log.remembers.trans (Remembers.trans ?_ rest.remembers))
    exact .of_same rfl rfl

theorem Verifying.remembers {settings : Settings} {db later : Database} {body : VerifyBody} {around : Surroundings}
    {answer : VerifyAnswer} (verifying : Verifying settings db body around answer later) : Remembers db later := by
  cases verifying with
  | nonceInvalid => exact .refl db
  | unlogged check _ tapped => exact tapped.remembers
  | logged check checked _ tap tapped log => exact tapped.remembers.trans log.remembers
  | signed check checked logged tap session row uidHash counter mediaHash admitted live tapped log =>
    exact tapped.remembers.trans (log.remembers.trans (.of_same rfl rfl))

theorem changes_remembers {settings : Settings} {server : Server} {later : Database} {action : Action} {answer : Answer}
    (changes : Changes settings server action later answer) : Remembers server.db later := by
  cases changes with
  | none => exact .refl _
  | finished _ _ _ _ _ _ edits => exact (edits_undisturbed edits).remembers
  | landed _ _ _ _ _ landing => exact landing.remembers
  | verified _ _ _ _ verifying => exact verifying.remembers
  | issued nonce now _ issues =>
    obtain ⟨nonces,_,same⟩ := issues.rows
    rw [same]
    exact .of_same rfl rfl
  | reported body now allowed row _ serial sealUidHash source note reportedBy passport session report =>
    rw [report.same]
    exact .of_same rfl rfl

namespace Run
variable (settings : Settings) (run : Run)

theorem remembers {m n : ℕ} (ordered : m ≤ n) : Remembers (run.db settings m) (run.db settings n) := by
  induction n, ordered using Nat.le_induction with
  | base => exact .refl _
  | succ n _ ih => exact ih.trans (changes_remembers (run.changes settings n))

theorem uidsApart (n : ℕ) : (run.db settings n).UidsApart :=
  (run.remembers settings (Nat.zero_le n)).apart fun _ present => absurd present List.not_mem_nil

theorem lastCounter_grows {m n : ℕ} (ordered : m ≤ n) (uid : Uid) :
    (run.db settings m).lastCounter uid ≤ (run.db settings n).lastCounter uid :=
  (run.remembers settings ordered).lastCounter (run.uidsApart settings m) uid

end Run
end FlaconVault.Verifier
