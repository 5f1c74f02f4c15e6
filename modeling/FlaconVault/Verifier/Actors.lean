import FlaconVault.Verifier.Origins
import FlaconVault.Verifier.Backing
import FlaconVault.Verifier.Soundness
namespace FlaconVault.Verifier
open Guards

-- Whom a stored event names. verify_transaction wants the posted actor among the signers and somewhere in the instruction;
-- the account at the instruction's signer position is asked for a scan only.

-- The instruction that backs an event for a wallet: the first that qualifies and lists it.
def backing (settings : Settings) (exp : Expectation) (tx : ParsedTx) (reads : ChainReads) (key : Pubkey) :
    List Instruction → Option (IxName × Instruction)
  | [] => none
  | ix :: rest =>
    match candidate settings exp key ix with
    | none => backing settings exp tx reads key rest
    | some name =>
      match bindOrder settings exp tx reads name ix with
      | .error _ => none
      | .ok none => backing settings exp tx reads key rest
      | .ok (some _) => some (name,ix)

-- The signers that stand in the instruction backing the event without being its signer.
def coSigners (settings : Settings) (exp : Expectation) (reads : ChainReads) (tx : ParsedTx) : List Pubkey :=
  tx.signers.filter fun key =>
    (backing settings exp tx reads key tx.instructions).any fun backed => backed.2.accountAt backed.1 .signer != some key

section Search
variable {settings : Settings} {exp : Expectation} {tx : ParsedTx} {reads : ChainReads} {signature : Signature} {actor : Pubkey}

theorem findInstruction_backing {vt : VerifiedTx} {instructions : List Instruction}
    (found : findInstruction settings exp tx reads signature actor instructions = .ok vt) :
    ∃ ix, backing settings exp tx reads actor instructions = some (vt.name,ix) ∧ ix.accounts = vt.ixAccounts ∧
      vt.signature = signature ∧ vt.actor = actor := by
  induction instructions with
  | nil => cases found
  | cons ix rest ih =>
    unfold findInstruction at found
    unfold backing
    cases fit : candidate settings exp actor ix with
    | none =>
      simp only [fit] at found ⊢
      exact ih found
    | some name =>
      simp only [fit] at found ⊢
      cases bound : bindOrder settings exp tx reads name ix with
      | error error =>
        simp only [bound] at found
        cases found
      | ok read =>
        cases read with
        | none =>
          simp only [bound] at found ⊢
          exact ih found
        | some read =>
          simp only [bound] at found ⊢
          split at found
          · cases found
          · cases found
            exact ⟨ix,rfl,rfl,rfl,rfl⟩

theorem backing_findInstruction (succeeded : tx.err = none) {name : IxName} {ix : Instruction} {instructions : List Instruction}
    (backed : backing settings exp tx reads actor instructions = some (name,ix)) :
    ∃ vt, findInstruction settings exp tx reads signature actor instructions = .ok vt ∧ vt.name = name ∧ vt.ixAccounts = ix.accounts := by
  induction instructions with
  | nil => cases backed
  | cons first rest ih =>
    unfold backing at backed
    unfold findInstruction
    cases fit : candidate settings exp actor first with
    | none =>
      simp only [fit] at backed ⊢
      exact ih backed
    | some named =>
      simp only [fit] at backed ⊢
      cases bound : bindOrder settings exp tx reads named first with
      | error error =>
        simp only [bound] at backed
        cases backed
      | ok read =>
        cases read with
        | none =>
          simp only [bound] at backed ⊢
          exact ih backed
        | some read =>
          simp only [bound] at backed
          cases backed
          simp only [succeeded,Option.isSome_none,Bool.false_eq_true,if_false]
          exact ⟨_,rfl,rfl,rfl⟩

theorem account_backed {vt : VerifiedTx} {ix : Instruction} (accounts : ix.accounts = vt.ixAccounts) (role : AccountRole) :
    vt.account role = ix.accountAt vt.name role := by
  unfold VerifiedTx.account Instruction.accountAt
  rw [accounts]

theorem verified_parts {vt : VerifiedTx} (verified : verifyTransaction settings reads signature actor exp = .ok vt) :
    ∃ res, reads.transaction = .ok res ∧ actor ∈ (parseTransaction res).signers ∧
      findInstruction settings exp (parseTransaction res) reads signature actor (parseTransaction res).instructions = .ok vt := by
  unfold verifyTransaction at verified
  obtain ⟨res,read,verified⟩ := bind_ok.mp verified
  obtain ⟨_,_,verified⟩ := bind_ok.mp verified
  obtain ⟨_,signs,verified⟩ := bind_ok.mp verified
  refine ⟨res,?_,require_ok.mp signs,verified⟩
  cases told : reads.transaction with
  | ok other =>
    rw [told] at read
    exact congrArg _ (Except.ok.inj read)
  | error refusal =>
    rw [told] at read
    cases read

-- Without a co-signer whoever gets through is the instruction's signer.
theorem verified_signer {vt : VerifiedTx} {res : TxResult} (read : reads.transaction = .ok res)
    (alone : coSigners settings exp reads (parseTransaction res) = [])
    (verified : verifyTransaction settings reads signature actor exp = .ok vt) : vt.account .signer = some actor := by
  obtain ⟨other,told,signs,found⟩ := verified_parts verified
  have same : other = res := Except.ok.inj (told.symm.trans read)
  subst same
  obtain ⟨ix,backed,accounts,_,_⟩ := findInstruction_backing found
  have passes := List.filter_eq_nil_iff.mp alone actor signs
  rw [backed] at passes
  rw [account_backed accounts]
  simpa using passes

-- And a co-signer gets through.
theorem verified_signers {res : TxResult} (read : reads.transaction = .ok res) (named : res.signatures = [] ∨ signature ∈ res.signatures)
    (succeeded : res.err = none) :
    (∀ actor vt, verifyTransaction settings reads signature actor exp = .ok vt → vt.account .signer = some actor) ↔
      coSigners settings exp reads (parseTransaction res) = [] := by
  constructor
  · intro bound
    refine List.filter_eq_nil_iff.mpr ?_
    intro key signs
    cases backed : backing settings exp (parseTransaction res) reads key (parseTransaction res).instructions with
    | none => simp
    | some found =>
      obtain ⟨name,ix⟩ := found
      obtain ⟨vt,searched,named',accounts⟩ := @backing_findInstruction settings exp (parseTransaction res) reads signature key succeeded
        name ix (parseTransaction res).instructions backed
      have verified : verifyTransaction settings reads signature key exp = .ok vt := by
        unfold verifyTransaction
        rw [read]
        refine bind_ok.mpr ⟨res,rfl,bind_ok.mpr ⟨(),require_pass named,bind_ok.mpr ⟨(),require_pass signs,searched⟩⟩⟩
      have signer := bound key vt verified
      rw [account_backed accounts.symm,named'] at signer
      simp [signer]
  · intro alone actor vt verified
    exact verified_signer read alone verified

end Search

-- What a request asks of verify_transaction: for a new event, or for the event of an id.
inductive Asks (settings : Settings) (db : Database) : Action → EventType → String → ChainReads → Expectation → Prop
  | event (body : EventBody) (reads : ChainReads) (now : I64) (type : EventType) (serial : String) (sealUidHash : Option Bytes32)
      (exp : Expectation) (typed : body.type = some type) (named : body.serial = some serial)
      (expected : expectation settings db type serial sealUidHash none = .ok exp) :
      Asks settings db (.postEvent body reads now) type serial reads exp
  | confirm (body : EventBody) (reads : ChainReads) (event : EventRow) (exp : Expectation) (found : db.getEvent event.id = some event)
      (expected : expectation settings db event.type event.serial event.sealUidHash
        (if event.type = .scan then event.payload.counter else none) = .ok exp) :
      Asks settings db (.confirm body event.id reads) event.type event.serial reads exp

-- The transaction an action had verified stands behind a row.
structure Vouches (settings : Settings) (db : Database) (action : Action) (row : EventRow) (vt : VerifiedTx) : Prop where
  txSig : row.txSig = some vt.signature
  actor : row.actor = some vt.actor
  verified : ∃ reads exp, Asks settings db action row.type row.serial reads exp ∧
    verifyTransaction settings reads vt.signature vt.actor exp = .ok vt
  scan : row.type = .scan → vt.account .signer = some vt.actor

theorem verified_names {settings : Settings} {reads : ChainReads} {signature : Signature} {actor : Pubkey} {exp : Expectation}
    {vt : VerifiedTx} (verified : verifyTransaction settings reads signature actor exp = .ok vt) :
    vt.signature = signature ∧ vt.actor = actor := by
  obtain ⟨_,_,_,found⟩ := verified_parts verified
  obtain ⟨_,_,_,names⟩ := findInstruction_backing found
  exact names

theorem event_vouches {settings : Settings} {db : Database} {action : Action} {job : EventJob} {row : EventRow}
    (begun : Begun settings db action (.event job)) (type : row.type = job.type) (serial : row.serial = job.serial)
    (txSig : row.txSig = some job.txSig) (actor : row.actor = some job.actor) : Vouches settings db action row job.vt := by
  cases begun with
  | event body reads now _ read =>
    have parts := eventRead_parts read
    obtain ⟨exp,expected,verified⟩ := parts.verified
    obtain ⟨signed,acted⟩ := verified_names verified
    refine ⟨signed ▸ txSig,acted ▸ actor,⟨reads,exp,?_,?_⟩,?_⟩
    · rw [type,serial]
      exact .event body reads now job.type job.serial job.sealUidHash exp parts.type parts.serial expected
    · rw [signed,acted]
      exact verified
    · intro scan
      exact absurd (type.symm.trans scan) parts.other

theorem confirm_vouches {settings : Settings} {db : Database} {action : Action} {job : ConfirmJob} {row : EventRow}
    (begun : Begun settings db action (.confirm job))
    (known : ∀ event, db.getEvent job.eventId = some event → row.type = event.type ∧ row.serial = event.serial)
    (txSig : row.txSig = some job.txSig) (actor : row.actor = some job.actor) : Vouches settings db action row job.vt := by
  cases begun with
  | confirm body eventId reads _ read =>
    obtain ⟨event,found,parts⟩ := confirmRead_parts read
    have named : event.id = eventId := (Database.getEvent_some.mp found).2
    subst named
    cases parts with
    | write signature key exp vt repair sent own expected verified signer =>
      obtain ⟨type,serial⟩ := known event found
      obtain ⟨signed,acted⟩ := verified_names verified
      refine ⟨signed ▸ txSig,acted ▸ actor,⟨reads,exp,?_,?_⟩,?_⟩
      · rw [type,serial]
        exact .confirm body reads event exp found expected
      · exact signed.symm ▸ acted.symm ▸ verified
      · intro scan
        exact acted.symm ▸ signer (type.symm.trans scan)

theorem Prepared.events {settings : Settings} {db later : Database} {job : EventJob} {sealUidHash : Option Bytes32} {facts : Facts}
    (prepares : Prepared settings db job later sealUidHash facts) : later.events = db.events := by
  cases prepares with
  | minted label brand name batch asset bindingHash _ _ _ wrote => exact (Aside.mintPassport wrote).events
  | attached hash uid kind _ _ own wrote => exact upsertSeal_events wrote
  | dead => exact applySealDead_events db job.serial sealUidHash
  | recorded _ _ wrote => exact (Aside.recordOutcome wrote).events
  | plain => rfl

theorem Prepared.found {settings : Settings} {db later : Database} {job : EventJob} {sealUidHash : Option Bytes32} {facts : Facts}
    {row : EventRow} {id : ℕ} (prepares : Prepared settings db job later sealUidHash facts) (there : later.getEvent id = some row) :
    db.getEvent id = some row := by
  unfold Database.getEvent at there ⊢
  rw [prepares.events] at there
  exact there

-- A MINT or SEAL_ATTACH row is confirmed from the start.
theorem never_settled {db : Database} {row : EventRow} {id : ℕ} (shapes : Shapes db) (there : db.getEvent id = some row)
    (unsettled : row.status ≠ .confirmed) (kind : row.type = .mint ∨ row.type = .sealAttach) : False := by
  rcases (shapes id row there).unsettled unsettled with signed | report
  · obtain ⟨_,scan,_⟩ := signed
    simp [scan] at kind
  · simp [report.1] at kind

-- A new event stores its own row as confirmed, and no other.
theorem EventOutcome.new_row {settings : Settings} {db later : Database} {job : EventJob} {told row : EventRow} (shapes : Shapes db)
    (outcome : EventOutcome settings db job later told) (found : later.getEvent row.id = some row) (settled : row.status = .confirmed)
    (new : ∀ old, db.getEvent row.id = some old → old.status ≠ .confirmed) :
    row.txSig = some job.txSig ∧ row.actor = some job.actor ∧ row.type = job.type ∧ row.serial = job.serial := by
  cases outcome with
  | known _ _ there type same =>
    refine absurd settled (new row ?_)
    rcases same with same | same
    · exact same ▸ found
    · subst same
      exact found
  | stored label passport sealUidHash facts prepared prepares =>
    rw [Database.getEvent_insert (newEvent job label sealUidHash facts passport) fun _ => rfl] at found
    split at found
    · rw [← Option.some.inj found]
      exact ⟨rfl,rfl,rfl,rfl⟩
    · unfold Database.getEvent at found
      rw [prepares.events] at found
      exact absurd settled (new row found)
  | settled existing _ sealUidHash facts prepared prepares there unsettled type kind =>
    have before : db.getEvent existing.id = some existing := prepares.found there
    exact (never_settled shapes before unsettled (type ▸ kind)).elim

-- So does a confirmation.
theorem ConfirmOutcome.new_row {settings : Settings} {db later : Database} {job : ConfirmJob} {current row : EventRow} {now : I64}
    (outcome : ConfirmOutcome settings db job current now later) (there : db.getEvent job.eventId = some current)
    (kind : current.type = job.type) (found : later.getEvent row.id = some row) (settled : row.status = .confirmed)
    (new : ∀ old, db.getEvent row.id = some old → old.status ≠ .confirmed) :
    row.txSig = some job.txSig ∧ row.actor = some job.actor ∧ row.type = current.type ∧ row.serial = current.serial := by
  have changed {change : EventRow → EventRow} {keeps : ∀ row, (change row).id = row.id} (status : current.status = .confirmed)
      (found : (db.updateEvent job.eventId change keeps).getEvent row.id = some row) : False := by
    rw [Database.getEvent_update] at found
    split at found
    · rename_i here
      exact new current (here ▸ there) status
    · exact new row found settled
  cases outcome with
  | filled status => exact (changed status found).elim
  | kept status => exact absurd settled (new row found)
  | repaired status => exact (changed status found).elim
  | posted unsettled =>
    obtain ⟨final,becomes,rows⟩ := posted_rows settings there kind now
    rw [rows] at found
    split at found
    · have row_is := Option.some.inj found
      rw [← row_is]
      exact ⟨becomes.txSig,becomes.actor,becomes.follows.type,becomes.follows.serial⟩
    · exact absurd settled (new row (Option.filter_eq_some_iff.mp found).1)

namespace Run
variable (settings : Settings) (run : Run)

-- A step in which POST /api/events stores a transaction-backed event as confirmed.
structure Stores (n : ℕ) (row : EventRow) : Prop where
  later : (run.db settings (n+1)).getEvent row.id = some row
  settled : row.status = .confirmed
  new : ∀ old, (run.db settings n).getEvent row.id = some old → old.status ≠ .confirmed
  posted : ∃ index now job, run.actions n = .finish index now ∧ (run.server settings n).jobs[index]? = some job ∧
    ∀ cycle, job ≠ .reconcile cycle

variable {settings : Settings} {run : Run}

theorem finish_db {n index : ℕ} {now : I64} {job : Job} (action : run.actions n = .finish index now)
    (there : (run.server settings n).jobs[index]? = some job) :
    ∃ rest, run.db settings (n+1) = (Server.finish settings ⟨run.db settings n,rest⟩ job now).1.db := by
  refine ⟨(run.server settings n).jobs.eraseIdx index,?_⟩
  have next : run.db settings (n+1) = (Server.step settings (run.server settings n) (run.actions n)).1.db := rfl
  rw [next,action]
  simp only [Server.step,there]
  rfl

-- Every such row has an earlier post whose transaction was verified for it.
theorem stores_vouched {n : ℕ} {row : EventRow} (stores : run.Stores settings n row) :
    ∃ m < n, ∃ vt, Vouches settings (run.db settings m) (run.actions m) row vt := by
  obtain ⟨index,now,job,action,there,posted⟩ := stores.posted
  obtain ⟨m,before,begun⟩ := origin (List.mem_of_getElem? there)
  have knows := run.knows settings n job (List.mem_of_getElem? there)
  obtain ⟨rest,later⟩ := finish_db action there
  have found := stores.later
  rw [later] at found
  have unchanged (same : (Server.finish settings ⟨run.db settings n,rest⟩ job now).1.db = run.db settings n) : False := by
    rw [same] at found
    exact stores.new row found stores.settled
  refine ⟨m,before,?_⟩
  cases knows with
  | event job knows =>
    rcases answered_cases ⟨run.db settings n,rest⟩ (eventWrite settings (run.db settings n) job) .event with refused | accepted
    · obtain ⟨_,_,same⟩ := refused
      exact (unchanged (congrArg (·.1.db) same)).elim
    · obtain ⟨later,told,passed,same⟩ := accepted
      have found : later.getEvent row.id = some row := (congrArg (·.1.db.getEvent row.id) same).symm.trans found
      obtain ⟨txSig,actor,type,serial⟩ := (eventWrite_parts knows passed).new_row (run.shapes settings n) found stores.settled stores.new
      exact ⟨job.vt,event_vouches begun type serial txSig actor⟩
  | confirm job knows =>
    rcases answered_cases ⟨run.db settings n,rest⟩ (confirmWrite settings (run.db settings n) job now) .event with refused | accepted
    · obtain ⟨_,_,same⟩ := refused
      exact (unchanged (congrArg (·.1.db) same)).elim
    · obtain ⟨later,told,passed,same⟩ := accepted
      have found : later.getEvent row.id = some row := (congrArg (·.1.db.getEvent row.id) same).symm.trans found
      obtain ⟨current,there,outcome⟩ := confirmWrite_parts passed
      obtain ⟨txSig,actor,type,serial⟩ := outcome.new_row there (knows.type current there) found stores.settled stores.new
      refine ⟨job.vt,confirm_vouches begun ?_ txSig actor⟩
      intro event asked
      obtain ⟨old,known,follows⟩ := (run.kept settings before.le).rows job.eventId current (Database.getEvent_below asked) there
      have same : old = event := Option.some.inj (known.symm.trans asked)
      subst same
      exact ⟨type.trans follows.type,serial.trans follows.serial⟩
  | fail eventId txSig knows =>
    have found : (failWrite (run.db settings n) eventId txSig).getEvent row.id = some row := found
    rw [getEvent_failWrite] at found
    split at found
    · obtain ⟨old,there,failed⟩ := Option.map_eq_some_iff.mp found
      unfold failedRow at failed
      split at failed
      · have settled := stores.settled
        rw [← failed] at settled
        cases settled
      · exact absurd stores.settled (stores.new row (failed ▸ there))
    · exact absurd stores.settled (stores.new row found)
  | reconcile job knows => exact absurd rfl (posted job)

end Run
end FlaconVault.Verifier
