import FlaconVault.Verifier.ReplayLaw
namespace FlaconVault.Verifier
open Guards

-- Where the texts of a signed bundle come from: a seal's serial from the SEAL_ATTACH that stored it, a session's time from
-- the request that issued it.

-- Steps that store no seal of another serial.
def SameSerials (db later : Database) : Prop := ∀ row' ∈ later.seals.rows, ∃ row ∈ db.seals.rows, row.serial = row'.serial

namespace SameSerials
variable {db later : Database}

theorem refl (db : Database) : SameSerials db db := fun row present => ⟨row,present,rfl⟩

theorem trans {middle : Database} (first : SameSerials db middle) (second : SameSerials middle later) : SameSerials db later := by
  intro row'' present
  obtain ⟨row',there,same⟩ := second row'' present
  obtain ⟨row,here,same'⟩ := first row' there
  exact ⟨row,here,same'.trans same⟩

theorem of_same (seals : later.seals = db.seals) : SameSerials db later := by
  intro row present
  exact ⟨row,seals ▸ present,rfl⟩

theorem of_map {change : SealRow → SealRow} (seals : later.seals.rows = db.seals.rows.map change)
    (keeps : ∀ row, (change row).serial = row.serial) : SameSerials db later := by
  intro row' present
  rw [seals] at present
  obtain ⟨row,here,rfl⟩ := List.mem_map.mp present
  exact ⟨row,here,(keeps row).symm⟩

theorem foldl {α : Type} {step : Database → α → Database} (each : ∀ db value, SameSerials db (step db value)) (values : List α)
    (db : Database) : SameSerials db (values.foldl step db) := by
  induction values generalizing db with
  | nil => exact .refl db
  | cons first rest ih => exact (each db first).trans (ih (step db first))

theorem all {fit : String → Prop} (same : SameSerials db later) (fits : ∀ row ∈ db.seals.rows, fit row.serial) :
    ∀ row ∈ later.seals.rows, fit row.serial := by
  intro row' present
  obtain ⟨row,here,serial⟩ := same row' present
  exact serial ▸ fits row here

end SameSerials

theorem markSealDead_serials (db : Database) (uidHash : Bytes32) : SameSerials db (db.markSealDead uidHash) := by
  refine .of_map rfl ?_
  intro row
  dsimp only
  split <;> rfl

theorem advanceSealCounter_serials (db : Database) (uidHash : Bytes32) (counter : ℕ) :
    SameSerials db (db.advanceSealCounter uidHash counter) := by
  refine .of_map rfl ?_
  intro row
  dsimp only
  split <;> rfl

theorem refreshSeal_serials (settings : Settings) (db : Database) (entry : SealRow × Option (List Byte)) :
    SameSerials db (refreshSeal settings db entry) := by
  unfold refreshSeal
  split
  · exact .refl db
  · split
    · refine .of_map rfl ?_
      intro row
      dsimp only
      split <;> rfl
    · exact .refl db

theorem applySealDead_serials (db : Database) (serial : String) (sealUidHash : Option Bytes32) :
    SameSerials db (applySealDead db serial sealUidHash) := by
  unfold applySealDead
  cases sealUidHash with
  | none => exact .of_same rfl
  | some hash => exact (markSealDead_serials db hash).trans (.of_same rfl)

theorem applyConfirmedScan_serials (db : Database) (event : EventRow) (attester : Option Pubkey) (ts : Int)
    (chain : Option ChainValues) : SameSerials db (db.applyConfirmedScan event attester ts chain) := by
  obtain ⟨_,_,_,same,_⟩ := Database.applyConfirmedScan_only db event attester ts chain
  rw [same]
  exact .of_same rfl

-- The second halves, a new event aside.
theorem confirmWrite_serials {settings : Settings} {db later : Database} {job : ConfirmJob} {now : I64} {row : EventRow}
    (accepted : confirmWrite settings db job now = .ok (later,row)) : SameSerials db later := by
  obtain ⟨current,_,outcome⟩ := confirmWrite_parts accepted
  cases outcome with
  | filled => exact .of_same rfl
  | kept => exact .refl db
  | repaired => exact .of_same rfl
  | posted =>
    have written : SameSerials db (db.updateEvent job.eventId job.posted job.posted_id) := .of_same rfl
    refine written.trans ?_
    unfold ConfirmJob.effects
    split
    · exact SameSerials.trans (.of_same rfl) (applyConfirmedScan_serials _ _ _ _ _)
    · split
      · exact (applySealDead_serials _ current.serial _).trans (.of_same rfl)
      · exact .refl _

theorem applyWork_serials {settings : Settings} {ts : Int} {db later : Database} {item : WorkItem}
    (accepted : applyWork settings ts db item = .ok later) : SameSerials db later := by
  unfold applyWork at accepted
  split at accepted
  · cases accepted
    exact .refl db
  · rename_i current matched
    obtain ⟨found,_⟩ := Option.filter_eq_some_iff.mp matched
    split at accepted
    · obtain ⟨_,_,same⟩ := confirmScan_parts found accepted
      rw [same]
      exact SameSerials.trans (.of_same rfl) (applyConfirmedScan_serials _ _ _ _ _)
    · rcases branch accepted with failed | pending
      · cases failed.2
        exact .refl db
      · rcases branch pending.2 with late | early
        · cases late.2
          exact .of_same rfl
        · rcases branch early.2 with ignored | quiet
          · cases ignored.2
            exact .of_same rfl
          · cases quiet.2
            exact .refl db

theorem work_serials {settings : Settings} {ts : Int} {work : List WorkItem} {db later : Database}
    (accepted : work.foldlM (applyWork settings ts) db = .ok later) : SameSerials db later := by
  induction work generalizing db with
  | nil => exact pure_ok.mp accepted ▸ .refl db
  | cons item rest ih =>
    rw [List.foldlM_cons] at accepted
    obtain ⟨middle,first,accepted⟩ := bind_ok.mp accepted
    exact (applyWork_serials first).trans (ih accepted)

theorem failStale_serials (settings : Settings) (ts : Int) (db : Database) (event : EventRow) :
    SameSerials db (failStale settings ts db event) := .of_same rfl

theorem cycleRest_serials (settings : Settings) (job : ReconcileJob) (worked : Database) :
    SameSerials worked (cycleRest settings job worked) := by
  refine (SameSerials.foldl (failStale_serials settings job.ts.val) (worked.stalePendingEvents (job.ts.val-settings.reconcileTimeout)) worked).trans ?_
  refine (SameSerials.foldl (fun db entry => .of_same (Aside.refreshPassport settings db entry).seals) job.passports _).trans ?_
  refine (SameSerials.foldl (refreshSeal_serials settings) job.seals _).trans ?_
  exact .of_same (Aside.refreshRegistry settings job.ts.val _ job.registry).seals

theorem reconcileWrite_serials {settings : Settings} {db later : Database} {job : ReconcileJob}
    (accepted : reconcileWrite settings db job = .ok later) : SameSerials db later := by
  cases works : job.work.foldlM (applyWork settings job.ts.val) db with
  | error error =>
    unfold reconcileWrite at accepted
    dsimp only at accepted
    rw [works,error_bind] at accepted
    cases accepted
  | ok worked =>
    rw [reconcileWrite_worked works] at accepted
    exact (work_serials works).trans ((cycleRest_serials settings job worked).trans (.of_same (Aside.refreshOrders accepted).seals))

-- The requests that write at once.
theorem Checked.serials {settings : Settings} {db checked : Database} {check : TapCheck} (step : Checked settings db check checked) :
    SameSerials db checked := by
  cases step with
  | valid uid counter cmac encrypted row => exact advanceSealCounter_serials db row.uidHash counter
  | _ => exact .refl db

theorem Logged.serials {db later : Database} {tap : TapRow} (log : Logged db tap later) : SameSerials db later :=
  .of_same (by rw [log.rest])

theorem Purged.serials {db later : Database} (purged : Purged db later) : SameSerials db later := by
  cases purged <;> exact .of_same rfl

theorem Tapped.serials {settings : Settings} {db checked : Database} {body : VerifyBody} {now : Int} {check : TapCheck}
    (tapped : Tapped settings db body now check checked) : SameSerials db checked := by
  cases tapped with
  | direct _ step => exact step.serials
  | adopted _ _ adoption => cases adoption <;> exact .of_same rfl

theorem Landing.serials {settings : Settings} {db later : Database} {around : Surroundings} {answer : TagAnswer}
    (landing : Landing settings db around answer later) : SameSerials db later := by
  cases landing with
  | unlogged _ _ rest => exact rest.serials
  | quiet _ _ _ check log _ _ _ rest => exact check.serials.trans (log.serials.trans rest.serials)
  | sighted _ logged _ _ _ check log _ _ _ _ _ _ rest =>
    refine check.serials.trans (log.serials.trans (SameSerials.trans ?_ rest.serials))
    exact .of_same rfl

theorem Verifying.serials {settings : Settings} {db later : Database} {body : VerifyBody} {around : Surroundings}
    {answer : VerifyAnswer} (verifying : Verifying settings db body around answer later) : SameSerials db later := by
  cases verifying with
  | nonceInvalid => exact .refl db
  | unlogged _ _ tapped => exact tapped.serials
  | logged _ _ _ _ tapped log => exact tapped.serials.trans log.serials
  | signed _ _ _ _ _ _ _ _ _ _ _ tapped log => exact tapped.serials.trans (log.serials.trans (.of_same rfl))

-- A new event stores a seal of its own serial at most.
theorem upsertSeal_serials {db later : Database} {uidHash : Bytes32} {uid : Uid} {serial : String} {kind : ℕ} {attachedAt : Int}
    (accepted : db.upsertSeal uidHash uid serial kind attachedAt = .ok later) :
    ∀ row' ∈ later.seals.rows, row'.serial = serial ∨ ∃ row ∈ db.seals.rows, row.serial = row'.serial := by
  unfold Database.upsertSeal at accepted
  dsimp only at accepted
  split at accepted
  · rename_i seals inserted
    obtain ⟨_,rows⟩ := Table.insert_some.mp inserted
    rcases branch accepted with taken | free
    · cases taken.2
    · cases free.2
      intro row' present
      have present : row' ∈ seals.rows := present
      rw [rows,List.mem_append,List.mem_singleton] at present
      rcases present with old | new
      · exact .inr ⟨row',old,rfl⟩
      · exact .inl (new ▸ rfl)
  · cases accepted
    intro row' present
    obtain ⟨row,here,rfl⟩ := List.mem_map.mp present
    dsimp only
    split
    · exact .inl rfl
    · exact .inr ⟨row,here,rfl⟩

theorem Prepared.serials {settings : Settings} {db later : Database} {job : EventJob} {sealUidHash : Option Bytes32} {facts : Facts}
    (prepares : Prepared settings db job later sealUidHash facts) :
    ∀ row' ∈ later.seals.rows, row'.serial = job.serial ∨ ∃ row ∈ db.seals.rows, row.serial = row'.serial := by
  cases prepares with
  | minted label brand name batch asset bindingHash _ _ _ wrote =>
    intro row present
    exact .inr (SameSerials.of_same (Aside.mintPassport wrote).seals row present)
  | attached hash uid kind _ _ own wrote => exact upsertSeal_serials wrote
  | dead =>
    intro row present
    exact .inr (applySealDead_serials db job.serial sealUidHash row present)
  | recorded _ _ wrote =>
    intro row present
    exact .inr (SameSerials.of_same (Aside.recordOutcome wrote).seals row present)
  | plain => exact fun row present => .inr ⟨row,present,rfl⟩

theorem eventWrite_serials {settings : Settings} {db later : Database} {job : EventJob} {row : EventRow} (knows : KnowsEvent job)
    (accepted : eventWrite settings db job = .ok (later,row)) :
    ∀ row' ∈ later.seals.rows, row'.serial = job.serial ∨ ∃ row ∈ db.seals.rows, row.serial = row'.serial := by
  cases eventWrite_parts knows accepted with
  | known _ _ _ _ same =>
    intro row' present
    rcases same with same | same
    · exact .inr ⟨row',same ▸ present,rfl⟩
    · subst same
      exact .inr ⟨row',present,rfl⟩
  | stored label passport sealUidHash facts prepared prepares => exact prepares.serials
  | settled existing _ sealUidHash facts prepared prepares => exact prepares.serials

-- What the first half of a new event asked and read.
structure EventRead (settings : Settings) (db : Database) (body : EventBody) (reads : ChainReads) (job : EventJob) : Prop where
  serial : body.serial = some job.serial
  type : body.type = some job.type
  valid : validSerial job.serial = true
  other : job.type ≠ .scan
  txSig : body.txSig = some job.txSig
  actor : body.actor.bind (·.pubkey) = some job.actor
  verified : ∃ exp, expectation settings db job.type job.serial job.sealUidHash none = .ok exp ∧
    verifyTransaction settings reads job.txSig job.actor exp = .ok job.vt

theorem eventRead_parts {settings : Settings} {db : Database} {body : EventBody} {reads : ChainReads} {now : I64} {job : EventJob}
    (read : eventRead settings db body reads now = .ok (.write job)) : EventRead settings db body reads job := by
  unfold eventRead at read
  obtain ⟨_,_,read⟩ := bind_ok.mp read
  obtain ⟨serial,named,read⟩ := bind_ok.mp read
  obtain ⟨type,typed,read⟩ := bind_ok.mp read
  obtain ⟨_,valid,read⟩ := bind_ok.mp read
  dsimp only at read
  split at read
  all_goals
    obtain ⟨_,_,read⟩ := bind_ok.mp read
    obtain ⟨_,other,read⟩ := bind_ok.mp read
    obtain ⟨txSig,sent,read⟩ := bind_ok.mp read
    obtain ⟨actor,posted,read⟩ := bind_ok.mp read
    obtain ⟨⟨known,uid,sealUidHash⟩,_,read⟩ := bind_ok.mp read
    cases known with
    | some row => cases pure_ok.mp read
    | none =>
      obtain ⟨exp,expected,read⟩ := bind_ok.mp read
      obtain ⟨vt,verified,read⟩ := bind_ok.mp read
      obtain ⟨_,_,read⟩ := bind_ok.mp read
      cases pure_ok.mp read
      exact ⟨orRefuse_ok.mp named,orRefuse_ok.mp typed,require_ok.mp valid,require_ok.mp other,orRefuse_ok.mp sent,orRefuse_ok.mp posted,
        exp,expected,verified⟩

-- An unused session is an old one, or was issued by this step.
theorem changes_issued {settings : Settings} {server : Server} {later : Database} {action : Action} {answer : Answer} {row : NonceRow}
    (changes : Changes settings server action later answer) (found : later.getNonce row.nonce = some row) (unused : row.usedAt = none) :
    server.db.getNonce row.nonce = some row ∨ ∃ now : I64, action = .session row.nonce now ∧ row.issuedAt = now.val := by
  cases changes with
  | issued nonce now _ issues =>
    obtain ⟨nonces,inserted,same⟩ := issues.rows
    rw [same] at found
    have found : (nonces.delete _).get row.nonce = some row := found
    rw [Table.get_delete] at found
    have there := (Option.filter_eq_some_iff.mp found).1
    rw [Table.get_insert inserted] at there
    split at there
    · rename_i here
      have row_is := Option.some.inj there
      exact .inr ⟨now,by rw [here],by rw [← row_is]⟩
    · exact .inl there
  | none => exact .inl found
  | finished index now job _ _ there edits =>
    rcases changes_nonces (.finished index now job answer later there edits) found unused with old | issued
    · exact .inl old
    · subst issued
      exact .inl (by
        unfold Database.getNonce at found ⊢
        rwa [(edits_undisturbed edits).nonces] at found)
  | landed params around purge told _ landing =>
    rcases changes_nonces (.landed params around purge told later landing) found unused with old | issued
    · exact .inl old
    · cases issued
  | verified body around told _ verifying => exact .inl (verifying.nonces found unused).1
  | reported body now allowed row' _ serial sealUidHash source note reportedBy passport session report =>
    rw [report.same] at found
    exact .inl (unused_before found unused).1

-- A valid check names a stored seal.
theorem Tapped.stored {settings : Settings} {db checked : Database} {body : VerifyBody} {now : Int} {check : TapCheck} {row : SealRow}
    (tapped : Tapped settings db body now check checked) (valid : check.verdict = .valid) (named : check.sealRow = some row) :
    ∃ kept ∈ db.seals.rows, kept.serial = row.serial := by
  cases tapped with
  | direct _ step =>
    cases step with
    | invalid _ verdict => exact absurd (verdict.symm.trans valid) (by simp)
    | replay _ verdict => exact absurd (verdict.symm.trans valid) (by simp)
    | unregistered => cases valid
    | valid uid counter cmac encrypted kept found =>
      cases named
      exact ⟨kept,(Database.getSealByUid_mem found).1,rfl⟩
  | adopted _ _ adoption =>
    cases adoption with
    | refused _ verdict =>
      rcases verdict with invalid | replay
      · exact absurd (invalid.symm.trans valid) (by simp)
      · exact absurd (replay.symm.trans valid) (by simp)
    | adopted tap uid counter =>
      have found : db.getSealByUid uid = some row := named
      exact ⟨row,(Database.getSealByUid_mem found).1,rfl⟩

-- What is signed, by its parts.
theorem Verifying.bundled {settings : Settings} {db later : Database} {body : VerifyBody} {around : Surroundings}
    {answer : VerifyAnswer} {scan : SignedScan} (verifying : Verifying settings db body around answer later)
    (scanned : answer.signed = some scan) : ∃ row session uidHash counter mediaHash msg, (∃ kept ∈ db.seals.rows, kept.serial = row.serial) ∧
      Live db session around.now.val ∧ scan.bundleHash = settings.bundleHash scan.bundle ∧
      scan.bundle = bundleOf settings body around row uidHash counter mediaHash session (settings.sign msg) := by
  cases verifying with
  | nonceInvalid _ _ unsigned => exact absurd (scanned.symm.trans unsigned) (by simp)
  | unlogged _ _ _ _ _ _ unsigned => exact absurd (scanned.symm.trans unsigned) (by simp)
  | logged _ _ _ _ _ _ _ _ _ unsigned => exact absurd (scanned.symm.trans unsigned) (by simp)
  | signed check checked logged tap session row uidHash counter mediaHash admitted live tapped _ _ _ _ valid _ named _ _ signs =>
    have same_scan := Option.some.inj (signs.symm.trans scanned)
    refine ⟨row,session,uidHash,counter,mediaHash,?_,tapped.stored valid named,live,?_⟩
    · exact buildMessage (settings.serialHash row.serial) uidHash counter Tamper.UNKNOWN body.uv.val body.humidity.val
        body.heat.val body.fill.val mediaHash session.nonce around.now
    · rw [← same_scan]
      exact ⟨rfl,rfl⟩

-- What the request models let through, in characters: a country of two letters in upper case, a city as a clean short text.
def isLetter (c : Char) : Bool := decide (65 ≤ c.toNat ∧ c.toNat ≤ 90 ∨ 97 ≤ c.toNat ∧ c.toNat ≤ 122)

def upper (c : Char) : Char := if 97 ≤ c.toNat ∧ c.toNat ≤ 122 then Char.ofNat (c.toNat-32) else c

def countryOf (text : String) : Option String :=
  if text.length = 2 ∧ text.toList.all isLetter then some (String.ofList (text.toList.map upper)) else none

def locationOf (settings : Settings) (country city : Option String) : Option Location :=
  if country.any (fun text => decide (2 < text.length)) ∨ city.any (fun text => decide (80 < text.length)) then none
  else some ⟨country.bind countryOf,cleanText settings city 80⟩

-- An action as the routes admit it, on a clock of at most 53 bits.
def Admitted (settings : Settings) : Action → Prop
  | .verify body around => body.note.length ≤ 280 ∧
    (∀ location ∈ body.location, ∃ country city, locationOf settings country city = some location) ∧ around.now.val.natAbs < 2^53
  | .session _ now => now.val.natAbs < 2^53
  | .postEvent body _ _ => ∀ serial ∈ body.serial, serial.length ≤ 64
  | _ => True

namespace Run
variable (settings : Settings) (run : Run)

-- What holds of the serials that new events name holds of every stored seal's, and of every job's on its way.
structure Fits (fit : String → Prop) (n : ℕ) : Prop where
  seals : ∀ row ∈ (run.db settings n).seals.rows, fit row.serial
  jobs : ∀ job, Job.event job ∈ (run.server settings n).jobs → fit job.serial

theorem fits {fit : String → Prop} (bodies : ∀ n body reads now serial, run.actions n = .postEvent body reads now →
    body.serial = some serial → validSerial serial = true → fit serial) (n : ℕ) : run.Fits settings fit n := by
  induction n with
  | zero => exact ⟨fun _ present => absurd present List.not_mem_nil,fun _ present => absurd present List.not_mem_nil⟩
  | succ n ih =>
    have knows := run.knows settings n
    refine ⟨?_,?_⟩
    · have writes : Writes settings (run.server settings n) (run.actions n) (run.db settings (n+1)) (run.answer settings n) :=
        step_writes settings (run.server settings n) (run.actions n)
      generalize run.answer settings n = answer at writes
      generalize run.db settings (n+1) = db at writes
      generalize run.actions n = action at writes
      cases writes with
      | none => exact ih.seals
      | tagLanding _ _ _ _ _ accepted => exact (tagLanding_landing accepted).serials.all ih.seals
      | verify _ _ _ _ accepted => exact (verify_verifying accepted).serials.all ih.seals
      | session _ _ _ _ accepted =>
        obtain ⟨_,_,same⟩ := (session_issued accepted).2.rows
        exact (SameSerials.of_same (same ▸ rfl)).all ih.seals
      | report _ _ _ _ _ accepted =>
        obtain ⟨_,_,_,_,_,_,_,report⟩ := reportSealDead_reported accepted
        exact (SameSerials.of_same (report.same ▸ rfl)).all ih.seals
      | event job _ _ _ _ started accepted =>
        intro row present
        have knows_job : KnowsEvent job := by
          cases knows _ started with
          | event _ knows => exact knows
        rcases eventWrite_serials knows_job accepted row present with own | old
        · exact own ▸ ih.jobs job started
        · obtain ⟨kept,there,same⟩ := old
          exact same ▸ ih.seals kept there
      | confirm _ _ _ _ _ _ accepted => exact (confirmWrite_serials accepted).all ih.seals
      | fail => exact ih.seals
      | reconcile _ _ _ _ _ accepted => exact (reconcileWrite_serials accepted).all ih.seals
    · intro job present
      rcases step_begun settings (run.server settings n) (run.actions n) (.event job) present with old | begun
      · exact ih.jobs job old
      · generalize action_is : run.actions n = action at begun
        cases begun with
        | event body reads now _ read =>
          have parts := eventRead_parts read
          exact bodies n body reads now job.serial action_is parts.serial parts.valid

-- An unused session carries the time of the request that issued it.
theorem session_clock {n : ℕ} {row : NonceRow} (found : (run.db settings n).getNonce row.nonce = some row) (unused : row.usedAt = none) :
    ∃ k < n, ∃ now : I64, run.actions k = .session row.nonce now ∧ row.issuedAt = now.val := by
  induction n with
  | zero => cases found
  | succ n ih =>
    rcases changes_issued (run.changes settings n) found unused with old | issued
    · obtain ⟨k,before,issued⟩ := ih old
      exact ⟨k,by omega,issued⟩
    · exact ⟨n,Nat.lt_succ_self n,issued⟩

end Run
end FlaconVault.Verifier
