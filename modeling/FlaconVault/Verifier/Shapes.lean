import FlaconVault.Verifier.Requests
namespace FlaconVault.Verifier
open Guards

-- The kinds of rows this build writes, and what holds of every row of each kind in every run.
inductive Shape (row : EventRow) : Prop
  | signed (scan : ScanPayload) (kind : row.type = .scan) (body : row.payload.body = .signedScan scan) (sealed : row.sealUidHash.isSome)
      (known : row.status ≠ .reported) (bare : row.status ≠ .confirmed → scan.chain = none ∧ row.actor = none)
      (checked : scan.chain.isSome → row.payload.reconcile.any (·.signatureChecked) = true)
  | sighting (counter tapId : ℕ) (kind : row.type = .scan) (body : row.payload.body = .sighting counter tapId)
      (sealed : row.sealUidHash.isSome) (status : row.status = .confirmed)
  | facts (facts : Facts) (kind : row.type ≠ .scan) (body : row.payload.body = .facts facts) (status : row.status = .confirmed)
      (backed : row.txSig.isSome)
  | report (source : String) (note : Option String) (reportedBy : Option Pubkey) (kind : row.type = .sealDead)
      (body : row.payload.body = .report source note reportedBy) (status : row.status = .reported ∨ row.status = .confirmed ∧ row.txSig.isSome)

def Shapes (db : Database) : Prop := ∀ id row, db.getEvent id = some row → Shape row

theorem Payload.body_of_signed {payload : Payload} {scan : ScanPayload} (signed : payload.signedScan = some scan) :
    payload.body = .signedScan scan := by
  unfold Payload.signedScan at signed
  split at signed
  · rename_i inner body
    cases signed
    exact body
  · cases signed

theorem Payload.signed_of_body {payload : Payload} {scan : ScanPayload} (body : payload.body = .signedScan scan) :
    payload.signedScan = some scan := by
  unfold Payload.signedScan
  rw [body]

theorem fill_body (job : ConfirmJob) (row : EventRow) : (job.fill row).payload.body = row.payload.body := by
  unfold ConfirmJob.fill
  dsimp only
  split <;> rfl

namespace Shape
variable {row : EventRow}

-- A row that is not confirmed yet is a signed scan or a report.
theorem unsettled (shape : Shape row) (open_row : row.status ≠ .confirmed) :
    (∃ scan, row.type = .scan ∧ row.payload.signedScan = some scan ∧ row.sealUidHash.isSome ∧ row.status ≠ .reported ∧
      scan.chain = none ∧ row.actor = none) ∨
      row.type = .sealDead ∧ row.status = .reported ∧ ∃ source note reportedBy, row.payload.body = .report source note reportedBy := by
  cases shape with
  | signed scan kind body sealed known bare => exact .inl ⟨scan,kind,Payload.signed_of_body body,sealed,known,bare open_row⟩
  | sighting _ _ _ _ _ status => exact absurd status open_row
  | facts _ _ _ status => exact absurd status open_row
  | report source note reportedBy kind body status =>
    rcases status with reported | confirmed
    · exact .inr ⟨kind,reported,source,note,reportedBy,body⟩
    · exact absurd confirmed.1 open_row

-- An older build's unchecked signature does not occur.
theorem not_chosen (shape : Shape row) : reconcileChoseSignature row = false := by
  unfold reconcileChoseSignature
  cases shape with
  | signed scan kind body _ _ _ checked =>
    rw [Payload.signed_of_body body]
    cases told : scan.chain with
    | none => simp [told]
    | some part => simp [checked (by simp [told])]
  | sighting _ _ _ body => simp [Payload.signedScan,body]
  | facts _ kind => simp [kind]
  | report _ _ _ kind => simp [kind]

-- A new note, and the end of waiting, leave the shape of an open row.
theorem renote {later : EventRow} (shape : Shape row) (open_row : row.status ≠ .confirmed)
    (status : later.status = row.status ∨ row.status = .pending ∧ later.status = .failed) (kind : later.type = row.type)
    (sealed : later.sealUidHash = row.sealUidHash) (actor : later.actor = row.actor) (body : later.payload.body = row.payload.body) :
    Shape later := by
  rcases shape.unsettled open_row with signed | report
  · obtain ⟨scan,type,signed,there,known,bare,alone⟩ := signed
    refine .signed scan (kind.trans type) (body.trans (Payload.body_of_signed signed)) (sealed ▸ there) ?_
      (fun _ => ⟨bare,actor.trans alone⟩) ?_
    · rcases status with same | failed
      · exact same ▸ known
      · simp [failed.2]
    · intro told
      simp [bare] at told
  · obtain ⟨type,reported,source,note,reportedBy,told⟩ := report
    refine .report source note reportedBy (kind.trans type) (body.trans told) (.inl ?_)
    rcases status with same | failed
    · exact same.trans reported
    · exact absurd (failed.1.symm.trans reported) (by simp)

theorem fill (shape : Shape row) (job : ConfirmJob) (settled : row.status = .confirmed) : Shape (job.fill row) := by
  have body := fill_body job row
  have follows := fill_follows job settled
  have backed : (job.fill row).txSig = some job.txSig := rfl
  cases shape with
  | signed scan kind inner sealed known bare checked =>
    refine .signed scan (follows.type.trans kind) (body.trans inner) ((follows.scan kind).1 ▸ sealed) ?_ ?_ ?_
    · simp [follows.settled settled]
    · intro open_row
      exact absurd (follows.settled settled) open_row
    · intro told
      have before := checked told
      unfold ConfirmJob.fill checkedSignature
      dsimp only
      cases note : row.payload.reconcile with
      | none => simp [note] at before
      | some part =>
        simp only [note,Option.any_some] at before
        split
        · rfl
        · simp [note,before]
  | sighting counter tapId kind inner sealed =>
    exact .sighting counter tapId (follows.type.trans kind) (body.trans inner) ((follows.scan kind).1 ▸ sealed) (follows.settled settled)
  | facts facts kind inner => exact .facts facts (follows.type ▸ kind) (body.trans inner) (follows.settled settled) (by simp [backed])
  | report source note reportedBy kind inner =>
    exact .report source note reportedBy (follows.type.trans kind) (body.trans inner) (.inr ⟨follows.settled settled,by simp [backed]⟩)

theorem posted {settings : Settings} {job : ConfirmJob} {final : EventRow} (shape : Shape row) (open_row : row.status ≠ .confirmed)
    (becomes : PostedRow settings job row final) : Shape final := by
  rcases shape.unsettled open_row with signed | report
  · obtain ⟨scan,kind,signed,sealed,_,bare,_⟩ := signed
    have told := becomes.signed kind
    rw [signed] at told
    refine .signed _ (becomes.follows.type.trans kind) (Payload.body_of_signed told) ((becomes.follows.scan kind).1 ▸ sealed)
      (by simp [becomes.status]) ?_ ?_
    · intro open_final
      exact absurd becomes.status open_final
    · intro chained
      simp [ScanPayload.attested,bare] at chained
  · obtain ⟨kind,_,source,note,reportedBy,told⟩ := report
    refine .report source note reportedBy (becomes.follows.type.trans kind) ?_ (.inr ⟨becomes.status,by simp [becomes.txSig]⟩)
    rw [becomes.plain (by simp [kind])]
    exact told

theorem reconciled {item : WorkItem} {acct : ScanProof} {ts : Int} {final : EventRow} (shape : Shape row)
    (open_row : row.status ≠ .confirmed) (kind : row.type = .scan) (body : row.payload.body = item.event.payload.body)
    (becomes : ReconciledRow item acct ts row final) : Shape final := by
  rcases shape.unsettled open_row with signed | report
  · obtain ⟨scan,_,signed,sealed,_⟩ := signed
    have told := becomes.signed
    rw [show item.event.payload.signedScan = some scan from Payload.signed_of_body (body ▸ Payload.body_of_signed signed)] at told
    refine .signed _ (becomes.follows.type.trans kind) (Payload.body_of_signed told) ((becomes.follows.scan kind).1 ▸ sealed)
      (by simp [becomes.status]) ?_ fun _ => becomes.checked
    intro open_final
    exact absurd becomes.status open_final
  · exact absurd (kind.symm.trans report.1) (by simp)

end Shape

theorem Shapes.of_events {db later : Database} (shapes : Shapes db) (same : later.events = db.events) : Shapes later := by
  intro id row found
  unfold Database.getEvent at found
  rw [same] at found
  exact shapes id row found

theorem Shapes.of_insert {db : Database} (shapes : Shapes db) (make : ℕ → EventRow) (named : ∀ number, (make number).id = number)
    (shape : Shape (make db.events.next)) : Shapes (db.insertEvent make named) := by
  intro id row found
  rw [Database.getEvent_insert] at found
  split at found
  · exact Option.some.inj found ▸ shape
  · exact shapes id row found

theorem Shapes.of_change {db later : Database} (shapes : Shapes db) {id : ℕ} {change : EventRow → EventRow}
    (rows : ∀ other, later.getEvent other = if other = id then (db.getEvent other).map change else db.getEvent other)
    (shape : ∀ row, db.getEvent id = some row → Shape (change row)) : Shapes later := by
  intro other row found
  rw [rows] at found
  split at found
  · rename_i here
    obtain ⟨old,there,rfl⟩ := Option.map_eq_some_iff.mp found
    exact shape old (here ▸ there)
  · exact shapes other row found

theorem Shapes.of_confirm {db later : Database} (shapes : Shapes db) {id : ℕ} {final : EventRow} {gone : EventRow → Bool}
    (rows : ∀ other, later.getEvent other = if other = id then some final else (db.getEvent other).filter (!gone ·))
    (shape : Shape final) : Shapes later := by
  intro other row found
  rw [rows] at found
  split at found
  · exact Option.some.inj found ▸ shape
  · exact shapes other row (Option.filter_eq_some_iff.mp found).1

theorem edit_shapes {settings : Settings} {cause : Cause} {db later : Database} (shapes : Shapes db)
    (edit : Edit settings cause db later) : Shapes later := by
  cases edit with
  | aside _ rest => exact shapes.of_events rest.events
  | attached uidHash uid serial kind attachedAt _ own accepted => exact shapes.of_events (upsertSeal_events accepted)
  | sealDead uidHash => exact shapes.of_events rfl
  | refreshed entry => exact shapes.of_events (refreshSeal_events settings db entry)
  | backed job label sealUidHash facts passport kind new => exact shapes.of_insert _ _ (.facts facts kind rfl rfl rfl)
  | settled existing facts txSig actor found unsettled kind =>
    rcases (shapes _ _ found).unsettled unsettled with signed | report
    · obtain ⟨_,scan,_⟩ := signed
      simp [scan] at kind
    · simp [report.1] at kind
  | filled job current by_id knows found status bare =>
    refine shapes.of_change (fun other => Database.getEvent_update _ other _ job.fill_id) ?_
    intro row there
    have same : row = current := Option.some.inj (there.symm.trans found)
    exact same ▸ (shapes _ _ found).fill job status
  | repaired job current knows found status chosen => simp [(shapes _ _ found).not_chosen] at chosen
  | posted job current now knows found unsettled =>
    obtain ⟨final,row,rows⟩ := posted_rows settings found (knows.type current found) now
    exact shapes.of_confirm rows ((shapes _ _ found).posted unsettled row)
  | failed eventId txSig own =>
    refine shapes.of_change (fun other => getEvent_failWrite db eventId other txSig) ?_
    intro row there
    have shape := shapes _ _ there
    unfold failedRow
    split
    · rename_i pending
      exact shape.renote (by simp [pending]) (.inr ⟨pending,rfl⟩) rfl rfl rfl rfl
    · exact shape
  | reconciled item acct ts current _ knows found status proof accepted =>
    have kind : current.type = .scan := (knows.follows current found).type.trans knows.type
    have body := knows.body found (knows.open status)
    obtain ⟨_,final,row,rows⟩ := reconciled_rows found kind body accepted
    exact shapes.of_confirm rows ((shapes _ _ found).reconciled (knows.open status) kind body row)
  | timedOut id payload current found pending body late =>
    refine shapes.of_change (fun other => getEvent_failPending db id other payload) ?_
    intro row there
    have same : row = current := Option.some.inj (there.symm.trans found)
    subst same
    exact (shapes _ _ found).renote (by simp [pending]) (.inr ⟨pending,by simp [timedOutRow,pending]⟩) rfl rfl rfl body
  | noted id payload current found unsettled body =>
    refine shapes.of_change (fun other => Database.getEvent_update id other (fun row => {row with payload := payload}) fun _ => rfl) ?_
    intro row there
    have same : row = current := Option.some.inj (there.symm.trans found)
    subst same
    exact (shapes _ _ found).renote unsettled (.inl rfl) rfl rfl rfl body

theorem edits_shapes {settings : Settings} {cause : Cause} {db later : Database} (shapes : Shapes db)
    (edits : Edits settings cause db later) : Shapes later := by
  induction edits with
  | refl => exact shapes
  | tail _ edit ih => exact edit_shapes ih edit

-- Changes of the seals, the taps and the nonces only.
structure Quiet (db later : Database) : Prop where
  passports : later.passports = db.passports
  events : later.events = db.events
  attesters : later.attesters = db.attesters
  escrowOrders : later.escrowOrders = db.escrowOrders
  applied : later.applied = db.applied

theorem Quiet.refl (db : Database) : Quiet db db := ⟨rfl,rfl,rfl,rfl,rfl⟩

theorem Quiet.trans {db middle later : Database} (first : Quiet db middle) (second : Quiet middle later) : Quiet db later :=
  ⟨second.passports.trans first.passports,second.events.trans first.events,second.attesters.trans first.attesters,
    second.escrowOrders.trans first.escrowOrders,second.applied.trans first.applied⟩

theorem Purged.quiet {db later : Database} (purged : Purged db later) : Quiet db later := by
  cases purged <;> exact ⟨rfl,rfl,rfl,rfl,rfl⟩

theorem Logged.quiet {db later : Database} {tap : TapRow} (logged : Logged db tap later) : Quiet db later := by
  rw [logged.rest]
  exact ⟨rfl,rfl,rfl,rfl,rfl⟩

theorem Checked.quiet {settings : Settings} {db checked : Database} {check : TapCheck} (step : Checked settings db check checked) :
    Quiet db checked := by
  cases step <;> exact ⟨rfl,rfl,rfl,rfl,rfl⟩

theorem Tapped.quiet {settings : Settings} {db checked : Database} {body : VerifyBody} {now : Int} {check : TapCheck}
    (tapped : Tapped settings db body now check checked) : Quiet db checked := by
  cases tapped with
  | direct _ direct => exact direct.quiet
  | adopted tapId _ adoption => cases adoption <;> exact ⟨rfl,rfl,rfl,rfl,rfl⟩

-- What a step outside the jobs does to the rest: nothing, or one new event.
inductive Grows (db later : Database) : Prop
  | same (rest : Quiet db later)
  | row (known : Database) (make : ℕ → EventRow) (named : ∀ number, (make number).id = number) (before : Quiet db known)
      (after : Quiet (known.insertEvent make named) later) (shape : Shape (make db.events.next))
      (unbacked : ∀ facts, (make db.events.next).payload.body ≠ .facts facts)
      (uncounted : (make db.events.next).confirmedScan = false)

theorem Landing.grows {settings : Settings} {db later : Database} {around : Surroundings} {answer : TagAnswer}
    (landing : Landing settings db around answer later) : Grows db later := by
  cases landing with
  | unlogged _ _ rest => exact .same rest.quiet
  | quiet checked logged tap check log _ _ _ rest => exact .same (check.quiet.trans (log.quiet.trans rest.quiet))
  | sighted checked logged tap row counter check log _ _ _ _ _ _ rest =>
    refine .row logged _ _ (check.quiet.trans log.quiet) rest.quiet ?_ (fun _ => nofun) rfl
    exact .sighting counter.val tap.id rfl rfl rfl rfl

theorem Verifying.grows {settings : Settings} {db later : Database} {body : VerifyBody} {around : Surroundings}
    {answer : VerifyAnswer} (verifying : Verifying settings db body around answer later) : Grows db later := by
  cases verifying with
  | nonceInvalid => exact .same (.refl db)
  | unlogged check _ tapped => exact .same tapped.quiet
  | logged check checked _ tap tapped log => exact .same (tapped.quiet.trans log.quiet)
  | signed check checked logged tap session row uidHash counter mediaHash admitted live tapped log =>
    have consumed : Quiet logged (logged.consumeNonce session.nonce around.now.val) := ⟨rfl,rfl,rfl,rfl,rfl⟩
    refine .row (logged.consumeNonce session.nonce around.now.val) _ (fun _ => rfl)
      (tapped.quiet.trans (log.quiet.trans consumed)) (.refl _) ?_ (fun _ => nofun) rfl
    refine .signed _ rfl rfl rfl (by simp [pendingScan]) (fun _ => ⟨rfl,rfl⟩) ?_
    intro told
    cases told

theorem changes_grows {settings : Settings} {server : Server} {later : Database} {action : Action} {answer : Answer}
    (changes : Changes settings server action later answer) :
    (∃ index now job, action = .finish index now ∧ server.jobs[index]? = some job ∧ Edits settings job.cause server.db later) ∨
      Grows server.db later := by
  cases changes with
  | none => exact .inr (.same (.refl _))
  | finished index now job _ _ there edits => exact .inl ⟨index,now,job,rfl,there,edits⟩
  | landed tap around purge answer _ landing => exact .inr landing.grows
  | verified body around answer _ verifying => exact .inr verifying.grows
  | issued nonce now _ issues =>
    obtain ⟨nonces,_,same⟩ := issues.rows
    exact .inr (.same (same ▸ ⟨rfl,rfl,rfl,rfl,rfl⟩))
  | reported body now allowed row _ serial sealUidHash source note reportedBy passport session report =>
    refine .inr (.row (server.db.consumeNonce session.nonce now.val)
      (reportEvent serial sealUidHash source note reportedBy passport now.val) (fun _ => rfl) ⟨rfl,rfl,rfl,rfl,rfl⟩
      (by rw [report.same]; exact .refl _) ?_ (fun _ => nofun) rfl)
    exact .report source note reportedBy rfl rfl (.inl rfl)

theorem Grows.kept {db later : Database} (grows : Grows db later) : Kept db later := by
  cases grows with
  | same rest => exact .of_events rest.events
  | row known make named before after =>
    exact (Kept.of_events before.events).trans ((Kept.of_insert known make named).trans (.of_events after.events))

theorem Grows.shapes {db later : Database} (grows : Grows db later) (shapes : Shapes db) : Shapes later := by
  cases grows with
  | same rest => exact shapes.of_events rest.events
  | row known make named before after shape =>
    refine ((shapes.of_events before.events).of_insert make named ?_).of_events after.events
    rw [before.events]
    exact shape

theorem changes_kept {settings : Settings} {server : Server} {later : Database} {action : Action} {answer : Answer}
    (changes : Changes settings server action later answer) : Kept server.db later := by
  rcases changes_grows changes with finished | grows
  · obtain ⟨_,_,_,_,_,edits⟩ := finished
    exact edits_kept edits
  · exact grows.kept

theorem step_kept {settings : Settings} {server : Server} (knows : ∀ job ∈ server.jobs, KnowsJob server.db job) (action : Action) :
    Kept server.db (Server.step settings server action).1.db := changes_kept (step_changes knows action)

namespace Run
variable (settings : Settings) (run : Run)

theorem knows (n : ℕ) : ∀ job ∈ (run.server settings n).jobs, KnowsJob (run.db settings n) job := by
  induction n with
  | zero => exact fun _ present => absurd present List.not_mem_nil
  | succ n ih =>
    intro job present
    have kept : Kept (run.db settings n) (run.db settings (n+1)) := step_kept ih (run.actions n)
    rcases step_jobs settings (run.server settings n) (run.actions n) job present with old | fresh
    · exact (ih job old).kept kept
    · exact (starts_knows fresh).kept kept

theorem changes (n : ℕ) :
    Changes settings (run.server settings n) (run.actions n) (run.db settings (n+1)) (run.answer settings n) :=
  step_changes (run.knows settings n) (run.actions n)

theorem kept {m n : ℕ} (ordered : m ≤ n) : Kept (run.db settings m) (run.db settings n) := by
  induction n, ordered using Nat.le_induction with
  | base => exact .refl _
  | succ n _ ih => exact ih.trans (changes_kept (run.changes settings n))

theorem shapes (n : ℕ) : Shapes (run.db settings n) := by
  induction n with
  | zero =>
    intro id row found
    cases found
  | succ n ih =>
    rcases changes_grows (run.changes settings n) with finished | grows
    · obtain ⟨_,_,_,_,_,edits⟩ := finished
      exact edits_shapes ih edits
    · exact grows.shapes ih

end Run
end FlaconVault.Verifier
