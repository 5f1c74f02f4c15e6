import FlaconVault.Verifier.Privacy
import FlaconVault.Verifier.Jobs
namespace FlaconVault.Verifier
open Guards

-- The writing side: every operation of POST /api/events does the same beside a secret and beside another one.

namespace EventRow
variable {secret : ℕ → Bool}

theorem conceal_open {row : EventRow} (shown : secret row.id = false) : row.conceal secret = row := by
  unfold conceal
  rw [shown]
  exact if_neg Bool.false_ne_true

theorem conceal_payload (row : EventRow) :
    (row.conceal secret).payload = if secret row.id then row.payload.blank else row.payload := by
  unfold conceal
  split <;> rfl

-- Rows without a signed scan and without a token hide nothing.
theorem conceal_plain {row : EventRow} (unsigned : row.payload.signedScan = none) (untold : row.resumeHash = none) :
    row.conceal secret = row := by
  unfold conceal
  split
  · have same : row.payload.blank = row.payload := by
      unfold Payload.signedScan at unsigned
      unfold Payload.blank PayloadBody.blank
      cases body : row.payload.body with
      | signedScan scan => simp [body] at unsigned
      | _ => simp [← body]
    unfold blank
    rw [same,← untold]
  · rfl

end EventRow

namespace Database
variable (secret : ℕ → Bool) (db : Database)

theorem getEvent_conceal (id : ℕ) : (db.conceal secret).getEvent id = (db.getEvent id).map (EventRow.conceal secret) := Log.mask_get id

theorem findEvent_conceal (serial : String) (type : EventType) (sealUidHash : Option Bytes32) :
    (db.conceal secret).findEvent serial type sealUidHash = (db.findEvent serial type sealUidHash).map (EventRow.conceal secret) :=
  ((((blind_serial secret).map (· == serial)).and ((blind_type secret).map (· == type))).and
    ((blind_sealUidHash secret).map fun hash => sealUidHash.isNone || hash == sealUidHash)).find? _

theorem eventForTx_conceal (txSig : Signature) (serial : String) (type : EventType) :
    (db.conceal secret).eventForTx txSig serial type = (db.eventForTx txSig serial type).map (EventRow.conceal secret) :=
  ((((blind_txSig secret).map (· == some txSig)).and ((blind_serial secret).map (· == serial))).and
    ((blind_type secret).map (· == type))).find? _

theorem eventActors_conceal (serial : String) (type : EventType) : (db.conceal secret).eventActors serial type = db.eventActors serial type := by
  unfold eventActors
  rw [conceal_rows,(((blind_serial secret).map (· == serial)).and ((blind_type secret).map (· == type))).filter,
    (blind_actor secret).filterMap]

theorem openSealDeadReport_conceal (serial : String) (sealUidHash : Option Bytes32) (since : Int) :
    (db.conceal secret).openSealDeadReport serial sealUidHash since = db.openSealDeadReport serial sealUidHash since :=
  (((((blind_serial secret).map (· == serial)).and ((blind_type secret).map (· == .sealDead))).and
    ((blind_status secret).map (· == .reported))).and ((blind_ts secret).map fun ts => decide (ts ≥ since))).and
    ((blind_sealUidHash secret).map fun hash => sealUidHash.isNone || hash.isNone || hash == sealUidHash) |>.any _

theorem newerConfirmedScanExists_conceal {event : EventRow} (shown : secret event.id = false) :
    (db.conceal secret).newerConfirmedScanExists event = db.newerConfirmedScanExists event := by
  have newer : Blind (EventRow.conceal secret) fun row => row.newer event := by
    intro row
    have own := newer_conceal secret event row
    rwa [EventRow.conceal_open shown] at own
  exact (((((blind_serial secret).map (· == event.serial)).and (blind_confirmedScan secret)).and
    ((blind_id secret).map (· != event.id))).and newer).any _

theorem previousScanBefore_conceal (serial : String) (before : ℕ) :
    (db.conceal secret).previousScanBefore serial before = (db.previousScanBefore serial before).map (EventRow.conceal secret) := by
  unfold previousScanBefore
  rw [conceal_rows,← List.map_reverse]
  exact ((((blind_serial secret).map (· == serial)).and (blind_confirmedScan secret)).and
    ((blind_id secret).map fun id => decide (id < before))).find? _

-- Changing a row that is no secret, and adding one.
theorem updateEvent_conceal {id : ℕ} (shown : secret id = false) (change : EventRow → EventRow)
    (keeps : ∀ row, (change row).id = row.id) :
    (db.conceal secret).updateEvent id change keeps = (db.updateEvent id change keeps).conceal secret := by
  have masked : (db.conceal secret).events.update (·.id = id) change keeps =
      (db.events.update (·.id = id) change keeps).mask (EventRow.conceal secret) (blind_id secret) := by
    refine Log.mask_update ((blind_id secret).map fun other => decide (other = id)) ?_
    intro row here
    have named : row.id = id := of_decide_eq_true here
    rw [EventRow.conceal_open (named ▸ shown),EventRow.conceal_open ((keeps row).trans named ▸ shown)]
  unfold updateEvent
  rw [masked]
  rfl

theorem insertEvent_conceal {make : ℕ → EventRow} (named : ∀ number, (make number).id = number)
    (unsigned : ∀ number, (make number).payload.signedScan = none) (untold : ∀ number, (make number).resumeHash = none) :
    (db.conceal secret).insertEvent make named = (db.insertEvent make named).conceal secret := by
  have masked : (db.conceal secret).events.append make named =
      (db.events.append make named).mask (EventRow.conceal secret) (blind_id secret) :=
    Log.mask_append (EventRow.conceal_plain (unsigned _) (untold _))
  unfold insertEvent
  rw [masked]
  rfl

theorem dropSupersededSighting_conceal (serial : String) (hash : Bytes32) (counter keep : ℕ) :
    (db.conceal secret).dropSupersededSighting serial hash counter keep =
      (db.dropSupersededSighting serial hash counter keep).conceal secret := by
  have unsigned : Blind (EventRow.conceal secret) fun row => row.payload.signedScan.isNone := by
    intro row
    have signed := blind_signed secret row
    dsimp only at signed ⊢
    rw [← Option.not_isSome,← Option.not_isSome,signed]
  have chosen := (((((((blind_serial secret).map (· == serial)).and ((blind_type secret).map (· == .scan))).and
    ((blind_id secret).map (· != keep))).and ((blind_txSig secret).map (·.isNone))).and
    ((blind_sealUidHash secret).map (· == some hash))).and ((blind_counter secret).map (· == some counter))).and unsigned
  have masked : (db.events.mask (EventRow.conceal secret) (blind_id secret)).delete _ = _ := Log.mask_delete chosen
  exact congrArg (fun events => ({db with events := events} : Database)) masked

-- What does not touch the events.
theorem setPassportGrade_conceal (serial : String) (grade : ℕ) (latest : Bool) :
    (db.conceal secret).setPassportGrade serial grade latest = (db.setPassportGrade serial grade latest).conceal secret := by
  have same : (db.conceal secret).getPassport serial = db.getPassport serial := rfl
  unfold setPassportGrade
  rw [same]
  cases db.getPassport serial <;> rfl

theorem upsertPassport_conceal (row : PassportRow) :
    (db.conceal secret).upsertPassport row = (db.upsertPassport row).map (conceal secret) := by
  have same : (db.conceal secret).passports = db.passports := rfl
  unfold upsertPassport
  rw [same]
  cases db.passports.insert row with
  | none => rfl
  | some passports => exact ite_map (fun _ => rfl) (fun _ => rfl)

theorem upsertSeal_conceal (uidHash : Bytes32) (uid : Uid) (serial : String) (kind : ℕ) (attachedAt : Int) :
    (db.conceal secret).upsertSeal uidHash uid serial kind attachedAt =
      (db.upsertSeal uidHash uid serial kind attachedAt).map (conceal secret) := by
  have same : (db.conceal secret).seals = db.seals := rfl
  have counter : (db.conceal secret).lastCounterUnregistered uid = db.lastCounterUnregistered uid := rfl
  unfold upsertSeal
  rw [same,counter]
  dsimp only
  cases db.seals.insert _ with
  | none => rfl
  | some seals => exact ite_map (fun _ => rfl) (fun _ => rfl)

theorem putOrder_conceal (row : OrderRow) (merge : OrderRow → OrderRow)
    (keeps : ∀ old, ((merge old).orderPda,(merge old).listedAt) = (old.orderPda,old.listedAt)) :
    (db.conceal secret).putOrder row merge keeps = (db.putOrder row merge keeps).map (conceal secret) := by
  have same : (db.conceal secret).escrowOrders = db.escrowOrders := rfl
  unfold putOrder
  refine bind_map fun _ _ => bind_map fun _ _ => ?_
  rw [same]
  cases db.escrowOrders.insert row <;> rfl

theorem foldl_upsertAttester_conceal (entries : List (Pubkey × ℕ)) (seen : Pubkey × ℕ → Int) :
    entries.foldl (fun known entry => known.upsertAttester entry.1 (seen entry)) (db.conceal secret) =
      (entries.foldl (fun known entry => known.upsertAttester entry.1 (seen entry)) db).conceal secret := by
  induction entries generalizing db with
  | nil => rfl
  | cons first rest ih => exact ih (db.upsertAttester first.1 (seen first))

theorem syncEscrowCounters_conceal (only : Option (List Pubkey)) :
    (db.conceal secret).syncEscrowCounters only = (db.syncEscrowCounters only).map (conceal secret) := by
  have same : (db.conceal secret).participants = db.participants := rfl
  unfold syncEscrowCounters
  refine bind_map fun _ _ => ?_
  rw [same]
  dsimp only
  rw [foldl_upsertAttester_conceal]
  rfl

theorem syncOrders_conceal (orders : Table fun row : OrderRow => (row.orderPda,row.listedAt)) (only : Option (List Pubkey)) :
    syncEscrowCounters {db.conceal secret with escrowOrders := orders} only =
      (syncEscrowCounters {db with escrowOrders := orders} only).map (conceal secret) :=
  syncEscrowCounters_conceal secret {db with escrowOrders := orders} only

theorem recordEscrowOutcome_conceal (orderPda : Pubkey) (state : ℕ) (blockTime : Option Int) (ts : Int) (order : Option ChainOrder)
    (passport seller buyer : Option Pubkey) (price : Option ℕ) :
    (db.conceal secret).recordEscrowOutcome orderPda state blockTime ts order passport seller buyer price =
      (db.recordEscrowOutcome orderPda state blockTime ts order passport seller buyer price).map (conceal secret) := by
  have same : (db.conceal secret).escrowOrders = db.escrowOrders := rfl
  unfold recordEscrowOutcome
  dsimp only
  split
  · rw [putOrder_conceal]
    exact map_bind fun stored _ => syncEscrowCounters_conceal secret stored _
  · rw [same]
    split
    · exact syncOrders_conceal secret db _ _
    · rw [putOrder_conceal]
      exact map_bind fun stored _ => syncEscrowCounters_conceal secret stored _
    · rfl

end Database

theorem recordOutcome_conceal (secret : ℕ → Bool) (db : Database) (job : EventJob) :
    recordOutcome (db.conceal secret) job = (recordOutcome db job).map (Database.conceal secret) := by
  unfold recordOutcome
  split
  · rfl
  · exact db.recordEscrowOutcome_conceal secret _ _ _ _ _ _ _ _ _

theorem applySealDead_conceal (secret : ℕ → Bool) (db : Database) (serial : String) (sealUidHash : Option Bytes32) :
    applySealDead (db.conceal secret) serial sealUidHash = (applySealDead db serial sealUidHash).conceal secret := by
  unfold applySealDead
  cases sealUidHash <;> rfl

-- A confirmation whose event is no secret.
namespace Database
variable (secret : ℕ → Bool) (db : Database)

theorem creditAttester_conceal (event : EventRow) (scan : ScanPayload) (tier : ℕ) (attester : Option Pubkey) (ts : Int) :
    (db.conceal secret).creditAttester event scan tier attester ts = (db.creditAttester event scan tier attester ts).conceal secret := by
  unfold creditAttester
  cases attester with
  | none => rfl
  | some attester =>
    have bumped (scans certified agree compare : ℕ) : (db.conceal secret).bumpAttester attester ts scans certified agree compare =
        (db.bumpAttester attester ts scans certified agree compare).conceal secret := rfl
    dsimp only
    rw [bumped,previousScanBefore_conceal]
    cases (db.bumpAttester attester ts 1 _ 0 0).previousScanBefore event.serial event.id with
    | none => rfl
    | some previous =>
      have actor : (previous.conceal secret).actor = previous.actor := blind_actor secret previous
      simp only [Option.map_some,actor,EventRow.conceal_payload]
      cases previous.actor with
      | none => rfl
      | some other =>
        have shown : ((if secret previous.id then previous.payload.blank else previous.payload).signedScan) =
            previous.payload.signedScan.map fun scan => if secret previous.id then scan.blank else scan := by
          split
          · exact previous.payload.blank_signedScan
          · exact Option.map_id'.symm
        rw [shown]
        cases previous.payload.signedScan with
        | none => rfl
        | some before =>
          have bundle : agrees (if secret previous.id then before.blank else before).bundle scan.bundle =
              agrees before.bundle scan.bundle := by split <;> rfl
          simp only [Option.map_some,bundle]
          split <;> rfl

theorem applyConfirmedScan_conceal {event : EventRow} (shown : secret event.id = false) (attester : Option Pubkey) (ts : Int)
    (chain : Option ChainValues) :
    (db.conceal secret).applyConfirmedScan event attester ts chain = (db.applyConfirmedScan event attester ts chain).conceal secret := by
  unfold applyConfirmedScan
  cases event.payload.signedScan with
  | none => rfl
  | some scan =>
    dsimp only
    have noted : ({db.conceal secret with applied := (db.conceal secret).applied ++ [event.id]} : Database) =
        ({db with applied := db.applied ++ [event.id]} : Database).conceal secret := rfl
    rw [noted]
    have paid : ∀ start : Database, (start.conceal secret).updateEventPayload event.id
        (event.payload.setScan (scan.attested (confirmedAttestation scan attester chain))) =
        (start.updateEventPayload event.id (event.payload.setScan (scan.attested (confirmedAttestation scan attester chain)))).conceal
          secret := fun start => start.updateEvent_conceal secret shown _ _
    have labelled : ∀ start : Database, (start.conceal secret).setActorLabel event.id attester =
        (start.setActorLabel event.id attester).conceal secret := fun start => start.updateEvent_conceal secret shown _ _
    rw [paid,labelled,newerConfirmedScanExists_conceal secret _ shown,setPassportGrade_conceal]
    have replaced : ∀ start : Database, (start.conceal secret).replaceSighting event scan =
        (start.replaceSighting event scan).conceal secret := by
      intro start
      unfold replaceSighting
      cases event.sealUidHash with
      | none => rfl
      | some hash => exact start.dropSupersededSighting_conceal secret _ _ _ _
    rw [replaced,creditAttester_conceal]

end Database

theorem effects_conceal {secret : ℕ → Bool} {job : ConfirmJob} (shown : secret job.eventId = false) (settings : Settings) (db : Database)
    (current : EventRow) {event : EventRow} (named : event.id = job.eventId) (now : I64) :
    job.effects settings (db.conceal secret) current event now = (job.effects settings db current event now).conceal secret := by
  unfold ConfirmJob.effects
  split
  · exact (db.upsertAttester job.actor now.val).applyConfirmedScan_conceal secret (named ▸ shown) _ _ _
  · split
    · have same : sealInTx (db.conceal secret) current.serial job.vt = sealInTx db current.serial job.vt := rfl
      dsimp only
      rw [same,applySealDead_conceal,Database.updateEvent_conceal secret _ shown]
    · rfl

-- The answer of a request that wrote, with its secrets concealed.
def concealed (secret : ℕ → Bool) (answer : Database × EventRow) : Database × EventRow :=
  (answer.1.conceal secret,answer.2.conceal secret)

theorem confirmWrite_conceal {secret : ℕ → Bool} {job : ConfirmJob} (shown : secret job.eventId = false) (settings : Settings) (db : Database)
    (now : I64) : confirmWrite settings (db.conceal secret) job now = (confirmWrite settings db job now).map (concealed secret) := by
  have reread (later : Database) : ((orRefuse ((later.conceal secret).getEvent job.eventId) internalError) >>= fun row =>
      (pure (later.conceal secret,row) : Except HttpError (Database × EventRow))) =
      (orRefuse (later.getEvent job.eventId) internalError >>= fun row => pure (later,row)).map (concealed secret) := by
    rw [Database.getEvent_conceal,orRefuse_map]
    exact map_bind fun _ _ => rfl
  unfold confirmWrite
  rw [Database.getEvent_conceal,orRefuse_map]
  refine map_bind fun current found => ?_
  rw [orRefuse_ok] at found
  have named : current.id = job.eventId := (Database.getEvent_some.mp found).2
  rw [EventRow.conceal_open (named ▸ shown)]
  refine ite_map (fun _ => ?_) fun _ => ?_
  · have signed : job.addSignature (db.conceal secret) current = (job.addSignature db current).map (Database.conceal secret) := by
      unfold ConfirmJob.addSignature
      cases current.txSig with
      | none => exact congrArg Except.ok (db.updateEvent_conceal secret shown _ _)
      | some signature =>
        refine ite_map (fun _ => rfl) fun _ => bind_map fun _ _ => ?_
        exact congrArg Except.ok (db.updateEvent_conceal secret shown _ _)
    rw [signed]
    exact map_bind fun filled _ => reread filled
  · dsimp only
    rw [db.updateEvent_conceal secret shown,Database.getEvent_conceal,orRefuse_map]
    refine map_bind fun event again => ?_
    rw [orRefuse_ok] at again
    have event_named : event.id = job.eventId := (Database.getEvent_some.mp again).2
    rw [EventRow.conceal_open (event_named ▸ shown),effects_conceal shown settings _ current event_named]
    exact reread _

-- The first halves.
theorem expectation_conceal (secret : ℕ → Bool) (settings : Settings) (db : Database) (type : EventType) (serial : String)
    (sealUidHash : Option Bytes32) (scanCounter : Option ℕ) :
    expectation settings (db.conceal secret) type serial sealUidHash scanCounter =
      expectation settings db type serial sealUidHash scanCounter := by
  unfold expectation
  rw [db.eventActors_conceal secret]

def ConfirmJob.conceal (secret : ℕ → Bool) (job : ConfirmJob) : ConfirmJob :=
  {job with payload := if secret job.eventId then job.payload.blank else job.payload}

def ConfirmStage.conceal (secret : ℕ → Bool) : ConfirmStage → ConfirmStage
  | .answered row => .answered (row.conceal secret)
  | .refused error => .refused error
  | .fail eventId txSig => .fail eventId txSig
  | .write job => .write (job.conceal secret)

theorem claimed_blank (payload : Payload) : payload.blank.claimed = payload.claimed := by
  unfold Payload.claimed
  rw [payload.blank_signedScan]
  cases payload.signedScan <;> rfl

theorem blind_claimed (secret : ℕ → Bool) : Blind (EventRow.conceal secret) fun row => row.payload.claimed :=
  blind_of_blank secret fun row => claimed_blank row.payload

theorem blind_choseSignature (secret : ℕ → Bool) : Blind (EventRow.conceal secret) reconcileChoseSignature :=
  blind_of_blank secret fun row => by
    have blanked : row.blank.payload.signedScan = row.payload.signedScan.map ScanPayload.blank := row.payload.blank_signedScan
    unfold reconcileChoseSignature
    rw [blanked]
    cases row.payload.signedScan <;> rfl

theorem confirmRead_conceal (secret : ℕ → Bool) (settings : Settings) (db : Database) (body : EventBody) (eventId : ℕ) (reads : ChainReads) :
    confirmRead settings (db.conceal secret) body eventId reads =
      (confirmRead settings db body eventId reads).map (ConfirmStage.conceal secret) := by
  unfold confirmRead
  refine bind_map fun _ _ => ?_
  rw [Database.getEvent_conceal,orRefuse_map]
  refine map_bind fun event found => ?_
  rw [orRefuse_ok] at found
  have named : event.id = eventId := (Database.getEvent_some.mp found).2
  have status : (event.conceal secret).status = event.status := blind_status secret event
  have txSig : (event.conceal secret).txSig = event.txSig := blind_txSig secret event
  have type : (event.conceal secret).type = event.type := blind_type secret event
  have actor : (event.conceal secret).actor = event.actor := blind_actor secret event
  have serial : (event.conceal secret).serial = event.serial := blind_serial secret event
  have hash : (event.conceal secret).sealUidHash = event.sealUidHash := blind_sealUidHash secret event
  have claimed : (event.conceal secret).payload.claimed = event.payload.claimed := blind_claimed secret event
  have counter : (event.conceal secret).payload.counter = event.payload.counter := blind_counter secret event
  have chose : reconcileChoseSignature (event.conceal secret) = reconcileChoseSignature event := blind_choseSignature secret event
  simp only [status,txSig,type,actor,serial,hash,claimed,counter,chose]
  refine ite_map (fun _ => rfl) fun _ => ?_
  refine bind_map fun _ _ => bind_map fun txSig _ => bind_map fun _ _ => bind_map fun actor _ => bind_map fun _ _ => ?_
  rw [expectation_conceal]
  refine bind_map fun exp _ => ?_
  cases verifyTransaction settings reads txSig actor exp with
  | error error => exact ite_map (fun _ => rfl) fun _ => ite_map (fun _ => rfl) fun _ => rfl
  | ok vt =>
    refine ite_map (fun _ => rfl) fun _ => ?_
    rw [EventRow.conceal_payload,named]
    rfl

def Stage.conceal (secret : ℕ → Bool) : Stage EventJob → Stage EventJob
  | .answered row => .answered (row.conceal secret)
  | .write job => .write job

theorem filter_settled (secret : ℕ → Bool) (found : Option EventRow) : (found.map (EventRow.conceal secret)).filter (·.status == .confirmed) =
    (found.filter (·.status == .confirmed)).map (EventRow.conceal secret) := by
  cases found with
  | none => rfl
  | some row =>
    have status : (row.conceal secret).status = row.status := blind_status secret row
    simp only [Option.map_some,Option.filter,status]
    split <;> rfl

def concealKnown (secret : ℕ → Bool) (known : Option EventRow × Option Uid × Option Bytes32) : Option EventRow × Option Uid × Option Bytes32 :=
  (known.1.map (EventRow.conceal secret),known.2)

theorem checkIssuer_conceal (secret : ℕ → Bool) (db : Database) (serial : String) (passport : Option PassportRow) (actor : Pubkey) :
    checkIssuer (db.conceal secret) serial passport actor = checkIssuer db serial passport actor := by
  unfold checkIssuer
  congr 1
  rw [db.findEvent_conceal secret,Option.map_eq_none_iff]

theorem admitEvent_conceal (secret : ℕ → Bool) (settings : Settings) (db : Database) (body : EventBody) (serial : String) (type : EventType)
    (txSig : Signature) (actor : Pubkey) (sealUidHash : Option Bytes32) :
    admitEvent settings (db.conceal secret) body serial type txSig actor sealUidHash =
      (admitEvent settings db body serial type txSig actor sealUidHash).map (concealKnown secret) := by
  have passport : (db.conceal secret).getPassport serial = db.getPassport serial := rfl
  unfold admitEvent
  rw [passport]
  dsimp only
  split
  · refine bind_map fun _ _ => ?_
    rw [checkIssuer_conceal]
    refine bind_map fun _ _ => ?_
    rw [db.findEvent_conceal secret,filter_settled]
    cases (db.findEvent serial .mint none).filter (·.status == .confirmed) with
    | none => exact bind_map fun _ _ => rfl
    | some row => rfl
  · refine bind_map fun _ _ => bind_map fun _ _ => bind_map fun uid _ => bind_map fun _ _ => ?_
    rw [db.findEvent_conceal secret,filter_settled]
    rfl
  · rw [db.eventForTx_conceal secret]
    cases db.eventForTx txSig serial type with
    | some row => rfl
    | none =>
      refine bind_map fun _ _ => ?_
      split
      · exact bind_map fun _ _ => rfl
      · rfl

theorem eventRead_conceal (secret : ℕ → Bool) (settings : Settings) (db : Database) (body : EventBody) (reads : ChainReads) (now : I64) :
    eventRead settings (db.conceal secret) body reads now = (eventRead settings db body reads now).map (Stage.conceal secret) := by
  unfold eventRead
  refine bind_map fun _ _ => bind_map fun serial _ => bind_map fun type _ => bind_map fun _ _ => ?_
  dsimp only
  split
  all_goals
    refine bind_map fun sealUidHash _ => bind_map fun _ _ => bind_map fun txSig _ => bind_map fun actor _ => ?_
    rw [admitEvent_conceal]
    refine map_bind fun known _ => ?_
    obtain ⟨row,uid,hash⟩ := known
    cases row with
    | some row => rfl
    | none =>
      dsimp only [concealKnown,Option.map_none]
      rw [expectation_conceal]
      exact bind_map fun exp _ => bind_map fun vt _ => bind_map fun facts _ => rfl

-- The other second halves.
theorem failWrite_conceal (secret : ℕ → Bool) (db : Database) (eventId : ℕ) (txSig : Signature) :
    failWrite (db.conceal secret) eventId txSig = (failWrite db eventId txSig).conceal secret := by
  have chosen : Blind (EventRow.conceal secret) fun row => decide (row.id = eventId ∧ row.status = .pending) := by
    intro row
    rw [decide_eq_decide,blind_id,blind_status]
  have masked : (failWrite (db.conceal secret) eventId txSig).events =
      (failWrite db eventId txSig).events.mask (EventRow.conceal secret) (blind_id secret) := by
    refine Log.mask_update chosen ?_
    intro row _
    unfold EventRow.conceal
    split <;> rfl
  exact congrArg (fun events => ({db with events := events} : Database)) masked

theorem reportSealDead_conceal (secret : ℕ → Bool) (settings : Settings) (db : Database) (body : EventBody) (now : I64) (allowed : Bool) :
    reportSealDead settings (db.conceal secret) body now allowed =
      (reportSealDead settings db body now allowed).map (concealed secret) := by
  unfold reportSealDead
  refine bind_map fun _ _ => bind_map fun serial _ => bind_map fun _ _ => ?_
  dsimp only
  split
  all_goals
    refine bind_map fun sentSeal _ => bind_map fun text _ => bind_map fun nonce _ => bind_map fun _ _ => bind_map fun passport _ => ?_
    have uid : (db.conceal secret).getSealByUid = db.getSealByUid := rfl
    have last (sealUidHash : Option Bytes32) (source : String) (found : NonceRow) :
        ((require ((db.conceal secret).openSealDeadReport serial sealUidHash (now.val-REPORT_WINDOW_S) = false)
          (⟨429,"report_limited"⟩ : HttpError)) >>= fun _ =>
            let consumed := (db.conceal secret).consumeNonce found.nonce now.val
            let make := reportEvent serial sealUidHash source (cleanText settings body.note 120) (body.actor.bind (·.pubkey)) passport now.val
            (pure (consumed.insertEvent make (fun _ => rfl),make consumed.events.next) : Except HttpError (Database × EventRow))) =
        ((require (db.openSealDeadReport serial sealUidHash (now.val-REPORT_WINDOW_S) = false)
          (⟨429,"report_limited"⟩ : HttpError)) >>= fun _ =>
            let consumed := db.consumeNonce found.nonce now.val
            let make := reportEvent serial sealUidHash source (cleanText settings body.note 120) (body.actor.bind (·.pubkey)) passport now.val
            (pure (consumed.insertEvent make (fun _ => rfl),make consumed.events.next) : Except HttpError (Database × EventRow))).map
          (concealed secret) := by
      rw [db.openSealDeadReport_conceal secret]
      refine bind_map fun _ _ => congrArg Except.ok (Prod.ext ?_ ?_)
      · exact (db.consumeNonce found.nonce now.val).insertEvent_conceal secret (fun _ => rfl) (fun _ => rfl) fun _ => rfl
      · exact (EventRow.conceal_plain rfl rfl).symm
    rw [uid]
    generalize (sentSeal <|> _) = sealUidHash
    cases sealUidHash with
    | none => exact bind_map fun found _ => last none _ found
    | some hash => exact bind_map fun _ _ => bind_map fun found _ => last (some hash) _ found

-- The second half of a new event settles rows of a MINT or SEAL_ATTACH only, and these are no secrets.
theorem settleExisting_conceal {secret : ℕ → Bool} {existing : EventRow} (shown : secret existing.id = false) (db : Database) (facts : Facts)
    (txSig : Signature) (actor : Pubkey) :
    settleExisting (db.conceal secret) existing facts txSig actor = (settleExisting db existing facts txSig actor).conceal secret :=
  db.updateEvent_conceal secret shown _ _

theorem sql_map {α β : Type} {outcome : Except SqlError α} {change : α → β} : sql (outcome.map change) = (sql outcome).map change := by
  cases outcome <;> rfl

theorem mintPassport_conceal (secret : ℕ → Bool) (settings : Settings) (db : Database) (job : EventJob) (label brand name batch : Option String)
    (asset : Option Pubkey) (bindingHash : Option Bytes32) :
    mintPassport settings (db.conceal secret) job label brand name batch asset bindingHash =
      (mintPassport settings db job label brand name batch asset bindingHash).map fun minted => (minted.1.conceal secret,minted.2) := by
  have passport : (db.conceal secret).getPassport job.serial = db.getPassport job.serial := rfl
  unfold mintPassport
  rw [passport]
  refine bind_map fun _ _ => ?_
  dsimp only
  rw [db.upsertPassport_conceal secret,sql_map]
  exact map_bind fun minted _ => bind_map fun row _ => rfl

theorem store_conceal (secret : ℕ → Bool) (prepared : Database) (job : EventJob) (label : Option String) (sealUidHash : Option Bytes32)
    (facts : Facts) :
    (do
      let passport ← orRefuse ((prepared.conceal secret).getPassport job.serial) (⟨404,"passport not found"⟩ : HttpError)
      let make := newEvent job label sealUidHash facts passport
      pure ((prepared.conceal secret).insertEvent make (fun _ => rfl),make (prepared.conceal secret).events.next)) =
    (do
      let passport ← orRefuse (prepared.getPassport job.serial) (⟨404,"passport not found"⟩ : HttpError)
      let make := newEvent job label sealUidHash facts passport
      pure (prepared.insertEvent make (fun _ => rfl),make prepared.events.next)).map (concealed secret) := by
  refine bind_map fun passport _ => congrArg Except.ok (Prod.ext ?_ ?_)
  · exact prepared.insertEvent_conceal secret (fun _ => rfl) (fun _ => rfl) fun _ => rfl
  · exact (EventRow.conceal_plain rfl rfl).symm

theorem settle_conceal {secret : ℕ → Bool} {existing : EventRow} (shown : secret existing.id = false) (prepared : Database) (job : EventJob)
    (facts : Facts) :
    (do
      let settled := settleExisting (prepared.conceal secret) existing facts job.txSig job.actor
      pure (settled,← orRefuse (settled.getEvent existing.id) internalError)) =
    (do
      let settled := settleExisting prepared existing facts job.txSig job.actor
      pure (settled,← orRefuse (settled.getEvent existing.id) internalError)).map (concealed secret) := by
  dsimp only
  rw [settleExisting_conceal shown,Database.getEvent_conceal,orRefuse_map]
  exact map_bind fun row _ => rfl

theorem eventWrite_conceal {secret : ℕ → Bool} {db : Database} (unpublished : Unpublished secret db) (settings : Settings) (job : EventJob) :
    eventWrite settings (db.conceal secret) job = (eventWrite settings db job).map (concealed secret) := by
  have label : (db.conceal secret).getAttester job.actor = db.getAttester job.actor := rfl
  have known : (db.conceal secret).upsertAttester job.actor job.ts = (db.upsertAttester job.actor job.ts).conceal secret := rfl
  unfold eventWrite
  rw [db.eventForTx_conceal secret,label,known]
  -- Rows that are settled are no scans.
  have open_row {type : EventType} {hash : Option Bytes32} {row : EventRow} (found : (db.upsertAttester job.actor job.ts).findEvent job.serial type hash = some row)
      (other : type ≠ .scan) : secret row.id = false := by
    obtain ⟨there,_,kind⟩ := findEvent_some found
    by_contra hidden
    have scan := (unpublished row (Database.getEvent_some.mp there).1 (Bool.eq_true_of_not_eq_false hidden)).1
    exact other (kind.symm.trans scan)
  generalize db.upsertAttester job.actor job.ts = start at open_row ⊢
  have dup : (if job.type = .mint ∨ job.type = .sealAttach then none else (db.eventForTx job.txSig job.serial job.type).map (EventRow.conceal secret)) =
      (if job.type = .mint ∨ job.type = .sealAttach then none else db.eventForTx job.txSig job.serial job.type).map (EventRow.conceal secret) := by
    split <;> rfl
  dsimp only
  rw [dup]
  cases (if job.type = .mint ∨ job.type = .sealAttach then none else db.eventForTx job.txSig job.serial job.type) with
  | some row => rfl
  | none =>
    dsimp only [Option.map_none]
    split
    · have passport : (start.conceal secret).getPassport job.serial = start.getPassport job.serial := rfl
      rw [checkIssuer_conceal,passport]
      refine bind_map fun _ _ => ?_
      rw [start.findEvent_conceal secret]
      cases found : start.findEvent job.serial .mint none with
      | none =>
        dsimp only [Option.map_none]
        rw [mintPassport_conceal]
        exact map_bind fun minted _ => store_conceal secret _ _ _ _ _
      | some row =>
        dsimp only [Option.map_some]
        rw [EventRow.conceal_open (open_row found nofun),mintPassport_conceal]
        refine ite_map (fun _ => ?_) fun _ => map_bind fun minted _ => settle_conceal (open_row found nofun) _ _ _
        exact congrArg Except.ok (Prod.ext rfl (EventRow.conceal_open (open_row found nofun)).symm)
    · refine bind_map fun _ _ => ?_
      split
      · rename_i hash uid _ _
        refine bind_map fun _ _ => ?_
        rw [start.findEvent_conceal secret,filter_settled]
        cases (start.findEvent job.serial .sealAttach (some hash)).filter (·.status == .confirmed) with
        | some row => rfl
        | none =>
          dsimp only [Option.map_none]
          split
          · refine bind_map fun _ _ => ?_
            rw [start.upsertSeal_conceal secret,sql_map]
            refine map_bind fun attached _ => ?_
            cases found : start.findEvent job.serial .sealAttach (some hash) with
            | none => exact store_conceal secret _ _ _ _ _
            | some row =>
              dsimp only [Option.map_some]
              rw [EventRow.conceal_open (open_row found nofun)]
              exact settle_conceal (open_row found nofun) _ _ _
          · rfl
      · rfl
    · refine bind_map fun _ _ => ?_
      have inTx : sealInTx (start.conceal secret) job.serial job.vt = sealInTx start job.serial job.vt := rfl
      rw [inTx,applySealDead_conceal]
      exact store_conceal secret _ _ _ _ _
    · refine bind_map fun _ _ => ?_
      refine ite_map (fun _ => ?_) fun _ => store_conceal secret _ _ _ _ _
      rw [recordOutcome_conceal,sql_map]
      exact map_bind fun recorded _ => store_conceal secret _ _ _ _ _

-- The row a request answers with stands in the database as the request leaves it.
def Stands (answer : Database × EventRow) : Prop := answer.2 ∈ answer.1.events.rows

theorem Stands.inserted (db : Database) (make : ℕ → EventRow) (named : ∀ number, (make number).id = number) :
    Stands (db.insertEvent make named,make db.events.next) := List.mem_append_right _ List.mem_cons_self

theorem Stands.reread {db : Database} {id : ℕ} {row : EventRow} (found : orRefuse (db.getEvent id) internalError = .ok row) : Stands (db,row) :=
  (Database.getEvent_some.mp (orRefuse_ok.mp found)).1

theorem confirmWrite_stands (settings : Settings) (db : Database) (job : ConfirmJob) (now : I64) :
    Yields (confirmWrite settings db job now) Stands := by
  unfold confirmWrite
  refine .after fun current => .ite (.after fun filled => ?_) (.after fun event => ?_)
  all_goals
    intro answer accepted
    obtain ⟨row,found,done⟩ := bind_ok.mp accepted
    exact pure_ok.mp done ▸ Stands.reread found

theorem reportSealDead_stands (settings : Settings) (db : Database) (body : EventBody) (now : I64) (allowed : Bool) :
    Yields (reportSealDead settings db body now allowed) Stands := by
  unfold reportSealDead
  refine .after fun _ => .after fun serial => .after fun _ => ?_
  dsimp only
  split
  all_goals
    refine .after fun sentSeal => .after fun text => .after fun nonce => .after fun _ => .after fun passport => ?_
    split
    · exact .after fun _ => .after fun session => .after fun _ => .pure (.inserted _ _ _)
    · exact .after fun session => .after fun _ => .pure (.inserted _ _ _)

theorem eventWrite_stands {settings : Settings} {db : Database} {job : EventJob} (knows : KnowsEvent job) :
    Yields (eventWrite settings db job) Stands := by
  intro answer accepted
  obtain ⟨later,row⟩ := answer
  cases eventWrite_parts knows accepted with
  | known _ _ there _ same =>
    have present := (Database.getEvent_some.mp there).1
    rcases same with same | same
    · exact same ▸ present
    · exact same ▸ present
  | stored label passport sealUidHash facts prepared => exact .inserted prepared (newEvent job label sealUidHash facts passport) fun _ => rfl
  | settled existing _ sealUidHash facts prepared _ _ _ _ _ reread => exact (Database.getEvent_some.mp reread).1

-- The confirmation of a secret scan publishes it.
theorem effects_settled (settings : Settings) {db : Database} {job : ConfirmJob} {current : EventRow} (found : db.getEvent job.eventId = some current)
    (scan : current.type = .scan) (now : I64) :
    ∃ final, (job.effects settings (db.updateEvent job.eventId job.posted job.posted_id) current (job.posted current) now).getEvent
      job.eventId = some final ∧ final.status = .confirmed := by
  have turned : (db.updateEvent job.eventId job.posted job.posted_id).getEvent job.eventId = some (job.posted current) :=
    getEvent_updateEvent found
  by_cases kind : job.type = .scan
  · obtain ⟨final,row,rows⟩ := posted_rows settings found (scan.trans kind.symm) now
    refine ⟨final,?_,row.status⟩
    rw [rows,if_pos rfl]
  · unfold ConfirmJob.effects
    rw [if_neg kind]
    split
    · dsimp only
      rw [Database.getEvent_update,if_pos rfl]
      generalize (current.sealUidHash <|> sealInTx _ current.serial job.vt) = hash
      have kept : (applySealDead (db.updateEvent job.eventId job.posted job.posted_id) current.serial hash).getEvent job.eventId =
          some (job.posted current) := by
        unfold Database.getEvent
        rw [applySealDead_events]
        exact turned
      rw [kept]
      exact ⟨_,rfl,rfl⟩
    · exact ⟨job.posted current,turned,rfl⟩

theorem confirmWrite_publishes {secret : ℕ → Bool} {settings : Settings} {db later : Database} {job : ConfirmJob} {now : I64} {row : EventRow}
    (unpublished : Unpublished secret db) (hidden : secret job.eventId = true)
    (accepted : confirmWrite settings db job now = .ok (later,row)) : ¬Unpublished secret later := by
  obtain ⟨current,found,outcome⟩ := confirmWrite_parts accepted
  obtain ⟨present,named⟩ := Database.getEvent_some.mp found
  obtain ⟨scan,open_row⟩ := unpublished current present (named ▸ hidden)
  cases outcome with
  | filled status => exact absurd status open_row
  | kept status => exact absurd status open_row
  | repaired status => exact absurd status open_row
  | posted =>
    obtain ⟨final,there,settled⟩ := effects_settled settings found scan now
    obtain ⟨inside,same⟩ := Database.getEvent_some.mp there
    intro still
    exact (still final inside (same ▸ hidden)).2 settled

theorem scanChainValues_blank (settings : Settings) (vt : VerifiedTx) (payload : Payload) :
    scanChainValues settings vt payload.blank = scanChainValues settings vt payload := by
  unfold scanChainValues
  rw [payload.blank_signedScan]
  cases payload.signedScan <;> rfl

theorem confirmWrite_job (secret : ℕ → Bool) (settings : Settings) (db : Database) (job : ConfirmJob) (now : I64) :
    confirmWrite settings db (job.conceal secret) now = confirmWrite settings db job now := by
  have told : scanChainValues settings job.vt (job.conceal secret).payload = scanChainValues settings job.vt job.payload := by
    unfold ConfirmJob.conceal
    dsimp only
    split
    · exact scanChainValues_blank settings job.vt job.payload
    · rfl
  have same (confirmed : Database) (current event : EventRow) :
      (job.conceal secret).effects settings confirmed current event now = job.effects settings confirmed current event now := by
    unfold ConfirmJob.effects
    rw [← told]
    rfl
  unfold confirmWrite
  simp only [same]
  rfl

-- Does a request confirm one of the secrets?
def Publishes (settings : Settings) (hidden : ℕ → Bool) (db later : Database) (body : EventBody) (reads : ChainReads) : Prop :=
  ∃ eventId ∈ body.eventId, ∃ job, confirmRead settings db body eventId reads = .ok (.write job) ∧ hidden job.eventId = true ∧
    later.getEvent job.eventId ≠ none

theorem publishes_conceal (settings : Settings) (secret hidden : ℕ → Bool) (db later : Database) (body : EventBody) (reads : ChainReads) :
    Publishes settings hidden (db.conceal secret) (later.conceal hidden) body reads ↔ Publishes settings hidden db later body reads := by
  unfold Publishes
  refine exists_congr fun eventId => and_congr_right fun _ => ?_
  rw [confirmRead_conceal]
  constructor
  · rintro ⟨job,shown,waits,there⟩
    obtain ⟨stage,read,becomes⟩ := map_ok.mp shown
    rw [Database.getEvent_conceal,Ne,Option.map_eq_none_iff] at there
    cases stage with
    | write own =>
      cases becomes
      exact ⟨own,read,waits,there⟩
    | _ => cases becomes
  · rintro ⟨job,read,waits,there⟩
    refine ⟨job.conceal secret,map_ok.mpr ⟨_,read,rfl⟩,waits,?_⟩
    rw [Database.getEvent_conceal,Ne,Option.map_eq_none_iff]
    exact there

theorem publishes_published {settings : Settings} {hidden : ℕ → Bool} {db later : Database} {body : EventBody} {reads : ChainReads}
    (unpublished : Unpublished hidden later) (publishes : Publishes settings hidden db later body reads) (readAt writtenAt : I64)
    (allowed : Bool) : ¬Unpublished hidden (postEvents settings db later body reads readAt writtenAt allowed).1 := by
  obtain ⟨eventId,named,job,read,waits,there⟩ := publishes
  obtain ⟨current,found⟩ := Option.ne_none_iff_exists'.mp there
  obtain ⟨present,same⟩ := Database.getEvent_some.mp found
  obtain ⟨scan,open_row⟩ := unpublished current present (same ▸ waits)
  obtain ⟨final,last,_⟩ := effects_settled settings found scan writtenAt
  have accepted := confirmWrite_posted found open_row last
  unfold postEvents
  rw [Option.mem_def.mp named]
  dsimp only
  rw [read]
  dsimp only
  rw [accepted]
  exact confirmWrite_publishes unpublished waits accepted

-- What a request leaves and answers beside concealed secrets is what it leaves and answers beside them.
structure SeenAlike (hidden : ℕ → Bool) (view : EventRow → EventView) (first second : Database × Except HttpError EventRow) : Prop where
  left : first.1 = second.1.conceal hidden
  answer : Unpublished hidden second.1 → first.2.map view = second.2.map view

-- The row that answers a new event at once.
theorem admitEvent_known (settings : Settings) (db : Database) (body : EventBody) (serial : String) (type : EventType) (txSig : Signature)
    (actor : Pubkey) (sealUidHash : Option Bytes32) :
    Yields (admitEvent settings db body serial type txSig actor sealUidHash) fun known => ∀ row ∈ known.1, row ∈ db.events.rows := by
  have settled (wanted : EventRow → Bool) {row : EventRow} (found : (db.events.rows.find? wanted).filter (·.status == .confirmed) = some row) :
      row ∈ db.events.rows := List.mem_of_find?_eq_some (Option.filter_eq_some_iff.mp found).1
  have nothing : ∀ row ∈ (none : Option EventRow), row ∈ db.events.rows := fun row absent => absurd absent (Option.not_mem_none row)
  unfold admitEvent
  dsimp only
  split
  · refine .after fun _ => .after fun _ => ?_
    split
    · rename_i row found
      refine .pure fun other same => ?_
      exact Option.some.inj same ▸ settled _ found
    · exact .after fun _ => .pure nothing
  · refine .after fun _ => .after fun _ => .after fun uid => .after fun _ => .pure fun row found => ?_
    exact settled _ found
  · split
    · rename_i row found
      refine .pure fun other same => ?_
      exact Option.some.inj same ▸ List.mem_of_find?_eq_some found
    · refine .after fun _ => ?_
      split
      · refine .after fun _ => ?_
        exact .pure nothing
      · exact .pure nothing

theorem Stage.write_ne {job : EventJob} {row : EventRow} : Stage.write job ≠ .answered row := nofun

theorem eventRead_answered (settings : Settings) (db : Database) (body : EventBody) (reads : ChainReads) (now : I64) :
    Yields (eventRead settings db body reads now) fun stage => ∀ row, stage = .answered row → row ∈ db.events.rows := by
  unfold eventRead
  refine .after fun _ => .after fun serial => .after fun type => .after fun _ => ?_
  dsimp only
  split
  all_goals
    refine .after fun sealUidHash => .after fun _ => .after fun txSig => .after fun actor => ?_
    refine .bind (admitEvent_known settings db body serial type txSig actor sealUidHash) fun known inside => ?_
    obtain ⟨row,uid,hash⟩ := known
    cases row with
    | some row =>
      refine .pure fun other same => ?_
      cases same
      exact inside row rfl
    | none => exact .after fun exp => .after fun vt => .after fun facts => .pure fun row same => absurd same Stage.write_ne

section postEvents
variable (settings : Settings) (spell : Pubkey → String) (store : MediaStore) {secret hidden : ℕ → Bool} {db later : Database}

-- The answer of a request that wrote, or was refused and wrote nothing.
def answeredWith (later : Database) (outcome : Except HttpError (Database × EventRow)) : Database × Except HttpError EventRow :=
  match outcome with
  | .ok (written,row) => (written,.ok row)
  | .error error => (later,.error error)

theorem seen_written {outcome outcome' : Except HttpError (Database × EventRow)} (alike : outcome' = outcome.map (concealed hidden))
    (stands : Yields outcome Stands) :
    SeenAlike hidden (eventView settings spell store) (answeredWith (later.conceal hidden) outcome') (answeredWith later outcome) := by
  subst alike
  cases outcome with
  | error error => exact ⟨rfl,fun _ => rfl⟩
  | ok answer =>
    obtain ⟨written,row⟩ := answer
    refine ⟨rfl,fun unpublished => congrArg Except.ok ?_⟩
    have present : row ∈ written.events.rows := stands _ rfl
    exact eventView_conceal settings spell store hidden fun waits => (unpublished row present waits).2

theorem seen_answered (unpublished : Unpublished secret db) {row : EventRow} (present : row ∈ db.events.rows) :
    SeenAlike hidden (eventView settings spell store) (later.conceal hidden,.ok (row.conceal secret)) (later,.ok row) :=
  ⟨rfl,fun _ => congrArg Except.ok
    (eventView_conceal settings spell store secret fun waits => (unpublished row present waits).2)⟩

theorem postEvents_seen (unpublished : Unpublished secret db) (waiting : Unpublished hidden later) {body : EventBody} {reads : ChainReads}
    (quiet : ¬Publishes settings hidden db later body reads) (readAt writtenAt : I64) (allowed : Bool) :
    SeenAlike hidden (eventView settings spell store)
      (postEvents settings (db.conceal secret) (later.conceal hidden) body reads readAt writtenAt allowed)
      (postEvents settings db later body reads readAt writtenAt allowed) := by
  unfold postEvents
  cases named : body.eventId with
  | some eventId =>
    dsimp only
    rw [confirmRead_conceal]
    cases read : confirmRead settings db body eventId reads with
    | error error => exact ⟨rfl,fun _ => rfl⟩
    | ok stage =>
      cases stage with
      | answered row =>
        obtain ⟨event,found,parts⟩ := confirmRead_parts read
        cases parts with
        | answered => exact seen_answered settings spell store unpublished (Database.getEvent_some.mp found).1
      | refused error => exact ⟨rfl,fun _ => rfl⟩
      | fail eventId txSig => exact ⟨failWrite_conceal hidden later eventId txSig,fun _ => rfl⟩
      | write job =>
        have alike : confirmWrite settings (later.conceal hidden) (job.conceal secret) writtenAt =
            (confirmWrite settings later job writtenAt).map (concealed hidden) := by
          rw [confirmWrite_job]
          cases waits : hidden job.eventId with
          | false => exact confirmWrite_conceal waits settings later writtenAt
          | true =>
            have gone : later.getEvent job.eventId = none := by
              by_contra there
              exact quiet ⟨eventId,named,job,read,waits,there⟩
            unfold confirmWrite
            rw [Database.getEvent_conceal,gone]
            rfl
        exact seen_written settings spell store alike (confirmWrite_stands settings later job writtenAt)
  | none =>
    by_cases report : body.type = some .sealDead ∧ body.txSig = none
    · simp only [if_pos report]
      exact seen_written settings spell store (reportSealDead_conceal hidden settings later body writtenAt allowed)
        (reportSealDead_stands settings later body writtenAt allowed)
    · simp only [if_neg report]
      rw [eventRead_conceal]
      cases read : eventRead settings db body reads readAt with
      | error error => exact ⟨rfl,fun _ => rfl⟩
      | ok stage =>
        cases stage with
        | answered row => exact seen_answered settings spell store unpublished (eventRead_answered settings db body reads readAt _ read row rfl)
        | write job => exact seen_written settings spell store (eventWrite_conceal waiting settings job) (eventWrite_stands (eventRead_knows read))

end postEvents

-- Two databases that differ in the secrets of scans that are not confirmed.
structure Alike (secret : ℕ → Bool) (db other : Database) : Prop where
  mine : Unpublished secret db
  theirs : Unpublished secret other
  same : db.conceal secret = other.conceal secret

theorem Database.unpublished_conceal (secret : ℕ → Bool) (db : Database) : Unpublished secret (db.conceal secret) ↔ Unpublished secret db := by
  unfold Unpublished
  rw [Database.conceal_rows]
  constructor
  · intro holds row inside waits
    have shown := holds (row.conceal secret) (List.mem_map.mpr ⟨row,inside,rfl⟩)
    rw [blind_id,blind_type,blind_status] at shown
    exact shown waits
  · intro holds row inside waits
    obtain ⟨old,there,rfl⟩ := List.mem_map.mp inside
    rw [blind_id] at waits
    rw [blind_type,blind_status]
    exact holds old there waits

-- Nobody learns a secret from the public reads, from a resume link that is not his, or from the answers about events as long
-- as the scan stays unconfirmed; and a request that publishes nothing leaves the databases alike.
structure Private (settings : Settings) (spell : Pubkey → String) (store : MediaStore) : Prop where
  passport : ∀ secret db other, Alike secret db other → ∀ serial,
    passportView settings spell store db serial = passportView settings spell store other serial
  list : ∀ secret db other, Alike secret db other → passportListView db = passportListView other
  metadata : ∀ secret db other, Alike secret db other → ∀ serial webUrl,
    passportMetadata db serial webUrl = passportMetadata other serial webUrl
  -- The registry's partners are read from chain or from these two tables.
  attester : ∀ secret db other, Alike secret db other → ∀ (partners : Option StoredRegistry → Table AttesterRow.pubkey → Option (List Pubkey)) pubkey,
    attesterView db (partners db.registry db.attesters) pubkey = attesterView other (partners other.registry other.attesters) pubkey
  tap : ∀ secret db other, Alike secret db other → ∀ id, tapView settings db id = tapView settings other id
  resume : ∀ secret db other, Alike secret db other → ∀ eventId token,
    (secret eventId = true → (∀ row ∈ db.getEvent eventId, tokenMatches settings token row.resumeHash = false) ∧
      ∀ row ∈ other.getEvent eventId, tokenMatches settings token row.resumeHash = false) →
    resumeVerify settings db eventId token = resumeVerify settings other eventId token
  posts : ∀ secret hidden db other later later', Alike secret db other → Alike hidden later later' →
    ∀ body reads readAt writtenAt allowed,
    Unpublished hidden (postEvents settings db later body reads readAt writtenAt allowed).1 →
    (postEvents settings db later body reads readAt writtenAt allowed).2.map (eventView settings spell store) =
        (postEvents settings other later' body reads readAt writtenAt allowed).2.map (eventView settings spell store) ∧
      Alike hidden (postEvents settings db later body reads readAt writtenAt allowed).1
        (postEvents settings other later' body reads readAt writtenAt allowed).1

theorem resumeVerify_alike (settings : Settings) {secret : ℕ → Bool} {db other : Database} (alike : Alike secret db other) (eventId : ℕ)
    (token : Option String) (stranger : secret eventId = true →
      (∀ row ∈ db.getEvent eventId, tokenMatches settings token row.resumeHash = false) ∧
      ∀ row ∈ other.getEvent eventId, tokenMatches settings token row.resumeHash = false) :
    resumeVerify settings db eventId token = resumeVerify settings other eventId token := by
  have found : (db.getEvent eventId).map (EventRow.conceal secret) = (other.getEvent eventId).map (EventRow.conceal secret) := by
    rw [← Database.getEvent_conceal,← Database.getEvent_conceal,alike.same]
  have seals : db.getSealByHash = other.getSealByHash := by
    have tables : (db.conceal secret).seals = (other.conceal secret).seals := congrArg Database.seals alike.same
    funext hash
    exact congrArg (fun table : Table SealRow.uidHash => table.get hash) tables
  unfold resumeVerify
  rw [seals]
  cases here : db.getEvent eventId with
  | none =>
    rw [here,Option.map_none,eq_comm,Option.map_eq_none_iff] at found
    rw [found]
  | some row =>
    rw [here,Option.map_some,eq_comm] at found
    obtain ⟨row',there,same⟩ := Option.map_eq_some_iff.mp found
    have named : row.id = eventId := (Database.getEvent_some.mp here).2
    have named' : row'.id = eventId := (Database.getEvent_some.mp there).2
    rw [there]
    cases hidden : secret eventId with
    | false =>
      rw [EventRow.conceal_open (named'.symm ▸ hidden),EventRow.conceal_open (named.symm ▸ hidden)] at same
      rw [same]
    | true =>
      obtain ⟨mine,theirs⟩ := stranger hidden
      have refused := mine row here
      have refused' := theirs row' there
      simp only [orRefuse,ok_bind,refused,refused',require,Bool.false_eq_true,if_false,error_bind]

theorem unconfirmed_scans_private (settings : Settings) (spell : Pubkey → String) (store : MediaStore) : Private settings spell store where
  passport secret db other alike serial := by
    rw [← passportView_conceal settings spell store alike.mine,alike.same,passportView_conceal settings spell store alike.theirs]
  list secret db other alike := by
    rw [← passportListView_conceal secret,alike.same,passportListView_conceal]
  metadata secret db other alike serial webUrl := by
    have mine : passportMetadata (db.conceal secret) serial webUrl = passportMetadata db serial webUrl := rfl
    rw [← mine,alike.same]
    rfl
  attester secret db other alike partners pubkey := by
    have registries : (db.conceal secret).registry = (other.conceal secret).registry := congrArg Database.registry alike.same
    have tables : (db.conceal secret).attesters = (other.conceal secret).attesters := congrArg Database.attesters alike.same
    have same : partners db.registry db.attesters = partners other.registry other.attesters := congrArg₂ partners registries tables
    rw [← attesterView_conceal secret db,alike.same,attesterView_conceal,same]
  tap secret db other alike id := by
    have mine : tapView settings (db.conceal secret) id = tapView settings db id := rfl
    rw [← mine,alike.same]
    rfl
  resume secret db other alike eventId token stranger := resumeVerify_alike settings alike eventId token stranger
  posts secret hidden db other later later' alike alike_later body reads readAt writtenAt allowed unpublished := by
    have quiet : ¬Publishes settings hidden db later body reads := fun publishes =>
      publishes_published alike_later.mine publishes readAt writtenAt allowed unpublished
    have quiet' : ¬Publishes settings hidden other later' body reads := by
      rw [← publishes_conceal settings secret hidden,← alike.same,← alike_later.same,publishes_conceal]
      exact quiet
    have mine := postEvents_seen settings spell store alike.mine alike_later.mine quiet readAt writtenAt allowed
    have theirs := postEvents_seen settings spell store alike.theirs alike_later.theirs quiet' readAt writtenAt allowed
    rw [← alike.same,← alike_later.same] at theirs
    have left := mine.left.symm.trans theirs.left
    have unpublished' : Unpublished hidden (postEvents settings other later' body reads readAt writtenAt allowed).1 := by
      rw [← Database.unpublished_conceal,← left,Database.unpublished_conceal]
      exact unpublished
    exact ⟨(mine.answer unpublished).symm.trans (theirs.answer unpublished'),unpublished,unpublished',left⟩

end FlaconVault.Verifier
