import FlaconVault.Verifier.Rows
namespace FlaconVault.Verifier
open Guards

-- Everything the second halves of requests and cycles can do to the database, operation by operation. The invariants of
-- the event log are proved from this list.

-- Changes outside the event log, the seals, the nonces and the taps that leave every wallet its scan statistics.
structure Aside (db later : Database) : Prop where
  seals : later.seals = db.seals
  events : later.events = db.events
  nonces : later.nonces = db.nonces
  taps : later.taps = db.taps
  applied : later.applied = db.applied
  credits : ∀ key, later.scanCredit key = db.scanCredit key

theorem Aside.refl (db : Database) : Aside db db := ⟨rfl,rfl,rfl,rfl,rfl,fun _ => rfl⟩

theorem Aside.trans {db middle later : Database} (first : Aside db middle) (second : Aside middle later) : Aside db later :=
  ⟨second.seals.trans first.seals,second.events.trans first.events,second.nonces.trans first.nonces,second.taps.trans first.taps,
    second.applied.trans first.applied,fun key => (second.credits key).trans (first.credits key)⟩

-- The row that a transaction backs is new to the log.
def NewTo (db : Database) (job : EventJob) (sealUidHash : Option Bytes32) : Prop :=
  match job.type with
  | .mint => db.findEvent job.serial .mint none = none
  | .sealAttach => sealUidHash.isSome ∧ db.findEvent job.serial .sealAttach sealUidHash = none
  | type => db.eventForTx job.txSig job.serial type = none

-- What a cycle knows of an event it read: the row there now is the same row, later.
structure KnowsItem (db : Database) (item : WorkItem) : Prop where
  type : item.event.type = .scan
  unsettled : item.event.status = .pending ∨ item.event.status = .failed
  old : item.event.id < db.events.next
  follows : ∀ current, db.getEvent item.event.id = some current → Follows item.event current

structure KnowsConfirm (db : Database) (job : ConfirmJob) : Prop where
  old : job.eventId < db.events.next
  type : ∀ current, db.getEvent job.eventId = some current → current.type = job.type

-- Who makes an operation: a request, a confirmation of an event, the job of a failed transaction, or a cycle at its time.
inductive Cause where
  | request
  | confirm (eventId : ℕ)
  | failure (eventId : ℕ) (txSig : Signature)
  | cycle (ts : Int)

inductive Edit (settings : Settings) (cause : Cause) (db : Database) : Database → Prop
  | aside (later : Database) (rest : Aside db later) : Edit settings cause db later
  | attached (uidHash : Bytes32) (uid : Uid) (serial : String) (kind : ℕ) (attachedAt : Int) (later : Database)
      (own : ∀ other ∈ db.getSealByHash uidHash, other.serial = serial)
      (accepted : db.upsertSeal uidHash uid serial kind attachedAt = .ok later) : Edit settings cause db later
  | sealDead (uidHash : Bytes32) : Edit settings cause db (db.markSealDead uidHash)
  | refreshed (entry : SealRow × Option (List Byte)) : Edit settings cause db (refreshSeal settings db entry)
  | backed (job : EventJob) (label : Option String) (sealUidHash : Option Bytes32) (facts : Facts) (passport : PassportRow)
      (kind : job.type ≠ .scan) (new : NewTo db job sealUidHash) :
      Edit settings cause db (db.insertEvent (newEvent job label sealUidHash facts passport) (fun _ => rfl))
  | settled (existing : EventRow) (facts : Facts) (txSig : Signature) (actor : Pubkey)
      (found : db.getEvent existing.id = some existing) (unsettled : existing.status ≠ .confirmed)
      (kind : existing.type = .mint ∨ existing.type = .sealAttach) :
      Edit settings cause db (settleExisting db existing facts txSig actor)
  | filled (job : ConfirmJob) (current : EventRow) (by_id : cause = .confirm job.eventId) (knows : KnowsConfirm db job) (found : db.getEvent job.eventId = some current)
      (status : current.status = .confirmed) (bare : current.txSig = none) :
      Edit settings cause db (db.updateEvent job.eventId job.fill job.fill_id)
  | repaired (job : ConfirmJob) (current : EventRow) (knows : KnowsConfirm db job) (found : db.getEvent job.eventId = some current)
      (status : current.status = .confirmed) (chosen : reconcileChoseSignature current = true) :
      Edit settings cause db (db.updateEvent job.eventId job.repaired job.repaired_id)
  | posted (job : ConfirmJob) (current : EventRow) (now : I64) (knows : KnowsConfirm db job)
      (found : db.getEvent job.eventId = some current) (unsettled : current.status ≠ .confirmed) :
      Edit settings cause db (job.effects settings (db.updateEvent job.eventId job.posted job.posted_id) current (job.posted current) now)
  | failed (eventId : ℕ) (txSig : Signature) (own : cause = .failure eventId txSig) : Edit settings cause db (failWrite db eventId txSig)
  | reconciled (item : WorkItem) (acct : ScanProof) (ts : Int) (current : EventRow) (later : Database) (knows : KnowsItem db item)
      (found : db.getEvent item.event.id = some current) (status : current.status = item.event.status)
      (proof : item.proof = some acct) (accepted : confirmScan db item acct ts = .ok later) : Edit settings cause db later
  | timedOut (id : ℕ) (payload : Payload) (current : EventRow) (found : db.getEvent id = some current)
      (pending : current.status = .pending) (body : payload.body = current.payload.body)
      (late : ∃ ts, cause = .cycle ts ∧ ts-current.ts > settings.reconcileTimeout) : Edit settings cause db (failPending db id payload)
  | noted (id : ℕ) (payload : Payload) (current : EventRow) (found : db.getEvent id = some current)
      (unsettled : current.status ≠ .confirmed) (body : payload.body = current.payload.body) :
      Edit settings cause db (db.updateEventPayload id payload)

abbrev Edits (settings : Settings) (cause : Cause) : Database → Database → Prop := Relation.ReflTransGen (Edit settings cause)

theorem KnowsItem.body {db : Database} {item : WorkItem} {current : EventRow} (knows : KnowsItem db item)
    (found : db.getEvent item.event.id = some current) (unsettled : current.status ≠ .confirmed) :
    current.payload.body = item.event.payload.body :=
  ((knows.follows current found).unsettled unsettled).1

theorem KnowsItem.open {db : Database} {item : WorkItem} {current : EventRow} (knows : KnowsItem db item)
    (status : current.status = item.event.status) : current.status ≠ .confirmed := by
  rcases knows.unsettled with pending | failed
  · simp [status,pending]
  · simp [status,failed]

-- The row of an event whose deadline passed, and of one whose own transaction failed.
def timedOutRow (payload : Payload) (row : EventRow) : EventRow :=
  {row with status := if row.status = .pending then .failed else row.status
            payload := payload}

def failedRow (txSig : Signature) (row : EventRow) : EventRow :=
  if row.status = .pending then {row with status := .failed
                                          txSig := some txSig}
  else row

theorem getEvent_failPending (db : Database) (id other : ℕ) (payload : Payload) :
    (failPending db id payload).getEvent other =
      if other = id then (db.getEvent other).map (timedOutRow payload) else db.getEvent other := by
  unfold failPending Database.updateEventPayload
  rw [Database.getEvent_update]
  unfold Database.getEvent
  rw [Log.get_update]
  cases found : db.events.get other with
  | none => split <;> rfl
  | some row =>
    have named : row.id = other := (Log.get_some.mp found).2
    by_cases here : other = id
    · by_cases pending : row.status = .pending <;> simp [here,named,pending,timedOutRow]
    · simp [here,named]

theorem getEvent_failWrite (db : Database) (eventId other : ℕ) (txSig : Signature) :
    (failWrite db eventId txSig).getEvent other =
      if other = eventId then (db.getEvent other).map (failedRow txSig) else db.getEvent other := by
  unfold failWrite Database.getEvent
  rw [Log.get_update]
  cases found : db.events.get other with
  | none => split <;> rfl
  | some row =>
    have named : row.id = other := (Log.get_some.mp found).2
    by_cases here : other = eventId
    · by_cases pending : row.status = .pending <;> simp [here,named,pending,failedRow]
    · simp [here,named]

theorem failedRow_follows (txSig : Signature) (row : EventRow) : Follows row (failedRow txSig row) := by
  unfold failedRow
  split
  · rename_i pending
    exact ⟨rfl,rfl,rfl,rfl,fun settled => by simp [pending] at settled,fun _ => ⟨rfl,rfl,rfl⟩,fun _ => ⟨rfl,rfl⟩⟩
  · exact .refl row

theorem timedOutRow_follows {payload : Payload} {row : EventRow} (pending : row.status = .pending)
    (body : payload.body = row.payload.body) : Follows row (timedOutRow payload row) :=
  ⟨rfl,rfl,rfl,rfl,fun settled => by simp [pending] at settled,fun _ => ⟨body,rfl,rfl⟩,fun _ => ⟨rfl,by simp [timedOutRow,body]⟩⟩

theorem checkedSignature_follows {row : EventRow} (settled : row.status = .confirmed) (txSig : Option Signature) :
    Follows row {checkedSignature row with txSig := txSig} :=
  ⟨rfl,rfl,rfl,rfl,fun _ => settled,fun open_row => absurd settled open_row,fun _ => ⟨rfl,rfl⟩⟩

theorem fill_follows (job : ConfirmJob) {row : EventRow} (settled : row.status = .confirmed) : Follows row (job.fill row) := by
  unfold ConfirmJob.fill
  dsimp only
  split
  · exact checkedSignature_follows settled _
  · exact ⟨rfl,rfl,rfl,rfl,fun _ => settled,fun open_row => absurd settled open_row,fun _ => ⟨rfl,rfl⟩⟩

theorem effects_next (settings : Settings) (job : ConfirmJob) (confirmed : Database) (current event : EventRow) (now : I64) :
    (job.effects settings confirmed current event now).events.next = confirmed.events.next := by
  unfold ConfirmJob.effects
  split
  · exact Database.applyConfirmedScan_next _ _ _ _ _
  · split
    · dsimp only
      unfold applySealDead
      split <;> rfl
    · rfl

theorem refreshSeal_only (settings : Settings) (db : Database) (entry : SealRow × Option (List Byte)) :
    ∃ seals, refreshSeal settings db entry = {db with seals := seals} := by
  unfold refreshSeal
  split
  · exact ⟨_,rfl⟩
  · split <;> exact ⟨_,rfl⟩

theorem upsertSeal_only {db later : Database} {uidHash : Bytes32} {uid : Uid} {serial : String} {kind : ℕ} {attachedAt : Int}
    (accepted : db.upsertSeal uidHash uid serial kind attachedAt = .ok later) : ∃ seals, later = {db with seals := seals} := by
  unfold Database.upsertSeal at accepted
  dsimp only at accepted
  split at accepted
  · split at accepted <;> cases accepted
    exact ⟨_,rfl⟩
  · cases accepted
    exact ⟨_,rfl⟩

theorem refreshSeal_events (settings : Settings) (db : Database) (entry : SealRow × Option (List Byte)) :
    (refreshSeal settings db entry).events = db.events := by
  obtain ⟨seals,same⟩ := refreshSeal_only settings db entry
  rw [same]

theorem upsertSeal_events {db later : Database} {uidHash : Bytes32} {uid : Uid} {serial : String} {kind : ℕ} {attachedAt : Int}
    (accepted : db.upsertSeal uidHash uid serial kind attachedAt = .ok later) : later.events = db.events := by
  obtain ⟨seals,rfl⟩ := upsertSeal_only accepted
  rfl

-- Every operation keeps the older rows.
theorem edit_kept {settings : Settings} {cause : Cause} {db later : Database} (edit : Edit settings cause db later) : Kept db later := by
  cases edit with
  | aside _ rest => exact .of_events rest.events
  | attached uidHash uid serial kind attachedAt _ own accepted => exact .of_events (upsertSeal_events accepted)
  | sealDead uidHash => exact .of_events rfl
  | refreshed entry => exact .of_events (refreshSeal_events settings db entry)
  | backed job label sealUidHash facts passport kind new => exact .of_insert _ _ _
  | settled existing facts txSig actor found unsettled kind =>
    refine .of_update ?_
    intro row there
    have same : row = existing := Option.some.inj (there.symm.trans found)
    subst same
    refine ⟨rfl,rfl,rfl,rfl,fun _ => rfl,fun open_row => absurd rfl open_row,?_⟩
    intro scan
    rcases kind with mint | attach
    · rw [scan] at mint
      cases mint
    · rw [scan] at attach
      cases attach
  | filled job current by_id knows found status bare =>
    refine .of_update ?_
    intro row there
    have same : row = current := Option.some.inj (there.symm.trans found)
    exact fill_follows job (same ▸ status)
  | repaired job current knows found status chosen =>
    refine .of_update ?_
    intro row there
    have same : row = current := Option.some.inj (there.symm.trans found)
    exact checkedSignature_follows (same ▸ status) _
  | posted job current now knows found unsettled =>
    obtain ⟨final,row,rows⟩ := posted_rows settings found (knows.type current found) now
    exact .of_confirm (effects_next settings job _ _ _ now) found row.follows rows
  | failed eventId txSig own =>
    exact .of_change rfl (fun other => getEvent_failWrite db eventId other txSig) fun row _ => failedRow_follows txSig row
  | reconciled item acct ts current _ knows found status proof accepted =>
    have kind : current.type = .scan := (knows.follows current found).type.trans knows.type
    obtain ⟨next,final,row,rows⟩ := reconciled_rows found kind (knows.body found (knows.open status)) accepted
    exact .of_confirm next found row.follows rows
  | timedOut id payload current found pending body late =>
    refine .of_change rfl (fun other => getEvent_failPending db id other payload) ?_
    intro row there
    have same : row = current := Option.some.inj (there.symm.trans found)
    subst same
    exact timedOutRow_follows pending body
  | noted id payload current found unsettled body =>
    refine .of_update ?_
    intro row there
    have same : row = current := Option.some.inj (there.symm.trans found)
    subst same
    exact ⟨rfl,rfl,rfl,rfl,fun settled => settled,fun _ => ⟨body,rfl,rfl⟩,fun _ => ⟨rfl,by rw [body]⟩⟩

-- The operations of the store that stay aside.
namespace Aside
variable {db later : Database}

theorem upsertAttester (db : Database) (pubkey : Pubkey) (firstSeen : Int) : Aside db (db.upsertAttester pubkey firstSeen) := by
  refine ⟨rfl,rfl,rfl,rfl,rfl,?_⟩
  intro key
  have found : (db.upsertAttester pubkey firstSeen).getAttester key =
      if key = pubkey then some ((db.getAttester key).getD (.fresh pubkey firstSeen)) else db.getAttester key := Table.get_ensure
  unfold Database.scanCredit
  rw [found]
  by_cases here : key = pubkey
  · rw [if_pos here]
    cases db.getAttester key <;> rfl
  · rw [if_neg here]

theorem updateAttesters (db : Database) (chosen : AttesterRow → Bool) (change : AttesterRow → AttesterRow)
    (keeps : ∀ row, (change row).pubkey = row.pubkey)
    (same : ∀ row, (change row).scanCount = row.scanCount ∧ (change row).certifiedCount = row.certifiedCount) :
    Aside db {db with attesters := db.attesters.update chosen change keeps} := by
  refine ⟨rfl,rfl,rfl,rfl,rfl,?_⟩
  intro key
  have found : ({db with attesters := db.attesters.update chosen change keeps} : Database).getAttester key =
      (db.getAttester key).map fun row => if chosen row then change row else row :=
    @Table.get_update _ _ _ _ db.attesters chosen change keeps key
  unfold Database.scanCredit
  rw [found]
  cases db.getAttester key with
  | none => rfl
  | some row =>
    simp only [Option.map_some]
    split
    · rw [(same row).1,(same row).2]
    · rfl

theorem foldl {α : Type} {step : Database → α → Database} (each : ∀ db value, Aside db (step db value)) (values : List α)
    (db : Database) : Aside db (values.foldl step db) := by
  induction values generalizing db with
  | nil => exact .refl db
  | cons first rest ih => exact (each db first).trans (ih (step db first))

theorem upsertPassport {row : PassportRow} (accepted : db.upsertPassport row = .ok later) : Aside db later := by
  unfold Database.upsertPassport at accepted
  split at accepted
  · split at accepted <;> cases accepted
    exact ⟨rfl,rfl,rfl,rfl,rfl,fun _ => rfl⟩
  · cases accepted
    exact ⟨rfl,rfl,rfl,rfl,rfl,fun _ => rfl⟩

theorem setGrade (db : Database) (serial : String) (graded : ℕ × Bool) : Aside db (db.setGrade serial graded) :=
  ⟨rfl,rfl,rfl,rfl,rfl,fun _ => rfl⟩

theorem putOrder {row : OrderRow} {merge : OrderRow → OrderRow}
    {keeps : ∀ old, ((merge old).orderPda,(merge old).listedAt) = (old.orderPda,old.listedAt)}
    (accepted : db.putOrder row merge keeps = .ok later) : Aside db later := by
  unfold Database.putOrder at accepted
  obtain ⟨_,_,accepted⟩ := bind_ok.mp accepted
  obtain ⟨_,_,accepted⟩ := bind_ok.mp accepted
  split at accepted <;> (cases pure_ok.mp accepted; exact ⟨rfl,rfl,rfl,rfl,rfl,fun _ => rfl⟩)

theorem upsertEscrowOrder {orderPda : Pubkey} {order : ChainOrder} {ts : Int}
    (accepted : db.upsertEscrowOrder orderPda order ts = .ok later) : Aside db later := by
  unfold Database.upsertEscrowOrder at accepted
  dsimp only at accepted
  refine Aside.trans ?_ (putOrder accepted)
  cases Database.oldestListing (db.escrowOrders.rows.filter (Database.placeholder orderPda order.listedAt.val)) with
  | some row => exact ⟨rfl,rfl,rfl,rfl,rfl,fun _ => rfl⟩
  | none => exact .refl db

theorem upsertAttesters (db : Database) (entries : List (Pubkey × ℕ)) (seen : Pubkey × ℕ → Int) :
    Aside db (entries.foldl (fun known entry => known.upsertAttester entry.1 (seen entry)) db) :=
  foldl (fun db entry => upsertAttester db entry.1 (seen entry)) entries db

theorem syncEscrowCounters {only : Option (List Pubkey)} (accepted : db.syncEscrowCounters only = .ok later) : Aside db later := by
  unfold Database.syncEscrowCounters at accepted
  obtain ⟨_,_,accepted⟩ := bind_ok.mp accepted
  cases pure_ok.mp accepted
  have known := upsertAttesters db db.participants fun entry =>
    ((db.participants.filter (·.1 == entry.1)).map fun other => (other.2 : Int)).foldr min (entry.2 : Int)
  refine known.trans ?_
  refine updateAttesters _ _ _ _ ?_
  exact fun _ => ⟨rfl,rfl⟩

theorem recordEscrowOutcome {orderPda : Pubkey} {state : ℕ} {blockTime : Option Int} {ts : Int} {order : Option ChainOrder}
    {passport seller buyer : Option Pubkey} {price : Option ℕ}
    (accepted : db.recordEscrowOutcome orderPda state blockTime ts order passport seller buyer price = .ok later) :
    Aside db later := by
  unfold Database.recordEscrowOutcome at accepted
  dsimp only at accepted
  split at accepted
  · obtain ⟨stored,put,synced⟩ := bind_ok.mp accepted
    exact (putOrder put).trans (syncEscrowCounters synced)
  · split at accepted
    · have rest := syncEscrowCounters accepted
      exact ⟨rest.seals,rest.events,rest.nonces,rest.taps,rest.applied,rest.credits⟩
    · obtain ⟨stored,put,synced⟩ := bind_ok.mp accepted
      exact (putOrder put).trans (syncEscrowCounters synced)
    · cases pure_ok.mp accepted
      exact .refl db

theorem recordOutcome {job : EventJob} (accepted : Verifier.recordOutcome db job = .ok later) : Aside db later := by
  unfold Verifier.recordOutcome at accepted
  split at accepted
  · cases accepted
    exact .refl db
  · exact recordEscrowOutcome accepted

theorem mintPassport {settings : Settings} {job : EventJob} {label brand name batch : Option String} {asset : Option Pubkey}
    {bindingHash : Option Bytes32} {facts : Facts}
    (accepted : Verifier.mintPassport settings db job label brand name batch asset bindingHash = .ok (later,facts)) :
    Aside db later := by
  unfold Verifier.mintPassport at accepted
  obtain ⟨_,_,accepted⟩ := bind_ok.mp accepted
  obtain ⟨minted,stored,accepted⟩ := bind_ok.mp accepted
  obtain ⟨_,_,accepted⟩ := bind_ok.mp accepted
  obtain ⟨rfl,_⟩ := Prod.mk.inj (pure_ok.mp accepted)
  unfold sql at stored
  split at stored
  · rename_i value passed
    cases stored
    exact upsertPassport passed
  · cases stored

theorem refreshPassport (settings : Settings) (db : Database) (entry : PassportRow × Option (List Byte)) :
    Aside db (Verifier.refreshPassport settings db entry) := by
  unfold Verifier.refreshPassport
  split
  · exact .refl db
  · split
    · split
      · exact .refl db
      · exact setGrade db _ _
    · exact .refl db

theorem refreshRegistry (settings : Settings) (ts : Int) (db : Database) (data : Option (List Byte)) :
    Aside db (Verifier.refreshRegistry settings ts db data) := by
  unfold Verifier.refreshRegistry
  split
  · split
    · rename_i registry _
      have known := foldl (fun db pubkey => upsertAttester db pubkey ts) registry.partners db
      have marked := known.trans (updateAttesters _ (fun _ => true)
        (fun row => {row with isPartner := registry.partners.contains row.pubkey}) (fun _ => rfl) fun _ => ⟨rfl,rfl⟩)
      exact ⟨marked.seals,marked.events,marked.nonces,marked.taps,marked.applied,marked.credits⟩
    · exact .refl db
  · exact .refl db

theorem applyOrders {settings : Settings} {ts : Int} {found : List (Pubkey × List Byte)}
    (accepted : Verifier.applyOrders settings ts db found = .ok later) : Aside db later := by
  induction found generalizing db with
  | nil =>
    cases accepted
    exact .refl _
  | cons first rest ih =>
    unfold Verifier.applyOrders at accepted
    split at accepted
    · exact ih accepted
    · obtain ⟨stored,put,accepted⟩ := bind_ok.mp accepted
      exact (upsertEscrowOrder put).trans (ih accepted)

theorem refreshOrders {settings : Settings} {ts : Int} {orders : Option (List (Pubkey × List Byte))}
    (accepted : Verifier.refreshOrders settings ts db orders = .ok later) : Aside db later := by
  unfold Verifier.refreshOrders at accepted
  split at accepted
  · cases accepted
    exact .refl db
  · obtain ⟨stored,put,accepted⟩ := bind_ok.mp accepted
    exact (applyOrders put).trans (syncEscrowCounters accepted)

end Aside

theorem sql_ok {α : Type} {outcome : Except SqlError α} {value : α} : sql outcome = .ok value ↔ outcome = .ok value := by
  cases outcome <;> simp [sql]

theorem edits_kept {settings : Settings} {cause : Cause} {db later : Database} (edits : Edits settings cause db later) : Kept db later := by
  induction edits with
  | refl => exact .refl db
  | tail _ edit ih => exact ih.trans (edit_kept edit)

end FlaconVault.Verifier
