import FlaconVault.Verifier.ScanViews
namespace FlaconVault.Verifier
open Guards

-- Rows of the event log over time: what a row keeps from one version of the log to the next, and what a confirmation
-- leaves of the rows.

namespace Database
variable {db : Database}

theorem getEvent_mem {row : EventRow} (present : row ∈ db.events.rows) : db.getEvent row.id = some row := Log.get_of_mem present

theorem getEvent_some {id : ℕ} {row : EventRow} : db.getEvent id = some row ↔ row ∈ db.events.rows ∧ row.id = id := Log.get_some

theorem getEvent_update (id other : ℕ) (change : EventRow → EventRow) (keeps : ∀ row, (change row).id = row.id) :
    (db.updateEvent id change keeps).getEvent other = if other = id then (db.getEvent other).map change else db.getEvent other := by
  unfold getEvent updateEvent
  rw [Log.get_update]
  cases found : db.events.get other with
  | none => split <;> rfl
  | some row =>
    have named : row.id = other := (Log.get_some.mp found).2
    by_cases here : other = id
    · simp [here,named]
    · simp [here,named]

theorem getEvent_insert (make : ℕ → EventRow) (named : ∀ number, (make number).id = number) (id : ℕ) :
    (db.insertEvent make named).getEvent id = if id = db.events.next then some (make db.events.next) else db.getEvent id :=
  @Log.get_append EventRow EventRow.id db.events make named id

theorem getEvent_delete (chosen : EventRow → Bool) (id : ℕ) :
    ({db with events := db.events.delete chosen} : Database).getEvent id = (db.getEvent id).filter (!chosen ·) :=
  Log.get_delete

theorem getEvent_next : db.getEvent db.events.next = none := by
  unfold getEvent Log.get
  rw [Table.get_none]
  intro row present
  exact (db.events.below row present).ne

theorem getEvent_below {id : ℕ} {row : EventRow} (found : db.getEvent id = some row) : id < db.events.next := by
  obtain ⟨present,named⟩ := getEvent_some.mp found
  exact named ▸ db.events.below row present

-- The scan statistics of a wallet; no row counts as nothing.
def scanCredit (db : Database) (key : Pubkey) : ℕ × ℕ :=
  match db.getAttester key with
  | some row => (row.scanCount,row.certifiedCount)
  | none => (0,0)

-- The sighting a confirmed scan stands in for.
def superseded (event : EventRow) (scan : ScanPayload) (row : EventRow) : Bool :=
  match event.sealUidHash with
  | some sealUidHash => row.serial == event.serial && row.type == .scan && row.id != event.id && row.txSig.isNone &&
      row.sealUidHash == some sealUidHash && row.payload.counter == some scan.bundle.counter && row.payload.signedScan.isNone
  | none => false

-- The row of a scan once its confirmation is applied.
def attestedRow (event : EventRow) (scan : ScanPayload) (attestation : Attestation) (label : Option String) : EventRow :=
  {event with payload := event.payload.setScan (scan.attested attestation)
              actorLabel := label}

theorem getEvent_replaceSighting (event : EventRow) (scan : ScanPayload) (id : ℕ) :
    (db.replaceSighting event scan).getEvent id = (db.getEvent id).filter (!superseded event scan ·) := by
  unfold replaceSighting superseded
  cases event.sealUidHash with
  | some sealUidHash => exact getEvent_delete _ id
  | none => cases db.getEvent id <;> rfl

theorem applyConfirmedScan_unsigned {event : EventRow} (unsigned : event.payload.signedScan = none) (attester : Option Pubkey)
    (ts : Int) (chain : Option ChainValues) :
    db.applyConfirmedScan event attester ts chain = {db with applied := db.applied ++ [event.id]} := by
  unfold applyConfirmedScan
  rw [unsigned]

theorem setPassportGrade_only (db : Database) (serial : String) (grade : ℕ) (latest : Bool) :
    ∃ passports, db.setPassportGrade serial grade latest = {db with passports := passports} := by
  unfold setPassportGrade
  split <;> exact ⟨_,rfl⟩

theorem replaceSighting_next (db : Database) (event : EventRow) (scan : ScanPayload) :
    (db.replaceSighting event scan).events.next = db.events.next := by
  unfold replaceSighting
  split <;> rfl

-- The tables that applying a confirmed scan touches.
theorem applyConfirmedScan_only (db : Database) (event : EventRow) (attester : Option Pubkey) (ts : Int) (chain : Option ChainValues) :
    ∃ passports events attesters, db.applyConfirmedScan event attester ts chain =
      {db with passports := passports
               events := events
               attesters := attesters
               applied := db.applied ++ [event.id]} ∧ events.next = db.events.next := by
  unfold applyConfirmedScan
  cases event.payload.signedScan with
  | none => exact ⟨db.passports,db.events,db.attesters,rfl,rfl⟩
  | some scan =>
    dsimp only
    generalize attested : scan.attested (confirmedAttestation scan attester chain) = marked
    obtain ⟨passports,graded⟩ := setPassportGrade_only ((({db with applied := db.applied ++ [event.id]} : Database).updateEventPayload
      event.id (event.payload.setScan marked)).setActorLabel event.id attester) event.serial scan.grade
      (!((({db with applied := db.applied ++ [event.id]} : Database).updateEventPayload event.id
        (event.payload.setScan marked)).setActorLabel event.id attester).newerConfirmedScanExists event)
    rw [graded]
    generalize stored_is : ({(({db with applied := db.applied ++ [event.id]} : Database).updateEventPayload event.id
      (event.payload.setScan marked)).setActorLabel event.id attester with passports := passports} : Database) = stored
    obtain ⟨events,dropped⟩ := replaceSighting_only stored event scan
    obtain ⟨attesters,credited⟩ := creditAttester_only (stored.replaceSighting event scan) event scan (marked.tier.getD 0) attester ts
    have next : events.next = stored.events.next := by
      have same := replaceSighting_next stored event scan
      rwa [dropped] at same
    rw [credited,dropped]
    subst stored_is
    exact ⟨passports,events,attesters,rfl,next⟩

theorem applyConfirmedScan_next (db : Database) (event : EventRow) (attester : Option Pubkey) (ts : Int) (chain : Option ChainValues) :
    (db.applyConfirmedScan event attester ts chain).events.next = db.events.next := by
  obtain ⟨passports,events,attesters,same,next⟩ := applyConfirmedScan_only db event attester ts chain
  rw [same]
  exact next

-- What applying a confirmed scan leaves of the rows.
theorem getEvent_applyConfirmedScan {event : EventRow} {scan : ScanPayload} (present : db.getEvent event.id = some event)
    (signed : event.payload.signedScan = some scan) (attester : Option Pubkey) (ts : Int) (chain : Option ChainValues) :
    ∃ label, ∀ id, (db.applyConfirmedScan event attester ts chain).getEvent id =
      if id = event.id then some (attestedRow event scan (confirmedAttestation scan attester chain) label)
      else (db.getEvent id).filter (!superseded event scan ·) := by
  refine ⟨(attester.bind db.getAttester).bind (·.label),?_⟩
  intro id
  unfold applyConfirmedScan
  rw [signed]
  dsimp only
  generalize stored_is : ({db with applied := db.applied ++ [event.id]} : Database).updateEventPayload event.id
    (event.payload.setScan (scan.attested (confirmedAttestation scan attester chain))) = stored
  obtain ⟨attesters,credited⟩ := creditAttester_only
    (((stored.setActorLabel event.id attester).setPassportGrade event.serial scan.grade
      (!(stored.setActorLabel event.id attester).newerConfirmedScanExists event)).replaceSighting event scan) event scan
    ((scan.attested (confirmedAttestation scan attester chain)).tier.getD 0) attester ts
  rw [credited]
  have graded (db : Database) (grade : ℕ) (latest : Bool) : (db.setPassportGrade event.serial grade latest).getEvent id = db.getEvent id := by
    unfold setPassportGrade
    split <;> rfl
  refine (getEvent_replaceSighting event scan id).trans ?_
  rw [graded]
  subst stored_is
  have labelled : (({db with applied := db.applied ++ [event.id]} : Database).updateEventPayload event.id
      (event.payload.setScan (scan.attested (confirmedAttestation scan attester chain)))).getAttester = db.getAttester := rfl
  unfold setActorLabel updateEventPayload
  rw [getEvent_update,getEvent_update]
  by_cases here : id = event.id
  · subst here
    rw [if_pos rfl,if_pos rfl,if_pos rfl]
    have kept : ({db with applied := db.applied ++ [event.id]} : Database).getEvent event.id = some event := present
    rw [kept]
    have own (label : Option String) :
        superseded event scan (attestedRow event scan (confirmedAttestation scan attester chain) label) = false := by
      unfold superseded
      split <;> simp [attestedRow]
    simp only [Option.map_some]
    refine Option.filter_some_pos ?_
    rw [Bool.not_eq_true']
    exact own _
  · rw [if_neg here,if_neg here,if_neg here]
    rfl

end Database

-- A scan's payload as it was signed: what a confirmation adds is left out.
def PayloadBody.asSigned : PayloadBody → PayloadBody
  | .signedScan scan => .signedScan {scan with confirmed := none
                                               tier := none
                                               role := none
                                               chain := none}
  | body => body

-- A row and the same row later: what never changes, what stays while it is not confirmed, and that confirmed stays confirmed.
structure Follows (row later : EventRow) : Prop where
  id : later.id = row.id
  serial : later.serial = row.serial
  type : later.type = row.type
  ts : later.ts = row.ts
  settled : row.status = .confirmed → later.status = .confirmed
  unsettled : later.status ≠ .confirmed → later.payload.body = row.payload.body ∧ later.sealUidHash = row.sealUidHash ∧
    later.actor = row.actor
  scan : row.type = .scan → later.sealUidHash = row.sealUidHash ∧ later.payload.body.asSigned = row.payload.body.asSigned

theorem Follows.refl (row : EventRow) : Follows row row :=
  ⟨rfl,rfl,rfl,rfl,fun settled => settled,fun _ => ⟨rfl,rfl,rfl⟩,fun _ => ⟨rfl,rfl⟩⟩

theorem Follows.trans {row middle later : EventRow} (first : Follows row middle) (second : Follows middle later) :
    Follows row later := by
  refine ⟨second.id.trans first.id,second.serial.trans first.serial,second.type.trans first.type,second.ts.trans first.ts,
    fun settled => second.settled (first.settled settled),?_,?_⟩
  · intro open_later
    have open_middle : middle.status ≠ .confirmed := fun settled => open_later (second.settled settled)
    obtain ⟨body,sealed,actor⟩ := second.unsettled open_later
    obtain ⟨body',sealed',actor'⟩ := first.unsettled open_middle
    exact ⟨body.trans body',sealed.trans sealed',actor.trans actor'⟩
  · intro scan
    obtain ⟨sealed,signed⟩ := second.scan (first.type ▸ scan)
    obtain ⟨sealed',signed'⟩ := first.scan scan
    exact ⟨sealed.trans sealed',signed.trans signed'⟩

-- What one version of the log keeps of another: every older row is an older version of the row with its number.
structure Kept (db later : Database) : Prop where
  next : db.events.next ≤ later.events.next
  rows : ∀ id row', id < db.events.next → later.getEvent id = some row' → ∃ row, db.getEvent id = some row ∧ Follows row row'

theorem Kept.refl (db : Database) : Kept db db := ⟨le_rfl,fun _ row _ found => ⟨row,found,.refl row⟩⟩

theorem Kept.trans {db middle later : Database} (first : Kept db middle) (second : Kept middle later) : Kept db later := by
  refine ⟨first.next.trans second.next,?_⟩
  intro id row' old found
  obtain ⟨row,found',follows⟩ := second.rows id row' (old.trans_le first.next) found
  obtain ⟨origin,found'',follows'⟩ := first.rows id row old found'
  exact ⟨origin,found'',follows'.trans follows⟩

theorem Kept.of_events {db later : Database} (same : later.events = db.events) : Kept db later := by
  refine ⟨same ▸ le_rfl,?_⟩
  intro id row _ found
  unfold Database.getEvent at found
  rw [same] at found
  exact ⟨row,found,.refl row⟩

theorem Kept.of_insert (db : Database) (make : ℕ → EventRow) (named : ∀ number, (make number).id = number) :
    Kept db (db.insertEvent make named) := by
  refine ⟨Nat.le_succ _,?_⟩
  intro id row old found
  rw [Database.getEvent_insert,if_neg old.ne] at found
  exact ⟨row,found,.refl row⟩

theorem Kept.of_change {db later : Database} {id : ℕ} {change : EventRow → EventRow} (next : later.events.next = db.events.next)
    (rows : ∀ other, later.getEvent other = if other = id then (db.getEvent other).map change else db.getEvent other)
    (follows : ∀ row, db.getEvent id = some row → Follows row (change row)) : Kept db later := by
  refine ⟨next.ge,?_⟩
  intro other row' _ found
  rw [rows] at found
  split at found
  · rename_i here
    obtain ⟨row,there,rfl⟩ := Option.map_eq_some_iff.mp found
    exact ⟨row,there,follows row (here ▸ there)⟩
  · exact ⟨row',found,.refl row'⟩

theorem Kept.of_update {db : Database} {id : ℕ} {change : EventRow → EventRow} {keeps : ∀ row, (change row).id = row.id}
    (follows : ∀ row, db.getEvent id = some row → Follows row (change row)) : Kept db (db.updateEvent id change keeps) :=
  .of_change rfl (fun other => Database.getEvent_update id other change keeps) follows

-- Confirming one row, with the sighting it replaces.
theorem Kept.of_confirm {db later : Database} {id : ℕ} {current final : EventRow} {gone : EventRow → Bool}
    (next : later.events.next = db.events.next) (found : db.getEvent id = some current) (follows : Follows current final)
    (rows : ∀ other, later.getEvent other = if other = id then some final else (db.getEvent other).filter (!gone ·)) : Kept db later := by
  refine ⟨next.ge,?_⟩
  intro other row' _ there
  rw [rows] at there
  split at there
  · rename_i here
    exact ⟨current,here ▸ found,Option.some.inj there ▸ follows⟩
  · exact ⟨row',(Option.filter_eq_some_iff.mp there).1,.refl row'⟩

theorem filter_all {α : Type} (found : Option α) : found.filter (fun _ => true) = found := by
  cases found <;> rfl

-- The sightings that the confirmation of this row removes.
def replaced (current row : EventRow) : Bool :=
  current.type == .scan && current.payload.signedScan.any fun scan => Database.superseded current scan row

theorem replaced_signed (current : EventRow) {row : EventRow} (signed : row.payload.signedScan.isSome) : replaced current row = false := by
  have marked : row.payload.signedScan.isNone = false := by simpa using signed
  unfold replaced Database.superseded
  cases current.payload.signedScan <;> cases current.sealUidHash <;> simp [marked]

-- A row after a posted confirmation.
structure PostedRow (settings : Settings) (job : ConfirmJob) (current final : EventRow) : Prop where
  follows : Follows current final
  status : final.status = .confirmed
  txSig : final.txSig = some job.txSig
  actor : final.actor = some job.actor
  reconcile : final.payload.reconcile = current.payload.reconcile
  plain : current.type ≠ .scan → final.payload = current.payload
  signed : current.type = .scan → final.payload.signedScan = current.payload.signedScan.map fun scan =>
    scan.attested (confirmedAttestation scan (some job.actor) (scanChainValues settings job.vt job.payload))

theorem asSigned_attested {payload : Payload} {scan : ScanPayload} (signed : payload.signedScan = some scan)
    (attestation : Attestation) : (payload.setScan (scan.attested attestation)).body.asSigned = payload.body.asSigned := by
  unfold Payload.signedScan at signed
  split at signed
  · rename_i inner body
    cases signed
    simp [Payload.setScan,body,PayloadBody.asSigned,ScanPayload.attested]
  · cases signed

theorem attested_follows {current event : EventRow} {scan : ScanPayload} (follows : Follows current event)
    (settled : event.status = .confirmed) (signed : event.payload.signedScan = some scan) (attestation : Attestation)
    (label : Option String) : Follows current (Database.attestedRow event scan attestation label) := by
  refine ⟨follows.id,follows.serial,follows.type,follows.ts,fun _ => settled,?_,?_⟩
  · intro open_row
    exact absurd settled open_row
  · intro kind
    obtain ⟨sealed,same⟩ := follows.scan kind
    exact ⟨sealed,(asSigned_attested signed attestation).trans same⟩

theorem posted_follows (job : ConfirmJob) (current : EventRow) : Follows current (job.posted current) :=
  ⟨rfl,rfl,rfl,rfl,fun _ => rfl,fun open_row => absurd rfl open_row,fun _ => ⟨rfl,rfl⟩⟩

theorem posted_rows (settings : Settings) {db : Database} {job : ConfirmJob} {current : EventRow}
    (found : db.getEvent job.eventId = some current) (kind : current.type = job.type) (now : I64) :
    ∃ final, PostedRow settings job current final ∧ ∀ id,
      (job.effects settings (db.updateEvent job.eventId job.posted job.posted_id) current (job.posted current) now).getEvent id =
        if id = job.eventId then some final else (db.getEvent id).filter (!replaced current ·) := by
  have named : current.id = job.eventId := (Database.getEvent_some.mp found).2
  have plain (id : ℕ) : (db.updateEvent job.eventId job.posted job.posted_id).getEvent id =
      if id = job.eventId then some (job.posted current) else db.getEvent id := by
    rw [Database.getEvent_update]
    split
    · rename_i here
      rw [here,found]
      rfl
    · rfl
  unfold ConfirmJob.effects
  by_cases scan : job.type = .scan
  · rw [if_pos scan]
    cases signed : current.payload.signedScan with
    | none =>
      have bare : (job.posted current).payload.signedScan = none := signed
      rw [Database.applyConfirmedScan_unsigned bare]
      refine ⟨job.posted current,⟨posted_follows job current,rfl,rfl,rfl,rfl,fun _ => rfl,fun _ => by simp [ConfirmJob.posted,signed]⟩,?_⟩
      intro id
      refine (plain id).trans ?_
      have nothing : replaced current = fun _ => false := by
        funext row
        simp [replaced,signed]
      rw [nothing]
      simp [filter_all]
    | some bundle =>
      have reread : ((db.updateEvent job.eventId job.posted job.posted_id).upsertAttester job.actor now.val).getEvent
          (job.posted current).id = some (job.posted current) := by
        refine (plain _).trans ?_
        rw [ConfirmJob.posted_id,named,if_pos rfl]
      obtain ⟨label,rows⟩ := Database.getEvent_applyConfirmedScan reread signed (some job.actor) now.val
        (scanChainValues settings job.vt job.payload)
      refine ⟨_,⟨attested_follows (posted_follows job current) rfl signed _ label,rfl,rfl,rfl,rfl,fun other => absurd (kind.trans scan) other,
        fun _ => by rw [signed]; rfl⟩,?_⟩
      intro id
      rw [rows id,ConfirmJob.posted_id,named]
      split
      · rfl
      · rename_i elsewhere
        have same : ((db.updateEvent job.eventId job.posted job.posted_id).upsertAttester job.actor now.val).getEvent id =
            db.getEvent id := (plain id).trans (if_neg elsewhere)
        have gone : Database.superseded (job.posted current) bundle = replaced current := by
          funext row
          simp [replaced,signed,kind,scan,Database.superseded,ConfirmJob.posted]
        rw [same,gone]
  · have nothing : replaced current = fun _ => false := by
      funext row
      simp [replaced,kind,scan]
    rw [if_neg scan,nothing]
    by_cases dead : job.type = .sealDead
    · rw [if_pos dead]
      dsimp only
      generalize (current.sealUidHash <|> sealInTx _ current.serial job.vt) = hash
      have marked (id : ℕ) : (applySealDead (db.updateEvent job.eventId job.posted job.posted_id) current.serial hash).getEvent id =
          (db.updateEvent job.eventId job.posted job.posted_id).getEvent id := by
        unfold applySealDead
        cases hash <;> rfl
      refine ⟨{job.posted current with gradeAfter := some Grade.VOID
                                       sealUidHash := hash},⟨⟨rfl,rfl,rfl,rfl,fun _ => rfl,fun open_row => absurd rfl open_row,
        fun other => absurd (kind.symm.trans other) scan⟩,rfl,rfl,rfl,rfl,fun _ => rfl,fun other => absurd (kind.symm.trans other) scan⟩,?_⟩
      intro id
      rw [Database.getEvent_update,marked,plain]
      split
      · rfl
      · simp [filter_all]
    · rw [if_neg dead]
      refine ⟨job.posted current,⟨posted_follows job current,rfl,rfl,rfl,rfl,fun _ => rfl,
        fun other => absurd (kind.symm.trans other) scan⟩,?_⟩
      intro id
      rw [plain]
      simp [filter_all]

-- A row after a cycle confirmed it from its ScanProof.
structure ReconciledRow (item : WorkItem) (acct : ScanProof) (ts : Int) (current final : EventRow) : Prop where
  follows : Follows current final
  status : final.status = .confirmed
  actor : final.actor = some acct.attester
  txSig : final.txSig = if item.event.status = .failed then item.signature else current.txSig <|> item.event.txSig <|> item.signature
  signed : final.payload.signedScan = item.event.payload.signedScan.map fun scan =>
    let told : ScanPayload := {scan with chain := some (chainPart acct item.scanPda)}
    told.attested (confirmedAttestation told (some acct.attester) (some (acctValues acct (compareProof scan acct))))
  checked : final.payload.reconcile.any (·.signatureChecked) = true

theorem reconciledPayload_body (item : WorkItem) (acct : ScanProof) (ts : Int) :
    (reconciledPayload item acct ts).body.asSigned = item.event.payload.body.asSigned := by
  unfold reconciledPayload
  split
  · rename_i scan signed
    unfold Payload.signedScan at signed
    split at signed
    · rename_i inner body
      cases signed
      rw [body]
      rfl
    · cases signed
  · rfl

theorem reconciledPayload_signed (item : WorkItem) (acct : ScanProof) (ts : Int) :
    (reconciledPayload item acct ts).signedScan =
      item.event.payload.signedScan.map fun scan => {scan with chain := some (chainPart acct item.scanPda)} := by
  unfold reconciledPayload
  split
  · rename_i scan signed
    rw [signed]
    rfl
  · rename_i unsigned
    rw [unsigned]
    exact unsigned

theorem reconciledPayload_checked (item : WorkItem) (acct : ScanProof) (ts : Int) :
    (reconciledPayload item acct ts).reconcile.any (·.signatureChecked) = true := by
  unfold reconciledPayload
  split <;> rfl

theorem confirm_follows (item : WorkItem) (acct : ScanProof) (label : Option String) (ts : Int) {current : EventRow}
    (body : current.payload.body = item.event.payload.body) : Follows current (item.confirm acct label ts current) :=
  ⟨rfl,rfl,rfl,rfl,fun _ => rfl,fun open_row => absurd rfl open_row,fun _ => ⟨rfl,by rw [body]; exact reconciledPayload_body item acct ts⟩⟩

theorem reconciled_rows {db db' : Database} {item : WorkItem} {acct : ScanProof} {ts : Int} {current : EventRow}
    (found : db.getEvent item.event.id = some current) (kind : current.type = .scan)
    (body : current.payload.body = item.event.payload.body) (accepted : confirmScan db item acct ts = .ok db') :
    db'.events.next = db.events.next ∧ ∃ final, ReconciledRow item acct ts current final ∧ ∀ id,
      db'.getEvent id = if id = item.event.id then some final else (db.getEvent id).filter (!replaced current ·) := by
  have named : current.id = item.event.id := (Database.getEvent_some.mp found).2
  unfold confirmScan at accepted
  dsimp only at accepted
  generalize (db.getAttester acct.attester).bind (·.label) = label at accepted
  have plain (id : ℕ) : (db.updateEvent item.event.id (item.confirm acct label ts) (item.confirm_id acct label ts)).getEvent id =
      if id = item.event.id then some (item.confirm acct label ts current) else db.getEvent id := by
    rw [Database.getEvent_update]
    split
    · rename_i here
      rw [here,found]
      rfl
    · rfl
  rw [plain,if_pos rfl] at accepted
  cases accepted
  have signs : current.payload.signedScan = item.event.payload.signedScan := by
    unfold Payload.signedScan
    rw [body]
  have shows := reconciledPayload_signed item acct ts
  refine ⟨?_,?_⟩
  · exact Database.applyConfirmedScan_next _ _ _ _ _
  cases signed : item.event.payload.signedScan with
  | none =>
    have bare : (item.confirm acct label ts current).payload.signedScan = none := by
      refine shows.trans ?_
      rw [signed]
      rfl
    rw [Database.applyConfirmedScan_unsigned bare]
    refine ⟨item.confirm acct label ts current,⟨confirm_follows item acct label ts body,rfl,rfl,rfl,?_,reconciledPayload_checked item acct ts⟩,?_⟩
    · rw [signed]
      exact bare
    · intro id
      have nothing : replaced current = fun _ => false := by
        funext row
        simp [replaced,signs,signed]
      refine (plain id).trans ?_
      rw [nothing]
      simp [filter_all]
  | some scan =>
    obtain ⟨chained,chained_is⟩ : ∃ chained : ScanPayload, chained = {scan with chain := some (chainPart acct item.scanPda)} := ⟨_,rfl⟩
    have told : (item.confirm acct label ts current).payload.signedScan = some chained := by
      refine shows.trans ?_
      rw [signed,chained_is]
      rfl
    have reread : (db.updateEvent item.event.id (item.confirm acct label ts) (item.confirm_id acct label ts)).getEvent
        (item.confirm acct label ts current).id = some (item.confirm acct label ts current) := by
      rw [plain,WorkItem.confirm_id,named,if_pos rfl]
    obtain ⟨label',rows⟩ := Database.getEvent_applyConfirmedScan reread told (some acct.attester) ts
      (some (acctValues acct (compareProof scan acct)))
    refine ⟨_,⟨attested_follows (confirm_follows item acct label ts body) rfl told (confirmedAttestation chained (some acct.attester)
      (some (acctValues acct (compareProof scan acct)))) label',rfl,rfl,rfl,?_,reconciledPayload_checked item acct ts⟩,?_⟩
    · rw [signed,chained_is]
      rfl
    · intro id
      rw [rows id,WorkItem.confirm_id,named]
      split
      · rfl
      · rename_i elsewhere
        have gone : Database.superseded (item.confirm acct label ts current) chained = replaced current := by
          funext row
          simp [replaced,signs,signed,kind,chained_is,Database.superseded,WorkItem.confirm]
        rw [plain,if_neg elsewhere,gone]

end FlaconVault.Verifier
