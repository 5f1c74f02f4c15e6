import FlaconVault.Verifier.Shapes
namespace FlaconVault.Verifier
open Guards

-- Confirmed scans and the statistics of their attesters.
namespace EventRow

def creditedTo (row : EventRow) (key : Pubkey) : Bool := row.confirmedScan && row.actor == some key
def certifiedFor (row : EventRow) (key : Pubkey) : Bool := row.creditedTo key && decide (row.scanTier ≥ Tier.CERTIFIED)

end EventRow

namespace Database
variable {db later : Database}

def counted (db : Database) (key : Pubkey) : ℕ × ℕ :=
  (db.events.rows.countP (·.creditedTo key),db.events.rows.countP (·.certifiedFor key))

theorem count_get (db : Database) (chosen : EventRow → Bool) :
    db.events.rows.countP chosen = (List.range db.events.next).countP fun number => (db.getEvent number).any chosen :=
  Log.count_get db.events chosen

-- Counting rows before and after a confirmation, a change of one row and an insert.
theorem count_confirm {id : ℕ} {current final : EventRow} {gone : EventRow → Bool} (chosen : EventRow → Bool)
    (next : later.events.next = db.events.next) (found : db.getEvent id = some current)
    (rows : ∀ other, later.getEvent other = if other = id then some final else (db.getEvent other).filter (!gone ·))
    (kept : ∀ row, gone row = true → chosen row = false) :
    later.events.rows.countP chosen + (chosen current).toNat = db.events.rows.countP chosen + (chosen final).toNat := by
  rw [count_get,count_get,next]
  have inside := getEvent_below found
  have here : later.getEvent id = some final := by rw [rows,if_pos rfl]
  have moved := Log.countP_at (fun number => (db.getEvent number).any chosen) (fun number => (later.getEvent number).any chosen) inside ?_
  · simpa [found,here] using moved
  · intro number _ elsewhere
    rw [rows,if_neg elsewhere]
    cases there : db.getEvent number with
    | none => rfl
    | some row =>
      cases lost : gone row with
      | false => simp [Option.filter,lost]
      | true => simp [Option.filter,lost,kept row lost]

theorem count_change {id : ℕ} {change : EventRow → EventRow} (chosen : EventRow → Bool) (next : later.events.next = db.events.next)
    (rows : ∀ other, later.getEvent other = if other = id then (db.getEvent other).map change else db.getEvent other)
    (same : ∀ row, db.getEvent id = some row → chosen (change row) = chosen row) :
    later.events.rows.countP chosen = db.events.rows.countP chosen := by
  rw [count_get,count_get,next]
  refine List.countP_congr ?_
  intro number _
  rw [rows]
  split
  · rename_i here
    cases there : db.getEvent number with
    | none => rfl
    | some row => simp [same row (here ▸ there)]
  · rfl

theorem count_insert (make : ℕ → EventRow) (named : ∀ number, (make number).id = number) (chosen : EventRow → Bool) :
    (db.insertEvent make named).events.rows.countP chosen =
      db.events.rows.countP chosen + (chosen (make db.events.next)).toNat := by
  show (db.events.append make named).rows.countP chosen = _
  rw [Log.append_rows,List.countP_append,List.countP_singleton]
  cases chosen (make db.events.next) <;> rfl

-- What one confirmed scan adds to the statistics of its attester.
theorem getAttester_bump (db : Database) (pubkey key : Pubkey) (ts : Int) (scans certified agree compare : ℕ) :
    (db.bumpAttester pubkey ts scans certified agree compare).getAttester key =
      if key = pubkey then some (let row := (db.getAttester key).getD (.fresh pubkey ts)
        {row with scanCount := row.scanCount + scans
                  certifiedCount := row.certifiedCount + certified
                  agreeCount := row.agreeCount + agree
                  compareCount := row.compareCount + compare})
      else db.getAttester key := by
  unfold bumpAttester updateAttester getAttester upsertAttester
  have fresh : (AttesterRow.fresh pubkey ts).pubkey = pubkey := rfl
  rw [Table.get_update,Table.get_ensure,fresh]
  by_cases here : key = pubkey
  · have named : ((db.attesters.get key).getD (.fresh pubkey ts)).pubkey = pubkey := by
      cases found : db.attesters.get key with
      | none => rfl
      | some row => exact (Table.get_some.mp found).2.trans here
    rw [if_pos here,if_pos here,Option.map_some]
    simp [named]
  · rw [if_neg here,if_neg here]
    cases found : db.attesters.get key with
    | none => rfl
    | some row =>
      have other : row.pubkey ≠ pubkey := fun same => here ((Table.get_some.mp found).2.symm.trans same)
      simp [other]

theorem scanCredit_bump (db : Database) (pubkey key : Pubkey) (ts : Int) (scans certified agree compare : ℕ) :
    (db.bumpAttester pubkey ts scans certified agree compare).scanCredit key =
      if key = pubkey then ((db.scanCredit key).1+scans,(db.scanCredit key).2+certified) else db.scanCredit key := by
  unfold scanCredit
  rw [getAttester_bump]
  by_cases here : key = pubkey
  · rw [if_pos here,if_pos here]
    cases db.getAttester key with
    | none => simp [AttesterRow.fresh]
    | some row => rfl
  · rw [if_neg here,if_neg here]

theorem scanCredit_credit (db : Database) (event : EventRow) (scan : ScanPayload) (tier : ℕ) (attester key : Pubkey) (ts : Int) :
    (db.creditAttester event scan tier (some attester) ts).scanCredit key =
      if key = attester then ((db.scanCredit key).1+1,(db.scanCredit key).2+if tier ≥ Tier.CERTIFIED then 1 else 0)
      else db.scanCredit key := by
  have own := scanCredit_bump db attester key ts 1 (if tier ≥ Tier.CERTIFIED then 1 else 0) 0 0
  unfold creditAttester
  dsimp only
  split
  · exact own
  · split
    · split
      · rw [scanCredit_bump,own]
        by_cases other : key = ‹Pubkey›
        · rw [if_pos other]
          split <;> rfl
        · rw [if_neg other]
      · exact own
    · exact own

theorem scanCredit_attesters (same : later.attesters = db.attesters) (key : Pubkey) : later.scanCredit key = db.scanCredit key := by
  unfold scanCredit getAttester
  rw [same]

theorem scanCredit_upsert (db : Database) (pubkey key : Pubkey) (firstSeen : Int) :
    (db.upsertAttester pubkey firstSeen).scanCredit key = db.scanCredit key := (Aside.upsertAttester db pubkey firstSeen).credits key

theorem scanCredit_applyConfirmedScan {event : EventRow} {scan : ScanPayload} (signed : event.payload.signedScan = some scan)
    (attester key : Pubkey) (ts : Int) (chain : Option ChainValues) :
    (db.applyConfirmedScan event (some attester) ts chain).scanCredit key =
      if key = attester then ((db.scanCredit key).1+1,
        (db.scanCredit key).2+if (confirmedAttestation scan (some attester) chain).tier.getD 0 ≥ Tier.CERTIFIED then 1 else 0)
      else db.scanCredit key := by
  unfold applyConfirmedScan
  rw [signed]
  dsimp only
  rw [scanCredit_credit]
  generalize stored_is : ({db with applied := db.applied ++ [event.id]} : Database).updateEventPayload event.id
    (event.payload.setScan (scan.attested (confirmedAttestation scan (some attester) chain))) = stored
  have known : ∀ (known : Database) (grade : ℕ) (latest : Bool),
      ((known.setPassportGrade event.serial grade latest).replaceSighting event scan).attesters = known.attesters := by
    intro known grade latest
    obtain ⟨passports,graded⟩ := setPassportGrade_only known event.serial grade latest
    obtain ⟨events,dropped⟩ := replaceSighting_only (known.setPassportGrade event.serial grade latest) event scan
    rw [dropped,graded]
  have same := scanCredit_attesters (known (stored.setActorLabel event.id (some attester)) scan.grade
    (!(stored.setActorLabel event.id (some attester)).newerConfirmedScanExists event)) key
  rw [same]
  subst stored_is
  rfl

end Database
-- Every confirmed scan was applied once and counts for its attester, and nothing else does.
structure Credited (db : Database) : Prop where
  once : db.applied.Nodup
  applied : ∀ id, id ∈ db.applied ↔ ∃ row, db.getEvent id = some row ∧ row.confirmedScan = true
  credits : ∀ key, db.scanCredit key = db.counted key

namespace Credited
variable {db later : Database}

theorem of_same (credited : Credited db) (events : later.events = db.events) (applied : later.applied = db.applied)
    (credits : ∀ key, later.scanCredit key = db.scanCredit key) : Credited later := by
  refine ⟨applied ▸ credited.once,?_,?_⟩
  · intro id
    unfold Database.getEvent
    rw [applied,events]
    exact credited.applied id
  · intro key
    unfold Database.counted
    rw [credits,events]
    exact credited.credits key

theorem of_insert (credited : Credited db) (make : ℕ → EventRow) (named : ∀ number, (make number).id = number)
    (uncounted : (make db.events.next).confirmedScan = false) : Credited (db.insertEvent make named) := by
  refine ⟨credited.once,?_,?_⟩
  · intro id
    rw [Database.getEvent_insert]
    refine (credited.applied id).trans ?_
    by_cases here : id = db.events.next
    · rw [if_pos here,here,Database.getEvent_next]
      simp [uncounted]
    · rw [if_neg here]
  · intro key
    unfold Database.counted
    rw [Database.count_insert,Database.count_insert]
    simp only [EventRow.creditedTo,EventRow.certifiedFor,uncounted,Bool.false_and,Bool.toNat_false,Nat.add_zero]
    exact credited.credits key

theorem of_change (credited : Credited db) {id : ℕ} {change : EventRow → EventRow} (next : later.events.next = db.events.next)
    (rows : ∀ other, later.getEvent other = if other = id then (db.getEvent other).map change else db.getEvent other)
    (applied : later.applied = db.applied) (attesters : later.attesters = db.attesters)
    (same : ∀ row, db.getEvent id = some row → (change row).confirmedScan = row.confirmedScan ∧
      (row.confirmedScan = true → (change row).actor = row.actor ∧ (change row).scanTier = row.scanTier)) : Credited later := by
  have alike (key : Pubkey) (row : EventRow) (found : db.getEvent id = some row) :
      (change row).creditedTo key = row.creditedTo key ∧ (change row).certifiedFor key = row.certifiedFor key := by
    obtain ⟨kept,told⟩ := same row found
    unfold EventRow.certifiedFor EventRow.creditedTo
    rw [kept]
    cases confirmed : row.confirmedScan with
    | false => simp
    | true =>
      obtain ⟨actor,tier⟩ := told confirmed
      rw [actor,tier]
      exact ⟨rfl,rfl⟩
  refine ⟨applied ▸ credited.once,?_,?_⟩
  · intro other
    rw [applied,rows]
    refine (credited.applied other).trans ?_
    split
    · rename_i here
      cases there : db.getEvent other with
      | none => simp
      | some row => simp [(same row (here ▸ there)).1]
    · rfl
  · intro key
    unfold Database.counted
    rw [Database.scanCredit_attesters attesters,Database.count_change _ next rows fun row found => (alike key row found).1,
      Database.count_change _ next rows fun row found => (alike key row found).2]
    exact credited.credits key

theorem of_confirm (credited : Credited db) {id : ℕ} {current final : EventRow} {gone : EventRow → Bool}
    (next : later.events.next = db.events.next) (found : db.getEvent id = some current) (closed : current.confirmedScan = false)
    (rows : ∀ other, later.getEvent other = if other = id then some final else (db.getEvent other).filter (!gone ·))
    (kept : ∀ row, gone row = true → row.confirmedScan = false)
    (applied : later.applied = db.applied ++ if final.confirmedScan = true then [id] else [])
    (credits : ∀ key, later.scanCredit key =
      ((db.scanCredit key).1+(final.creditedTo key).toNat,(db.scanCredit key).2+(final.certifiedFor key).toNat)) : Credited later := by
  have fresh : id ∉ db.applied := by
    intro old
    obtain ⟨row,there,confirmed⟩ := (credited.applied id).mp old
    have same : row = current := Option.some.inj (there.symm.trans found)
    rw [same,closed] at confirmed
    cases confirmed
  refine ⟨?_,?_,?_⟩
  · rw [applied]
    split
    · exact List.nodup_append'.mpr ⟨credited.once,List.nodup_singleton _,List.disjoint_singleton.mpr fresh⟩
    · simpa using credited.once
  · intro other
    rw [applied,rows]
    by_cases here : other = id
    · subst here
      by_cases confirmed : final.confirmedScan = true
      · simp [confirmed]
      · simp [confirmed,fresh]
    · have old : (other ∈ db.applied ++ if final.confirmedScan = true then [id] else []) ↔ other ∈ db.applied := by
        split <;> simp [here]
      rw [old,if_neg here]
      refine (credited.applied other).trans ?_
      cases there : db.getEvent other with
      | none => simp
      | some row =>
        cases lost : gone row with
        | false => simp [Option.filter,lost]
        | true => simp [Option.filter,lost,kept row lost]
  · intro key
    have first := Database.count_confirm (·.creditedTo key) next found rows fun row lost => by
      simp [EventRow.creditedTo,kept row lost]
    have second := Database.count_confirm (·.certifiedFor key) next found rows fun row lost => by
      simp [EventRow.certifiedFor,EventRow.creditedTo,kept row lost]
    have unpaid : current.creditedTo key = false ∧ current.certifiedFor key = false := by
      simp [EventRow.creditedTo,EventRow.certifiedFor,closed]
    rw [unpaid.1,Bool.toNat_false,Nat.add_zero] at first
    rw [unpaid.2,Bool.toNat_false,Nat.add_zero] at second
    rw [credits,credited.credits key]
    unfold Database.counted
    rw [first,second]

end Credited
theorem effects_credits {settings : Settings} {job : ConfirmJob} {confirmed : Database} {current event : EventRow} {scan : ScanPayload}
    (kind : job.type = .scan) (signed : event.payload.signedScan = some scan) (now : I64) (key : Pubkey) :
    (job.effects settings confirmed current event now).scanCredit key =
      if key = job.actor then ((confirmed.scanCredit key).1+1,(confirmed.scanCredit key).2+
        if (confirmedAttestation scan (some job.actor) (scanChainValues settings job.vt job.payload)).tier.getD 0 ≥ Tier.CERTIFIED
        then 1 else 0)
      else confirmed.scanCredit key := by
  unfold ConfirmJob.effects
  rw [if_pos kind,Database.scanCredit_applyConfirmedScan signed,Database.scanCredit_upsert]

theorem effects_applied (settings : Settings) (job : ConfirmJob) (confirmed : Database) (current event : EventRow) (now : I64) :
    (job.effects settings confirmed current event now).applied =
      confirmed.applied ++ if job.type = .scan then [event.id] else [] := by
  unfold ConfirmJob.effects
  split
  · obtain ⟨_,_,_,same,_⟩ := Database.applyConfirmedScan_only (confirmed.upsertAttester job.actor now.val) event (some job.actor)
      now.val (scanChainValues settings job.vt job.payload)
    rw [same]
    rfl
  · rw [List.append_nil]
    split
    · dsimp only
      unfold applySealDead
      split <;> rfl
    · rfl

theorem effects_attesters {settings : Settings} {job : ConfirmJob} (other : job.type ≠ .scan) (confirmed : Database)
    (current event : EventRow) (now : I64) : (job.effects settings confirmed current event now).attesters = confirmed.attesters := by
  unfold ConfirmJob.effects
  rw [if_neg other]
  split
  · dsimp only
    unfold applySealDead
    split <;> rfl
  · rfl

-- The tier a scan was credited with is the tier of its row.
theorem scanTier_posted {row : EventRow} {scan : ScanPayload} {attestation : Attestation}
    (signed : row.payload.signedScan = some (scan.attested attestation)) (bare : scan.chain = none) :
    row.scanTier = attestation.tier.getD 0 := by
  unfold EventRow.scanTier
  rw [signed]
  simp [ScanPayload.attested,bare]

theorem scanTier_reconciled {row : EventRow} {scan : ScanPayload} {part : ChainPart} {attestation : Attestation}
    (signed : row.payload.signedScan = some (({scan with chain := some part} : ScanPayload).attested attestation)) :
    row.scanTier = part.tier := by
  unfold EventRow.scanTier
  rw [signed]
  simp [ScanPayload.attested]

theorem replaced_unconfirmed {current row : EventRow} (gone : replaced current row = true) : row.confirmedScan = false := by
  unfold replaced at gone
  cases signed : current.payload.signedScan with
  | none => simp [signed] at gone
  | some scan =>
    simp only [signed,Option.any_some,Bool.and_eq_true] at gone
    have superseded := gone.2
    unfold Database.superseded at superseded
    split at superseded
    · simp only [Bool.and_eq_true,Option.isNone_iff_eq_none] at superseded
      simp [EventRow.confirmedScan,superseded.2]
    · cases superseded

-- What the row of a confirmed scan adds.
theorem confirmed_adds {final : EventRow} {attester : Pubkey} (counts : final.confirmedScan = true) (actor : final.actor = some attester)
    (before : ℕ × ℕ) (key : Pubkey) :
    (if key = attester then (before.1+1,before.2+if final.scanTier ≥ Tier.CERTIFIED then 1 else 0) else before) =
      (before.1+(final.creditedTo key).toNat,before.2+(final.certifiedFor key).toNat) := by
  unfold EventRow.certifiedFor EventRow.creditedTo
  rw [counts,actor]
  by_cases here : key = attester
  · subst here
    by_cases certified : final.scanTier ≥ Tier.CERTIFIED <;> simp [certified]
  · have other : (attester == key) = false := beq_eq_false_iff_ne.mpr fun same => here same.symm
    simp [here,other]

theorem confirmScan_parts {db later : Database} {item : WorkItem} {acct : ScanProof} {ts : Int} {current : EventRow}
    (found : db.getEvent item.event.id = some current) (accepted : confirmScan db item acct ts = .ok later) :
    ∃ label mismatch, later = (db.updateEvent item.event.id (item.confirm acct label ts) (item.confirm_id acct label ts)).applyConfirmedScan
      (item.confirm acct label ts current) (some acct.attester) ts (some (acctValues acct mismatch)) := by
  unfold confirmScan at accepted
  dsimp only at accepted
  rw [getEvent_updateEvent found] at accepted
  cases accepted
  exact ⟨_,_,rfl⟩

theorem Shape.closed {row : EventRow} (open_row : row.status ≠ .confirmed) : row.confirmedScan = false := by
  simp [EventRow.confirmedScan,open_row]

theorem Shape.open_alike {row later : EventRow} (before : row.status ≠ .confirmed) (after : later.status ≠ .confirmed) :
    later.confirmedScan = row.confirmedScan ∧
      (row.confirmedScan = true → later.actor = row.actor ∧ later.scanTier = row.scanTier) := by
  refine ⟨(Shape.closed after).trans (Shape.closed before).symm,?_⟩
  intro confirmed
  rw [Shape.closed before] at confirmed
  cases confirmed

theorem Shape.open_scan {row : EventRow} (shape : Shape row) (open_row : row.status ≠ .confirmed) (kind : row.type = .scan) :
    ∃ scan, row.payload.signedScan = some scan ∧ scan.chain = none := by
  rcases shape.unsettled open_row with signed | report
  · obtain ⟨scan,_,signed,_,_,bare,_⟩ := signed
    exact ⟨scan,signed,bare⟩
  · exact absurd (kind.symm.trans report.1) (by simp)

theorem posted_counts {settings : Settings} {job : ConfirmJob} {current final : EventRow} (shape : Shape current)
    (open_row : current.status ≠ .confirmed) (row : PostedRow settings job current final) (kind : current.type = .scan) :
    final.confirmedScan = true := by
  obtain ⟨scan,signed,_⟩ := shape.open_scan open_row kind
  have told := row.signed kind
  rw [signed,Option.map_some] at told
  simp [EventRow.confirmedScan,row.follows.type,kind,row.status,told]

theorem edit_credited {settings : Settings} {cause : Cause} {db later : Database} (shapes : Shapes db) (credited : Credited db)
    (edit : Edit settings cause db later) : Credited later := by
  cases edit with
  | aside _ rest => exact credited.of_same rest.events rest.applied rest.credits
  | attached uidHash uid serial kind attachedAt _ own accepted =>
    obtain ⟨seals,same⟩ := upsertSeal_only accepted
    exact credited.of_same (by rw [same]) (by rw [same]) (Database.scanCredit_attesters (by rw [same]))
  | sealDead uidHash => exact credited.of_same rfl rfl fun _ => rfl
  | refreshed entry =>
    obtain ⟨seals,same⟩ := refreshSeal_only settings db entry
    exact credited.of_same (by rw [same]) (by rw [same]) (Database.scanCredit_attesters (by rw [same]))
  | backed job label sealUidHash facts passport kind new =>
    exact credited.of_insert _ _ (by simp [EventRow.confirmedScan,newEvent,kind])
  | settled existing facts txSig actor found unsettled kind =>
    rcases (shapes _ _ found).unsettled unsettled with signed | report
    · obtain ⟨_,scan,_⟩ := signed
      simp [scan] at kind
    · simp [report.1] at kind
  | filled job current by_id knows found status bare =>
    refine credited.of_change rfl (fun other => Database.getEvent_update job.eventId other job.fill job.fill_id) rfl rfl ?_
    intro row there
    have same : row = current := Option.some.inj (there.symm.trans found)
    subst same
    have body := fill_body job row
    have follows := fill_follows job status
    have signed : (job.fill row).payload.signedScan = row.payload.signedScan := by
      unfold Payload.signedScan
      rw [body]
    have actor : (job.fill row).actor = row.actor := by
      unfold ConfirmJob.fill
      dsimp only
      split <;> rfl
    refine ⟨?_,fun _ => ⟨actor,?_⟩⟩
    · unfold EventRow.confirmedScan
      rw [signed,follows.type,follows.settled status,status]
    · unfold EventRow.scanTier
      rw [signed,actor]
  | repaired job current knows found status chosen => simp [(shapes _ _ found).not_chosen] at chosen
  | posted job current now knows found unsettled =>
    obtain ⟨final,row,rows⟩ := posted_rows settings found (knows.type current found) now
    have named : current.id = job.eventId := (Database.getEvent_some.mp found).2
    refine credited.of_confirm (effects_next settings job _ _ _ now) found (Shape.closed unsettled) rows
      (fun _ gone => replaced_unconfirmed gone) ?_ ?_
    · rw [effects_applied,ConfirmJob.posted_id,named]
      by_cases scan : job.type = .scan
      · rw [if_pos scan,if_pos (posted_counts (shapes _ _ found) unsettled row ((knows.type current found).trans scan))]
        rfl
      · have plain : final.confirmedScan = false := by
          simp [EventRow.confirmedScan,row.follows.type,knows.type current found,scan]
        rw [if_neg scan,plain]
        rfl
    · intro key
      by_cases scan : job.type = .scan
      · have kind := (knows.type current found).trans scan
        obtain ⟨scan',signed,bare⟩ := (shapes _ _ found).open_scan unsettled kind
        have told := row.signed kind
        rw [signed,Option.map_some] at told
        have counts := posted_counts (shapes _ _ found) unsettled row kind
        have shown : (job.posted current).payload.signedScan = some scan' := signed
        rw [effects_credits scan shown,← scanTier_posted told bare]
        exact confirmed_adds counts row.actor _ key
      · have plain : final.confirmedScan = false := by
          simp [EventRow.confirmedScan,row.follows.type,knows.type current found,scan]
        rw [Database.scanCredit_attesters (effects_attesters scan _ _ _ now)]
        simp only [EventRow.creditedTo,EventRow.certifiedFor,plain,Bool.false_and,Bool.toNat_false,Nat.add_zero]
        rfl
  | failed eventId txSig own =>
    refine credited.of_change rfl (fun other => getEvent_failWrite db eventId other txSig) rfl rfl ?_
    intro row there
    unfold failedRow
    split
    · rename_i pending
      exact Shape.open_alike (by simp [pending]) (by simp)
    · exact ⟨rfl,fun _ => ⟨rfl,rfl⟩⟩
  | reconciled item acct ts current _ knows found status proof accepted =>
    have kind : current.type = .scan := (knows.follows current found).type.trans knows.type
    have unsettled := knows.open status
    have body := knows.body found unsettled
    obtain ⟨next,final,row,rows⟩ := reconciled_rows found kind body accepted
    obtain ⟨scan,signed,_⟩ := (shapes _ _ found).open_scan unsettled kind
    have own : item.event.payload.signedScan = some scan := by
      unfold Payload.signedScan at signed ⊢
      rwa [body] at signed
    have told := row.signed
    rw [own,Option.map_some] at told
    have counts : final.confirmedScan = true := by
      simp [EventRow.confirmedScan,row.follows.type,kind,row.status,told]
    obtain ⟨label,mismatch,same⟩ := confirmScan_parts found accepted
    have shown : (item.confirm acct label ts current).payload.signedScan = some {scan with chain := some (chainPart acct item.scanPda)} := by
      refine (reconciledPayload_signed item acct ts).trans ?_
      rw [own]
      rfl
    have named : current.id = item.event.id := (Database.getEvent_some.mp found).2
    refine credited.of_confirm next found (Shape.closed unsettled) rows (fun _ gone => replaced_unconfirmed gone) ?_ ?_
    · obtain ⟨_,_,_,applied,_⟩ := Database.applyConfirmedScan_only (db.updateEvent item.event.id (item.confirm acct label ts)
        (item.confirm_id acct label ts)) (item.confirm acct label ts current) (some acct.attester) ts (some (acctValues acct mismatch))
      rw [same,applied,if_pos counts,WorkItem.confirm_id,named]
      rfl
    · intro key
      rw [same,Database.scanCredit_applyConfirmedScan shown]
      have tier : final.scanTier = acct.tier.val := scanTier_reconciled told
      have adds := confirmed_adds counts row.actor (db.scanCredit key) key
      rw [tier] at adds
      exact adds
  | timedOut id payload current found pending body late =>
    refine credited.of_change rfl (fun other => getEvent_failPending db id other payload) rfl rfl ?_
    intro row there
    have same : row = current := Option.some.inj (there.symm.trans found)
    subst same
    exact Shape.open_alike (by simp [pending]) (by simp [timedOutRow,pending])
  | noted id payload current found unsettled body =>
    refine credited.of_change rfl (fun other => Database.getEvent_update id other (fun row => {row with payload := payload}) fun _ => rfl)
      rfl rfl ?_
    intro row there
    have same : row = current := Option.some.inj (there.symm.trans found)
    subst same
    exact Shape.open_alike unsettled unsettled

end FlaconVault.Verifier
