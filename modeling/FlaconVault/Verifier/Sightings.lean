import FlaconVault.Verifier.Backing
import FlaconVault.Verifier.ReplayLaw
namespace FlaconVault.Verifier
open Guards

-- The scans of a tap: the sighting that its landing leaves, and the scan that was signed for it.

-- The scan of this seal's tap with this counter.
structure EventRow.IsTap (row : EventRow) (sealUidHash : Bytes32) (counter : ℕ) : Prop where
  kind : row.type = .scan
  sealed : row.sealUidHash = some sealUidHash
  counted : row.payload.counter = some counter

def EventRow.isSigned (row : EventRow) : Bool := row.payload.signedScan.isSome

theorem signed_body {row later : EventRow} (kind : row.type = .scan) (follows : Follows row later) :
    later.isSigned = row.isSigned ∧ later.payload.counter = row.payload.counter := by
  have same := (follows.scan kind).2
  unfold EventRow.isSigned Payload.signedScan Payload.counter
  cases before : row.payload.body <;> cases after : later.payload.body <;>
    simp only [before,after,PayloadBody.asSigned,reduceCtorEq,PayloadBody.signedScan.injEq,PayloadBody.sighting.injEq] at same ⊢
  · rename_i scan told
    have bundle : told.bundle = scan.bundle := (ScanPayload.mk.inj same).1
    simp [bundle]
  · simp [same.1]
  · simp
  · simp

theorem IsTap.of_follows {row later : EventRow} {sealUidHash : Bytes32} {counter : ℕ} (follows : Follows row later)
    (tap : later.IsTap sealUidHash counter) : row.IsTap sealUidHash counter := by
  have kind : row.type = .scan := follows.type.symm.trans tap.kind
  exact ⟨kind,(follows.scan kind).1.symm.trans tap.sealed,(signed_body kind follows).2.symm.trans tap.counted⟩

-- No operation adds a scan.
theorem edit_scan_from {settings : Settings} {cause : Cause} {db later : Database} (edit : Edit settings cause db later) {id : ℕ}
    {row' : EventRow} (found' : later.getEvent id = some row') (kind : row'.type = .scan) :
    ∃ row, db.getEvent id = some row ∧ Follows row row' := by
  by_cases old : id < db.events.next
  · exact (edit_kept edit).rows id row' old found'
  · exfalso
    have below := Database.getEvent_below found'
    have next_same : later.events.next = db.events.next := by
      cases edit with
      | aside _ rest => rw [rest.events]
      | attached uidHash uid serial kind attachedAt _ own accepted => rw [upsertSeal_events accepted]
      | refreshed entry => rw [refreshSeal_events]
      | backed job label sealUidHash facts passport other new =>
        rw [Database.getEvent_insert (newEvent job label sealUidHash facts passport) fun _ => rfl] at found'
        split at found'
        · exact absurd kind (Option.some.inj found' ▸ other)
        · exact absurd (Database.getEvent_below found') old
      | posted job current now => exact effects_next settings job _ current _ now
      | reconciled item acct ts current _ knows found status proof accepted =>
        have scan : current.type = .scan := (knows.follows current found).type.trans knows.type
        exact (reconciled_rows found scan (knows.body found (knows.open status)) accepted).1
      | _ => rfl
    exact old (next_same ▸ below)

theorem edits_scan_from {settings : Settings} {cause : Cause} {db later : Database} (edits : Edits settings cause db later) {id : ℕ}
    {row' : EventRow} (found' : later.getEvent id = some row') (kind : row'.type = .scan) :
    ∃ row, db.getEvent id = some row ∧ Follows row row' := by
  induction edits generalizing row' with
  | refl => exact ⟨row',found',.refl row'⟩
  | tail _ edit ih =>
    obtain ⟨middle,there,follows⟩ := edit_scan_from edit found' kind
    obtain ⟨row,found,follows'⟩ := ih there (follows.type.symm.trans kind)
    exact ⟨row,found,follows'.trans follows⟩

theorem row_of_change {db later : Database} {id other : ℕ} {change : EventRow → EventRow} {row row' : EventRow}
    (rows : later.getEvent other = if other = id then (db.getEvent other).map change else db.getEvent other)
    (found : db.getEvent other = some row) (found' : later.getEvent other = some row') (elsewhere : other ≠ id) : row' = row := by
  rw [rows,if_neg elsewhere,found] at found'
  exact (Option.some.inj found').symm

theorem row_of_confirm {db later : Database} {id other : ℕ} {final : EventRow} {gone : EventRow → Bool} {row row' : EventRow}
    (rows : later.getEvent other = if other = id then some final else (db.getEvent other).filter (!gone ·))
    (found : db.getEvent other = some row) (found' : later.getEvent other = some row') (elsewhere : other ≠ id) :
    row' = row := by
  rw [rows,if_neg elsewhere,found] at found'
  exact (Option.some.inj (Option.filter_eq_some_iff.mp found').1).symm

-- What an operation does to the row of a scan.
inductive RowStep (cause : Cause) (db later : Database) (id : ℕ) (row row' : EventRow) : Prop
  | same (same : row' = row)
  | otherKind (kind : row.type ≠ .scan)
  | filled (by_id : cause = .confirm id) (before : row.status = .confirmed)
  | confirmed (before : row.status ≠ .confirmed)
      (rest : ∀ other, other ≠ id → later.getEvent other = (db.getEvent other).filter (!replaced row ·))
  | waiting (before : row.status ≠ .confirmed) (after : row'.status ≠ .confirmed)

theorem edit_row {settings : Settings} {cause : Cause} {db later : Database} (shapes : Shapes db) (edit : Edit settings cause db later)
    {id : ℕ} {row row' : EventRow} (found : db.getEvent id = some row) (found' : later.getEvent id = some row') :
    RowStep cause db later id row row' := by
  have of_events (same : later.events = db.events) : RowStep cause db later id row row' := by
    unfold Database.getEvent at found found'
    rw [same,found] at found'
    exact .same (Option.some.inj found').symm
  cases edit with
  | aside _ rest => exact of_events rest.events
  | attached uidHash uid serial kind attachedAt _ own accepted => exact of_events (upsertSeal_events accepted)
  | sealDead uidHash => exact of_events rfl
  | refreshed entry => exact of_events (refreshSeal_events settings db entry)
  | backed job label sealUidHash facts passport kind new =>
    rw [Database.getEvent_insert (newEvent job label sealUidHash facts passport) fun _ => rfl,
      if_neg (Database.getEvent_below found).ne,found] at found'
    exact .same (Option.some.inj found').symm
  | settled existing facts txSig actor here unsettled kind =>
    by_cases same : id = existing.id
    · have same : row = existing := Option.some.inj (found.symm.trans (same ▸ here))
      refine .otherKind ?_
      rcases kind with mint | attach
      · simp [same,mint]
      · simp [same,attach]
    · unfold settleExisting at found'
      exact .same (row_of_change (Database.getEvent_update existing.id id _ _) found found' same)
  | filled job current by_id knows here status bare =>
    by_cases same : id = job.eventId
    · have is_row : row = current := Option.some.inj (found.symm.trans (same ▸ here))
      exact .filled (same ▸ by_id) (is_row ▸ status)
    · exact .same (row_of_change (Database.getEvent_update job.eventId id job.fill job.fill_id) found found' same)
  | repaired job current knows here status chosen => simp [(shapes _ _ here).not_chosen] at chosen
  | posted job current now knows here unsettled =>
    obtain ⟨_,_,rows⟩ := posted_rows settings here (knows.type current here) now
    by_cases same : id = job.eventId
    · have is_row : row = current := Option.some.inj (found.symm.trans (same ▸ here))
      exact .confirmed (is_row ▸ unsettled) fun other elsewhere => by rw [rows other,if_neg (same ▸ elsewhere),is_row]
    · exact .same (row_of_confirm (rows id) found found' same)
  | failed eventId txSig own =>
    rw [getEvent_failWrite,found] at found'
    split at found'
    · have changed := Option.some.inj found'
      unfold failedRow at changed
      split at changed
      · rename_i pending
        exact .waiting (by simp [pending]) (by simp [← changed])
      · exact .same changed.symm
    · exact .same (Option.some.inj found').symm
  | reconciled item acct ts current _ knows here status proof accepted =>
    have scan : current.type = .scan := (knows.follows current here).type.trans knows.type
    obtain ⟨_,_,_,rows⟩ := reconciled_rows here scan (knows.body here (knows.open status)) accepted
    by_cases same : id = item.event.id
    · have is_row : row = current := Option.some.inj (found.symm.trans (same ▸ here))
      exact .confirmed (is_row ▸ knows.open status) fun other elsewhere => by rw [rows other,if_neg (same ▸ elsewhere),is_row]
    · exact .same (row_of_confirm (rows id) found found' same)
  | timedOut number payload current here pending body late =>
    rw [getEvent_failPending,found] at found'
    split at found'
    · rename_i same
      have is_row : row = current := Option.some.inj (found.symm.trans (same ▸ here))
      have changed := Option.some.inj found'
      exact .waiting (by simp [is_row,pending]) (by simp [← changed,timedOutRow,is_row,pending])
    · exact .same (Option.some.inj found').symm
  | noted number payload current here unsettled body =>
    unfold Database.updateEventPayload at found'
    rw [Database.getEvent_update,found] at found'
    split at found'
    · rename_i same
      have is_row : row = current := Option.some.inj (found.symm.trans (same ▸ here))
      have changed := Option.some.inj found'
      exact .waiting (is_row ▸ unsettled) (by simp [← changed,is_row,unsettled])
    · exact .same (Option.some.inj found').symm

-- A tap of the landing page that may still be adopted, or was.
structure TapRow.Landed (tap : TapRow) (uid : Uid) (counter : U24) : Prop where
  source : tap.source = .t
  valid : tap.verdict = .valid
  shown : tap.uid = some (.chip uid)
  counted : tap.ctr = some counter

-- Every scan is of a tap that its seal has seen; a tap has at most one sighting and one signed scan, and no sighting beside
-- a confirmed one; a landed tap was seen by its seal, and while it is not adopted nothing was signed for it.
structure Counted (db : Database) : Prop where
  seen : ∀ id row sealUidHash counter, db.getEvent id = some row → row.IsTap sealUidHash counter →
    ∃ kept ∈ db.seals.rows, kept.uidHash = sealUidHash ∧ kept.serial = row.serial ∧ counter ≤ kept.lastCounter
  once : ∀ id other row row' sealUidHash counter, db.getEvent id = some row → db.getEvent other = some row' →
    row.IsTap sealUidHash counter → row'.IsTap sealUidHash counter → row.isSigned = row'.isSigned → id = other
  bare : ∀ id row, db.getEvent id = some row → row.type = .scan → row.isSigned = false → row.txSig = none
  gone : ∀ id other row row' sealUidHash counter, db.getEvent id = some row → db.getEvent other = some row' →
    row.IsTap sealUidHash counter → row'.IsTap sealUidHash counter → row.isSigned = true → row.status = .confirmed → row'.isSigned = true
  landed : ∀ tap ∈ db.taps.rows, ∀ uid counter, tap.Landed uid counter →
    ∃ kept ∈ db.seals.rows, kept.uid = uid ∧ counter.val ≤ kept.lastCounter ∧ (tap.adoptedAt = none → ∀ id row,
      db.getEvent id = some row → row.IsTap kept.uidHash counter.val → row.isSigned = false)
  apart : ∀ tap ∈ db.taps.rows, ∀ tap' ∈ db.taps.rows, ∀ uid counter, tap.Landed uid counter → tap'.Landed uid counter → tap.id = tap'.id

theorem TapRow.Landed.before {tap later : TapRow} {uid : Uid} {counter : U24} (follows : TapFollows tap later)
    (landed : later.Landed uid counter) : tap.Landed uid counter := by
  obtain ⟨source,valid,shown,counted⟩ := landed
  rw [follows.same] at source valid shown counted
  exact ⟨source,valid,shown,counted⟩

theorem TapFollows.unused {tap later : TapRow} (follows : TapFollows tap later) (unused : later.adoptedAt = none) :
    tap.adoptedAt = none := by
  by_contra used
  have same := follows.adopted (Option.isSome_iff_ne_none.mpr used)
  exact used (same.symm.trans unused)

theorem TapFollows.id {tap later : TapRow} (follows : TapFollows tap later) : later.id = tap.id := by
  rw [follows.same]

-- A step that leaves the scans their rows, or later versions of them, and adds no tap of the landing page.
theorem Counted.of_follows {db later : Database} (counted : Counted db) (remembers : Remembers db later)
    (rows : ∀ id row', later.getEvent id = some row' → row'.type = .scan → ∃ row, db.getEvent id = some row ∧ Follows row row')
    (taps : ∀ tap ∈ later.taps.rows, tap.source = .t → tap.verdict = .valid → ∃ old ∈ db.taps.rows, TapFollows old tap)
    (bare : ∀ id row, later.getEvent id = some row → row.type = .scan → row.isSigned = false → row.txSig = none)
    (gone : ∀ id other row row' sealUidHash counter, later.getEvent id = some row → later.getEvent other = some row' →
      row.IsTap sealUidHash counter → row'.IsTap sealUidHash counter → row.isSigned = true → row.status = .confirmed →
      row'.isSigned = true) : Counted later := by
  have before {id : ℕ} {row' : EventRow} {sealUidHash : Bytes32} {counter : ℕ} (found : later.getEvent id = some row')
      (tap : row'.IsTap sealUidHash counter) : ∃ row, db.getEvent id = some row ∧ Follows row row' ∧ row.IsTap sealUidHash counter ∧
        row'.isSigned = row.isSigned := by
    obtain ⟨row,there,follows⟩ := rows id row' found tap.kind
    have tap' := IsTap.of_follows follows tap
    exact ⟨row,there,follows,tap',(signed_body tap'.kind follows).1⟩
  refine ⟨?_,?_,bare,gone,?_,?_⟩
  · intro id row' sealUidHash counter found tap
    obtain ⟨row,there,follows,tap',_⟩ := before found tap
    obtain ⟨kept,present,hash,serial,low⟩ := counted.seen id row sealUidHash counter there tap'
    obtain ⟨kept',present',onward⟩ := remembers.seals kept present
    exact ⟨kept',present',onward.uidHash.trans hash,(onward.serial.trans serial).trans follows.serial.symm,low.trans onward.counter⟩
  · intro id other row row' sealUidHash counter found found' tap tap' same
    obtain ⟨old,there,_,tap,signed⟩ := before found tap
    obtain ⟨old',there',_,tap',signed'⟩ := before found' tap'
    exact counted.once id other old old' sealUidHash counter there there' tap tap' (signed.symm.trans (same.trans signed'))
  · intro tap present uid counter landed
    obtain ⟨old,inside,follows⟩ := taps tap present landed.source landed.valid
    obtain ⟨kept,there,chip,low,free⟩ := counted.landed old inside uid counter (landed.before follows)
    obtain ⟨kept',present',onward⟩ := remembers.seals kept there
    refine ⟨kept',present',onward.uid.trans chip,low.trans onward.counter,?_⟩
    intro unused id row' found tap'
    rw [onward.uidHash] at tap'
    obtain ⟨row,here,_,tap'',signed⟩ := before found tap'
    exact signed.trans (free (follows.unused unused) id row here tap'')
  · intro tap present tap' present' uid counter landed landed'
    obtain ⟨old,inside,follows⟩ := taps tap present landed.source landed.valid
    obtain ⟨old',inside',follows'⟩ := taps tap' present' landed'.source landed'.valid
    rw [follows.id,follows'.id]
    exact counted.apart old inside old' inside' uid counter (landed.before follows) (landed'.before follows')

-- A step outside the event log.
theorem Counted.of_rest {db later : Database} (counted : Counted db) (events : later.events = db.events) (remembers : Remembers db later)
    (taps : ∀ tap ∈ later.taps.rows, tap.source = .t → tap.verdict = .valid → ∃ old ∈ db.taps.rows, TapFollows old tap) :
    Counted later := by
  have same (id : ℕ) : later.getEvent id = db.getEvent id := by
    unfold Database.getEvent
    rw [events]
  refine counted.of_follows remembers ?_ taps ?_ ?_
  · intro id row' found _
    exact ⟨row',same id ▸ found,.refl row'⟩
  · intro id row found
    exact counted.bare id row (same id ▸ found)
  · intro id other row row' sealUidHash counter found found'
    exact counted.gone id other row row' sealUidHash counter (same id ▸ found) (same other ▸ found')

theorem Shape.tap {row : EventRow} (shape : Shape row) (kind : row.type = .scan) :
    ∃ sealUidHash counter, row.IsTap sealUidHash counter := by
  cases shape with
  | signed scan _ body sealed =>
    obtain ⟨sealUidHash,hash⟩ := Option.isSome_iff_exists.mp sealed
    exact ⟨sealUidHash,scan.bundle.counter,kind,hash,by simp [Payload.counter,body]⟩
  | sighting counter tapId _ body sealed =>
    obtain ⟨sealUidHash,hash⟩ := Option.isSome_iff_exists.mp sealed
    exact ⟨sealUidHash,counter,kind,hash,by simp [Payload.counter,body]⟩
  | facts _ other => exact absurd kind other
  | report _ _ _ dead => exact absurd (kind.symm.trans dead) (by simp)

theorem Shape.sighted {row : EventRow} (shape : Shape row) (kind : row.type = .scan) (unsigned : row.isSigned = false) :
    row.status = .confirmed := by
  cases shape with
  | signed scan _ body =>
    unfold EventRow.isSigned at unsigned
    rw [Payload.signed_of_body body] at unsigned
    cases unsigned
  | sighting _ _ _ _ _ status => exact status
  | facts _ other => exact absurd kind other
  | report _ _ _ dead => exact absurd (kind.symm.trans dead) (by simp)

-- The confirmation of a signed scan finds its sighting.
theorem Counted.replaced {db : Database} (counted : Counted db) {id other : ℕ} {row row' : EventRow} {sealUidHash : Bytes32}
    {counter : ℕ} (found : db.getEvent id = some row) (found' : db.getEvent other = some row') (tap : row.IsTap sealUidHash counter)
    (tap' : row'.IsTap sealUidHash counter) (signed : row.isSigned = true) (unsigned : row'.isSigned = false) :
    Verifier.replaced row row' = true := by
  obtain ⟨kept,present,hash,serial,_⟩ := counted.seen id row sealUidHash counter found tap
  obtain ⟨kept',present',hash',serial',_⟩ := counted.seen other row' sealUidHash counter found' tap'
  have same_seal : kept = kept' := Table.same_row present present' (hash.trans hash'.symm)
  have same_serial : row'.serial = row.serial := serial'.symm.trans (same_seal ▸ serial)
  have bare := counted.bare other row' found' tap'.kind unsigned
  have different : row'.id ≠ row.id := by
    intro same
    have ids : id = other := (Database.getEvent_some.mp found).2.symm.trans (same.symm.trans (Database.getEvent_some.mp found').2)
    subst ids
    have rows : row = row' := Option.some.inj (found.symm.trans found')
    rw [rows,unsigned] at signed
    cases signed
  unfold EventRow.isSigned at signed unsigned
  obtain ⟨scan,there⟩ := Option.isSome_iff_exists.mp signed
  have number : scan.bundle.counter = counter := by
    have := tap.counted
    unfold Payload.counter at this
    rw [Payload.body_of_signed there] at this
    exact Option.some.inj this
  have bundleless : row'.payload.signedScan = none := by simpa using unsigned
  unfold Verifier.replaced Database.superseded
  simp [there,tap.kind,tap.sealed,tap'.kind,tap'.sealed,tap'.counted,same_serial,bare,different,number,bundleless]

theorem edit_counted {settings : Settings} {cause : Cause} {db later : Database} (shapes : Shapes db) (counted : Counted db)
    (spared : ∀ id row, cause = .confirm id → db.getEvent id = some row → row.type = .scan → row.isSigned = true)
    (edit : Edit settings cause db later) : Counted later := by
  have memory := edit_undisturbed edit
  have rows (id : ℕ) (row' : EventRow) (found : later.getEvent id = some row') (kind : row'.type = .scan) :=
    edit_scan_from edit found kind
  have sighted {id : ℕ} {row' : EventRow} (found' : later.getEvent id = some row') (kind : row'.type = .scan)
      (unsigned : row'.isSigned = false) : db.getEvent id = some row' := by
    obtain ⟨row,found,follows⟩ := rows id row' found' kind
    have scan : row.type = .scan := follows.type.symm.trans kind
    have plain : row.isSigned = false := (signed_body scan follows).1.symm.trans unsigned
    have settled := (shapes id row found).sighted scan plain
    cases edit_row shapes edit found found' with
    | same same => exact same ▸ found
    | otherKind other => exact absurd scan other
    | filled by_id => exact absurd (spared id row by_id found scan) (by simp [plain])
    | confirmed before => exact absurd settled before
    | waiting before => exact absurd settled before
  refine counted.of_follows memory.remembers rows ?_ ?_ ?_
  · intro tap present _ _
    exact ⟨tap,memory.taps ▸ present,.refl tap⟩
  · intro id row found kind unsigned
    exact counted.bare id row (sighted found kind unsigned) kind unsigned
  · intro id other row' sight sealUidHash counter found' there tap tap' signed settled
    by_contra unsigned
    have unsigned : sight.isSigned = false := by simpa using unsigned
    have here := sighted there tap'.kind unsigned
    obtain ⟨row,found,follows⟩ := rows id row' found' tap.kind
    have tap := IsTap.of_follows follows tap
    have signed : row.isSigned = true := (signed_body tap.kind follows).1.symm.trans signed
    have gone (confirmed : row.status = .confirmed) : False := by
      have := counted.gone id other row sight sealUidHash counter found here tap tap' signed confirmed
      rw [unsigned] at this
      cases this
    cases edit_row shapes edit found found' with
    | same same => exact gone (same ▸ settled)
    | otherKind kind => exact kind tap.kind
    | filled _ confirmed => exact gone confirmed
    | confirmed before rest =>
      have different : other ≠ id := by
        intro same
        subst same
        have rows : row = sight := Option.some.inj (found.symm.trans here)
        rw [rows,unsigned] at signed
        cases signed
      rw [rest other different,here] at there
      have kept := (Option.filter_eq_some_iff.mp there).2
      rw [counted.replaced found here tap tap' signed unsigned] at kept
      cases kept
    | waiting _ after => exact after settled

theorem edits_counted {settings : Settings} {cause : Cause} {db later : Database} (shapes : Shapes db) (counted : Counted db)
    (spared : ∀ id row, cause = .confirm id → db.getEvent id = some row → row.type = .scan → row.isSigned = true)
    (edits : Edits settings cause db later) : Counted later := by
  induction edits with
  | refl => exact counted
  | tail before edit ih =>
    refine edit_counted (edits_shapes shapes before) ih ?_ edit
    intro id row by_id found kind
    obtain ⟨old,there,follows⟩ := edits_scan_from before found kind
    have scan : old.type = .scan := follows.type.symm.trans kind
    exact (signed_body scan follows).1.trans (spared id old by_id there scan)

-- A new scan of a tap: a sighting when nothing was confirmed for the tap, a signed scan when nothing was signed for it.
structure NewScan (db : Database) (row : EventRow) (sealUidHash : Bytes32) (counter : ℕ) : Prop where
  tap : row.IsTap sealUidHash counter
  seen : ∃ kept ∈ db.seals.rows, kept.uidHash = sealUidHash ∧ kept.serial = row.serial ∧ counter ≤ kept.lastCounter
  unlike : ∀ id old, db.getEvent id = some old → old.IsTap sealUidHash counter → old.isSigned ≠ row.isSigned
  waits : row.isSigned = true → row.status ≠ .confirmed ∧ ∀ tap ∈ db.taps.rows, ∀ uid number, tap.Landed uid number →
    tap.adoptedAt = none → ∀ kept ∈ db.seals.rows, kept.uid = uid → kept.uidHash = sealUidHash → number.val ≠ counter
  alone : row.isSigned = false → row.txSig = none ∧ ∀ id old, db.getEvent id = some old → old.IsTap sealUidHash counter →
    old.status ≠ .confirmed

theorem Counted.of_insert {db : Database} (counted : Counted db) (make : ℕ → EventRow)
    (named : ∀ number, (make number).id = number) {sealUidHash : Bytes32} {counter : ℕ}
    (new : NewScan db (make db.events.next) sealUidHash counter) : Counted (db.insertEvent make named) := by
  have rows (id : ℕ) (row : EventRow) (found : (db.insertEvent make named).getEvent id = some row) :
      id = db.events.next ∧ row = make db.events.next ∨ db.getEvent id = some row := by
    rw [Database.getEvent_insert] at found
    split at found
    · rename_i here
      exact .inl ⟨here,(Option.some.inj found).symm⟩
    · exact .inr found
  have same_tap {row : EventRow} {hash : Bytes32} {number : ℕ} (is_new : row = make db.events.next) (tap : row.IsTap hash number) :
      hash = sealUidHash ∧ number = counter := by
    subst is_new
    exact ⟨Option.some.inj (tap.sealed.symm.trans new.tap.sealed),Option.some.inj (tap.counted.symm.trans new.tap.counted)⟩
  refine ⟨?_,?_,?_,?_,?_,counted.apart⟩
  · intro id row hash number found tap
    rcases rows id row found with fresh | old
    · obtain ⟨rfl,rfl⟩ := same_tap fresh.2 tap
      rw [fresh.2]
      exact new.seen
    · exact counted.seen id row hash number old tap
  · intro id other row row' hash number found found' tap tap' same
    rcases rows id row found with fresh | old
    · obtain ⟨rfl,rfl⟩ := same_tap fresh.2 tap
      rcases rows other row' found' with fresh' | old'
      · exact fresh.1.trans fresh'.1.symm
      · exact absurd (fresh.2 ▸ same.symm) (new.unlike other row' old' tap')
    · rcases rows other row' found' with fresh' | old'
      · obtain ⟨rfl,rfl⟩ := same_tap fresh'.2 tap'
        exact absurd (fresh'.2 ▸ same) (new.unlike id row old tap)
      · exact counted.once id other row row' hash number old old' tap tap' same
  · intro id row found kind unsigned
    rcases rows id row found with fresh | old
    · rw [fresh.2] at unsigned ⊢
      exact (new.alone unsigned).1
    · exact counted.bare id row old kind unsigned
  · intro id other row row' hash number found found' tap tap' signed settled
    rcases rows id row found with fresh | old
    · rw [fresh.2] at signed settled
      exact absurd settled (new.waits signed).1
    · rcases rows other row' found' with fresh' | old'
      · obtain ⟨rfl,rfl⟩ := same_tap fresh'.2 tap'
        rw [fresh'.2]
        by_contra unsigned
        exact (new.alone (by simpa using unsigned)).2 id row old tap settled
      · exact counted.gone id other row row' hash number old old' tap tap' signed settled
  · intro tap present uid number landed
    obtain ⟨kept,inside,chip,low,free⟩ := counted.landed tap present uid number landed
    refine ⟨kept,inside,chip,low,?_⟩
    intro unused id row found is_tap
    rcases rows id row found with fresh | old
    · obtain ⟨hash,same⟩ := same_tap fresh.2 is_tap
      rw [fresh.2]
      by_contra signed
      exact (new.waits (by simpa using signed)).2 tap present uid number landed unused kept inside chip hash same
    · exact free unused id row old is_tap

-- A new event of another type.
theorem Counted.of_other {db : Database} (counted : Counted db) (make : ℕ → EventRow) (named : ∀ number, (make number).id = number)
    (other : (make db.events.next).type ≠ .scan) : Counted (db.insertEvent make named) := by
  have old {id : ℕ} {row : EventRow} (found : (db.insertEvent make named).getEvent id = some row) (kind : row.type = .scan) :
      db.getEvent id = some row := by
    rw [Database.getEvent_insert] at found
    split at found
    · exact absurd kind (Option.some.inj found ▸ other)
    · exact found
  refine counted.of_follows (.of_same rfl rfl) ?_ ?_ ?_ ?_
  · intro id row found kind
    exact ⟨row,old found kind,.refl row⟩
  · intro tap present _ _
    exact ⟨tap,present,.refl tap⟩
  · intro id row found kind
    exact counted.bare id row (old found kind) kind
  · intro id other row row' hash number found found' tap tap'
    exact counted.gone id other row row' hash number (old found tap.kind) (old found' tap'.kind) tap tap'

-- A tap above its seal's counter has no scan yet, and was not landed.
theorem Counted.clear {db : Database} (counted : Counted db) {kept : SealRow} (present : kept ∈ db.seals.rows) {counter : ℕ}
    (fresh : kept.lastCounter < counter) {id : ℕ} {row : EventRow} (found : db.getEvent id = some row) :
    ¬row.IsTap kept.uidHash counter := by
  intro tap
  obtain ⟨other,there,hash,_,low⟩ := counted.seen id row kept.uidHash counter found tap
  have same : other = kept := Table.same_row there present hash
  subst same
  omega

theorem Counted.landed_low {db : Database} (counted : Counted db) (apart : db.UidsApart) {kept : SealRow} (present : kept ∈ db.seals.rows)
    {tap : TapRow} (inside : tap ∈ db.taps.rows) {counter : U24} (landed : tap.Landed kept.uid counter) :
    counter.val ≤ kept.lastCounter := by
  obtain ⟨other,there,chip,low,_⟩ := counted.landed tap inside kept.uid counter landed
  have same : other = kept := apart other there kept present chip
  exact same ▸ low

-- A valid check of a step that consumes the tap itself.
theorem Checked.valid_parts {settings : Settings} {db checked : Database} {check : TapCheck} {row : SealRow} {counter : U24}
    (step : Checked settings db check checked) (valid : check.verdict = .valid) (named : check.sealRow = some row)
    (counted : check.counter = some counter) : ∃ kept ∈ db.seals.rows, check.uid = some (.chip kept.uid) ∧
      kept.lastCounter < counter.val ∧ row = {kept with lastCounter := counter.val} ∧
      checked = db.advanceSealCounter kept.uidHash counter.val := by
  cases step with
  | invalid _ verdict => exact absurd (verdict.symm.trans valid) (by simp)
  | replay _ verdict => exact absurd (verdict.symm.trans valid) (by simp)
  | unregistered => cases valid
  | valid uid number cmac encrypted kept found fresh =>
    cases counted
    obtain ⟨present,chip⟩ := Database.getSealByUid_mem found
    subst chip
    exact ⟨kept,present,rfl,fresh,(Option.some.inj named).symm,rfl⟩

theorem advanced_row {db : Database} {kept : SealRow} {counter : ℕ} (present : kept ∈ db.seals.rows) (fresh : kept.lastCounter < counter) :
    {kept with lastCounter := counter} ∈ (db.advanceSealCounter kept.uidHash counter).seals.rows := by
  refine List.mem_map.mpr ⟨kept,present,?_⟩
  rw [if_pos (by simp [fresh])]

theorem Checked.counted {settings : Settings} {db checked : Database} {check : TapCheck} (step : Checked settings db check checked)
    (counted : Counted db) : Counted checked :=
  counted.of_rest step.quiet.events step.remembers fun tap present _ _ => ⟨tap,step.taps ▸ present,.refl tap⟩

theorem Logged.quiet_counted {db logged : Database} {tap : TapRow} (log : Logged db tap logged) (counted : Counted db)
    (other : tap.source = .verify ∨ tap.verdict ≠ .valid) : Counted logged := by
  refine counted.of_rest log.quiet.events log.remembers ?_
  intro row present source valid
  rw [log.rows,List.mem_append,List.mem_singleton] at present
  rcases present with old | new
  · exact ⟨row,old,.refl row⟩
  · subst new
    rcases other with verify | silent
    · exact absurd (source.symm.trans verify) (by simp)
    · exact absurd valid silent

theorem Purged.counted {db later : Database} (purged : Purged db later) (counted : Counted db) : Counted later :=
  counted.of_rest purged.quiet.events purged.remembers fun tap present _ _ => ⟨tap,purged.taps present,.refl tap⟩

theorem Logged.landed_counted {db logged : Database} {tap : TapRow} {kept : SealRow} {counter : U24} (log : Logged db tap logged)
    (counted : Counted db) (landed : tap.Landed kept.uid counter) (present : kept ∈ db.seals.rows) (low : counter.val ≤ kept.lastCounter)
    (clear : ∀ id row, db.getEvent id = some row → ¬row.IsTap kept.uidHash counter.val)
    (first : ∀ old ∈ db.taps.rows, ¬old.Landed kept.uid counter) : Counted logged := by
  have same (id : ℕ) : logged.getEvent id = db.getEvent id := by
    unfold Database.getEvent
    rw [log.quiet.events]
  have seals : logged.seals = db.seals := by
    rw [log.rest]
  have inside (row : TapRow) (here : row ∈ logged.taps.rows) : row ∈ db.taps.rows ∨ row = tap := by
    rw [log.rows,List.mem_append,List.mem_singleton] at here
    exact here
  have same_landed {uid : Uid} {number : U24} (other : tap.Landed uid number) : uid = kept.uid ∧ number = counter :=
    ⟨TapUid.chip.inj (Option.some.inj (other.shown.symm.trans landed.shown)),Option.some.inj (other.counted.symm.trans landed.counted)⟩
  refine ⟨?_,?_,?_,?_,?_,?_⟩
  · intro id row hash number found
    rw [seals]
    exact counted.seen id row hash number (same id ▸ found)
  · intro id other row row' hash number found found'
    exact counted.once id other row row' hash number (same id ▸ found) (same other ▸ found')
  · intro id row found
    exact counted.bare id row (same id ▸ found)
  · intro id other row row' hash number found found'
    exact counted.gone id other row row' hash number (same id ▸ found) (same other ▸ found')
  · intro row here uid number is_landed
    rw [seals]
    rcases inside row here with old | new
    · obtain ⟨kept',there,chip,low',free⟩ := counted.landed row old uid number is_landed
      exact ⟨kept',there,chip,low',fun unused id event found => free unused id event (same id ▸ found)⟩
    · subst new
      obtain ⟨rfl,rfl⟩ := same_landed is_landed
      exact ⟨kept,present,rfl,low,fun _ id event found is_tap => absurd is_tap (clear id event (same id ▸ found))⟩
  · intro row here row' here' uid number is_landed is_landed'
    rcases inside row here with old | new
    · rcases inside row' here' with old' | new'
      · exact counted.apart row old row' old' uid number is_landed is_landed'
      · subst new'
        obtain ⟨rfl,rfl⟩ := same_landed is_landed'
        exact absurd is_landed (first row old)
    · rcases inside row' here' with old' | new'
      · subst new
        obtain ⟨rfl,rfl⟩ := same_landed is_landed
        exact absurd is_landed' (first row' old')
      · rw [new,new']

theorem Landing.counted {settings : Settings} {db later : Database} {around : Surroundings} {answer : TagAnswer}
    (landing : Landing settings db around answer later) (counted : Counted db) (apart : db.UidsApart) : Counted later := by
  cases landing with
  | unlogged _ _ rest => exact rest.counted counted
  | quiet checked logged tap check log made verdict silent rest =>
    refine rest.counted (log.quiet_counted (check.counted counted) (.inr ?_))
    rw [made]
    exact silent
  | sighted checked logged tap row counter check log made valid named shows told token rest =>
    obtain ⟨kept,present,chip,fresh,row_is,checked_is⟩ := check.valid_parts valid named shows
    have advanced : row ∈ checked.seals.rows := by
      rw [row_is,checked_is]
      exact advanced_row present fresh
    have row_hash : row.uidHash = kept.uidHash := by rw [row_is]
    have row_uid : row.uid = kept.uid := by rw [row_is]
    have low : counter.val ≤ row.lastCounter := by rw [row_is]
    have same (id : ℕ) : checked.getEvent id = db.getEvent id := by
      unfold Database.getEvent
      rw [check.quiet.events]
    have clear (id : ℕ) (old : EventRow) (found : checked.getEvent id = some old) : ¬old.IsTap row.uidHash counter.val := by
      rw [row_hash]
      exact counted.clear present fresh (same id ▸ found)
    have landed : tap.Landed row.uid counter := by
      rw [made,row_uid]
      exact ⟨rfl,rfl,chip,shows⟩
    have logged_counted : Counted logged := by
      refine log.landed_counted (check.counted counted) landed advanced low clear ?_
      intro old inside is_landed
      rw [check.taps] at inside
      rw [row_uid] at is_landed
      have bound := counted.landed_low apart present inside is_landed
      omega
    have new : NewScan logged (sightingEvent logged row counter tap.id around.now.val logged.events.next) row.uidHash counter.val := by
      have same_logged (id : ℕ) : logged.getEvent id = checked.getEvent id := by
        unfold Database.getEvent
        rw [log.quiet.events]
      have seals : logged.seals = checked.seals := by rw [log.rest]
      refine ⟨⟨rfl,rfl,rfl⟩,⟨row,seals ▸ advanced,rfl,rfl,low⟩,?_,?_,?_⟩
      · intro id old found is_tap
        exact absurd is_tap (clear id old (same_logged id ▸ found))
      · intro signed
        cases signed
      · intro _
        exact ⟨rfl,fun id old found is_tap => absurd is_tap (clear id old (same_logged id ▸ found))⟩
    exact rest.counted (logged_counted.of_insert _ (fun _ => rfl) new)

theorem Tapped.counted {settings : Settings} {db checked : Database} {body : VerifyBody} {now : Int} {check : TapCheck}
    (tapped : Tapped settings db body now check checked) (counted : Counted db) : Counted checked :=
  counted.of_rest tapped.quiet.events tapped.remembers fun _ present _ _ => tapped.tap_from present

-- The tap of a request may be signed: nothing was signed for it, and it is nobody's to adopt any more.
structure Signable (db : Database) (row : SealRow) (counter : U24) : Prop where
  present : row ∈ db.seals.rows
  low : counter.val ≤ row.lastCounter
  unsigned : ∀ id old, db.getEvent id = some old → old.IsTap row.uidHash counter.val → old.isSigned = false
  taken : ∀ tap ∈ db.taps.rows, tap.Landed row.uid counter → tap.adoptedAt ≠ none

theorem Tapped.signable {settings : Settings} {db checked : Database} {body : VerifyBody} {now : Int} {check : TapCheck} {row : SealRow}
    {counter : U24} (tapped : Tapped settings db body now check checked) (counted : Counted db) (apart : db.UidsApart)
    (valid : check.verdict = .valid) (named : check.sealRow = some row) (shows : check.counter = some counter) :
    Signable checked row counter := by
  have same (id : ℕ) : checked.getEvent id = db.getEvent id := by
    unfold Database.getEvent
    rw [tapped.quiet.events]
  have after := tapped.counted counted
  cases tapped with
  | direct plain step =>
    obtain ⟨kept,present,chip,fresh,row_is,checked_is⟩ := step.valid_parts valid named shows
    have advanced : row ∈ checked.seals.rows := by
      rw [row_is,checked_is]
      exact advanced_row present fresh
    refine ⟨advanced,by rw [row_is],?_,?_⟩
    · intro id old found is_tap
      rw [row_is] at is_tap
      exact absurd is_tap (counted.clear present fresh (same id ▸ found))
    · intro tap inside landed
      rw [step.taps] at inside
      rw [row_is] at landed
      have bound := counted.landed_low apart present inside landed
      omega
  | adopted tapId asked adoption =>
    cases adoption with
    | refused _ verdict =>
      rcases verdict with invalid | replay
      · exact absurd (invalid.symm.trans valid) (by simp)
      · exact absurd (replay.symm.trans valid) (by simp)
    | adopted tap uid number adopts shown told =>
      cases shows
      have found : db.getSealByUid uid = some row := named
      obtain ⟨present,chip⟩ := Database.getSealByUid_mem found
      obtain ⟨inside,tap_named⟩ := Table.get_some.mp adopts.found
      have landed : tap.Landed uid counter := ⟨adopts.source,adopts.verdict,shown,told⟩
      obtain ⟨kept,there,kept_chip,low,free⟩ := counted.landed tap inside uid counter landed
      have same_seal : kept = row := apart kept there row present (kept_chip.trans chip.symm)
      subst same_seal
      refine ⟨present,low,?_,?_⟩
      · intro id old here is_tap
        exact free adopts.unused id old (same id ▸ here) is_tap
      · intro other here is_landed
        -- the adopted tap is the only one landed with this counter
        have moved : {tap with adoptedAt := some now} ∈ (db.adopted tapId now).taps.rows := by
          refine List.mem_map.mpr ⟨tap,inside,?_⟩
          rw [if_pos (by simpa using tap_named)]
        have moved_landed : ({tap with adoptedAt := some now} : TapRow).Landed kept.uid counter :=
          ⟨adopts.source,adopts.verdict,chip ▸ shown,told⟩
        have ids := after.apart _ moved other here kept.uid counter moved_landed is_landed
        have same_tap := Table.same_row moved here ids
        rw [← same_tap]
        simp

theorem Verifying.counted {settings : Settings} {db later : Database} {body : VerifyBody} {around : Surroundings}
    {answer : VerifyAnswer} (verifying : Verifying settings db body around answer later) (counted : Counted db) (apart : db.UidsApart) :
    Counted later := by
  cases verifying with
  | nonceInvalid => exact counted
  | unlogged check _ tapped => exact tapped.counted counted
  | logged check checked _ tap tapped log made =>
    exact log.quiet_counted (tapped.counted counted) (.inl (made ▸ rfl))
  | signed check checked logged tap session row uidHash counter mediaHash admitted live tapped log made verdict shown valid alive named
      hashed shows signed =>
    have signable := tapped.signable counted apart valid named shows
    have logged_counted := log.quiet_counted (tapped.counted counted) (.inl (made ▸ rfl))
    have consumed_counted : Counted (logged.consumeNonce session.nonce around.now.val) :=
      logged_counted.of_rest rfl (.of_same rfl rfl) fun tap present _ _ => ⟨tap,present,.refl tap⟩
    have same_logged (id : ℕ) : (logged.consumeNonce session.nonce around.now.val).getEvent id = checked.getEvent id := by
      show logged.getEvent id = checked.getEvent id
      unfold Database.getEvent
      rw [log.quiet.events]
    have seals : (logged.consumeNonce session.nonce around.now.val).seals = checked.seals := by
      show logged.seals = checked.seals
      rw [log.rest]
    refine consumed_counted.of_insert _ (fun _ => rfl) (show NewScan _ _ row.uidHash counter.val from ?_)
    refine ⟨⟨rfl,rfl,rfl⟩,⟨row,seals ▸ signable.present,rfl,rfl,signable.low⟩,?_,?_,?_⟩
    · intro id old found is_tap
      rw [signable.unsigned id old (same_logged id ▸ found) is_tap]
      exact Bool.false_ne_true
    · intro _
      refine ⟨by simp [pendingScan],?_⟩
      intro other inside uid number landed unused kept there chip hash same
      have other_inside : other ∈ checked.taps.rows := by
        have inside : other ∈ logged.taps.rows := inside
        rw [log.rows,List.mem_append,List.mem_singleton] at inside
        rcases inside with old | new
        · exact old
        · have source := landed.source
          rw [new,made] at source
          cases source
      have same_seal : kept = row := Table.same_row (seals ▸ there) signable.present hash
      have same_number : number = counter := Fin.ext same
      rw [← chip,same_seal,same_number] at landed
      exact signable.taken other other_inside landed unused
    · intro unsigned
      cases unsigned

-- passport_stats: the confirmed scans of a passport.
def Database.confirmedScans (db : Database) (serial : String) : List EventRow :=
  db.events.rows.filter fun row => row.serial == serial && row.type == .scan && row.status == .confirmed

def Database.scanCount (db : Database) (serial : String) : ℕ := (db.confirmedScans serial).length

def EventRow.tap (row : EventRow) : Option Bytes32 × Option ℕ := (row.sealUidHash,row.payload.counter)

-- Every physical tap counts once: one confirmed scan for a seal and counter, which is the signed one if there is one.
structure CountedOnce (db : Database) : Prop where
  one : ∀ first second sealUidHash counter, db.getEvent first.id = some first → db.getEvent second.id = some second →
    first.IsTap sealUidHash counter → second.IsTap sealUidHash counter → first.status = .confirmed → second.status = .confirmed →
    first = second
  scanCount : ∀ serial, db.scanCount serial = ((db.confirmedScans serial).map EventRow.tap).toFinset.card
  replaced : ∀ scan sighting sealUidHash counter, db.getEvent scan.id = some scan → db.getEvent sighting.id = some sighting →
    scan.IsTap sealUidHash counter → sighting.IsTap sealUidHash counter → scan.isSigned = true → scan.status = .confirmed →
    sighting.isSigned = true

theorem Counted.one {db : Database} (counted : Counted db) {first second : EventRow} {sealUidHash : Bytes32} {counter : ℕ}
    (found : db.getEvent first.id = some first) (found' : db.getEvent second.id = some second) (tap : first.IsTap sealUidHash counter)
    (tap' : second.IsTap sealUidHash counter) (settled : first.status = .confirmed) (settled' : second.status = .confirmed) :
    first = second := by
  have alike : first.isSigned = second.isSigned := by
    cases signed : first.isSigned with
    | true => exact (counted.gone _ _ _ _ _ _ found found' tap tap' signed settled).symm
    | false =>
      by_contra other
      have signed' : second.isSigned = true := by simpa using Ne.symm other
      have := counted.gone _ _ _ _ _ _ found' found tap' tap signed' settled'
      rw [signed] at this
      cases this
  have same := counted.once _ _ _ _ _ _ found found' tap tap' alike
  rw [← same] at found'
  exact Option.some.inj (found.symm.trans found')

theorem Counted.counted_once {db : Database} (counted : Counted db) (shapes : Shapes db) : CountedOnce db := by
  refine ⟨fun _ _ _ _ found found' tap tap' settled settled' => counted.one found found' tap tap' settled settled',?_,
    fun _ _ _ _ found found' tap tap' signed settled => counted.gone _ _ _ _ _ _ found found' tap tap' signed settled⟩
  intro serial
  have scans (row : EventRow) (inside : row ∈ db.confirmedScans serial) :
      db.getEvent row.id = some row ∧ row.type = .scan ∧ row.status = .confirmed := by
    obtain ⟨present,chosen⟩ := List.mem_filter.mp inside
    simp only [Bool.and_eq_true,beq_iff_eq] at chosen
    exact ⟨Database.getEvent_mem present,chosen.1.2,chosen.2⟩
  have rows_apart : (db.confirmedScans serial).Nodup := (List.Nodup.of_map _ db.events.table.unique).filter _
  have taps_apart : ((db.confirmedScans serial).map EventRow.tap).Nodup := by
    refine rows_apart.map_on ?_
    intro first here second there same
    obtain ⟨found,kind,settled⟩ := scans first here
    obtain ⟨found',kind',settled'⟩ := scans second there
    obtain ⟨sealUidHash,counter,tap⟩ := (shapes _ _ found).tap kind
    obtain ⟨sealed,number⟩ := Prod.mk.inj same
    exact counted.one found found' tap ⟨kind',sealed.symm.trans tap.sealed,number.symm.trans tap.counted⟩ settled settled'
  rw [List.toFinset_card_of_nodup taps_apart,List.length_map]
  rfl

def Job.confirms : Job → Option ℕ
  | .confirm job => some job.eventId
  | _ => none

def Server.finishing (server : Server) : Action → Option Job
  | .finish index _ => server.jobs[index]?
  | _ => none

-- No confirmation by id that the action finishes is one of a sighting.
def SparesSightings (server : Server) (action : Action) : Prop :=
  ∀ id ∈ (server.finishing action).bind Job.confirms, ∀ row ∈ server.db.getEvent id, row.type = .scan → row.isSigned = true

instance (server : Server) (action : Action) : Decidable (SparesSightings server action) :=
  inferInstanceAs (Decidable (∀ id ∈ (server.finishing action).bind Job.confirms, ∀ row ∈ server.db.getEvent id,
    row.type = .scan → row.isSigned = true))

theorem changes_counted {settings : Settings} {server : Server} {later : Database} {action : Action} {answer : Answer}
    (changes : Changes settings server action later answer) (shapes : Shapes server.db) (apart : server.db.UidsApart)
    (spares : SparesSightings server action) (counted : Counted server.db) : Counted later := by
  cases changes with
  | none => exact counted
  | finished index now job _ _ there edits =>
    refine edits_counted shapes counted ?_ edits
    intro id row by_id found kind
    cases job with
    | confirm job =>
      cases by_id
      exact spares job.eventId (Option.mem_def.mpr (by simp [Server.finishing,there,Job.confirms])) row found kind
    | event job => cases by_id
    | fail eventId txSig => cases by_id
    | reconcile job => cases by_id
  | landed params around purge told _ landing => exact landing.counted counted apart
  | verified body around told _ verifying => exact verifying.counted counted apart
  | issued nonce now _ issues =>
    obtain ⟨nonces,_,same⟩ := issues.rows
    rw [same]
    exact counted.of_rest rfl (.of_same rfl rfl) fun tap present _ _ => ⟨tap,present,.refl tap⟩
  | reported body now allowed row _ serial sealUidHash source note reportedBy passport session report =>
    rw [report.same]
    have consumed : Counted (server.db.consumeNonce session.nonce now.val) :=
      counted.of_rest rfl (.of_same rfl rfl) fun tap present _ _ => ⟨tap,present,.refl tap⟩
    exact consumed.of_other _ _ (by simp [reportEvent])

theorem Run.counted (settings : Settings) (run : Run) (n : ℕ)
    (spares : ∀ m < n, SparesSightings (run.server settings m) (run.actions m)) : Counted (run.db settings n) := by
  induction n with
  | zero =>
    have bare (id : ℕ) (row : EventRow) : (run.db settings 0).getEvent id ≠ some row := nofun
    exact ⟨fun id row _ _ found => absurd found (bare id row),fun id _ row _ _ _ found => absurd found (bare id row),
      fun id row found => absurd found (bare id row),fun id _ row _ _ _ found => absurd found (bare id row),
      fun _ present => absurd present List.not_mem_nil,fun _ present => absurd present List.not_mem_nil⟩
  | succ n ih =>
    exact changes_counted (run.changes settings n) (run.shapes settings n) (run.uidsApart settings n) (spares n (Nat.lt_succ_self n))
      (ih fun m before => spares m (by omega))

theorem tap_counted_once (settings : Settings) (run : Run) (n : ℕ)
    (spares : ∀ m < n, SparesSightings (run.server settings m) (run.actions m)) : CountedOnce (run.db settings n) :=
  (run.counted settings n spares).counted_once (run.shapes settings n)

-- A landed tap whose sighting is confirmed by its id with the record_scan of the same tap.
namespace Sighted
open Attachments (serial issuer program passport box reads post now)

def session : Bytes32 := hashOf [9]
def around : Surroundings := ⟨now,none,none,[7],"token"⟩
def scanKey : Pubkey := .scan (.sealOf box) 1

def body : VerifyBody :=
  ⟨⟨none,none,none,none,none⟩,"0900000000000000000000000000000000000000000000000000000000000000",0,0,0,0,0,
    ⟨[0,0,0,0,0,0],rfl⟩,90,none,none,none,none,.androidWeb,some 7,some "token",""⟩

def tapped : TapParams := ⟨some "04000000000001",some (.text "000001"),some "0000000000000000",none,none⟩

def message : List Byte :=
  buildMessage (Settings.sample.serialHash serial) box 1 Tamper.UNKNOWN 0 0 0 90 zero32 session now

def recorded : List Byte :=
  ixDisc .recordScan ++ Bytes.littleEndian 4 1 ++ [0,0,Fin.ofNat 256 Tamper.UNKNOWN,0,0,0,0,90,0,0] ++ zero32.val ++ (hashOf [1]).val ++
    session.val ++ Bytes.signedLittleEndian 8 100 ++ [0]

-- The Ed25519 instruction over the message the server signed, and the record_scan.
def recording : TxResult :=
  ⟨["record"],[issuer,passport,.sealOf box,scanKey,.registry,program,.foreign 3,.foreign 4,.foreign 5],1,[],[],
    [⟨some 6,[],[1,0,48,0,255,255,16,0,255,255,112,0,152,0,255,255] ++ zero32.val ++ Settings.sample.sign message ++ message⟩,
      ⟨some 5,[4,1,2,3,0,7,8],recorded⟩],[],none,none,[]⟩

def confirm (eventId : ℕ) : Action :=
  .confirm ⟨some eventId,none,none,some "record",none,some (.key issuer),none,none,none,none,none,none,none,none⟩ eventId
    (reads recording)

def run : Run := ⟨fun
  | 0 => .postEvent (post .mint "mint" none) (reads Attachments.minting) now
  | 2 => .postEvent (post .sealAttach "attach" (some "04000000000001")) (reads Attachments.attaching) now
  | 4 => .session session now
  | 5 => .tagLanding tapped around false
  | 6 => .verify body {around with tapIds := [8]}
  | 7 => confirm 3
  | 9 => confirm 4
  | _ => .finish 0 now⟩

theorem tap_counted_twice : ¬CountedOnce (run.db Settings.sample 11) := by
  intro once
  exact absurd (once.scanCount serial) (by decide +kernel)

-- The same, without the confirmation of the sighting.
def calm : Run := ⟨fun
  | 7 => confirm 4
  | n => if n < 7 then run.actions n else .finish 0 now⟩

theorem calm_counted_once : CountedOnce (calm.db Settings.sample 9) :=
  tap_counted_once Settings.sample calm 9 (by decide +kernel)

end Sighted
end FlaconVault.Verifier
