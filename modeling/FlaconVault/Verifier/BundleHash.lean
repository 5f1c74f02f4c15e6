import FlaconVault.Verifier.BundleStability
import FlaconVault.Verifier.ReplayLaw
namespace FlaconVault.Verifier
open Json

-- A signed scan over a run: its row stays, and its stored bundle keeps the signed hash.
theorem signed_stays {db later : Database} {id other : ℕ} {current final row : EventRow}
    (rows : later.getEvent other = if other = id then some final else (db.getEvent other).filter (!replaced current ·))
    (found : db.getEvent other = some row) (signed : row.payload.signedScan.isSome) : ∃ row', later.getEvent other = some row' := by
  rw [rows,found]
  by_cases here : other = id
  · exact ⟨final,if_pos here⟩
  · refine ⟨row,?_⟩
    rw [if_neg here]
    simp [Option.filter,replaced_signed current signed]

theorem changed_stays {db later : Database} {id other : ℕ} {change : EventRow → EventRow} {row : EventRow}
    (rows : later.getEvent other = if other = id then (db.getEvent other).map change else db.getEvent other)
    (found : db.getEvent other = some row) : ∃ row', later.getEvent other = some row' := by
  rw [rows,found]
  split <;> exact ⟨_,rfl⟩

theorem edit_stays {settings : Settings} {cause : Cause} {db later : Database} (edit : Edit settings cause db later) {id : ℕ}
    {row : EventRow} (found : db.getEvent id = some row) (signed : row.payload.signedScan.isSome) :
    ∃ row', later.getEvent id = some row' := by
  have of_events (same : later.events = db.events) : ∃ row', later.getEvent id = some row' := by
    unfold Database.getEvent at found ⊢
    exact ⟨row,same ▸ found⟩
  cases edit with
  | aside _ rest => exact of_events rest.events
  | attached uidHash uid serial kind attachedAt _ own accepted => exact of_events (upsertSeal_events accepted)
  | sealDead uidHash => exact of_events rfl
  | refreshed entry => exact of_events (refreshSeal_events settings db entry)
  | backed job label sealUidHash facts passport kind new =>
    refine ⟨row,?_⟩
    rw [Database.getEvent_insert (newEvent job label sealUidHash facts passport) fun _ => rfl,
      if_neg (Database.getEvent_below found).ne,found]
  | settled existing facts txSig actor there unsettled kind =>
    unfold settleExisting
    exact changed_stays (Database.getEvent_update existing.id id _ _) found
  | filled job current by_id knows there status bare =>
    exact changed_stays (Database.getEvent_update job.eventId id job.fill job.fill_id) found
  | repaired job current knows there status chosen =>
    exact changed_stays (Database.getEvent_update job.eventId id job.repaired job.repaired_id) found
  | posted job current now knows there unsettled =>
    obtain ⟨_,_,rows⟩ := posted_rows settings there (knows.type current there) now
    exact signed_stays (rows id) found signed
  | failed eventId txSig own => exact changed_stays (getEvent_failWrite db eventId id txSig) found
  | reconciled item acct ts current _ knows there status proof accepted =>
    have kind : current.type = .scan := (knows.follows current there).type.trans knows.type
    obtain ⟨_,_,_,rows⟩ := reconciled_rows there kind (knows.body there (knows.open status)) accepted
    exact signed_stays (rows id) found signed
  | timedOut number payload current there pending body late => exact changed_stays (getEvent_failPending db number id payload) found
  | noted number payload current there unsettled body =>
    exact changed_stays (Database.getEvent_update number id (fun row => {row with payload := payload}) fun _ => rfl) found

theorem asSigned_scan {row later : EventRow} {scan : ScanPayload} (same : later.payload.body.asSigned = row.payload.body.asSigned)
    (signed : row.payload.signedScan = some scan) :
    ∃ told, later.payload.signedScan = some told ∧ told.bundle = scan.bundle ∧ told.bundleHash = scan.bundleHash := by
  rw [Payload.body_of_signed signed] at same
  unfold Payload.signedScan
  cases body : later.payload.body with
  | signedScan told =>
    rw [body] at same
    simp only [PayloadBody.asSigned,PayloadBody.signedScan.injEq,ScanPayload.mk.injEq] at same
    exact ⟨told,rfl,same.1,same.2.2.2.2.1⟩
  | sighting counter tapId => simp [body,PayloadBody.asSigned] at same
  | facts facts => simp [body,PayloadBody.asSigned] at same
  | report source note reportedBy => simp [body,PayloadBody.asSigned] at same

-- A scan's row with a given bundle and hash.
def EventRow.Carries (row : EventRow) (bundle : Bundle) (hash : Bytes32) : Prop :=
  row.type = .scan ∧ ∃ scan, row.payload.signedScan = some scan ∧ scan.bundle = bundle ∧ scan.bundleHash = hash

theorem EventRow.Carries.follows {row later : EventRow} {bundle : Bundle} {hash : Bytes32} (carries : row.Carries bundle hash)
    (follows : Follows row later) : later.Carries bundle hash := by
  obtain ⟨kind,scan,signed,named,hashed⟩ := carries
  obtain ⟨told,there,bundle_is,hash_is⟩ := asSigned_scan (follows.scan kind).2 signed
  exact ⟨follows.type.trans kind,told,there,bundle_is.trans named,hash_is.trans hashed⟩

theorem EventRow.Carries.signed {row : EventRow} {bundle : Bundle} {hash : Bytes32} (carries : row.Carries bundle hash) :
    row.payload.signedScan.isSome := by
  obtain ⟨_,scan,signed,_⟩ := carries
  simp [signed]

-- What an edit, and a whole step, leaves of such a row.
theorem edits_carries {settings : Settings} {cause : Cause} {db later : Database} (edits : Edits settings cause db later) {id : ℕ}
    {row : EventRow} {bundle : Bundle} {hash : Bytes32} (found : db.getEvent id = some row) (carries : row.Carries bundle hash) :
    ∃ row', later.getEvent id = some row' ∧ row'.Carries bundle hash := by
  induction edits with
  | refl => exact ⟨row,found,carries⟩
  | tail _ edit ih =>
    obtain ⟨middle,there,carried⟩ := ih
    obtain ⟨row',there'⟩ := edit_stays edit there carried.signed
    obtain ⟨before,known,follows⟩ := (edit_kept edit).rows id row'
      ((Database.getEvent_below there).trans_le le_rfl) there'
    rw [there] at known
    cases known
    exact ⟨row',there',carried.follows follows⟩

theorem Grows.found {db later : Database} (grows : Grows db later) {id : ℕ} {row : EventRow} (found : db.getEvent id = some row) :
    later.getEvent id = some row := by
  cases grows with
  | same rest =>
    unfold Database.getEvent at found ⊢
    rwa [rest.events]
  | row known make named before after =>
    have below := Database.getEvent_below found
    unfold Database.getEvent at found ⊢
    rw [after.events]
    have inserted : (known.insertEvent make named).getEvent id = _ := Database.getEvent_insert make named id
    unfold Database.getEvent at inserted
    rw [inserted,before.events,if_neg below.ne,found]

theorem changes_carries {settings : Settings} {server : Server} {later : Database} {action : Action} {answer : Answer}
    (changes : Changes settings server action later answer) {id : ℕ} {row : EventRow} {bundle : Bundle} {hash : Bytes32}
    (found : server.db.getEvent id = some row) (carries : row.Carries bundle hash) :
    ∃ row', later.getEvent id = some row' ∧ row'.Carries bundle hash := by
  rcases changes_grows changes with finished | grows
  · obtain ⟨_,_,_,_,_,edits⟩ := finished
    exact edits_carries edits found carries
  · exact ⟨row,grows.found found,carries⟩

namespace Run
variable {settings : Settings} {run : Run}

theorem carries {m n id : ℕ} (ordered : m ≤ n) {row : EventRow} {bundle : Bundle} {hash : Bytes32}
    (found : (run.db settings m).getEvent id = some row) (carries : row.Carries bundle hash) :
    ∃ row', (run.db settings n).getEvent id = some row' ∧ row'.Carries bundle hash := by
  induction n, ordered using Nat.le_induction with
  | base => exact ⟨row,found,carries⟩
  | succ n _ ih =>
    obtain ⟨middle,there,carried⟩ := ih
    exact changes_carries (run.changes settings n) there carried

-- The row that signing writes.
theorem signed_row {n : ℕ} {body : VerifyBody} {around : Surroundings} {answer : VerifyAnswer} {scan : SignedScan}
    (asked : run.actions n = .verify body around) (answered : run.answer settings n = .verified answer)
    (told : answer.signed = some scan) : scan.bundleHash = settings.bundleHash scan.bundle ∧
      ∃ row, (run.db settings (n+1)).getEvent scan.eventId = some row ∧ row.Carries scan.bundle scan.bundleHash := by
  have verifying := verifying_at settings run asked answered
  generalize run.db settings (n+1) = later at verifying ⊢
  cases verifying with
  | nonceInvalid _ _ unsigned => simp [unsigned] at told
  | unlogged _ _ _ _ _ _ unsigned => simp [unsigned] at told
  | logged _ _ _ _ _ _ _ _ _ unsigned => simp [unsigned] at told
  | signed check checked logged tap session row uidHash counter mediaHash _ _ _ _ _ _ _ _ _ _ _ _ signed =>
    rw [told] at signed
    cases signed
    unfold signScan
    dsimp only
    refine ⟨rfl,_,(Database.getEvent_insert _ _ _).trans (if_pos rfl),rfl,_,rfl,?_⟩
    exact ⟨rfl,rfl⟩

end Run

-- The stored bundle of a scan: the signed one, under the signed hash.
structure StoredBundle (spell : Pubkey → String) (sha256 : List Byte → Bytes32) (signed : SignedScan) (row : EventRow) : Prop where
  hashed : signed.bundleHash = sha256 (utf8 (canonicalJson (.obj (buildBundle spell signed.bundle))))
  stored : ∃ scan, row.payload.signedScan = some scan ∧ ∀ text, Column spell scan row.payload.reconcile text →
    ∃ fields, loads text = some (.obj fields) ∧ get fields "bundleHash" = some (.str (hex0x signed.bundleHash.val)) ∧
      sorted (.obj (bundleFromPayload fields)) = sorted (.obj (buildBundle spell signed.bundle)) ∧
      sha256 (utf8 (canonicalJson (.obj (bundleFromPayload fields)))) = signed.bundleHash

-- Every write of the column keeps it the payload of its scan, and through a whole run every signed scan keeps its bundle.
structure BundleStability (settings : Settings) (spell : Pubkey → String) (sha256 : List Byte → Bytes32) : Prop where
  inserted : ∀ scan, Column spell scan none (dumps 1 (.obj (payloadFields spell scan none)))
  attested : ∀ scan note text fields attestation, Column spell scan note text → loads text = some (.obj fields) →
    Column spell (scan.attested attestation) note (dumps 1 (.obj (writeAttestation spell fields attestation)))
  noted : ∀ scan note text fields part, Column spell scan note text → loads text = some (.obj fields) →
    Column spell scan (some part) (dumps 1 (.obj (writeNote spell fields part)))
  chained : ∀ scan note text fields part chain, Column spell scan note text → loads text = some (.obj fields) →
    Column spell {scan with chain := some chain} (some part) (dumps 1 (.obj (writeChain spell fields part chain)))
  checked : ∀ scan part text fields later, Column spell scan (some part) text → loads text = some (.obj fields) →
    loads later = some (.obj (writeChecked fields)) → Column spell scan (some {part with signatureChecked := true}) later
  bundle : ∀ (run : Run) m n body around answer signed, m < n → run.actions m = .verify body around →
    run.answer (settings.hashing spell sha256) m = .verified answer → answer.signed = some signed →
    ∃ row, (run.db (settings.hashing spell sha256) n).getEvent signed.eventId = some row ∧ StoredBundle spell sha256 signed row

theorem bundle_stability (settings : Settings) (spell : Pubkey → String) (sha256 : List Byte → Bytes32) :
    BundleStability settings spell sha256 where
  inserted scan := column_signed scan
  attested scan note text fields attestation column loaded := ((column.read loaded).attested attestation).dumped 1
  noted scan note text fields part column loaded := ((column.read loaded).noted part).dumped 1
  chained scan note text fields part chain column loaded := ((column.read loaded).chained part chain).dumped 1
  checked scan part text fields later column loaded written := ⟨_,written,(column.read loaded).checked⟩
  bundle := by
    intro run m n body around answer signed later asked answered told
    obtain ⟨hashed,row,found,carries⟩ := Run.signed_row asked answered told
    obtain ⟨row',found',carried⟩ := Run.carries later found carries
    refine ⟨row',found',hashed,?_⟩
    obtain ⟨_,scan,stored,bundle,hash⟩ := carried
    refine ⟨scan,stored,?_⟩
    intro text column
    obtain ⟨fields,loaded,held⟩ := column
    have same := held.bundle
    rw [bundle] at same
    have shown := held.bundleHash
    rw [hash] at shown
    refine ⟨fields,loaded,shown,same,?_⟩
    have rendered : canonicalJson (.obj (bundleFromPayload fields)) = canonicalJson (.obj (buildBundle spell signed.bundle)) :=
      congrArg (write 0) same
    rw [rendered]
    exact hashed.symm

end FlaconVault.Verifier
