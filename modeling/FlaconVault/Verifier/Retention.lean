import FlaconVault.Verifier.MediaStore
import FlaconVault.Verifier.Sightings
namespace FlaconVault

-- A deletion that decides by the key.
theorem Table.get_delete_key {ρ κ : Type*} {key : ρ → κ} [DecidableEq κ] {table : Table key} (gone : κ → Bool) {chosen : ρ → Bool}
    (decides : ∀ row, chosen row = gone (key row)) {wanted : κ} :
    (table.delete chosen).get wanted = if gone wanted then none else table.get wanted := by
  rw [Table.get_delete]
  cases found : table.get wanted with
  | none => simp
  | some row =>
    have named : key row = wanted := (Table.get_some.mp found).2
    cases dropped : gone wanted <;> simp [Option.filter,decides,named,dropped]

end FlaconVault
namespace FlaconVault.Verifier

namespace MediaStore
variable {store : MediaStore} {sha256 : Bytes32} {kept : List Bytes32} {cutoff : Int} {batch : ℕ}

theorem doomed_unkept (chosen : sha256 ∈ store.doomed kept cutoff batch) : sha256 ∉ kept := by
  have inside := List.mem_of_mem_take chosen
  simpa using (List.mem_filter.mp inside).2

theorem orphans_lost {listing : List FileName} {name : FileName} (chosen : name ∈ store.orphans kept cutoff listing batch) :
    store.getMedia name.sha256 = none ∧ name.sha256 ∉ kept := by
  have inside := (List.mem_filter.mp (List.mem_of_mem_take chosen)).2
  simp only [Bool.and_eq_true,Option.isNone_iff_eq_none,Bool.not_eq_true',List.contains_eq_mem,decide_eq_false_iff_not] at inside
  exact inside.1

theorem dropMedia_getMedia (doomed : List Bytes32) :
    (store.dropMedia doomed).getMedia sha256 = if doomed.contains sha256 then none else store.getMedia sha256 :=
  Table.get_delete_key doomed.contains fun _ => rfl

theorem dropMedia_file (doomed : List Bytes32) (name : FileName) :
    (store.dropMedia doomed).files.get name = if doomed.contains name.sha256 then none else store.files.get name :=
  Table.get_delete_key (fun name : FileName => doomed.contains name.sha256) fun _ => rfl

theorem dropFiles_file (names : List FileName) (name : FileName) :
    (store.dropFiles names).files.get name = if names.contains name then none else store.files.get name :=
  Table.get_delete_key names.contains fun _ => rfl

variable {media : MediaSettings} {db : Database} {now failedSince : Int} {listing : List FileName}

-- Neither selection touches what an event still references.
theorem selected_unkept (referenced : sha256 ∈ referencedMedia db failedSince) :
    let chosen := store.selected media db now failedSince listing batch
    sha256 ∉ chosen.1 ∧ ∀ kind, ⟨sha256,kind⟩ ∉ chosen.2 := by
  unfold selected
  dsimp only
  split
  · exact ⟨List.not_mem_nil,fun _ => List.not_mem_nil⟩
  · refine ⟨fun chosen => doomed_unkept chosen referenced,?_⟩
    intro kind chosen
    exact (orphans_lost chosen).2 referenced

-- What an event references stays as it is: its row, its blob and its preview.
theorem retention_keeps (referenced : sha256 ∈ referencedMedia db failedSince) :
    (store.retention media db now failedSince listing batch).getMedia sha256 = store.getMedia sha256 ∧
      ∀ kind, (store.retention media db now failedSince listing batch).files.get ⟨sha256,kind⟩ = store.files.get ⟨sha256,kind⟩ := by
  obtain ⟨row,file⟩ := @selected_unkept (store.purge db now) sha256 batch media db now failedSince listing referenced
  unfold retention
  dsimp only
  constructor
  · refine (dropMedia_getMedia _).trans ?_
    rw [if_neg (by simpa using row)]
    rfl
  · intro kind
    rw [dropFiles_file,if_neg (by simpa using file kind),dropMedia_file,if_neg (by simpa using row)]
    rfl

theorem retention_held : (store.retention media db now (now-FAILED_RECHECK_S) listing RETENTION_BATCH).held sha256 =
    (store.held sha256 && !dropped media db store now listing sha256) := by
  unfold held retention dropped
  dsimp only
  rw [dropFiles_file,dropMedia_file]
  split
  · simp_all
  · split
    · simp_all
    · simp_all [purge]

-- What is dropped has no row afterwards and no reference.
theorem dropped_lost (gone : dropped media db store now listing sha256 = true) :
    (store.retention media db now (now-FAILED_RECHECK_S) listing RETENTION_BATCH).getMedia sha256 = none ∧
      sha256 ∉ referencedMedia db (now-FAILED_RECHECK_S) := by
  unfold dropped at gone
  simp only [Bool.or_eq_true,List.contains_eq_mem,decide_eq_true_eq] at gone
  refine ⟨?_,?_⟩
  · unfold retention
    dsimp only
    refine (dropMedia_getMedia _).trans ?_
    rcases gone with row | file
    · rw [if_pos (by simpa using row)]
    · split
      · rfl
      · rename_i other
        unfold selected at file other
        split at file
        · exact absurd file List.not_mem_nil
        · rename_i runs
          rw [if_neg runs] at other
          have lost := (orphans_lost file).1
          rwa [dropMedia_getMedia,if_neg other] at lost
  · intro referenced
    obtain ⟨row,file⟩ := @selected_unkept (store.purge db now) sha256 RETENTION_BATCH media db now _ listing referenced
    rcases gone with here | here
    · exact row here
    · exact file .blob here

theorem retention_getMedia (lost : store.getMedia sha256 = none) :
    (store.retention media db now failedSince listing batch).getMedia sha256 = none := by
  unfold retention
  refine (dropMedia_getMedia _).trans ?_
  split
  · rfl
  · exact lost

end MediaStore

-- A status changes only while the row is pending, or to confirmed.
def Forward (row later : EventRow) : Prop := later.status = row.status ∨ later.status = .confirmed ∨ row.status = .pending

theorem Forward.trans {row middle later : EventRow} (first : Forward row middle) (second : Forward middle later) : Forward row later := by
  unfold Forward at *
  rcases first with same | settled | pending
  · rwa [same] at second
  · rcases second with same' | settled' | pending'
    · exact .inr (.inl (same'.trans settled))
    · exact .inr (.inl settled')
    · exact absurd (settled.symm.trans pending') (by simp)
  · exact .inr (.inr pending)

theorem edit_forward {settings : Settings} {cause : Cause} {db later : Database} (edit : Edit settings cause db later) {id : ℕ}
    {row row' : EventRow} (found : db.getEvent id = some row) (found' : later.getEvent id = some row') : Forward row row' := by
  have of_same (same : row' = row) : Forward row row' := .inl (congrArg EventRow.status same)
  have of_events (same : later.events = db.events) : Forward row row' := by
    unfold Database.getEvent at found found'
    rw [same,found] at found'
    exact of_same (Option.some.inj found').symm
  cases edit with
  | aside _ rest => exact of_events rest.events
  | attached uidHash uid serial kind attachedAt _ own accepted => exact of_events (upsertSeal_events accepted)
  | sealDead uidHash => exact of_events rfl
  | refreshed entry => exact of_events (refreshSeal_events settings db entry)
  | backed job label sealUidHash facts passport kind new =>
    rw [Database.getEvent_insert (newEvent job label sealUidHash facts passport) fun _ => rfl,
      if_neg (Database.getEvent_below found).ne,found] at found'
    exact of_same (Option.some.inj found').symm
  | settled existing facts txSig actor here unsettled kind =>
    unfold settleExisting at found'
    rw [Database.getEvent_update,found] at found'
    split at found'
    · exact .inr (.inl (congrArg EventRow.status (Option.some.inj found')).symm)
    · exact of_same (Option.some.inj found').symm
  | filled job current by_id knows here status bare =>
    rw [Database.getEvent_update,found] at found'
    split at found'
    · rename_i same
      have is_row : row = current := Option.some.inj (found.symm.trans (same ▸ here))
      exact .inr (.inl (Option.some.inj found' ▸ (fill_follows job (is_row ▸ status)).settled (is_row ▸ status)))
    · exact of_same (Option.some.inj found').symm
  | repaired job current knows here status chosen =>
    rw [Database.getEvent_update,found] at found'
    split at found'
    · rename_i same
      have is_row : row = current := Option.some.inj (found.symm.trans (same ▸ here))
      exact .inr (.inl (Option.some.inj found' ▸ (checkedSignature_follows (is_row ▸ status) _).settled (is_row ▸ status)))
    · exact of_same (Option.some.inj found').symm
  | posted job current now knows here unsettled =>
    obtain ⟨final,after,rows⟩ := posted_rows settings here (knows.type current here) now
    by_cases same : id = job.eventId
    · rw [rows,if_pos same] at found'
      exact .inr (.inl (Option.some.inj found' ▸ after.status))
    · exact of_same (row_of_confirm (rows id) found found' same)
  | failed eventId txSig own =>
    rw [getEvent_failWrite,found] at found'
    split at found'
    · have changed := Option.some.inj found'
      unfold failedRow at changed
      split at changed
      · rename_i pending
        exact .inr (.inr pending)
      · exact of_same changed.symm
    · exact of_same (Option.some.inj found').symm
  | reconciled item acct ts current _ knows here status proof accepted =>
    have scan : current.type = .scan := (knows.follows current here).type.trans knows.type
    obtain ⟨_,final,after,rows⟩ := reconciled_rows here scan (knows.body here (knows.open status)) accepted
    by_cases same : id = item.event.id
    · rw [rows,if_pos same] at found'
      exact .inr (.inl (Option.some.inj found' ▸ after.status))
    · exact of_same (row_of_confirm (rows id) found found' same)
  | timedOut number payload current here pending body late =>
    rw [getEvent_failPending,found] at found'
    split at found'
    · rename_i same
      have is_row : row = current := Option.some.inj (found.symm.trans (same ▸ here))
      exact .inr (.inr (is_row ▸ pending))
    · exact of_same (Option.some.inj found').symm
  | noted number payload current here unsettled body =>
    unfold Database.updateEventPayload at found'
    rw [Database.getEvent_update,found] at found'
    split at found'
    · exact .inl (congrArg EventRow.status (Option.some.inj found')).symm
    · exact of_same (Option.some.inj found').symm

theorem edits_forward {settings : Settings} {cause : Cause} {db later : Database} (edits : Edits settings cause db later) {id : ℕ}
    {row row' : EventRow} (found : db.getEvent id = some row) (found' : later.getEvent id = some row') : Forward row row' := by
  induction edits generalizing row' with
  | refl =>
    rw [found] at found'
    exact .inl (congrArg EventRow.status (Option.some.inj found')).symm
  | tail before edit ih =>
    have old := (Database.getEvent_below found).trans_le (edits_kept before).next
    obtain ⟨middle,there,_⟩ := (edit_kept edit).rows id row' old found'
    exact (ih there).trans (edit_forward edit there found')

theorem Grows.forward {db later : Database} (grows : Grows db later) {id : ℕ} {row row' : EventRow} (found : db.getEvent id = some row)
    (found' : later.getEvent id = some row') : Forward row row' := by
  refine .inl (congrArg EventRow.status (?_ : row' = row))
  unfold Database.getEvent at found found'
  cases grows with
  | same rest =>
    rw [rest.events,found] at found'
    exact (Option.some.inj found').symm
  | row known make named before after =>
    have grown : (known.insertEvent make named).getEvent id = some row' := by
      unfold Database.getEvent
      rwa [← after.events]
    have old : known.getEvent id = some row := by
      unfold Database.getEvent
      rwa [before.events]
    rw [Database.getEvent_insert,if_neg (Database.getEvent_below old).ne,old] at grown
    exact (Option.some.inj grown).symm

namespace Run
variable (settings : Settings) (run : Run)

theorem forward {m n : ℕ} (ordered : m ≤ n) {id : ℕ} {row row' : EventRow} (found : (run.db settings m).getEvent id = some row)
    (found' : (run.db settings n).getEvent id = some row') : Forward row row' := by
  induction n, ordered using Nat.le_induction generalizing row' with
  | base =>
    rw [found] at found'
    exact .inl (congrArg EventRow.status (Option.some.inj found')).symm
  | succ n before ih =>
    have old := (Database.getEvent_below found).trans_le (run.kept settings before).next
    obtain ⟨middle,there,_⟩ := (run.kept settings (Nat.le_succ n)).rows id row' old found'
    refine (ih there).trans ?_
    rcases changes_grows (run.changes settings n) with finished | grows
    · obtain ⟨_,_,_,_,_,edits⟩ := finished
      exact edits_forward edits there found'
    · exact grows.forward there found'

end Run

namespace MediaRun
variable (settings : Settings) (media : MediaSettings) (run : MediaRun)

-- The step signs a scan that commits to these bytes, and the upload staged under its nonce reaches its place.
def Promotes (n : ℕ) (sha256 : Bytes32) : Prop :=
  ∃ action wall fault body scan, run.actions n = .serve action wall fault ∧
    (run.world settings media n).signing settings action = some (body,scan) ∧ 2 ≤ body.tier.val ∧
    body.mediaHash.bind parseHash = some sha256 ∧
    ((run.store settings media n).staged.get (scan.bundle.nonce,sha256)).isSome ∧ fault ≠ some .staging

-- The step signs this scan and promotes its upload.
def Signs (n id : ℕ) (sha256 : Bytes32) : Prop :=
  ∃ action wall body scan, run.actions n = .serve action wall none ∧
    (run.world settings media n).signing settings action = some (body,scan) ∧ 2 ≤ body.tier.val ∧
    body.mediaHash.bind parseHash = some sha256 ∧
    ((run.store settings media n).staged.get (scan.bundle.nonce,sha256)).isSome ∧ scan.eventId = id

-- The step is a run of the retention that drops these bytes.
def Drops (n : ℕ) (sha256 : Bytes32) : Prop :=
  ∃ now listing, run.actions n = .retention now listing ∧
    MediaStore.dropped media (run.db settings media n) (run.store settings media n) now listing sha256 = true

-- A scan in the log that commits to these bytes, its upload promoted when it was signed.
structure Committed (n : ℕ) (row : EventRow) (sha256 : Bytes32) : Prop where
  found : (run.db settings media n).getEvent row.id = some row
  names : sha256 ∈ row.mediaHashes
  promoted : ∃ k < n, run.Signs settings media k row.id sha256

-- The step confirms a scan that had failed.
def Revives (n id : ℕ) : Prop :=
  (∃ row, (run.db settings media n).getEvent id = some row ∧ row.status = .failed) ∧
    ∃ row, (run.db settings media (n+1)).getEvent id = some row ∧ row.status = .confirmed

-- On disk, or archived: the row of the bytes or the event has the link.
def Preserved (n id : ℕ) (sha256 : Bytes32) : Prop :=
  (run.store settings media n).held sha256 = true ∨ ((run.store settings media n).getMedia sha256).any (·.ar.isSome) = true ∨
    ((run.store settings media n).getArchive id).arMedia.isSome = true

-- Every confirmed scan still has its evidence.
def EvidenceKept (n : ℕ) : Prop :=
  ∀ row sha256, run.Committed settings media n row sha256 → row.status = .confirmed → run.Preserved settings media n row.id sha256

-- No failed scan is confirmed after the retention has dropped its bytes, unless another scan has brought them back.
def SparesDropped (n : ℕ) : Prop :=
  ∀ row sha256, run.Committed settings media n row sha256 → run.Revives settings media n row.id →
    ∀ m < n, run.Drops settings media m sha256 → ∃ k, m < k ∧ k ≤ n ∧ run.Promotes settings media k sha256

variable {settings media run}

theorem world_succ (n : ℕ) : run.world settings media (n+1) = (run.world settings media n).step settings media (run.actions n) := rfl

theorem plain_server (n : ℕ) : (run.world settings media n).server = (run.plain settings media).server settings n := by
  induction n with
  | zero => rfl
  | succ n ih =>
    rw [world_succ,Run.server_succ,← ih]
    unfold plain
    dsimp only
    cases run.actions n with
    | serve action wall fault => rfl
    | upload upload now =>
      simp only [MediaWorld.step]
      split <;> rfl
    | purge now => rfl
    | archive eventId sent previewSent bundle =>
      simp only [MediaWorld.step]
      split <;> rfl
    | retention now listing => rfl

theorem plain_db (n : ℕ) : run.db settings media n = (run.plain settings media).db settings n := by
  unfold db Run.db
  rw [plain_server]

-- What the signing of a scan brings on disk.
theorem promoted_held (world : MediaWorld) (action : Action) (wall : Int) (fault : Option PromoteFault) (sha256 : Bytes32) :
    (world.promoted settings action wall fault).held sha256 = true ↔
      (∃ body scan, world.signing settings action = some (body,scan) ∧ 2 ≤ body.tier.val ∧ body.mediaHash.bind parseHash = some sha256 ∧
        (world.store.staged.get (scan.bundle.nonce,sha256)).isSome ∧ fault ≠ some .staging) ∨ world.store.held sha256 = true := by
  unfold MediaWorld.promoted
  cases signed : world.signing settings action with
  | none => simp
  | some result =>
    obtain ⟨body,scan⟩ := result
    dsimp only
    by_cases certified : 2 ≤ body.tier.val
    · rw [if_pos certified]
      cases parsed : body.mediaHash.bind parseHash with
      | none => simp [parsed]
      | some named =>
        dsimp only
        unfold MediaStore.promote
        dsimp only
        rw [MediaStore.discard_held]
        cases found : world.store.staged.get (scan.bundle.nonce,named) with
        | none =>
          constructor
          · exact .inr
          · intro brought
            rcases brought with brings | there
            · obtain ⟨_,_,same,_,hash,staged,_⟩ := brings
              cases same
              cases Option.some.inj (parsed.symm.trans hash)
              simp [found] at staged
            · exact there
        | some upload =>
          have names : upload.sha256 = named := congrArg Prod.snd (Table.get_some.mp found).2
          dsimp only
          split
          · rename_i failed
            constructor
            · exact .inr
            · intro brought
              rcases brought with brings | there
              · obtain ⟨_,_,_,_,_,_,sound⟩ := brings
                exact absurd failed sound
              · exact there
          · rename_i sound
            rw [MediaStore.keep_held,names,Bool.or_eq_true,decide_eq_true_eq]
            constructor
            · intro after
              rcases after with same | there
              · subst same
                exact .inl ⟨body,scan,rfl,certified,parsed,by simp [found],sound⟩
              · exact .inr there
            · intro brought
              rcases brought with brings | there
              · obtain ⟨_,_,same,_,hash,_⟩ := brings
                cases same
                exact .inl (Option.some.inj (parsed.symm.trans hash))
              · exact .inr there
    · rw [if_neg certified]
      constructor
      · exact .inr
      · intro brought
        rcases brought with brings | there
        · obtain ⟨_,_,same,high,_⟩ := brings
          cases same
          exact absurd high certified
        · exact there

-- The bytes are on disk after a step exactly if it brings them, or they were there and it does not drop them.
theorem held_step (n : ℕ) (sha256 : Bytes32) : (run.store settings media (n+1)).held sha256 = true ↔
    run.Promotes settings media n sha256 ∨
      (run.store settings media n).held sha256 = true ∧ ¬run.Drops settings media n sha256 := by
  unfold store
  rw [world_succ]
  unfold Promotes Drops
  cases acted : run.actions n with
  | serve action wall fault =>
    refine (promoted_held (run.world settings media n) action wall fault sha256).trans ?_
    constructor
    · intro after
      rcases after with brings | there
      · obtain ⟨body,scan,brings⟩ := brings
        exact .inl ⟨action,wall,fault,body,scan,rfl,brings⟩
      · refine .inr ⟨there,?_⟩
        intro drops
        obtain ⟨_,_,other,_⟩ := drops
        cases other
    · intro brought
      rcases brought with brings | there
      · obtain ⟨_,_,_,body,scan,same,brings⟩ := brings
        cases same
        exact .inl ⟨body,scan,brings⟩
      · exact .inr there.1
  | upload upload now =>
    simp only [MediaWorld.step]
    split <;> simp
  | purge now => simp [MediaWorld.step]
  | archive eventId sent previewSent bundle =>
    simp only [MediaWorld.step]
    split <;> simp [MediaStore.archiveScan_held]
  | retention now listing =>
    simp [MediaWorld.step,MediaStore.retention_held,db,store]

-- A step adds no row for the bytes unless it brings them, and a dropped row is gone.
theorem row_step {n : ℕ} {sha256 : Bytes32} (absent : (run.store settings media n).getMedia sha256 = none)
    (brings : ¬run.Promotes settings media n sha256) : (run.store settings media (n+1)).getMedia sha256 = none := by
  unfold store at absent ⊢
  rw [world_succ]
  cases acted : run.actions n with
  | serve action wall fault =>
    by_contra there
    have after : ((run.world settings media n).promoted settings action wall fault).getMedia sha256 ≠ none := there
    unfold MediaWorld.promoted at after
    split at after
    · rename_i body scan signed
      split at after
      · rename_i named parsed
        unfold MediaStore.promote at after
        dsimp only at after
        rw [MediaStore.discard_getMedia] at after
        split at after
        · rename_i upload found
          split at after
          · exact after absent
          · rename_i sound
            have names : upload.sha256 = named := congrArg Prod.snd (Table.get_some.mp found).2
            rcases MediaStore.keep_getMedia (Option.isSome_iff_ne_none.mpr after) with same | old
            · split at parsed
              · rename_i certified
                have hash : named = sha256 := names.symm.trans same
                subst hash
                exact brings ⟨action,wall,fault,body,scan,acted,signed,certified,parsed,Option.isSome_of_eq_some found,sound⟩
              · cases parsed
            · exact Option.isSome_iff_ne_none.mp old absent
        · exact after absent
      · exact after absent
    · exact after absent
  | upload upload now =>
    simp only [MediaWorld.step]
    split
    · exact absent
    · exact absent
  | purge now => exact absent
  | archive eventId sent previewSent bundle =>
    simp only [MediaWorld.step]
    split
    · rw [← Option.not_isSome_iff_eq_none] at absent ⊢
      rwa [MediaStore.archiveScan_getMedia]
    · exact absent
  | retention now listing => exact MediaStore.retention_getMedia absent

theorem row_dropped {n : ℕ} {sha256 : Bytes32} (drops : run.Drops settings media n sha256) :
    (run.store settings media (n+1)).getMedia sha256 = none := by
  obtain ⟨now,listing,acted,gone⟩ := drops
  unfold store
  rw [world_succ,acted]
  exact (MediaStore.dropped_lost gone).1

end MediaRun

theorem mediaHashes_follows {row later : EventRow} (kind : row.type = .scan) (follows : Follows row later) :
    later.mediaHashes = row.mediaHashes := by
  have same := (follows.scan kind).2
  unfold EventRow.mediaHashes Payload.signedScan
  cases before : row.payload.body <;> cases after : later.payload.body <;>
    simp only [before,after,PayloadBody.asSigned,reduceCtorEq,PayloadBody.signedScan.injEq] at same ⊢
  rename_i scan told
  have bundle : told.bundle = scan.bundle := (ScanPayload.mk.inj same).1
  rw [bundle]

theorem Shape.names_scan {row : EventRow} {sha256 : Bytes32} (shape : Shape row) (names : sha256 ∈ row.mediaHashes) : row.type = .scan := by
  unfold EventRow.mediaHashes Payload.signedScan at names
  cases shape with
  | signed scan kind => exact kind
  | sighting _ _ kind => exact kind
  | facts facts kind body => simp [body] at names
  | report source note reportedBy kind body => simp [body] at names

-- What the retention drops is named by scans only that failed and that no cycle checks again.
theorem referenced {db : Database} {row : EventRow} {sha256 : Bytes32} {failedSince : Int} (found : db.getEvent row.id = some row)
    (names : sha256 ∈ row.mediaHashes) (unreferenced : sha256 ∉ referencedMedia db failedSince) :
    row.status = .failed ∧ row.ts < failedSince := by
  by_contra other
  refine unreferenced (List.mem_flatMap.mpr ⟨row,List.mem_filter.mpr ⟨(Database.getEvent_some.mp found).1,?_⟩,names⟩)
  simp only [Bool.or_eq_true,decide_eq_true_eq]
  by_cases failed : row.status = .failed
  · have recent : ¬row.ts < failedSince := fun old => other ⟨failed,old⟩
    exact .inr (by omega)
  · exact .inl failed

namespace MediaRun
variable {settings : Settings} {media : MediaSettings} {run : MediaRun}

theorem db_succ (n : ℕ) : run.db settings media (n+1) = ((run.world settings media n).step settings media (run.actions n)).server.db := rfl

theorem kept {m n : ℕ} (ordered : m ≤ n) : Kept (run.db settings media m) (run.db settings media n) := by
  rw [plain_db,plain_db]
  exact (run.plain settings media).kept settings ordered

theorem forward {m n : ℕ} (ordered : m ≤ n) {id : ℕ} {row row' : EventRow} (found : (run.db settings media m).getEvent id = some row)
    (found' : (run.db settings media n).getEvent id = some row') : Forward row row' := by
  rw [plain_db] at found found'
  exact (run.plain settings media).forward settings ordered found found'

theorem shapes (n : ℕ) : Shapes (run.db settings media n) := by
  rw [plain_db]
  exact (run.plain settings media).shapes settings n

-- An earlier version of a row that commits to some bytes.
theorem Committed.earlier {m n : ℕ} {row : EventRow} {sha256 : Bytes32} (committed : run.Committed settings media n row sha256)
    (ordered : m ≤ n) (old : row.id < (run.db settings media m).events.next) :
    ∃ row', (run.db settings media m).getEvent row.id = some row' ∧ Follows row' row ∧ sha256 ∈ row'.mediaHashes := by
  obtain ⟨row',found,follows⟩ := (kept ordered).rows row.id row old committed.found
  have shape : Shape row := shapes n row.id row committed.found
  have kind : row'.type = .scan := follows.type.symm.trans (shape.names_scan committed.names)
  exact ⟨row',found,follows,mediaHashes_follows kind follows ▸ committed.names⟩

theorem signed_below {world : MediaWorld} {action : Action} {body : VerifyBody} {scan : SignedScan}
    (signed : world.signing settings action = some (body,scan)) :
    scan.eventId < (Server.step settings world.server (world.informed action)).1.db.events.next := by
  unfold MediaWorld.signing at signed
  split at signed
  · rename_i asked around acted
    rw [acted]
    rcases answered_cases world.server (verify settings world.server.db asked around) .verified with refused | accepted
    · obtain ⟨error,_,same⟩ := refused
      simp only [Server.step,same] at signed
      cases signed
    · obtain ⟨db,answer,passed,same⟩ := accepted
      simp only [Server.step,same] at signed ⊢
      cases verify_verifying passed with
      | nonceInvalid _ _ unsigned => simp [unsigned] at signed
      | unlogged _ _ _ _ _ _ unsigned => simp [unsigned] at signed
      | logged _ _ _ _ _ _ _ _ _ unsigned => simp [unsigned] at signed
      | signed check checked logged tap session row uidHash counter mediaHash _ _ _ _ _ _ _ _ _ _ _ _ told =>
        rw [told] at signed
        obtain ⟨_,rfl⟩ := Prod.mk.inj (Option.some.inj signed)
        exact Nat.lt_succ_self _
  · cases signed

theorem Signs.below {n id : ℕ} {sha256 : Bytes32} (signs : run.Signs settings media n id sha256) :
    id < (run.db settings media (n+1)).events.next := by
  obtain ⟨action,wall,body,scan,acted,signed,_,_,_,named⟩ := signs
  rw [db_succ,acted,← named]
  exact signed_below signed

theorem Signs.promotes {n id : ℕ} {sha256 : Bytes32} (signs : run.Signs settings media n id sha256) :
    run.Promotes settings media n sha256 := by
  obtain ⟨action,wall,body,scan,acted,signed,certified,hash,staged,_⟩ := signs
  exact ⟨action,wall,none,body,scan,acted,signed,certified,hash,staged,by simp⟩

theorem promoted_archive (world : MediaWorld) (action : Action) (wall : Int) (fault : Option PromoteFault) :
    (world.promoted settings action wall fault).archive = world.store.archive := by
  unfold MediaWorld.promoted
  split
  · split
    · unfold MediaStore.promote
      dsimp only
      split
      · split
        · rfl
        · unfold MediaStore.discard MediaStore.keep
          dsimp only
          split
          · split <;> rfl
          · rfl
      · rfl
    · rfl
  · rfl

-- A link is stored with an event only once the event is confirmed.
theorem archive_step {n id : ℕ} (linked : ((run.store settings media (n+1)).getArchive id).arMedia.isSome) :
    ((run.store settings media n).getArchive id).arMedia.isSome ∨
      ∃ row, (run.db settings media n).getEvent id = some row ∧ row.status = .confirmed := by
  unfold store at linked ⊢
  rw [world_succ] at linked
  cases acted : run.actions n with
  | serve action wall fault =>
    rw [acted] at linked
    have same : ((run.world settings media n).promoted settings action wall fault).getArchive id =
        (run.world settings media n).store.getArchive id := by
      unfold MediaStore.getArchive
      rw [promoted_archive]
    exact .inl (same ▸ linked)
  | upload upload now =>
    rw [acted] at linked
    simp only [MediaWorld.step] at linked
    split at linked
    · exact .inl linked
    · exact .inl linked
  | purge now =>
    rw [acted] at linked
    exact .inl linked
  | archive eventId sent previewSent bundle =>
    rw [acted] at linked
    simp only [MediaWorld.step] at linked
    split at linked
    · rename_i event queued
      obtain ⟨found,scan⟩ := Option.filter_eq_some_iff.mp queued
      have named : event.id = eventId := (Database.getEvent_some.mp found).2
      by_cases here : id = eventId
      · refine .inr ⟨event,here ▸ found,?_⟩
        simp only [EventRow.confirmedScan,Bool.and_eq_true,beq_iff_eq] at scan
        exact scan.1.2
      · rw [MediaStore.archiveScan_other media (named ▸ here)] at linked
        exact .inl linked
    · exact .inl linked
  | retention now listing =>
    rw [acted] at linked
    exact .inl linked

theorem linked_confirmed (n id : ℕ) (linked : ((run.store settings media n).getArchive id).arMedia.isSome) :
    id < (run.db settings media n).events.next ∧
      ∀ row, (run.db settings media n).getEvent id = some row → row.status = .confirmed := by
  induction n with
  | zero => cases linked
  | succ n ih =>
    have settled : id < (run.db settings media n).events.next ∧
        ∀ row, (run.db settings media n).getEvent id = some row → row.status = .confirmed := by
      rcases archive_step linked with before | now
      · exact ih before
      · obtain ⟨row,found,confirmed⟩ := now
        refine ⟨Database.getEvent_below found,?_⟩
        intro other there
        cases Option.some.inj (found.symm.trans there)
        exact confirmed
    have grown : Kept (run.db settings media n) (run.db settings media (n+1)) := kept (Nat.le_succ n)
    refine ⟨settled.1.trans_le grown.next,?_⟩
    intro row found
    obtain ⟨old,there,follows⟩ := grown.rows id row settled.1 found
    exact follows.settled (settled.2 old there)

-- Bytes that were dropped and not brought back are gone.
theorem lost_since {m n : ℕ} {sha256 : Bytes32} (drops : run.Drops settings media m sha256) (later : m < n)
    (never : ∀ k, m < k → k < n → ¬run.Promotes settings media k sha256) :
    ¬(run.store settings media n).held sha256 = true ∧ (run.store settings media n).getMedia sha256 = none := by
  induction n, later using Nat.le_induction with
  | base =>
    refine ⟨?_,row_dropped drops⟩
    intro held
    rcases (held_step m sha256).mp held with brings | stays
    · obtain ⟨_,_,acted,_⟩ := drops
      obtain ⟨_,_,_,_,_,acted',_⟩ := brings
      cases acted.symm.trans acted'
    · exact stays.2 drops
  | succ n beyond ih =>
    obtain ⟨gone,bare⟩ := ih fun k above below => never k above (by omega)
    have brings : ¬run.Promotes settings media n sha256 := never n beyond (Nat.lt_succ_self n)
    refine ⟨?_,row_step bare brings⟩
    intro held
    rcases (held_step n sha256).mp held with brought | stays
    · exact brings brought
    · exact gone stays.1

-- Bytes that were on disk and are not any more were dropped, and never brought back since.
theorem dropped_before {k n : ℕ} {sha256 : Bytes32} (ordered : k ≤ n) (held : (run.store settings media k).held sha256 = true)
    (gone : ¬(run.store settings media n).held sha256 = true) :
    ∃ m, k ≤ m ∧ m < n ∧ run.Drops settings media m sha256 ∧ ∀ j, m < j → j ≤ n → ¬(run.store settings media j).held sha256 = true := by
  obtain ⟨m,low,high,there,since⟩ :=
    Runs.switched_on (P := fun world : MediaWorld => ¬world.store.held sha256 = true) ordered (not_not.mpr held) gone
  have drops : run.Drops settings media m sha256 := by
    by_contra spares
    exact since (m+1) (Nat.lt_succ_self m) high ((held_step m sha256).mpr (.inr ⟨not_not.mp there,spares⟩))
  exact ⟨m,low,high,drops,since⟩

-- A row that commits to dropped bytes had failed when they were dropped, too long ago for a cycle to check it again.
theorem Drops.failed {n : ℕ} {row : EventRow} {sha256 : Bytes32} (drops : run.Drops settings media n sha256)
    (found : (run.db settings media n).getEvent row.id = some row) (names : sha256 ∈ row.mediaHashes) :
    row.status = .failed ∧ ∃ now listing, run.actions n = .retention now listing ∧ row.ts < now-FAILED_RECHECK_S := by
  obtain ⟨now,listing,acted,gone⟩ := drops
  obtain ⟨failed,old⟩ := referenced found names (MediaStore.dropped_lost gone).2
  exact ⟨failed,now,listing,acted,old⟩

theorem Drops.server {n : ℕ} {sha256 : Bytes32} (drops : run.Drops settings media n sha256) :
    run.db settings media (n+1) = run.db settings media n := by
  obtain ⟨now,listing,acted,_⟩ := drops
  rw [db_succ,acted]
  rfl

-- Where the bytes of a confirmed scan went, the scan was revived after they had been dropped.
theorem evidence_kept (n : ℕ) (spares : ∀ m < n, run.SparesDropped settings media m) : run.EvidenceKept settings media n := by
  intro row sha256 committed confirmed
  by_contra lost
  have gone : ¬(run.store settings media n).held sha256 = true := fun held => lost (.inl held)
  obtain ⟨k,before,signs⟩ := committed.promoted
  have brought : (run.store settings media (k+1)).held sha256 = true := (held_step k sha256).mpr (.inl signs.promotes)
  obtain ⟨m,low,high,drops,since⟩ := dropped_before before brought gone
  have old {j : ℕ} (later : k+1 ≤ j) : row.id < (run.db settings media j).events.next := signs.below.trans_le (kept later).next
  obtain ⟨failing,found,follows,names⟩ := committed.earlier high.le (old low)
  have failed : failing.status = .failed := (drops.failed (follows.id ▸ found) names).1
  have open_then : ¬∃ row', (run.world settings media m).server.db.getEvent row.id = some row' ∧ row'.status = .confirmed := by
    intro settled
    obtain ⟨row',there,status⟩ := settled
    cases Option.some.inj (found.symm.trans there)
    exact absurd (failed.symm.trans status) (by simp)
  obtain ⟨r,after,within,still_open,settled⟩ := Runs.switched_on
    (P := fun world : MediaWorld => ∃ row', world.server.db.getEvent row.id = some row' ∧ row'.status = .confirmed) high.le open_then
    ⟨row,committed.found,confirmed⟩
  obtain ⟨reviving,there,follows',names'⟩ := committed.earlier within.le (old (by omega))
  have failed' : reviving.status = .failed := by
    rcases forward after found there with same | done | pending
    · exact same.trans failed
    · exact absurd ⟨reviving,there,done⟩ still_open
    · exact absurd (failed.symm.trans pending) (by simp)
  have apart : m < r := by
    refine lt_of_le_of_ne after ?_
    intro same
    subst same
    refine open_then ?_
    have still : ∃ row', (run.db settings media (m+1)).getEvent row.id = some row' ∧ row'.status = .confirmed :=
      settled (m+1) (Nat.lt_succ_self m) within
    rwa [drops.server] at still
  have revives : run.Revives settings media r row.id := ⟨⟨reviving,there,failed'⟩,settled (r+1) (Nat.lt_succ_self r) within⟩
  have named : reviving.id = row.id := follows'.id.symm
  obtain ⟨j,above,below,promotes⟩ := spares r within reviving sha256
    ⟨named ▸ there,names',k,by omega,named ▸ signs⟩ (named ▸ revives) m apart drops
  exact since (j+1) (by omega) (by omega) ((held_step j sha256).mpr (.inl promotes))

-- A revived scan whose bytes were dropped and not brought back has no evidence.
theorem spares_dropped {n : ℕ} (evidence : run.EvidenceKept settings media (n+1)) : run.SparesDropped settings media n := by
  intro row sha256 committed revives m before drops
  by_contra never
  have unbrought : ∀ k, m < k → k < n+1 → ¬run.Promotes settings media k sha256 := by
    intro k above below promotes
    exact never ⟨k,above,by omega,promotes⟩
  obtain ⟨gone,bare⟩ := lost_since drops (Nat.lt_succ_of_lt before) unbrought
  obtain ⟨⟨failing,found,failed⟩,row',found',confirmed⟩ := revives
  cases Option.some.inj (committed.found.symm.trans found)
  obtain ⟨k,earlier,signs⟩ := committed.promoted
  have old : row.id < (run.db settings media n).events.next := Database.getEvent_below found
  obtain ⟨row'',found'',follows⟩ := (kept (Nat.le_succ n)).rows row.id row' old found'
  cases Option.some.inj (found.symm.trans found'')
  have shape : Shape row := shapes n row.id row found
  have names : sha256 ∈ row'.mediaHashes := by
    rw [mediaHashes_follows (shape.names_scan committed.names) follows]
    exact committed.names
  rcases evidence row' sha256 ⟨follows.id.symm ▸ found',names,k,by omega,follows.id.symm ▸ signs⟩ confirmed with held | linked | linked
  · exact gone held
  · rw [bare] at linked
    cases linked
  · rw [follows.id] at linked
    rcases archive_step linked with then_linked | settled
    · exact absurd (failed.symm.trans ((linked_confirmed n row.id then_linked).2 row found)) (by simp)
    · obtain ⟨other,there,status⟩ := settled
      cases Option.some.inj (found.symm.trans there)
      exact absurd (failed.symm.trans status) (by simp)

-- No run of the retention before this step lies more than the recheck window behind the signing of a scan it revives.
def InWindow (settings : Settings) (media : MediaSettings) (run : MediaRun) (n : ℕ) : Prop :=
  ∀ row, (run.db settings media n).getEvent row.id = some row → run.Revives settings media n row.id →
    ∀ m < n, ∀ now listing, run.actions m = .retention now listing → now ≤ row.ts+FAILED_RECHECK_S

theorem InWindow.spares {n : ℕ} (window : run.InWindow settings media n) : run.SparesDropped settings media n := by
  intro row sha256 committed revives m before drops
  by_cases old : row.id < (run.db settings media m).events.next
  · exfalso
    obtain ⟨row',found,follows,names⟩ := committed.earlier before.le old
    obtain ⟨_,now,listing,acted,late⟩ := drops.failed (follows.id ▸ found) names
    have within := window row committed.found revives m before now listing acted
    have signed := follows.ts
    omega
  · obtain ⟨k,earlier,signs⟩ := committed.promoted
    rcases Nat.lt_trichotomy m k with later | same | sooner
    · exact ⟨k,later,earlier.le,signs.promotes⟩
    · obtain ⟨_,_,acted,_⟩ := drops
      obtain ⟨_,_,_,_,acted',_⟩ := signs
      cases acted.symm.trans (same ▸ acted')
    · exact absurd (signs.below.trans_le (kept sooner).next) old

end MediaRun

-- What the retention of one run leaves of the evidence.
structure RetentionLaw (settings : Settings) (media : MediaSettings) (run : MediaRun) : Prop where
  -- A run of the retention leaves row, blob and preview of every scan that is not failed, or failed within the window.
  referenced : ∀ n now listing row sha256, run.actions n = .retention now listing →
    (run.db settings media n).getEvent row.id = some row → sha256 ∈ row.mediaHashes →
    row.status ≠ .failed ∨ now-FAILED_RECHECK_S ≤ row.ts →
    (run.store settings media (n+1)).getMedia sha256 = (run.store settings media n).getMedia sha256 ∧
      ∀ kind, (run.store settings media (n+1)).files.get ⟨sha256,kind⟩ = (run.store settings media n).files.get ⟨sha256,kind⟩
  -- The evidence stays throughout exactly in the runs that revive no scan whose bytes were dropped.
  evidence : ∀ n, (∀ m ≤ n, run.EvidenceKept settings media m) ↔ ∀ m < n, run.SparesDropped settings media m
  -- Reviving scans within the window is enough.
  window : ∀ n, (∀ m < n, run.InWindow settings media m) → ∀ m ≤ n, run.EvidenceKept settings media m

theorem retention_law (settings : Settings) (media : MediaSettings) (run : MediaRun) : RetentionLaw settings media run where
  referenced n now listing row sha256 acted found names safe := by
    have inside : sha256 ∈ referencedMedia (run.db settings media n) (now-FAILED_RECHECK_S) := by
      by_contra outside
      obtain ⟨failed,old⟩ := referenced found names outside
      rcases safe with other | recent
      · exact other failed
      · omega
    unfold MediaRun.store
    rw [MediaRun.world_succ,acted]
    exact MediaStore.retention_keeps inside
  evidence n := by
    constructor
    · intro evidence m before
      exact MediaRun.spares_dropped (evidence (m+1) before)
    · intro spares m within
      exact MediaRun.evidence_kept m fun j before => spares j (by omega)
  window n inside m within := by
    refine MediaRun.evidence_kept m ?_
    intro j before
    exact (inside j (by omega)).spares

-- The first record_scan of a certified scan fails and its attester posts it; the second one, recorded right after, is
-- posted eight days later, with a run of the retention in between.
namespace LateConfirmation
open Attachments (issuer reads post now)
open Sighted (around body tapped confirm recording)

def frames : Bytes32 := hashOf [7]
def muchLater : I64 := ⟨691300,by decide⟩
def settings : Settings := .sample
def media : MediaSettings := ⟨7*86400,false⟩

theorem second_tier : 2 < 5 := by decide

def certified : VerifyBody := {body with tier := ⟨2,second_tier⟩
                                         attester := some (.key issuer)
                                         mediaHash := some "0700000000000000000000000000000000000000000000000000000000000000"}

def failing : TxResult := {recording with signatures := ["fail"]
                                          err := some "SealReplay"}

def postFailure : Action :=
  .confirm ⟨some 4,none,none,some "fail",none,some (.key issuer),none,none,none,none,none,none,none,none⟩ 4 (reads failing)

def serve (action : Action) : MediaAction := .serve action 100 none

def run : MediaRun := ⟨fun
  | 0 => serve (.postEvent (post .mint "mint" none) (reads Attachments.minting) now)
  | 2 => serve (.postEvent (post .sealAttach "attach" (some "04000000000001")) (reads Attachments.attaching) now)
  | 4 => serve (.session Sighted.session now)
  | 5 => .upload ⟨Sighted.session,frames,10,1,.jpeg,[10],100⟩ 100
  | 6 => serve (.tagLanding tapped around false)
  | 7 => serve (.verify certified {around with tapIds := [8]})
  | 8 => serve postFailure
  | 10 => .retention 691300 []
  | 11 => serve (confirm 4)
  | 12 => serve (.finish 0 muchLater)
  | _ => serve (.finish 0 now)⟩

theorem signed_here : ((run.world settings media 7).signing settings (.verify certified {around with tapIds := [8]})).any
    (fun signed => decide (2 ≤ signed.1.tier.val ∧ signed.1.mediaHash.bind parseHash = some frames ∧
      ((run.store settings media 7).staged.get (signed.2.bundle.nonce,frames)).isSome ∧ signed.2.eventId = 4)) = true := by
  decide +kernel

theorem confirmed_here : ((run.db settings media 13).getEvent 4).any
    (fun row => decide (row.status = .confirmed ∧ frames ∈ row.mediaHashes)) = true := by
  decide +kernel

-- The clocks never go back, and the evidence is gone.
theorem evidence_lost : ((List.range 13).filterMap fun n => (run.actions n).clock).Pairwise (· ≤ ·) ∧
    ¬∀ n, run.EvidenceKept settings media n := by
  refine ⟨by decide +kernel,?_⟩
  intro evidence
  obtain ⟨row,found,known⟩ := (Option.any_eq_true _ _).mp confirmed_here
  obtain ⟨confirmed,names⟩ := of_decide_eq_true known
  obtain ⟨signed,signing,parts⟩ := (Option.any_eq_true _ _).mp signed_here
  obtain ⟨tier,hash,staged,id⟩ := of_decide_eq_true parts
  have named : row.id = 4 := (Database.getEvent_some.mp found).2
  have signs : run.Signs settings media 7 row.id frames :=
    ⟨_,100,signed.1,signed.2,rfl,signing,tier,hash,staged,named ▸ id⟩
  rcases evidence 13 row frames ⟨named ▸ found,names,7,by decide,signs⟩ confirmed with held | linked | linked
  · exact absurd held (by decide +kernel)
  · exact absurd linked (by decide +kernel)
  · rw [named] at linked
    exact absurd linked (by decide +kernel)

end LateConfirmation
end FlaconVault.Verifier
