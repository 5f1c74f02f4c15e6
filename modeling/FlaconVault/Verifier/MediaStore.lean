import FlaconVault.Verifier.Server
namespace FlaconVault.Verifier

-- The frames of POST /api/media: staged under the nonce they were sent with, kept once a signed scan commits to them,
-- dropped when no scan names them any more. Only the three image types pass the upload.
inductive ImageType where
  | jpeg | png | webp
  deriving DecidableEq

-- <sha256>.bin, or <sha256>.preview.<ext>.
inductive FileKind where
  | blob | preview (type : ImageType)
  deriving DecidableEq

structure FileName where
  sha256 : Bytes32
  kind : FileKind
  deriving DecidableEq

structure MediaFile where
  name : FileName
  bytes : ℕ
  mtime : Int
  deriving DecidableEq

structure StagedUpload where
  nonce : Bytes32
  sha256 : Bytes32
  bytes : ℕ
  files : ℕ
  contentType : ImageType
  sizes : List ℕ
  mtime : Int
  deriving DecidableEq

structure MediaRow where
  sha256 : Bytes32
  bytes : ℕ
  files : ℕ
  contentType : ImageType
  ar : Option String
  url : Option String
  arPreview : Option String
  createdAt : Int
  deriving DecidableEq

-- The columns ar_bundle and ar_media of an event.
structure ArchiveRow where
  eventId : ℕ
  arBundle : Option String
  arMedia : Option String
  deriving DecidableEq

structure MediaStore where
  staged : Table fun upload : StagedUpload => (upload.nonce,upload.sha256)
  files : Table MediaFile.name
  rows : Table MediaRow.sha256
  archive : Table ArchiveRow.eventId

structure MediaSettings where
  mediaRetention : ℕ
  arweave : Bool

-- What an upload to Arweave answers.
structure Link where
  ar : String
  url : String

-- Where the disk may fail while an upload is promoted: reading or moving what is staged, or writing the preview.
inductive PromoteFault where
  | staging | preview
  deriving DecidableEq

-- The hashes in $.media of the payload.
def EventRow.mediaHashes (row : EventRow) : List Bytes32 :=
  match row.payload.signedScan with
  | some scan => scan.bundle.media.map (·.sha256)
  | none => []

namespace MediaStore

def empty : MediaStore := ⟨.empty,.empty,.empty,.empty⟩

def getMedia (store : MediaStore) (sha256 : Bytes32) : Option MediaRow := store.rows.get sha256

-- Are the bytes on disk?
def held (store : MediaStore) (sha256 : Bytes32) : Bool := (store.files.get ⟨sha256,.blob⟩).isSome

-- A known row keeps its size and its age.
def upsertMedia (store : MediaStore) (row : MediaRow) : MediaStore :=
  let merged := match store.getMedia row.sha256 with
    | none => row
    | some old => {old with ar := row.ar <|> old.ar
                            url := row.url <|> old.url
                            arPreview := row.arPreview <|> old.arPreview
                            contentType := row.contentType
                            sha256 := row.sha256}
  {store with rows := store.rows.put merged}

-- A staged upload; bytes that are there already stay.
def finalize (store : MediaStore) (upload : StagedUpload) : MediaStore :=
  let mtime := ((store.staged.get (upload.nonce,upload.sha256)).map (·.mtime)).getD upload.mtime
  {store with staged := store.staged.put {upload with mtime := mtime}}

def discard (store : MediaStore) (nonce : Bytes32) : MediaStore :=
  {store with staged := store.staged.delete (·.nonce == nonce)}

def addFile (store : MediaStore) (file : MediaFile) : MediaStore := {store with files := store.files.ensure file}

-- The staged upload leaves staging: blob, first frame as preview, media row.
def keep (store : MediaStore) (upload : StagedUpload) (ts wall : Int) (fault : Option PromoteFault) : MediaStore :=
  let moved := store.addFile ⟨⟨upload.sha256,.blob⟩,upload.bytes,upload.mtime⟩
  let row : MediaRow := ⟨upload.sha256,upload.bytes,upload.files,upload.contentType,none,none,none,ts⟩
  match upload.sizes with
  | first :: _ :: _ =>
    let preview : FileName := ⟨upload.sha256,.preview upload.contentType⟩
    if fault = some .preview ∧ moved.files.get preview = none then moved
    else (moved.addFile ⟨preview,min first upload.bytes,wall⟩).upsertMedia row
  | _ => moved.upsertMedia row

-- A VALID /api/verify consumed the nonce: the upload with its hash is kept, everything else under the nonce goes.
def promote (store : MediaStore) (nonce sha256 : Bytes32) (ts wall : Int) (fault : Option PromoteFault) : MediaStore :=
  let kept := match store.staged.get (nonce,sha256) with
    | some upload => if fault = some PromoteFault.staging then store else store.keep upload ts wall fault
    | none => store
  kept.discard nonce

-- Staging directories of nonces that are expired, consumed or gone.
def purge (store : MediaStore) (db : Database) (now : Int) : MediaStore :=
  let ended (upload : StagedUpload) : Bool :=
    match db.getNonce upload.nonce with
    | some row => row.usedAt.isSome || decide (row.expiresAt < now)
    | none => true
  {store with staged := store.staged.delete ended}

end MediaStore

def RETENTION_BATCH : ℕ := 200

-- The media of every event that is not failed, or failed but signed at or after `failedSince`.
def referencedMedia (db : Database) (failedSince : Int) : List Bytes32 :=
  (db.events.rows.filter fun row => row.status ≠ .failed || decide (failedSince ≤ row.ts)).flatMap (·.mediaHashes)

namespace MediaStore

-- The rows older than the retention that nothing references, oldest first.
def doomed (store : MediaStore) (kept : List Bytes32) (cutoff : Int) (batch : ℕ) : List Bytes32 :=
  let old := (store.rows.rows.filter fun row => decide (row.createdAt < cutoff)).insertionSort fun a b => a.createdAt ≤ b.createdAt
  ((old.map (·.sha256)).filter fun sha256 => !kept.contains sha256).take batch

def dropMedia (store : MediaStore) (doomed : List Bytes32) : MediaStore :=
  {store with rows := store.rows.delete fun row => doomed.contains row.sha256
              files := store.files.delete fun file => doomed.contains file.name.sha256}

-- Old files without a row, in the order the directory lists them.
def orphans (store : MediaStore) (kept : List Bytes32) (cutoff : Int) (listing : List FileName) (batch : ℕ) : List FileName :=
  (listing.filter fun name => (store.getMedia name.sha256).isNone && !kept.contains name.sha256 &&
    (store.files.get name).any fun file => decide (file.mtime < cutoff)).take batch

def dropFiles (store : MediaStore) (names : List FileName) : MediaStore :=
  {store with files := store.files.delete fun file => names.contains file.name}

-- Both selections of one run of the retention.
def selected (media : MediaSettings) (db : Database) (store : MediaStore) (now failedSince : Int) (listing : List FileName)
    (batch : ℕ) : List Bytes32 × List FileName :=
  if media.mediaRetention = 0 then ([],[])
  else
    let cutoff := now-media.mediaRetention
    let kept := referencedMedia db failedSince
    let rows := store.doomed kept cutoff batch
    (rows,(store.dropMedia rows).orphans kept cutoff listing batch)

def retention (media : MediaSettings) (db : Database) (store : MediaStore) (now failedSince : Int) (listing : List FileName)
    (batch : ℕ) : MediaStore :=
  let purged := store.purge db now
  let chosen := purged.selected media db now failedSince listing batch
  (purged.dropMedia chosen.1).dropFiles chosen.2

-- Uploads a kept blob that has no link yet: archived or not, or nothing to do.
def archiveMedia (media : MediaSettings) (store : MediaStore) (sha256 : Bytes32) (sent previewSent : Option Link) :
    MediaStore × Option Bool :=
  match store.getMedia sha256 with
  | none => (store,none)
  | some row =>
    if media.arweave = false then (store,none)
    else if row.ar.isSome then (store,some true)
    else if store.held row.sha256 = false then (store,none)
    else match sent with
      | none => (store,some false)
      | some link =>
        let hasPreview := store.files.rows.any fun file => file.name.sha256 == row.sha256 && file.name.kind != .blob
        let preview := if row.files = 1 then some link.url
          else if hasPreview then previewSent.map (·.url) else none
        (store.upsertMedia {row with ar := some link.ar
                                     url := some link.url
                                     arPreview := preview},some true)

def getArchive (store : MediaStore) (eventId : ℕ) : ArchiveRow := (store.archive.get eventId).getD ⟨eventId,none,none⟩

def setEventArweave (store : MediaStore) (eventId : ℕ) (arBundle arMedia : Option String) : MediaStore :=
  let old := store.getArchive eventId
  {store with archive := store.archive.put ⟨eventId,arBundle <|> old.arBundle,arMedia <|> old.arMedia⟩}

-- One scan of the archiving queue: its media first, then the link to it, then the bundle.
def archiveScan (media : MediaSettings) (store : MediaStore) (event : EventRow) (sent previewSent : Option Link)
    (bundle : Option String) : MediaStore :=
  let old := store.getArchive event.id
  let (store,arMedia) := match old.arMedia,event.mediaHashes with
    | none,sha256 :: _ =>
      let archived := if media.arweave then (store.archiveMedia media sha256 sent previewSent).1 else store
      (archived,(archived.getMedia sha256).bind fun row => row.arPreview <|> row.url)
    | known,_ => (store,known)
  let arBundle := if old.arBundle = none ∧ media.arweave then bundle else old.arBundle
  store.setEventArweave event.id arBundle arMedia

end MediaStore

-- The verifier with its media directory.
structure MediaWorld where
  server : Server
  store : MediaStore

def MediaWorld.start : MediaWorld := ⟨Server.start,.empty⟩

-- A request or a cycle of the server, a frame upload, a purge of the staging area, one upload of the archiving queue, the
-- retention at the end of a cycle. `wall` is the time of the files a promotion writes.
inductive MediaAction where
  | serve (action : Action) (wall : Int) (fault : Option PromoteFault)
  | upload (upload : StagedUpload) (now : Int)
  | purge (now : Int)
  | archive (eventId : ℕ) (sent previewSent : Option Link) (bundle : Option String)
  | retention (now : Int) (listing : List FileName)

-- The clock as the action reads it; the second half of a request or cycle goes on with what the first half read.
def MediaAction.clock : MediaAction → Option Int
  | .serve (.tagLanding _ around _) _ _ => some around.now.val
  | .serve (.verify _ around) _ _ => some around.now.val
  | .serve (.session _ now) _ _ => some now.val
  | .serve (.report _ now _) _ _ => some now.val
  | .serve (.postEvent _ _ now) _ _ => some now.val
  | .serve (.reconcile _ ts) _ _ => some ts.val
  | .serve (.finish _ now) _ _ => some now.val
  | .serve _ _ _ => none
  | .upload _ now => some now
  | .purge now => some now
  | .archive _ _ _ _ => none
  | .retention now _ => some now

namespace MediaWorld
variable (settings : Settings) (media : MediaSettings) (world : MediaWorld)

-- The request sees the link of the row that has its hash.
def informed : Action → Action
  | .verify body around =>
    let row := (body.mediaHash.bind parseHash).bind world.store.getMedia
    .verify body {around with mediaAr := row.bind (·.ar)}
  | action => action

-- The scan that a request signs.
def signing (action : Action) : Option (VerifyBody × SignedScan) :=
  match world.informed action with
  | .verify body around =>
    match (Server.step settings world.server (.verify body around)).2 with
    | .verified answer => answer.signed.map fun scan => (body,scan)
    | _ => none
  | _ => none

-- What the signing of a scan does to the uploads under its nonce.
def promoted (action : Action) (wall : Int) (fault : Option PromoteFault) : MediaStore :=
  match world.signing settings action with
  | some (body,scan) =>
    match if body.tier.val ≥ 2 then body.mediaHash.bind parseHash else none with
    | some sha256 => world.store.promote scan.bundle.nonce sha256 scan.ts wall fault
    | none => world.store.discard scan.bundle.nonce
  | none => world.store

-- An upload needs a live nonce; the queue holds confirmed scans with a bundle.
def step : MediaAction → MediaWorld
  | .serve action wall fault =>
    ⟨(Server.step settings world.server (world.informed action)).1,world.promoted settings action wall fault⟩
  | .upload upload now =>
    if (world.server.db.getNonce upload.nonce).any fun row => row.usedAt.isNone && decide (now ≤ row.expiresAt) then
      {world with store := world.store.finalize upload}
    else world
  | .purge now => {world with store := world.store.purge world.server.db now}
  | .archive eventId sent previewSent bundle =>
    match (world.server.db.getEvent eventId).filter (·.confirmedScan) with
    | some event => {world with store := world.store.archiveScan media event sent previewSent bundle}
    | none => world
  | .retention now listing =>
    {world with store := world.store.retention media world.server.db now (now-FAILED_RECHECK_S) listing RETENTION_BATCH}

end MediaWorld

structure MediaRun where
  actions : ℕ → MediaAction

namespace MediaRun
variable (settings : Settings) (media : MediaSettings) (run : MediaRun)

def world (n : ℕ) : MediaWorld :=
  Runs.reached (fun action world => MediaWorld.step settings media world action) MediaWorld.start run.actions n

def db (n : ℕ) : Database := (run.world settings media n).server.db
def store (n : ℕ) : MediaStore := (run.world settings media n).store

-- The run of the server inside it; a step of the media directory alone is one that leaves the server as it is.
def plain : Run := ⟨fun n =>
  match run.actions n with
  | .serve action _ _ => (run.world settings media n).informed action
  | _ => .preview ⟨none,none,none,none,none⟩⟩

end MediaRun

-- What each operation of the directory leaves of the blobs and the rows.
namespace MediaStore
variable {store : MediaStore} {sha256 : Bytes32}

theorem held_addFile (file : MediaFile) : (store.addFile file).held sha256 = (decide (file.name = ⟨sha256,.blob⟩) || store.held sha256) := by
  unfold held addFile
  rw [Table.get_ensure]
  by_cases here : file.name = ⟨sha256,.blob⟩
  · rw [if_pos here.symm]
    simp [here]
  · rw [if_neg fun same => here same.symm]
    simp [here]

@[simp] theorem upsertMedia_held (row : MediaRow) : (store.upsertMedia row).held sha256 = store.held sha256 := rfl
@[simp] theorem discard_held (nonce : Bytes32) : (store.discard nonce).held sha256 = store.held sha256 := rfl
@[simp] theorem discard_getMedia (nonce : Bytes32) : (store.discard nonce).getMedia sha256 = store.getMedia sha256 := rfl
@[simp] theorem addFile_getMedia (file : MediaFile) : (store.addFile file).getMedia sha256 = store.getMedia sha256 := rfl
@[simp] theorem purge_held (db : Database) (now : Int) : (store.purge db now).held sha256 = store.held sha256 := rfl
@[simp] theorem purge_getMedia (db : Database) (now : Int) : (store.purge db now).getMedia sha256 = store.getMedia sha256 := rfl
@[simp] theorem finalize_held (upload : StagedUpload) : (store.finalize upload).held sha256 = store.held sha256 := rfl
@[simp] theorem finalize_getMedia (upload : StagedUpload) : (store.finalize upload).getMedia sha256 = store.getMedia sha256 := rfl
@[simp] theorem setEventArweave_held (eventId : ℕ) (arBundle arMedia : Option String) :
    (store.setEventArweave eventId arBundle arMedia).held sha256 = store.held sha256 := rfl
@[simp] theorem setEventArweave_getMedia (eventId : ℕ) (arBundle arMedia : Option String) :
    (store.setEventArweave eventId arBundle arMedia).getMedia sha256 = store.getMedia sha256 := rfl

-- A row that is upserted is its own, and there before or new.
theorem upsertMedia_getMedia (row : MediaRow) : ((store.upsertMedia row).getMedia sha256).isSome =
    (decide (row.sha256 = sha256) || (store.getMedia sha256).isSome) := by
  unfold upsertMedia
  extract_lets merged
  have named : merged.sha256 = row.sha256 := by
    simp only [merged]
    split <;> rfl
  have found : (({store with rows := store.rows.put merged} : MediaStore).getMedia sha256) =
      if sha256 = merged.sha256 then some merged else store.getMedia sha256 := Table.get_put
  rw [found,named]
  by_cases here : row.sha256 = sha256
  · rw [if_pos here.symm]
    simp [here]
  · rw [if_neg fun same => here same.symm]
    simp [here]

theorem keep_held (upload : StagedUpload) (ts wall : Int) (fault : Option PromoteFault) :
    (store.keep upload ts wall fault).held sha256 = (decide (upload.sha256 = sha256) || store.held sha256) := by
  have moved : (store.addFile ⟨⟨upload.sha256,.blob⟩,upload.bytes,upload.mtime⟩).held sha256 =
      (decide (upload.sha256 = sha256) || store.held sha256) := by
    rw [held_addFile]
    simp
  unfold keep
  dsimp only
  split
  · split
    · exact moved
    · rw [upsertMedia_held,held_addFile,moved]
      simp
  · exact moved

-- What keeps no row of its own hash was in the table before.
theorem keep_getMedia {upload : StagedUpload} {ts wall : Int} {fault : Option PromoteFault}
    (there : ((store.keep upload ts wall fault).getMedia sha256).isSome) :
    upload.sha256 = sha256 ∨ (store.getMedia sha256).isSome := by
  unfold keep at there
  dsimp only at there
  split at there
  · split at there
    · exact .inr there
    · rw [upsertMedia_getMedia] at there
      simpa using there
  · rw [upsertMedia_getMedia] at there
    simpa using there

theorem archiveMedia_held (media : MediaSettings) (named : Bytes32) (sent previewSent : Option Link) :
    (store.archiveMedia media named sent previewSent).1.held sha256 = store.held sha256 := by
  unfold archiveMedia
  split
  · rfl
  · split
    · rfl
    · split
      · rfl
      · split
        · rfl
        · split <;> rfl

-- Archiving adds no row.
theorem archiveMedia_getMedia (media : MediaSettings) (named : Bytes32) (sent previewSent : Option Link) :
    ((store.archiveMedia media named sent previewSent).1.getMedia sha256).isSome = (store.getMedia sha256).isSome := by
  unfold archiveMedia
  split
  · rfl
  · rename_i row found
    split
    · rfl
    · split
      · rfl
      · split
        · rfl
        · split
          · rfl
          · rw [upsertMedia_getMedia]
            by_cases here : row.sha256 = sha256
            · have same : row.sha256 = named := (Table.get_some.mp found).2
              rw [← here,same,found]
              simp
            · simp [here]

theorem archiveScan_held (media : MediaSettings) (event : EventRow) (sent previewSent : Option Link) (bundle : Option String) :
    (store.archiveScan media event sent previewSent bundle).held sha256 = store.held sha256 := by
  unfold archiveScan
  dsimp only
  rw [setEventArweave_held]
  split
  · dsimp only
    split
    · exact archiveMedia_held media _ sent previewSent
    · rfl
  · rfl

theorem archiveScan_getMedia (media : MediaSettings) (event : EventRow) (sent previewSent : Option Link) (bundle : Option String) :
    ((store.archiveScan media event sent previewSent bundle).getMedia sha256).isSome = (store.getMedia sha256).isSome := by
  unfold archiveScan
  dsimp only
  rw [setEventArweave_getMedia]
  split
  · dsimp only
    split
    · exact archiveMedia_getMedia media _ sent previewSent
    · rfl
  · rfl

theorem archiveMedia_archive (media : MediaSettings) (named : Bytes32) (sent previewSent : Option Link) :
    (store.archiveMedia media named sent previewSent).1.archive = store.archive := by
  unfold archiveMedia
  split
  · rfl
  · split
    · rfl
    · split
      · rfl
      · split
        · rfl
        · split <;> rfl

-- Archiving one scan leaves the columns of the others.
theorem archiveScan_other (media : MediaSettings) {event : EventRow} {id : ℕ} (other : id ≠ event.id) (sent previewSent : Option Link)
    (bundle : Option String) : (store.archiveScan media event sent previewSent bundle).getArchive id = store.getArchive id := by
  have untouched (named : MediaStore) (same : named.archive = store.archive) (arBundle arMedia : Option String) :
      (named.setEventArweave event.id arBundle arMedia).getArchive id = store.getArchive id := by
    unfold setEventArweave getArchive
    dsimp only
    rw [Table.get_put,if_neg other,same]
  unfold archiveScan
  dsimp only
  refine untouched _ ?_ _ _
  split
  · dsimp only
    split
    · exact archiveMedia_archive media _ sent previewSent
    · rfl
  · rfl

-- What the retention drops: the blobs of both selections.
def dropped (media : MediaSettings) (db : Database) (store : MediaStore) (now : Int) (listing : List FileName) (sha256 : Bytes32) : Bool :=
  let chosen := (store.purge db now).selected media db now (now-FAILED_RECHECK_S) listing RETENTION_BATCH
  chosen.1.contains sha256 || chosen.2.contains ⟨sha256,.blob⟩

end MediaStore
end FlaconVault.Verifier
