import FlaconVault.Lib.Loops
import FlaconVault.Verifier.Retention
namespace FlaconVault.Verifier

-- The archiving queue: a backfill after the cycles of the reconcile job uploads what confirmed scans still lack, and
-- notes each attempt.
inductive UploadError where
  | uploadFailed | insufficientBalance | timeout | sidecarUnavailable | keyInvalid
  deriving DecidableEq

-- Failures that would hit every other upload too.
def GLOBAL_ERROR_CODES : List UploadError := [.sidecarUnavailable,.keyInvalid,.timeout]

def BACKOFF_BASE_S : ℕ := 60
def BACKOFF_MAX_S : ℕ := 3600
def BACKFILL_PER_CYCLE : ℕ := 5
def ROW_BACKOFF_BASE_S : ℕ := 300
def ROW_BACKOFF_MAX_S : ℕ := 6*3600

-- One run of the sidecar: what it answered, and when.
structure Upload where
  wall : Int
  result : Except UploadError Link

namespace Upload
variable (upload : Upload)

def link : Option Link := upload.result.toOption

def error : Option UploadError :=
  match upload.result with
  | .ok _ => none
  | .error code => some code

def failedGlobally : Bool := upload.error.any GLOBAL_ERROR_CODES.contains

end Upload

-- What the process remembers of its uploads.
structure ArchiveStatus where
  uploads : ℕ
  failures : ℕ
  consecutiveFailures : ℕ
  lastOkAt : Option Int
  lastErrorAt : Option Int
  lastErrorCode : Option UploadError
  deriving DecidableEq

namespace ArchiveStatus

def initial : ArchiveStatus := ⟨0,0,0,none,none,none⟩

def record (status : ArchiveStatus) (upload : Upload) : ArchiveStatus :=
  match upload.error with
  | none => {status with uploads := status.uploads+1
                         consecutiveFailures := 0
                         lastOkAt := some upload.wall}
  | some code => {status with failures := status.failures+1
                              consecutiveFailures := status.consecutiveFailures+1
                              lastErrorAt := some upload.wall
                              lastErrorCode := some code}

-- The wait after consecutive failures.
def inBackoff (status : ArchiveStatus) (now : Int) : Bool :=
  status.consecutiveFailures != 0 && status.lastErrorAt.any fun last =>
    decide (now-last < min BACKOFF_MAX_S (BACKOFF_BASE_S*2^(status.consecutiveFailures-1)))

end ArchiveStatus

-- The wait before a scan whose archiving failed so many times is tried again.
def rowBackoff (attempts : ℕ) : ℕ := min ROW_BACKOFF_MAX_S (ROW_BACKOFF_BASE_S*2^(attempts-1))

structure QueueRow where
  eventId : ℕ
  attempts : ℕ
  nextAt : Int
  done : Bool
  lastError : Option UploadError
  updatedAt : Int
  deriving DecidableEq

-- The media directory, the table arweave_queue and the state of the process.
structure Archive where
  store : MediaStore
  queue : Table QueueRow.eventId
  status : ArchiveStatus

namespace Archive
variable (archive : Archive)

def start : Archive := ⟨.empty,.empty,.initial⟩

def attempts (eventId : ℕ) : ℕ := (archive.queue.get eventId).elim 0 (·.attempts)
def nextAt (eventId : ℕ) : Int := (archive.queue.get eventId).elim 0 (·.nextAt)
def done (eventId : ℕ) : Bool := (archive.queue.get eventId).any (·.done)

-- A scan without bundle link, or without media link although it has media.
def lacking (event : EventRow) : Bool :=
  let links := archive.store.getArchive event.id
  links.arBundle.isNone || links.arMedia.isNone && event.mediaHashes.head?.isSome

-- The WHERE of arweave_queue.
def due (event : EventRow) (now : Int) : Bool :=
  event.confirmedScan && !archive.done event.id && decide (archive.nextAt event.id ≤ now) && archive.lacking event

-- ORDER BY attempts ASC, id DESC.
def sooner (event other : EventRow) : Prop :=
  archive.attempts event.id < archive.attempts other.id ∨
    archive.attempts event.id = archive.attempts other.id ∧ other.id ≤ event.id

instance sooner_decidable (event other : EventRow) : Decidable (archive.sooner event other) := by
  unfold sooner
  infer_instance

def arweaveQueue (db : Database) (now : Int) (limit : ℕ) : List EventRow :=
  ((db.events.rows.filter (archive.due · now)).insertionSort archive.sooner).take limit

def setArweaveAttempt (eventId : ℕ) (done : Bool) (error : Option UploadError) (nextAt ts : Int) : Archive :=
  let attempts := archive.attempts eventId+if done then 0 else 1
  {archive with queue := archive.queue.put ⟨eventId,attempts,nextAt,done,error,ts⟩}

end Archive

namespace MediaStore
variable (store : MediaStore)

-- The hash of a scan whose media has no link yet.
def unlinked (event : EventRow) : Option Bytes32 :=
  if (store.getArchive event.id).arMedia.isNone then event.mediaHashes.head? else none

-- The stored blob that is still to be uploaded.
def unarchived (sha256 : Bytes32) : Option MediaRow :=
  (store.getMedia sha256).filter fun row => row.ar.isNone && store.held row.sha256

def hasPreview (sha256 : Bytes32) : Bool := store.files.rows.any fun file => file.name.sha256 == sha256 && file.name.kind != .blob

end MediaStore

-- What the sidecar would answer to the uploads of a scan.
structure Replies where
  media : Upload
  preview : Upload
  bundle : Upload

namespace Replies
variable (replies : Replies)

-- The uploads of the media of a scan: the frames, and their preview once they are up.
def frames (store : MediaStore) (event : EventRow) : List Upload :=
  ((store.unlinked event).bind store.unarchived).elim [] fun row =>
    replies.media :: if replies.media.link.isSome ∧ row.files ≠ 1 ∧ store.hasPreview row.sha256 then [replies.preview] else []

-- Every upload that archiving a scan makes, in their order: its media first.
def uploads (store : MediaStore) (event : EventRow) : List Upload :=
  replies.frames store event ++ if (store.getArchive event.id).arBundle.isNone then [replies.bundle] else []

end Replies

-- One attempt: the scan, its uploads, whether its bundle is up, what became of its media, and the code of its failure.
structure Trial where
  event : EventRow
  uploads : List Upload
  bundled : Bool
  mediaResult : Option Bool
  code : Option UploadError

namespace Trial
variable (trial : Trial)

def failed : Bool := !trial.bundled || trial.mediaResult == some false

-- Does the cycle break after it?
def stops : Bool := trial.code.any GLOBAL_ERROR_CODES.contains

end Trial

inductive Skip where
  | disabled | backoff
  deriving DecidableEq

structure BackfillReport where
  attempted : ℕ
  archived : ℕ
  failed : ℕ
  mediaFailed : ℕ
  skipped : Option Skip
  deriving DecidableEq

def BackfillReport.of (trials : List Trial) : BackfillReport :=
  ⟨trials.length,trials.countP (·.bundled),trials.countP (!·.bundled),trials.countP (·.mediaResult == some false),none⟩

namespace Archive
variable (media : MediaSettings) (archive : Archive)

-- One turn of the backfill: archive_scan, the failures it counted, the attempt.
def archiveOne (replies : ℕ → Replies) (now : Int) (archive : Archive) (event : EventRow) : Archive × Trial :=
  let answers := replies event.id
  let uploads := answers.uploads archive.store event
  let mediaResult := (archive.store.unlinked event).bind fun sha256 =>
    (archive.store.archiveMedia media sha256 answers.media.link answers.preview.link).2
  let store := archive.store.archiveScan media event answers.media.link answers.preview.link (answers.bundle.link.map (·.ar))
  let status := uploads.foldl ArchiveStatus.record archive.status
  let code := if archive.status.failures < status.failures then status.lastErrorCode else none
  let trial : Trial := ⟨event,uploads,(store.getArchive event.id).arBundle.isSome,mediaResult,code⟩
  let attempts := archive.attempts event.id+if trial.failed then 1 else 0
  let tried : Archive := ⟨store,archive.queue,status⟩
  (tried.setArweaveAttempt event.id (!trial.failed) (if trial.failed then some (code.getD .uploadFailed) else none)
    (if trial.failed then now+rowBackoff attempts else 0) now,trial)

-- The turns over the selected scans: the loop breaks after a global failure.
def cycle (replies : ℕ → Replies) (now : Int) (events : List EventRow) : Archive × List Trial :=
  Loops.breaking (archiveOne media replies now) Trial.stops archive events

-- Disabled, or the sidecar, the key or Irys itself was down a moment ago.
def skipped (now : Int) : Option Skip :=
  if media.arweave = false then some .disabled
  else if archive.status.lastErrorCode.any GLOBAL_ERROR_CODES.contains && archive.status.inBackoff now then some .backoff
  else none

-- The scans a backfill selects.
def selected (db : Database) (now : Int) (limit : ℕ) : List EventRow :=
  if (archive.skipped media now).isSome then [] else archive.arweaveQueue db now limit

def backfill (db : Database) (replies : ℕ → Replies) (now : Int) (limit : ℕ) : Archive × BackfillReport × List Trial :=
  match archive.skipped media now with
  | some skip => (archive,⟨0,0,0,0,some skip⟩,[])
  | none =>
    let ended := archive.cycle media replies now (archive.arweaveQueue db now limit)
    (ended.1,.of ended.2,ended.2)

end Archive

-- The verifier with its archiving queue.
structure ArchiveWorld where
  server : Server
  archive : Archive

-- What happens to the server and its media directory, a backfill, a restart of the process.
inductive ArchiveAction where
  | other (action : MediaAction)
  | backfill (replies : ℕ → Replies) (now : Int) (limit : ℕ)
  | restart

namespace ArchiveWorld
variable (settings : Settings) (media : MediaSettings) (world : ArchiveWorld)

def start : ArchiveWorld := ⟨Server.start,.start⟩

def directory : MediaWorld := ⟨world.server,world.archive.store⟩

-- Nothing but the backfill uploads.
def step : ArchiveAction → ArchiveWorld
  | .other (.archive _ _ _ _) => world
  | .other action =>
    let next := world.directory.step settings media action
    ⟨next.server,{world.archive with store := next.store}⟩
  | .backfill replies now limit => {world with archive := (world.archive.backfill media world.server.db replies now limit).1}
  | .restart => {world with archive := {world.archive with status := .initial}}

end ArchiveWorld

structure ArchiveRun where
  actions : ℕ → ArchiveAction

namespace ArchiveRun
variable (settings : Settings) (media : MediaSettings) (run : ArchiveRun)

def world (n : ℕ) : ArchiveWorld :=
  Runs.reached (fun action world => ArchiveWorld.step settings media world action) ArchiveWorld.start run.actions n

def db (n : ℕ) : Database := (run.world settings media n).server.db
def archive (n : ℕ) : Archive := (run.world settings media n).archive
def store (n : ℕ) : MediaStore := (run.archive settings media n).store

-- The run of the server inside it.
def plain : Run := ⟨fun n =>
  match run.actions n with
  | .other (.serve action _ _) => (run.world settings media n).directory.informed action
  | _ => .preview ⟨none,none,none,none,none⟩⟩

end ArchiveRun

-- The codes of the uploads that failed, in their order.
def Trial.failures (trial : Trial) : List UploadError := trial.uploads.filterMap Upload.error

namespace ArchiveStatus

theorem failures_record (status : ArchiveStatus) (uploads : List Upload) :
    (uploads.foldl record status).failures = status.failures+(uploads.filterMap Upload.error).length := by
  induction uploads generalizing status with
  | nil => rfl
  | cons upload rest ih =>
    rw [List.foldl_cons,ih]
    unfold record
    cases failed : upload.error with
    | none => rw [List.filterMap_cons_none failed]
    | some code =>
      rw [List.filterMap_cons_some failed,List.length_cons]
      dsimp only
      omega

theorem lastErrorCode_record (status : ArchiveStatus) (uploads : List Upload) :
    (uploads.foldl record status).lastErrorCode = ((uploads.filterMap Upload.error).getLast?).or status.lastErrorCode := by
  induction uploads generalizing status with
  | nil => rfl
  | cons upload rest ih =>
    rw [List.foldl_cons,ih]
    unfold record
    cases failed : upload.error with
    | none => rw [List.filterMap_cons_none failed]
    | some code =>
      rw [List.filterMap_cons_some failed,List.getLast?_cons]
      cases (rest.filterMap Upload.error).getLast? <;> rfl

end ArchiveStatus

-- What archiving leaves of the directory: blobs and rows stay, and so does every link.
structure Archives (store later : MediaStore) : Prop where
  held : ∀ sha256, later.held sha256 = store.held sha256
  known : ∀ sha256, (later.getMedia sha256).isSome = (store.getMedia sha256).isSome
  kept : ∀ sha256, (store.getMedia sha256).any (·.ar.isSome) = true → (later.getMedia sha256).any (·.ar.isSome) = true

theorem Archives.refl (store : MediaStore) : Archives store store := ⟨fun _ => rfl,fun _ => rfl,fun _ there => there⟩

theorem Archives.trans {store middle later : MediaStore} (first : Archives store middle) (second : Archives middle later) :
    Archives store later where
  held sha256 := (second.held sha256).trans (first.held sha256)
  known sha256 := (second.known sha256).trans (first.known sha256)
  kept sha256 there := second.kept sha256 (first.kept sha256 there)

-- A row without a link to its bytes has no other link either.
def LinksWhole (store : MediaStore) : Prop :=
  ∀ sha256 row, store.getMedia sha256 = some row → row.ar = none → row.url = none ∧ row.arPreview = none

namespace MediaStore
variable {media : MediaSettings} {store : MediaStore} {sha256 : Bytes32} {sent previewSent : Option Link}

theorem getMedia_upsert (row : MediaRow) : (store.upsertMedia row).getMedia sha256 =
    if sha256 = row.sha256 then some ((store.getMedia row.sha256).elim row fun old =>
      {old with ar := row.ar <|> old.ar
                url := row.url <|> old.url
                arPreview := row.arPreview <|> old.arPreview
                contentType := row.contentType
                sha256 := row.sha256}) else store.getMedia sha256 := by
  unfold upsertMedia
  extract_lets merged
  have named : merged.sha256 = row.sha256 := by
    simp only [merged]
    split <;> rfl
  have found : (({store with rows := store.rows.put merged} : MediaStore).getMedia sha256) =
      if sha256 = merged.sha256 then some merged else store.getMedia sha256 := Table.get_put
  have same : merged = (store.getMedia row.sha256).elim row fun old =>
      {old with ar := row.ar <|> old.ar
                url := row.url <|> old.url
                arPreview := row.arPreview <|> old.arPreview
                contentType := row.contentType
                sha256 := row.sha256} := by
    simp only [merged]
    cases store.getMedia row.sha256 <;> rfl
  rw [found,named,← same]

theorem upsert_whole (whole : LinksWhole store) {row : MediaRow} (own : row.ar = none → row.url = none ∧ row.arPreview = none) :
    LinksWhole (store.upsertMedia row) := by
  intro named found there bare
  rw [getMedia_upsert] at there
  split at there
  · cases known : store.getMedia row.sha256 with
    | none =>
      rw [known] at there
      cases Option.some.inj there
      exact own bare
    | some old =>
      rw [known] at there
      cases Option.some.inj there
      cases linked : row.ar with
      | some link => simp [linked] at bare
      | none =>
        have old_bare : old.ar = none := by simpa [linked] using bare
        simp [own linked,whole row.sha256 old known old_bare]
  · exact whole named found there bare

-- What the upload of a blob comes to: nothing to do, archived, or failed and left as it was.
inductive MediaOutcome (store : MediaStore) (sha256 : Bytes32) : MediaStore × Option Bool → Prop where
  | idle (lost : store.getMedia sha256 = none ∨ store.held sha256 = false) : MediaOutcome store sha256 (store,none)
  | known (row : MediaRow) (there : store.getMedia sha256 = some row) (linked : row.ar.isSome) : MediaOutcome store sha256 (store,some true)
  | failed (row : MediaRow) (there : store.getMedia sha256 = some row) (bare : row.ar = none) : MediaOutcome store sha256 (store,some false)
  | sent (row : MediaRow) (link : Link) (preview : Option String) (there : store.getMedia sha256 = some row) (bare : row.ar = none) :
    MediaOutcome store sha256 (store.upsertMedia {row with ar := some link.ar
                                                           url := some link.url
                                                           arPreview := preview},some true)

theorem archiveMedia_outcome (uploading : media.arweave = true) :
    MediaOutcome store sha256 (store.archiveMedia media sha256 sent previewSent) := by
  unfold archiveMedia
  split
  · rename_i absent
    exact .idle (.inl absent)
  · rename_i row there
    have named : row.sha256 = sha256 := (Table.get_some.mp there).2
    rw [if_neg (by simp [uploading])]
    split
    · rename_i linked
      exact .known row there linked
    · rename_i bare
      have unlinked : row.ar = none := by simpa using bare
      split
      · rename_i gone
        exact .idle (.inr (named ▸ gone))
      · split
        · exact .failed row there unlinked
        · exact .sent row _ _ there unlinked

theorem MediaOutcome.archives {result : MediaStore × Option Bool} (outcome : MediaOutcome store sha256 result) :
    Archives store result.1 := by
  cases outcome with
  | idle lost => exact .refl store
  | known row there linked => exact .refl store
  | failed row there bare => exact .refl store
  | sent row link preview there bare =>
    have named : row.sha256 = sha256 := (Table.get_some.mp there).2
    refine ⟨fun _ => rfl,?_,?_⟩
    · intro other
      rw [upsertMedia_getMedia]
      by_cases here : row.sha256 = other
      · simp [← here,named,there]
      · simp [here]
    · intro other linked
      rw [getMedia_upsert]
      split
      · simp [named,there]
      · exact linked

theorem MediaOutcome.whole {result : MediaStore × Option Bool} (outcome : MediaOutcome store sha256 result) (whole : LinksWhole store) :
    LinksWhole result.1 := by
  cases outcome with
  | idle lost => exact whole
  | known row there linked => exact whole
  | failed row there bare => exact whole
  | sent row link preview there bare => exact upsert_whole whole (by simp)


-- The directory after the media of a scan, before its links are stored.
def framed (media : MediaSettings) (store : MediaStore) (event : EventRow) (sent previewSent : Option Link) : MediaStore :=
  (store.unlinked event).elim store fun sha256 => (store.archiveMedia media sha256 sent previewSent).1

-- The link that a scan takes over from the row of its bytes.
def mediaLink (store : MediaStore) (sha256 : Bytes32) : Option String := (store.getMedia sha256).bind fun row => row.arPreview <|> row.url

variable {event : EventRow} {bundle : Option String}

theorem archiveScan_eq (uploading : media.arweave = true) : store.archiveScan media event sent previewSent bundle =
    (store.framed media event sent previewSent).setEventArweave event.id ((store.getArchive event.id).arBundle.or bundle)
      ((store.getArchive event.id).arMedia.or ((store.unlinked event).bind (store.framed media event sent previewSent).mediaLink)) := by
  have bundled : (if (store.getArchive event.id).arBundle = none ∧ media.arweave = true then bundle
      else (store.getArchive event.id).arBundle) = (store.getArchive event.id).arBundle.or bundle := by
    cases (store.getArchive event.id).arBundle <;> simp [uploading]
  unfold archiveScan framed unlinked
  dsimp only
  rw [bundled]
  cases linked : (store.getArchive event.id).arMedia with
  | some link => simp
  | none =>
    cases named : event.mediaHashes with
    | nil => simp
    | cons sha256 others =>
      simp only [Option.isNone_none,if_true,List.head?_cons,Option.elim_some,Option.bind_some,uploading,Option.none_or]
      rfl

theorem framed_archive : (store.framed media event sent previewSent).archive = store.archive := by
  unfold framed
  cases store.unlinked event with
  | none => rfl
  | some sha256 => exact archiveMedia_archive media sha256 sent previewSent

theorem framed_archives (uploading : media.arweave = true) : Archives store (store.framed media event sent previewSent) := by
  unfold framed
  cases store.unlinked event with
  | none => exact .refl store
  | some sha256 => exact (archiveMedia_outcome uploading).archives

theorem framed_whole (uploading : media.arweave = true) (whole : LinksWhole store) :
    LinksWhole (store.framed media event sent previewSent) := by
  unfold framed
  cases store.unlinked event with
  | none => exact whole
  | some sha256 => exact (archiveMedia_outcome uploading).whole whole

theorem archiveScan_archives (uploading : media.arweave = true) :
    Archives store (store.archiveScan media event sent previewSent bundle) := by
  have framing : Archives store (store.framed media event sent previewSent) := framed_archives uploading
  rw [archiveScan_eq uploading]
  exact ⟨framing.held,framing.known,framing.kept⟩

theorem archiveScan_whole (uploading : media.arweave = true) (whole : LinksWhole store) :
    LinksWhole (store.archiveScan media event sent previewSent bundle) := by
  rw [archiveScan_eq uploading]
  exact framed_whole uploading whole

-- The links of the scan itself afterwards.
theorem archiveScan_links (uploading : media.arweave = true) :
    (store.archiveScan media event sent previewSent bundle).getArchive event.id =
      ⟨event.id,(store.getArchive event.id).arBundle.or bundle,
        (store.getArchive event.id).arMedia.or ((store.unlinked event).bind (store.framed media event sent previewSent).mediaLink)⟩ := by
  have same : (store.framed media event sent previewSent).getArchive event.id = store.getArchive event.id := by
    unfold getArchive
    rw [framed_archive]
  rw [archiveScan_eq uploading]
  unfold setEventArweave
  dsimp only
  rw [same]
  unfold getArchive
  dsimp only
  rw [Table.get_put,if_pos rfl]
  refine congrArg₂ (ArchiveRow.mk event.id) ?_ ?_
  · cases (store.archive.get event.id).getD ⟨event.id,none,none⟩ with
    | mk id arBundle arMedia => cases arBundle <;> cases bundle <;> rfl
  · cases (store.archive.get event.id).getD ⟨event.id,none,none⟩ with
    | mk id arBundle arMedia =>
      cases arMedia with
      | some link => rfl
      | none => cases (store.unlinked event).bind (store.framed media event sent previewSent).mediaLink <;> rfl

end MediaStore

-- Nothing of these bytes is left to upload: archived, never stored, or no longer there.
def MediaStore.settled (store : MediaStore) (sha256 : Bytes32) : Prop :=
  (store.getMedia sha256).any (·.ar.isSome) = true ∨ store.getMedia sha256 = none ∨ store.held sha256 = false

def MediaStore.mediaSettled (store : MediaStore) (event : EventRow) : Prop :=
  ∀ sha256, event.mediaHashes.head? = some sha256 → (store.getArchive event.id).arMedia.isSome = true ∨ store.settled sha256

theorem Archives.settled {store later : MediaStore} (archives : Archives store later) {sha256 : Bytes32} (settled : store.settled sha256) :
    later.settled sha256 := by
  rcases settled with linked | absent | gone
  · exact .inl (archives.kept sha256 linked)
  · refine .inr (.inl (Option.not_isSome_iff_eq_none.mp ?_))
    rw [archives.known,absent]
    exact Bool.false_ne_true
  · exact .inr (.inr ((archives.held sha256).trans gone))

namespace MediaStore
variable {media : MediaSettings} {store : MediaStore} {sha256 : Bytes32} {sent previewSent : Option Link} {event : EventRow}
  {bundle : Option String}

theorem MediaOutcome.settled {result : MediaStore × Option Bool} (outcome : MediaOutcome store sha256 result)
    (worked : result.2 ≠ some false) : result.1.settled sha256 := by
  cases outcome with
  | idle lost => exact .inr lost
  | known row there linked => exact .inl (by simp [there,linked])
  | failed row there bare => exact absurd rfl worked
  | sent row link preview there bare =>
    have named : row.sha256 = sha256 := (Table.get_some.mp there).2
    refine .inl ?_
    rw [getMedia_upsert,if_pos named.symm]
    simp [named,there]

theorem MediaOutcome.unsent {result : MediaStore × Option Bool} (outcome : MediaOutcome store sha256 result)
    (failed : result.2 = some false) : result.1 = store ∧ ∃ row, store.getMedia sha256 = some row ∧ row.ar = none := by
  cases outcome with
  | idle lost => cases failed
  | known row there linked => cases failed
  | failed row there bare => exact ⟨rfl,row,there,bare⟩
  | sent row link preview there bare => cases failed

theorem unlinked_some (waits : store.unlinked event = some sha256) :
    (store.getArchive event.id).arMedia = none ∧ event.mediaHashes.head? = some sha256 := by
  unfold unlinked at waits
  split at waits
  · rename_i bare
    exact ⟨Option.isNone_iff_eq_none.mp bare,waits⟩
  · cases waits

theorem framed_some (waits : store.unlinked event = some sha256) :
    store.framed media event sent previewSent = (store.archiveMedia media sha256 sent previewSent).1 := by
  unfold framed
  rw [waits]
  rfl

-- A scan whose media did not fail has it settled.
theorem archiveScan_settled (uploading : media.arweave = true)
    (worked : ((store.unlinked event).bind fun sha256 => (store.archiveMedia media sha256 sent previewSent).2) ≠ some false) :
    (store.archiveScan media event sent previewSent bundle).mediaSettled event := by
  intro sha256 named
  cases linked : (store.getArchive event.id).arMedia with
  | some link =>
    refine .inl ?_
    rw [archiveScan_links uploading,linked]
    rfl
  | none =>
    have waits : store.unlinked event = some sha256 := by
      unfold unlinked
      rw [linked]
      exact named
    rw [waits,Option.bind_some] at worked
    have settled : (store.framed media event sent previewSent).settled sha256 := by
      rw [framed_some waits]
      exact (archiveMedia_outcome uploading).settled worked
    rw [archiveScan_eq uploading]
    exact .inr settled

-- A scan whose media failed still has no link to it.
theorem archiveScan_unsent (uploading : media.arweave = true) (whole : LinksWhole store)
    (failed : ((store.unlinked event).bind fun sha256 => (store.archiveMedia media sha256 sent previewSent).2) = some false) :
    ((store.archiveScan media event sent previewSent bundle).getArchive event.id).arMedia.isNone = true ∧
      event.mediaHashes.head?.isSome = true := by
  obtain ⟨sha256,waits,failed⟩ := Option.bind_eq_some_iff.mp failed
  obtain ⟨bare,named⟩ := unlinked_some waits
  have outcome : MediaOutcome store sha256 (store.archiveMedia media sha256 sent previewSent) := archiveMedia_outcome uploading
  obtain ⟨same,row,there,unarchived⟩ := outcome.unsent failed
  obtain ⟨url,preview⟩ := whole sha256 row there unarchived
  refine ⟨?_,Option.isSome_of_eq_some named⟩
  rw [archiveScan_links uploading,bare,waits,framed_some waits,same]
  simp [mediaLink,there,url,preview]

-- A link that is stored with a scan is one to archived bytes.
theorem archiveScan_linked (uploading : media.arweave = true) (whole : LinksWhole store)
    (linked : ((store.archiveScan media event sent previewSent bundle).getArchive event.id).arMedia.isSome = true) :
    (store.getArchive event.id).arMedia.isSome = true ∨ ∃ sha256, event.mediaHashes.head? = some sha256 ∧
      ((store.archiveScan media event sent previewSent bundle).getMedia sha256).any (·.ar.isSome) = true := by
  rw [archiveScan_links uploading] at linked
  cases old : (store.getArchive event.id).arMedia with
  | some link => exact .inl rfl
  | none =>
    rw [old,Option.none_or] at linked
    obtain ⟨link,taken⟩ := Option.isSome_iff_exists.mp linked
    obtain ⟨sha256,waits,taken⟩ := Option.bind_eq_some_iff.mp taken
    refine .inr ⟨sha256,(unlinked_some waits).2,?_⟩
    rw [archiveScan_eq uploading,setEventArweave_getMedia]
    unfold mediaLink at taken
    obtain ⟨row,there,taken⟩ := Option.bind_eq_some_iff.mp taken
    rw [there,Option.any_some]
    cases bare : row.ar with
    | some known => rfl
    | none =>
      obtain ⟨url,preview⟩ := framed_whole uploading whole sha256 row there bare
      simp [url,preview] at taken

end MediaStore

namespace Archive
variable {media : MediaSettings} {replies : ℕ → Replies} {now : Int} {archive : Archive} {event : EventRow}

@[simp] theorem archiveOne_event : (archiveOne media replies now archive event).2.event = event := rfl

theorem archiveOne_store : (archiveOne media replies now archive event).1.store =
    archive.store.archiveScan media event (replies event.id).media.link (replies event.id).preview.link
      ((replies event.id).bundle.link.map (·.ar)) := rfl

theorem archiveOne_queue : (archiveOne media replies now archive event).1.queue.get event.id =
    let failed := (archiveOne media replies now archive event).2.failed
    let attempts := archive.attempts event.id+if failed then 1 else 0
    some ⟨event.id,archive.attempts event.id+(if !failed then 0 else 1),if failed then now+rowBackoff attempts else 0,!failed,
      if failed then some ((archiveOne media replies now archive event).2.code.getD .uploadFailed) else none,now⟩ := by
  unfold archiveOne setArweaveAttempt
  dsimp only
  rw [Table.get_put,if_pos rfl]
  rfl

-- Code and break of an attempt tell its last failed upload.
theorem archiveOne_code : (archiveOne media replies now archive event).2.code =
    (archiveOne media replies now archive event).2.failures.getLast? := by
  unfold archiveOne Trial.failures
  dsimp only
  rw [ArchiveStatus.failures_record,ArchiveStatus.lastErrorCode_record]
  cases codes : ((replies event.id).uploads archive.store event).filterMap Upload.error with
  | nil => simp
  | cons first rest =>
    rw [if_pos (by simp),List.getLast?_cons]
    rfl

-- The attempt of another scan.
theorem archiveOne_other {id : ℕ} (other : id ≠ event.id) :
    (archiveOne media replies now archive event).1.queue.get id = archive.queue.get id ∧
      (archiveOne media replies now archive event).1.store.getArchive id = archive.store.getArchive id := by
  refine ⟨?_,MediaStore.archiveScan_other media other _ _ _⟩
  unfold archiveOne setArweaveAttempt
  dsimp only
  rw [Table.get_put,if_neg other]

-- An attempt that is done has the bundle up and the media settled; one that failed leaves something to upload.
theorem archiveOne_done (uploading : media.arweave = true) (done : (archiveOne media replies now archive event).2.failed = false) :
    ((archiveOne media replies now archive event).1.store.getArchive event.id).arBundle.isSome = true ∧
      (archiveOne media replies now archive event).1.store.mediaSettled event := by
  unfold archiveOne Trial.failed at done
  simp only [Bool.or_eq_false_iff,Bool.not_eq_false',beq_eq_false_iff_ne] at done
  exact ⟨done.1,MediaStore.archiveScan_settled uploading done.2⟩

theorem archiveOne_failed (uploading : media.arweave = true) (whole : LinksWhole archive.store)
    (failed : (archiveOne media replies now archive event).2.failed = true) :
    (archiveOne media replies now archive event).1.lacking event = true := by
  unfold archiveOne Trial.failed at failed
  simp only [Bool.or_eq_true,Bool.not_eq_true',beq_iff_eq] at failed
  unfold lacking
  dsimp only
  rw [archiveOne_store,Bool.or_eq_true,Bool.and_eq_true]
  rcases failed with unbundled | unsent
  · exact .inl (by rwa [Option.isNone_iff_eq_none,← Option.not_isSome_iff_eq_none,Bool.not_eq_true])
  · exact .inr (MediaStore.archiveScan_unsent uploading whole unsent)


theorem skipped_none (goes : archive.skipped media now = none) : media.arweave = true := by
  unfold skipped at goes
  split at goes
  · cases goes
  · simpa using ‹¬media.arweave = false›

-- What the attempts of other scans leave of a scan.
structure Spares (id : ℕ) (archive later : Archive) : Prop where
  queue : later.queue.get id = archive.queue.get id
  links : later.store.getArchive id = archive.store.getArchive id

theorem Spares.refl (id : ℕ) (archive : Archive) : Spares id archive archive := ⟨rfl,rfl⟩

theorem Spares.trans {id : ℕ} {archive middle later : Archive} (first : Spares id archive middle) (second : Spares id middle later) :
    Spares id archive later := ⟨second.queue.trans first.queue,second.links.trans first.links⟩

theorem Spares.done {id : ℕ} {archive later : Archive} (spares : Spares id archive later) : later.done id = archive.done id := by
  unfold Archive.done
  rw [spares.queue]

theorem Spares.lacking {archive later : Archive} {event : EventRow} (spares : Spares event.id archive later) :
    later.lacking event = archive.lacking event := by
  unfold Archive.lacking
  rw [spares.links]

end Archive

section
variable {media : MediaSettings} {replies : ℕ → Replies} {now : Int} {archive : Archive} {events : List EventRow}

namespace Archive

theorem cycle_archives (uploading : media.arweave = true) : Archives archive.store (archive.cycle media replies now events).1.store := by
  refine Loops.breaking_related (R := fun archive later => Archives archive.store later.store) ?_ ?_ ?_ archive
  · exact fun archive => .refl archive.store
  · intro archive middle later first second
    exact first.trans second
  · exact fun _ _ _ => MediaStore.archiveScan_archives uploading

theorem cycle_whole (uploading : media.arweave = true) (whole : LinksWhole archive.store) :
    LinksWhole (archive.cycle media replies now events).1.store := by
  refine Loops.breaking_related (R := fun archive later => LinksWhole archive.store → LinksWhole later.store) ?_ ?_ ?_ archive whole
  · exact fun _ whole => whole
  · intro archive middle later first second whole
    exact second (first whole)
  · exact fun _ _ _ whole => MediaStore.archiveScan_whole uploading whole

theorem cycle_spares {id : ℕ} (others : ∀ event ∈ events, id ≠ event.id) : Spares id archive (archive.cycle media replies now events).1 := by
  refine Loops.breaking_related (R := Spares id) (.refl id) (fun first second => first.trans second) ?_ archive
  intro archive event inside
  obtain ⟨queue,links⟩ := archiveOne_other (others event inside)
  exact ⟨queue,links⟩

theorem cycle_events : (archive.cycle media replies now events).2.map (·.event) =
    events.take (archive.cycle media replies now events).2.length :=
  Loops.breaking_items (fun _ _ => rfl) archive events

-- A scan that was not tried keeps its row and its links.
theorem cycle_untried {id : ℕ} (untried : ∀ trial ∈ (archive.cycle media replies now events).2, trial.event.id ≠ id) :
    Spares id archive (archive.cycle media replies now events).1 := by
  have shorter : archive.cycle media replies now (events.take (archive.cycle media replies now events).2.length) =
      archive.cycle media replies now events := Loops.breaking_take archive events
  rw [← shorter]
  refine cycle_spares ?_
  intro event inside
  rw [← cycle_events] at inside
  obtain ⟨trial,tried,rfl⟩ := List.mem_map.mp inside
  exact (untried trial tried).symm

-- What a cycle leaves of a scan it tried: the attempt, made with the row and the links the cycle started with.
structure Tried (media : MediaSettings) (replies : ℕ → Replies) (now : Int) (archive final : Archive) (trial : Trial) : Prop where
  attempt : ∃ before, trial = (archiveOne media replies now before trial.event).2 ∧ Spares trial.event.id archive before ∧
    (LinksWhole archive.store → LinksWhole before.store) ∧ Archives archive.store before.store ∧
    Archives (archiveOne media replies now before trial.event).1.store final.store ∧
    Spares trial.event.id (archiveOne media replies now before trial.event).1 final

theorem cycle_tried (uploading : media.arweave = true) (apart : (events.map (·.id)).Nodup) {trial : Trial}
    (tried : trial ∈ (archive.cycle media replies now events).2) :
    Tried media replies now archive (archive.cycle media replies now events).1 trial := by
  obtain ⟨front,event,back,parts,rfl,ends⟩ := Loops.breaking_turn tried
  rw [parts,List.map_append,List.map_cons] at apart
  have before_it : ∀ other ∈ front, event.id ≠ other.id := by
    intro other inside same
    exact (List.nodup_append'.mp apart).2.2 (List.mem_map_of_mem inside) (same ▸ List.mem_cons_self)
  have after_it : ∀ other ∈ back, event.id ≠ other.id := by
    intro other inside same
    exact (List.nodup_cons.mp (List.nodup_append'.mp apart).2.1).1 (same ▸ List.mem_map_of_mem inside)
  refine ⟨(archive.cycle media replies now front).1,rfl,cycle_spares before_it,cycle_whole uploading,cycle_archives uploading,?_⟩
  rcases ends with last | later
  · unfold cycle
    rw [last]
    exact ⟨.refl _,.refl _ _⟩
  · unfold cycle
    rw [later]
    exact ⟨cycle_archives uploading,cycle_spares after_it⟩

end Archive
end

end FlaconVault.Verifier
