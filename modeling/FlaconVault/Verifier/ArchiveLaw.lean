import FlaconVault.Verifier.ArchiveQueue
import FlaconVault.Verifier.BundleHash
namespace FlaconVault.Verifier

-- A scan commits to the bytes of one upload at most.
def SingleMedia (db : Database) : Prop := ∀ id row, db.getEvent id = some row → row.mediaHashes.length ≤ 1

namespace SingleMedia
variable {db later : Database}

theorem of_events (single : SingleMedia db) (same : later.events = db.events) : SingleMedia later := by
  intro id row found
  unfold Database.getEvent at found
  rw [same] at found
  exact single id row found

theorem of_insert (single : SingleMedia db) (make : ℕ → EventRow) (named : ∀ number, (make number).id = number)
    (few : (make db.events.next).mediaHashes.length ≤ 1) : SingleMedia (db.insertEvent make named) := by
  intro id row found
  rw [Database.getEvent_insert] at found
  split at found
  · exact Option.some.inj found ▸ few
  · exact single id row found

-- A row that follows one with one upload at most.
theorem of_kept (single : SingleMedia db) (kept : Kept db later) (shapes : Shapes later)
    (fresh : ∀ id row, db.events.next ≤ id → later.getEvent id = some row → row.mediaHashes.length ≤ 1) : SingleMedia later := by
  intro id row found
  rcases Nat.lt_or_ge id db.events.next with old | new
  · obtain ⟨before,known,follows⟩ := kept.rows id row old found
    by_cases kind : before.type = .scan
    · rw [mediaHashes_follows kind follows]
      exact single id before known
    · have bare : row.mediaHashes = [] := by
        rw [List.eq_nil_iff_forall_not_mem]
        intro sha256 names
        exact kind (follows.type.symm.trans ((shapes id row found).names_scan names))
      simp [bare]
  · exact fresh id row new found

end SingleMedia

theorem edit_single {settings : Settings} {cause : Cause} {db later : Database} (edit : Edit settings cause db later) (shapes : Shapes db)
    (single : SingleMedia db) : SingleMedia later := by
  have of_next (same : later.events.next = db.events.next) : SingleMedia later := by
    refine single.of_kept (edit_kept edit) (edit_shapes shapes edit) ?_
    intro id row new found
    exact absurd (same ▸ Database.getEvent_below found) (by omega)
  have of_confirm {number : ℕ} {current final : EventRow} {gone : EventRow → Bool} (here : db.getEvent number = some current)
      (rows : ∀ other, later.getEvent other = if other = number then some final else (db.getEvent other).filter (!gone ·)) :
      SingleMedia later := by
    refine single.of_kept (edit_kept edit) (edit_shapes shapes edit) ?_
    intro id row new found
    rw [rows] at found
    split at found
    · rename_i same
      exact absurd (Database.getEvent_below (same ▸ here)) (by omega)
    · exact absurd (Database.getEvent_below (Option.filter_eq_some_iff.mp found).1) (by omega)
  cases edit with
  | aside _ rest => exact single.of_events rest.events
  | attached uidHash uid serial kind attachedAt _ own accepted => exact single.of_events (upsertSeal_events accepted)
  | sealDead uidHash => exact single.of_events rfl
  | refreshed entry => exact single.of_events (refreshSeal_events settings db entry)
  | backed job label sealUidHash facts passport kind new => exact single.of_insert _ _ (Nat.zero_le 1)
  | settled existing facts txSig actor found unsettled kind => exact of_next rfl
  | filled job current by_id knows found status bare => exact of_next rfl
  | repaired job current knows found status chosen => exact of_next rfl
  | posted job current now knows found unsettled =>
    obtain ⟨_,_,rows⟩ := posted_rows settings found (knows.type current found) now
    exact of_confirm found rows
  | failed eventId txSig own => exact of_next rfl
  | reconciled item acct ts current _ knows found status proof accepted =>
    have kind : current.type = .scan := (knows.follows current found).type.trans knows.type
    obtain ⟨_,_,_,rows⟩ := reconciled_rows found kind (knows.body found (knows.open status)) accepted
    exact of_confirm found rows
  | timedOut id payload current found pending body late => exact of_next rfl
  | noted id payload current found unsettled body => exact of_next rfl

theorem edits_single {settings : Settings} {cause : Cause} {db later : Database} (edits : Edits settings cause db later)
    (shapes : Shapes db) (single : SingleMedia db) : SingleMedia later := by
  induction edits with
  | refl => exact single
  | tail before edit ih => exact edit_single edit (edits_shapes shapes before) ih

theorem changes_single {settings : Settings} {server : Server} {later : Database} {action : Action} {answer : Answer}
    (changes : Changes settings server action later answer) (shapes : Shapes server.db) (single : SingleMedia server.db) :
    SingleMedia later := by
  cases changes with
  | none => exact single
  | finished index now job _ _ there edits => exact edits_single edits shapes single
  | landed tap around purge answer _ landing =>
    cases landing with
    | unlogged check _ rest => exact single.of_events rest.quiet.events
    | quiet checked logged tap check log _ _ _ rest =>
      exact single.of_events (check.quiet.trans (log.quiet.trans rest.quiet)).events
    | sighted checked logged tap row counter check log _ _ _ _ _ _ rest =>
      have before : SingleMedia logged := single.of_events (check.quiet.trans log.quiet).events
      exact (before.of_insert (sightingEvent logged row counter tap.id around.now.val) (fun _ => rfl) (Nat.zero_le 1)).of_events
        rest.quiet.events
  | verified body around answer _ verifying =>
    cases verifying with
    | nonceInvalid => exact single
    | unlogged check _ tapped => exact single.of_events tapped.quiet.events
    | logged check checked _ tap tapped log => exact single.of_events (tapped.quiet.trans log.quiet).events
    | signed check checked logged tap session row uidHash counter mediaHash admitted live tapped log =>
      have before : SingleMedia (logged.consumeNonce session.nonce around.now.val) :=
        single.of_events (tapped.quiet.trans log.quiet).events
      refine before.of_insert _ _ ?_
      simp only [EventRow.mediaHashes,Payload.signedScan,pendingScan,bundleOf,List.length_map]
      split
      · exact le_rfl
      · exact Nat.zero_le 1
  | issued nonce now _ issues =>
    obtain ⟨nonces,_,same⟩ := issues.rows
    exact single.of_events (same ▸ rfl)
  | reported body now allowed row _ serial sealUidHash source note reportedBy passport session report =>
    rw [report.same]
    have before : SingleMedia (server.db.consumeNonce session.nonce now.val) := single.of_events rfl
    exact before.of_insert _ _ (Nat.zero_le 1)

-- What one action does outside the backfill: nothing to the queue and the links, and no half-linked row.
namespace ArchiveWorld
variable {settings : Settings} {media : MediaSettings} {world : ArchiveWorld}

theorem keep_whole {store : MediaStore} (whole : LinksWhole store) (upload : StagedUpload) (ts wall : Int) (fault : Option PromoteFault) :
    LinksWhole (store.keep upload ts wall fault) := by
  unfold MediaStore.keep
  dsimp only
  split
  · split
    · exact whole
    · exact MediaStore.upsert_whole whole fun _ => ⟨rfl,rfl⟩
  · exact MediaStore.upsert_whole whole fun _ => ⟨rfl,rfl⟩

theorem promoted_whole {world : MediaWorld} (whole : LinksWhole world.store) (action : Action) (wall : Int) (fault : Option PromoteFault) :
    LinksWhole (world.promoted settings action wall fault) := by
  unfold MediaWorld.promoted
  split
  · split
    · unfold MediaStore.promote
      dsimp only
      split
      · split
        · exact whole
        · exact keep_whole whole _ _ _ _
      · exact whole
    · exact whole
  · exact whole

theorem retention_whole {store : MediaStore} (whole : LinksWhole store) (db : Database) (now failedSince : Int) (listing : List FileName)
    (batch : ℕ) : LinksWhole (store.retention media db now failedSince listing batch) := by
  intro sha256 row there bare
  refine whole sha256 row ?_ bare
  unfold MediaStore.retention at there
  have kept := (MediaStore.dropMedia_getMedia _).symm.trans there
  split at kept
  · cases kept
  · exact kept

structure OtherStep (settings : Settings) (media : MediaSettings) (world : ArchiveWorld) (action : MediaAction) : Prop where
  queue : (world.step settings media (.other action)).archive.queue = world.archive.queue
  links : (world.step settings media (.other action)).archive.store.archive = world.archive.store.archive
  whole : LinksWhole world.archive.store → LinksWhole (world.step settings media (.other action)).archive.store

theorem other_step (action : MediaAction) : OtherStep settings media world action := by
  cases action with
  | serve action wall fault =>
    exact ⟨rfl,MediaRun.promoted_archive world.directory action wall fault,fun whole => promoted_whole whole action wall fault⟩
  | upload upload now =>
    refine ⟨rfl,?_,?_⟩
    · simp only [step,MediaWorld.step]
      split <;> rfl
    · intro whole
      simp only [step,MediaWorld.step]
      split
      · exact whole
      · exact whole
  | purge now => exact ⟨rfl,rfl,fun whole => whole⟩
  | archive eventId sent previewSent bundle => exact ⟨rfl,rfl,fun whole => whole⟩
  | retention now listing => exact ⟨rfl,rfl,fun whole => retention_whole whole _ _ _ _ _⟩

end ArchiveWorld

namespace Archive
variable {media : MediaSettings} {archive : Archive} {db : Database} {now : Int} {limit : ℕ} {event : EventRow}

theorem mem_arweaveQueue (inside : event ∈ archive.arweaveQueue db now limit) :
    db.getEvent event.id = some event ∧ archive.due event now = true := by
  unfold arweaveQueue at inside
  have chosen := (List.mem_insertionSort archive.sooner).mp (List.mem_of_mem_take inside)
  obtain ⟨present,due⟩ := List.mem_filter.mp chosen
  exact ⟨Database.getEvent_some.mpr ⟨present,rfl⟩,due⟩

theorem arweaveQueue_nodup : ((archive.arweaveQueue db now limit).map (·.id)).Nodup := by
  unfold arweaveQueue
  refine List.Nodup.sublist ((List.take_sublist _ _).map _) ?_
  have sorted := (List.perm_insertionSort archive.sooner (db.events.rows.filter (archive.due · now))).map (·.id)
  refine sorted.nodup_iff.mpr ?_
  exact List.Nodup.sublist (List.filter_sublist.map _) db.events.table.unique

theorem mem_selected (inside : event ∈ archive.selected media db now limit) :
    media.arweave = true ∧ db.getEvent event.id = some event ∧ archive.due event now = true := by
  unfold selected at inside
  split at inside
  · cases inside
  · rename_i goes
    exact ⟨skipped_none (Option.not_isSome_iff_eq_none.mp goes),mem_arweaveQueue inside⟩

theorem selected_nodup : ((archive.selected media db now limit).map (·.id)).Nodup := by
  unfold selected
  split
  · exact List.nodup_nil
  · exact arweaveQueue_nodup

-- A backfill is the cycle over the scans it selects.
theorem backfill_cycle (replies : ℕ → Replies) : (archive.backfill media db replies now limit).1 =
      (archive.cycle media replies now (archive.selected media db now limit)).1 ∧
    (archive.backfill media db replies now limit).2.2 = (archive.cycle media replies now (archive.selected media db now limit)).2 := by
  unfold backfill selected
  cases archive.skipped media now with
  | some skip => exact ⟨rfl,rfl⟩
  | none => exact ⟨rfl,rfl⟩

end Archive

namespace ArchiveRun
variable (settings : Settings) (media : MediaSettings) (run : ArchiveRun)

-- The scans a step selects, and those it tries.
def selected (n : ℕ) : List EventRow :=
  match run.actions n with
  | .backfill _ now limit => (run.archive settings media n).selected media (run.db settings media n) now limit
  | _ => []

def tried (n : ℕ) : List Trial :=
  match run.actions n with
  | .backfill replies now limit => ((run.archive settings media n).backfill media (run.db settings media n) replies now limit).2.2
  | _ => []

-- The attempts the step would make if no failure ended its cycle.
def turns (n : ℕ) : List Trial :=
  match run.actions n with
  | .backfill replies now _ =>
    Loops.unbroken (Archive.archiveOne media replies now) (run.archive settings media n) (run.selected settings media n)
  | _ => []

end ArchiveRun

-- An upload of the attempt failed with a code that concerns the whole service.
def Trial.Global (trial : Trial) : Prop := ∃ upload ∈ trial.uploads, upload.failedGlobally = true

namespace ArchiveRun
variable (settings : Settings) (media : MediaSettings) (run : ArchiveRun)

-- The bytes were archived at some time, or there is nothing to upload: no row, or no file.
def Settled (n : ℕ) (sha256 : Bytes32) : Prop :=
  (∃ k ≤ n, ((run.store settings media k).getMedia sha256).any (·.ar.isSome) = true) ∨
    (run.store settings media n).getMedia sha256 = none ∨ (run.store settings media n).held sha256 = false

-- What the queue owes to the scans, at one step of a run.
structure QueueComplete (n : ℕ) : Prop where
  -- A scan is marked done only if its bundle is archived and its media needs no upload.
  marked : ∀ id, (run.archive settings media n).done id = false → (run.archive settings media (n+1)).done id = true →
    ∃ row, (run.db settings media n).getEvent id = some row ∧ row.confirmedScan = true ∧
      ((run.store settings media (n+1)).getArchive id).arBundle.isSome = true ∧
      ∀ sha256 ∈ row.mediaHashes, run.Settled settings media (n+1) sha256
  -- The selected scans are tried in their order, all of them unless a global failure ends the cycle.
  ordered : (run.tried settings media n).map (·.event) = (run.selected settings media n).take (run.tried settings media n).length
  persistent : (run.tried settings media n).length < (run.selected settings media n).length →
    ∃ trial, (run.tried settings media n)[(run.tried settings media n).length-1]? = some trial ∧ trial.Global
  -- After a scan with a global failure no further one is tried, and no attempt is counted against those not tried.
  stops : ∀ k trial, (run.tried settings media n)[k]? = some trial → trial.Global → k+1 = (run.tried settings media n).length
  uncounted : ∀ id, (∀ trial ∈ run.tried settings media n, trial.event.id ≠ id) →
    (run.archive settings media (n+1)).queue.get id = (run.archive settings media n).queue.get id
  -- A confirmed scan that is not done is due from some time on: at once, or six hours after its last attempt at the latest.
  due : ∀ row, (run.db settings media n).getEvent row.id = some row → row.confirmedScan = true →
    (run.archive settings media n).done row.id = false →
    ∃ since : Int, (since ≤ ((run.archive settings media n).queue.get row.id).elim 0 fun entry => entry.updatedAt+ROW_BACKOFF_MAX_S) ∧
      ∀ now, since ≤ now → (run.archive settings media n).due row now = true

-- The first scan of the cycle an upload of which fails globally is the last one selected, or the last of its failures is
-- a global one too.
def GlobalLast (n : ℕ) : Prop :=
  ∀ k trial, (run.turns settings media n)[k]? = some trial → (∀ earlier ∈ (run.turns settings media n).take k, ¬earlier.Global) →
    trial.Global → trial.failures.getLast?.any GLOBAL_ERROR_CODES.contains = true ∨ k+1 = (run.turns settings media n).length


variable {settings media run}

theorem world_succ (n : ℕ) : run.world settings media (n+1) = (run.world settings media n).step settings media (run.actions n) := rfl

theorem plain_server (n : ℕ) : (run.world settings media n).server = (run.plain settings media).server settings n := by
  induction n with
  | zero => rfl
  | succ n ih =>
    rw [world_succ,Run.server_succ,← ih]
    unfold plain
    dsimp only
    cases run.actions n with
    | other action =>
      cases action with
      | serve action wall fault => rfl
      | upload upload now =>
        simp only [ArchiveWorld.step,MediaWorld.step]
        split <;> rfl
      | purge now => rfl
      | archive eventId sent previewSent bundle => rfl
      | retention now listing => rfl
    | backfill replies now limit => rfl
    | restart => rfl

theorem plain_db (n : ℕ) : run.db settings media n = (run.plain settings media).db settings n := by
  unfold db Run.db
  rw [plain_server]

theorem kept (n : ℕ) : Kept (run.db settings media n) (run.db settings media (n+1)) := by
  rw [plain_db,plain_db]
  exact (run.plain settings media).kept settings (Nat.le_succ n)

theorem shapes (n : ℕ) : Shapes (run.db settings media n) := by
  rw [plain_db]
  exact (run.plain settings media).shapes settings n

theorem single (n : ℕ) : SingleMedia (run.db settings media n) := by
  rw [plain_db]
  induction n with
  | zero =>
    intro id row found
    cases found
  | succ n ih => exact changes_single ((run.plain settings media).changes settings n) ((run.plain settings media).shapes settings n) ih

-- What a backfill does to the scan with this id: its attempt, or nothing.
structure Backfilled (settings : Settings) (media : MediaSettings) (run : ArchiveRun) (n : ℕ) (replies : ℕ → Replies) (now : Int) :
    Prop where
  selected : ∀ event ∈ run.selected settings media n, media.arweave = true ∧
    (run.db settings media n).getEvent event.id = some event ∧ event.confirmedScan = true
  ordered : (run.tried settings media n).map (·.event) = (run.selected settings media n).take (run.tried settings media n).length
  same : run.db settings media (n+1) = run.db settings media n
  whole : LinksWhole (run.store settings media n) → LinksWhole (run.store settings media (n+1))
  attempts : ∀ trial ∈ run.tried settings media n,
    Archive.Tried media replies now (run.archive settings media n) (run.archive settings media (n+1)) trial
  spared : ∀ id, (∀ trial ∈ run.tried settings media n, trial.event.id ≠ id) →
    Archive.Spares id (run.archive settings media n) (run.archive settings media (n+1))

theorem due_confirmed {archive : Archive} {event : EventRow} {now : Int} (due : archive.due event now = true) : event.confirmedScan = true := by
  unfold Archive.due at due
  simp only [Bool.and_eq_true] at due
  exact due.1.1.1

theorem backfilled {n : ℕ} {replies : ℕ → Replies} {now : Int} {limit : ℕ} (acted : run.actions n = .backfill replies now limit) :
    Backfilled settings media run n replies now := by
  have chosen : run.selected settings media n = (run.archive settings media n).selected media (run.db settings media n) now limit := by
    unfold selected
    rw [acted]
  have cycle : ((run.archive settings media n).backfill media (run.db settings media n) replies now limit).1 =
        ((run.archive settings media n).cycle media replies now (run.selected settings media n)).1 ∧
      ((run.archive settings media n).backfill media (run.db settings media n) replies now limit).2.2 =
        ((run.archive settings media n).cycle media replies now (run.selected settings media n)).2 := by
    rw [chosen]
    exact Archive.backfill_cycle replies
  have told : run.tried settings media n = ((run.archive settings media n).cycle media replies now (run.selected settings media n)).2 := by
    refine Eq.trans ?_ cycle.2
    unfold tried
    rw [acted]
  have left : run.archive settings media (n+1) =
      ((run.archive settings media n).cycle media replies now (run.selected settings media n)).1 := by
    refine Eq.trans ?_ cycle.1
    unfold archive
    rw [world_succ,acted]
    rfl
  have members : ∀ event ∈ run.selected settings media n, media.arweave = true ∧
      (run.db settings media n).getEvent event.id = some event ∧ event.confirmedScan = true := by
    intro event inside
    rw [chosen] at inside
    obtain ⟨uploading,found,due⟩ := Archive.mem_selected inside
    exact ⟨uploading,found,due_confirmed due⟩
  have apart : ((run.selected settings media n).map (·.id)).Nodup := chosen ▸ Archive.selected_nodup
  refine ⟨members,?_,?_,?_,?_,?_⟩
  · rw [told]
    exact Archive.cycle_events
  · unfold db
    rw [world_succ,acted]
    rfl
  · intro whole
    unfold store
    rw [left]
    cases events : run.selected settings media n with
    | nil => exact whole
    | cons event rest => exact Archive.cycle_whole (members event (events ▸ List.mem_cons_self)).1 whole
  · intro trial there
    rw [told] at there
    have taken : trial.event ∈ run.selected settings media n := by
      have named := List.mem_map_of_mem (f := Trial.event) there
      rw [Archive.cycle_events] at named
      exact List.mem_of_mem_take named
    rw [left]
    exact Archive.cycle_tried (members trial.event taken).1 apart there
  · intro id untried
    rw [told] at untried
    rw [left]
    exact Archive.cycle_untried untried

-- A scan that is confirmed stays so, with the same media.
theorem confirmedScan_follows {row later : EventRow} (scan : row.confirmedScan = true) (follows : Follows row later) :
    later.confirmedScan = true := by
  unfold EventRow.confirmedScan at scan ⊢
  simp only [Bool.and_eq_true,beq_iff_eq] at scan ⊢
  obtain ⟨⟨kind,confirmed⟩,signed⟩ := scan
  obtain ⟨told,signed⟩ := Option.isSome_iff_exists.mp signed
  obtain ⟨_,there,_⟩ := asSigned_scan (follows.scan kind).2 signed
  exact ⟨⟨follows.type.trans kind,follows.settled confirmed⟩,Option.isSome_of_eq_some there⟩

theorem confirmedScan_kind {row : EventRow} (scan : row.confirmedScan = true) : row.type = .scan := by
  unfold EventRow.confirmedScan at scan
  simp only [Bool.and_eq_true,beq_iff_eq] at scan
  exact scan.1.1

-- What the queue and the links know of the scans, at every step.
structure Tidy (settings : Settings) (media : MediaSettings) (run : ArchiveRun) (n : ℕ) : Prop where
  whole : LinksWhole (run.store settings media n)
  -- Only confirmed scans were ever tried.
  noted : ∀ id, ((run.archive settings media n).queue.get id).isSome = true ∨
      ((run.store settings media n).getArchive id).arBundle.isSome = true ∨
      ((run.store settings media n).getArchive id).arMedia.isSome = true →
    id < (run.db settings media n).events.next ∧
      ∀ row, (run.db settings media n).getEvent id = some row → row.confirmedScan = true
  -- A link was stored with archived bytes.
  linked : ∀ row sha256, (run.db settings media n).getEvent row.id = some row → row.mediaHashes.head? = some sha256 →
    ((run.store settings media n).getArchive row.id).arMedia.isSome = true →
    ∃ k ≤ n, ((run.store settings media k).getMedia sha256).any (·.ar.isSome) = true
  -- What is not done has something to upload.
  lacking : ∀ row, (run.db settings media n).getEvent row.id = some row → row.confirmedScan = true →
    (run.archive settings media n).done row.id = false → (run.archive settings media n).lacking row = true
  timed : ∀ id entry, (run.archive settings media n).queue.get id = some entry → entry.done = false →
    entry.nextAt ≤ entry.updatedAt+ROW_BACKOFF_MAX_S

theorem Tidy.start : Tidy settings media run 0 where
  whole _ _ there := by cases there
  noted _ seen := by
    rcases seen with queue | bundle | link
    · cases queue
    · cases bundle
    · cases link
  linked _ _ found := by cases found
  lacking _ found := by cases found
  timed _ _ there := by cases there

-- An action outside the backfill leaves the queue and the links; the scans follow theirs.
theorem Tidy.other {n : ℕ} (tidy : Tidy settings media run n)
    (queue : (run.archive settings media (n+1)).queue = (run.archive settings media n).queue)
    (links : (run.store settings media (n+1)).archive = (run.store settings media n).archive)
    (whole : LinksWhole (run.store settings media (n+1))) : Tidy settings media run (n+1) := by
  have same_links (id : ℕ) : (run.store settings media (n+1)).getArchive id = (run.store settings media n).getArchive id := by
    unfold MediaStore.getArchive
    rw [links]
  have earlier {row : EventRow} (found : (run.db settings media (n+1)).getEvent row.id = some row)
      (old : row.id < (run.db settings media n).events.next) :
      ∃ before, (run.db settings media n).getEvent before.id = some before ∧ Follows before row := by
    obtain ⟨before,known,follows⟩ := (kept n).rows row.id row old found
    have named : before.id = row.id := (Database.getEvent_some.mp known).2
    exact ⟨before,named ▸ known,follows⟩
  refine ⟨whole,?_,?_,?_,?_⟩
  · intro id seen
    rw [queue,same_links] at seen
    obtain ⟨old,scans⟩ := tidy.noted id seen
    refine ⟨old.trans_le (kept n).next,?_⟩
    intro row found
    obtain ⟨before,known,follows⟩ := (kept n).rows id row old found
    exact confirmedScan_follows (scans before known) follows
  · intro row sha256 found named linked
    rw [same_links] at linked
    obtain ⟨old,scans⟩ := tidy.noted row.id (.inr (.inr linked))
    obtain ⟨before,known,follows⟩ := earlier found old
    have scan : before.confirmedScan = true := scans before (follows.id ▸ known)
    rw [mediaHashes_follows (confirmedScan_kind scan) follows] at named
    rw [follows.id] at linked
    obtain ⟨k,within,archived⟩ := tidy.linked before sha256 known named linked
    exact ⟨k,by omega,archived⟩
  · intro row found scan undone
    have there : (run.archive settings media (n+1)).store.getArchive row.id = (run.store settings media n).getArchive row.id := same_links _
    unfold Archive.lacking
    dsimp only
    rw [there]
    cases bundle : ((run.store settings media n).getArchive row.id).arBundle with
    | none => rfl
    | some link =>
      obtain ⟨old,scans⟩ := tidy.noted row.id (.inr (.inl (Option.isSome_of_eq_some bundle)))
      obtain ⟨before,known,follows⟩ := earlier found old
      have was_scan : before.confirmedScan = true := scans before (follows.id ▸ known)
      have was_undone : (run.archive settings media n).done before.id = false := by
        unfold Archive.done at undone ⊢
        rwa [queue,follows.id] at undone
      have lacked := tidy.lacking before known was_scan was_undone
      unfold Archive.lacking at lacked
      dsimp only at lacked
      rw [mediaHashes_follows (confirmedScan_kind was_scan) follows,← bundle,follows.id]
      exact lacked
  · intro id entry there
    rw [queue] at there
    exact tidy.timed id entry there

theorem rowBackoff_max (attempts : ℕ) : rowBackoff attempts ≤ ROW_BACKOFF_MAX_S := Nat.min_le_left _ _

-- The row of a tried scan says whether it failed, and when it is due again.
theorem tried_entry {replies : ℕ → Replies} {now : Int} {archive final : Archive} {trial : Trial}
    (tried : Archive.Tried media replies now archive final trial) :
    ∃ entry, final.queue.get trial.event.id = some entry ∧ entry.done = !trial.failed ∧ entry.updatedAt = now ∧
      (trial.failed = true → entry.nextAt ≤ now+ROW_BACKOFF_MAX_S) := by
  obtain ⟨before,told,_,_,_,_,after⟩ := tried
  have row := after.queue.trans Archive.archiveOne_queue
  rw [← told] at row
  refine ⟨_,row,rfl,rfl,?_⟩
  intro failed
  dsimp only
  rw [if_pos failed]
  have bounded := rowBackoff_max (before.attempts trial.event.id+if trial.failed = true then 1 else 0)
  omega

theorem Backfilled.trial {n : ℕ} {replies : ℕ → Replies} {now : Int} (ran : Backfilled settings media run n replies now) {trial : Trial}
    (there : trial ∈ run.tried settings media n) : media.arweave = true ∧
      (run.db settings media n).getEvent trial.event.id = some trial.event ∧ trial.event.confirmedScan = true := by
  have named := List.mem_map_of_mem (f := Trial.event) there
  rw [ran.ordered] at named
  exact ran.selected trial.event (List.mem_of_mem_take named)

theorem Tidy.backfill {n : ℕ} {replies : ℕ → Replies} {now : Int} (tidy : Tidy settings media run n)
    (ran : Backfilled settings media run n replies now) : Tidy settings media run (n+1) := by
  refine ⟨ran.whole tidy.whole,?_,?_,?_,?_⟩
  · intro id seen
    rw [ran.same]
    by_cases tried : ∃ trial ∈ run.tried settings media n, trial.event.id = id
    · obtain ⟨trial,there,rfl⟩ := tried
      obtain ⟨_,found,scan⟩ := ran.trial there
      refine ⟨Database.getEvent_below found,?_⟩
      intro row found'
      rwa [← Option.some.inj (found.symm.trans found')]
    · have spared := ran.spared id fun trial there named => tried ⟨trial,there,named⟩
      unfold store at seen
      rw [spared.queue,spared.links] at seen
      exact tidy.noted id seen
  · intro row sha256 found named linked
    rw [ran.same] at found
    have before_it (linked : ((run.store settings media n).getArchive row.id).arMedia.isSome = true) :
        ∃ k ≤ n+1, ((run.store settings media k).getMedia sha256).any (·.ar.isSome) = true := by
      obtain ⟨k,within,archived⟩ := tidy.linked row sha256 found named linked
      exact ⟨k,by omega,archived⟩
    unfold store at linked
    by_cases tried : ∃ trial ∈ run.tried settings media n, trial.event.id = row.id
    · obtain ⟨trial,there,same⟩ := tried
      obtain ⟨uploading,found',_⟩ := ran.trial there
      have is_row : trial.event = row := Option.some.inj (found'.symm.trans (same ▸ found))
      obtain ⟨before,_,spares,whole,_,archives,after⟩ := ran.attempts trial there
      rw [is_row] at spares archives after
      rw [after.links,Archive.archiveOne_store] at linked
      rcases MediaStore.archiveScan_linked uploading (whole tidy.whole) linked with old | now_linked
      · rw [spares.links] at old
        exact before_it old
      · obtain ⟨other,named',archived⟩ := now_linked
        cases Option.some.inj (named.symm.trans named')
        exact ⟨n+1,le_rfl,archives.kept sha256 archived⟩
    · have spared := ran.spared row.id fun trial there named => tried ⟨trial,there,named⟩
      rw [spared.links] at linked
      exact before_it linked
  · intro row found scan undone
    rw [ran.same] at found
    by_cases tried : ∃ trial ∈ run.tried settings media n, trial.event.id = row.id
    · obtain ⟨trial,there,same⟩ := tried
      obtain ⟨uploading,found',_⟩ := ran.trial there
      have is_row : trial.event = row := Option.some.inj (found'.symm.trans (same ▸ found))
      obtain ⟨entry,known,done,_⟩ := tried_entry (ran.attempts trial there)
      obtain ⟨before,told,_,whole,_,_,after⟩ := ran.attempts trial there
      unfold Archive.done at undone
      rw [← same,known,Option.any_some,done,Bool.not_eq_false'] at undone
      rw [told,is_row] at undone
      rw [is_row] at after
      rw [after.lacking]
      exact Archive.archiveOne_failed uploading (whole tidy.whole) undone
    · have spared := ran.spared row.id fun trial there named => tried ⟨trial,there,named⟩
      rw [spared.lacking]
      exact tidy.lacking row found scan (spared.done ▸ undone)
  · intro id entry known undone
    by_cases tried : ∃ trial ∈ run.tried settings media n, trial.event.id = id
    · obtain ⟨trial,there,rfl⟩ := tried
      obtain ⟨entry',known',done,updated,bounded⟩ := tried_entry (ran.attempts trial there)
      cases Option.some.inj (known.symm.trans known')
      rw [done,Bool.not_eq_false'] at undone
      rw [updated]
      exact bounded undone
    · have spared := ran.spared id fun trial there named => tried ⟨trial,there,named⟩
      rw [spared.queue] at known
      exact tidy.timed id entry known undone

theorem tidy (n : ℕ) : Tidy settings media run n := by
  induction n with
  | zero => exact .start
  | succ n ih =>
    cases acted : run.actions n with
    | other action =>
      have step : ArchiveWorld.OtherStep settings media (run.world settings media n) action := ArchiveWorld.other_step action
      have next : run.world settings media (n+1) = (run.world settings media n).step settings media (.other action) := by
        rw [world_succ,acted]
      refine ih.other ?_ ?_ ?_
      · unfold archive
        rw [next]
        exact step.queue
      · unfold store archive
        rw [next]
        exact step.links
      · unfold store archive
        rw [next]
        exact step.whole ih.whole
    | backfill replies now limit => exact ih.backfill (backfilled acted)
    | restart =>
      have next : run.world settings media (n+1) = (run.world settings media n).step settings media .restart := by
        rw [world_succ,acted]
      refine ih.other ?_ ?_ ?_
      · unfold archive
        rw [next]
        rfl
      · unfold store archive
        rw [next]
        rfl
      · unfold store archive
        rw [next]
        exact ih.whole

-- A break tells a global failure among the uploads.
theorem global_stops {trial : Trial} (code : trial.code = trial.failures.getLast?) (stop : trial.stops = true) : trial.Global := by
  unfold Trial.stops at stop
  obtain ⟨error,known,severe⟩ := (Option.any_eq_true _ _).mp stop
  rw [code] at known
  obtain ⟨upload,inside,failed⟩ := List.mem_filterMap.mp (List.mem_of_getLast? known)
  refine ⟨upload,inside,?_⟩
  unfold Upload.failedGlobally
  rw [failed]
  exact severe

theorem turn_code {n : ℕ} {trial : Trial} (there : trial ∈ run.turns settings media n) : trial.code = trial.failures.getLast? := by
  unfold turns at there
  split at there
  · obtain ⟨before,event,rfl⟩ := Loops.unbroken_turn there
    exact Archive.archiveOne_code
  · cases there

theorem tried_turns (n : ℕ) : run.tried settings media n = Loops.upTo Trial.stops (run.turns settings media n) := by
  unfold tried turns selected
  cases run.actions n with
  | other action => rfl
  | backfill replies now limit =>
    dsimp only
    rw [(Archive.backfill_cycle replies).2]
    exact Loops.breaking_told _ _
  | restart => rfl

theorem turns_length (n : ℕ) : (run.turns settings media n).length = (run.selected settings media n).length := by
  unfold turns selected
  cases run.actions n with
  | other action => rfl
  | backfill replies now limit => exact Loops.unbroken_length _ _
  | restart => rfl

theorem stops_iff (n : ℕ) :
    (∀ k trial, (run.tried settings media n)[k]? = some trial → trial.Global → k+1 = (run.tried settings media n).length) ↔
      run.GlobalLast settings media n := by
  have sound : ∀ trial ∈ run.turns settings media n, trial.stops = true → trial.Global :=
    fun trial there => global_stops (turn_code there)
  rw [tried_turns]
  refine (Loops.bad_last_iff sound).trans ?_
  have spelled {k : ℕ} {trial : Trial} (there : (run.turns settings media n)[k]? = some trial) :
      trial.stops = trial.failures.getLast?.any GLOBAL_ERROR_CODES.contains := by
    unfold Trial.stops
    rw [turn_code (List.mem_of_getElem? there)]
  constructor
  · intro ends k trial there earlier severe
    rw [← spelled there]
    exact ends k trial there earlier severe
  · intro ends k trial there earlier severe
    rw [spelled there]
    exact ends k trial there earlier severe

-- A step that is no backfill selects and tries nothing, and marks nothing.
theorem quiet_step {n : ℕ} (other : ∀ replies now limit, run.actions n ≠ .backfill replies now limit) :
    run.selected settings media n = [] ∧ run.tried settings media n = [] ∧
      (run.archive settings media (n+1)).queue = (run.archive settings media n).queue := by
  unfold selected tried
  have next : run.world settings media (n+1) = (run.world settings media n).step settings media (run.actions n) := world_succ n
  unfold archive
  rw [next]
  cases acted : run.actions n with
  | other action => exact ⟨rfl,rfl,(ArchiveWorld.other_step action).queue⟩
  | backfill replies now limit => exact absurd acted (other replies now limit)
  | restart => exact ⟨rfl,rfl,rfl⟩

theorem marked (n : ℕ) (id : ℕ) (undone : (run.archive settings media n).done id = false)
    (done : (run.archive settings media (n+1)).done id = true) :
    ∃ row, (run.db settings media n).getEvent id = some row ∧ row.confirmedScan = true ∧
      ((run.store settings media (n+1)).getArchive id).arBundle.isSome = true ∧
      ∀ sha256 ∈ row.mediaHashes, run.Settled settings media (n+1) sha256 := by
  by_cases backfills : ∃ replies now limit, run.actions n = .backfill replies now limit
  · obtain ⟨replies,now,limit,acted⟩ := backfills
    have ran : Backfilled settings media run n replies now := backfilled acted
    by_cases tried : ∃ trial ∈ run.tried settings media n, trial.event.id = id
    · obtain ⟨trial,there,rfl⟩ := tried
      obtain ⟨uploading,found,scan⟩ := ran.trial there
      obtain ⟨entry,known,marks,_⟩ := tried_entry (ran.attempts trial there)
      obtain ⟨before,told,_,_,_,archives,after⟩ := ran.attempts trial there
      unfold Archive.done at done
      rw [known,Option.any_some,marks,Bool.not_eq_true',told] at done
      obtain ⟨bundled,settled⟩ := Archive.archiveOne_done uploading done
      refine ⟨trial.event,found,scan,?_,?_⟩
      · unfold store
        rwa [after.links]
      · intro sha256 names
        have first : trial.event.mediaHashes.head? = some sha256 := by
          have few := single n trial.event.id trial.event found
          cases hashes : trial.event.mediaHashes with
          | nil =>
            rw [hashes] at names
            cases names
          | cons head rest =>
            rw [hashes,List.length_cons] at few
            have alone : rest = [] := List.length_eq_zero_iff.mp (by omega)
            rw [hashes,alone] at names
            exact congrArg some (List.mem_singleton.mp names).symm
        rcases settled sha256 first with linked | whole
        · rw [← after.links] at linked
          have later := (tidy (n+1)).linked trial.event sha256 (ran.same ▸ found) first linked
          exact .inl later
        · rcases archives.settled whole with archived | lost
          · exact .inl ⟨n+1,le_rfl,archived⟩
          · exact .inr lost
    · have spared := ran.spared id fun trial there named => tried ⟨trial,there,named⟩
      rw [spared.done,undone] at done
      cases done
  · have same : (run.archive settings media (n+1)).queue = (run.archive settings media n).queue :=
      (quiet_step fun replies now limit acted => backfills ⟨replies,now,limit,acted⟩).2.2
    unfold Archive.done at undone done
    rw [same,undone] at done
    cases done

theorem due_again (n : ℕ) (row : EventRow) (found : (run.db settings media n).getEvent row.id = some row) (scan : row.confirmedScan = true)
    (undone : (run.archive settings media n).done row.id = false) :
    ∃ since : Int, (since ≤ ((run.archive settings media n).queue.get row.id).elim 0 fun entry => entry.updatedAt+ROW_BACKOFF_MAX_S) ∧
      ∀ now, since ≤ now → (run.archive settings media n).due row now = true := by
  refine ⟨(run.archive settings media n).nextAt row.id,?_,?_⟩
  · unfold Archive.nextAt
    cases entry : (run.archive settings media n).queue.get row.id with
    | none => exact le_rfl
    | some known =>
      refine (tidy n).timed row.id known entry ?_
      unfold Archive.done at undone
      rwa [entry,Option.any_some] at undone
  · intro now later
    unfold Archive.due
    rw [scan,undone,(tidy n).lacking row found scan undone]
    simpa using later

end ArchiveRun

-- The queue keeps its promises exactly at the steps where no later failure of a scan hides a global one.
theorem queue_complete_iff (settings : Settings) (media : MediaSettings) (run : ArchiveRun) (n : ℕ) :
    run.QueueComplete settings media n ↔ run.GlobalLast settings media n := by
  rw [← ArchiveRun.stops_iff]
  constructor
  · exact fun complete => complete.stops
  · intro stops
    refine ⟨ArchiveRun.marked n,?_,?_,stops,?_,ArchiveRun.due_again n⟩
    · by_cases backfills : ∃ replies now limit, run.actions n = .backfill replies now limit
      · obtain ⟨replies,now,limit,acted⟩ := backfills
        exact (ArchiveRun.backfilled acted).ordered
      · rw [(ArchiveRun.quiet_step fun replies now limit acted => backfills ⟨replies,now,limit,acted⟩).2.1]
        rfl
    · intro short
      rw [← ArchiveRun.turns_length,ArchiveRun.tried_turns] at short
      obtain ⟨last,there,stop⟩ := Loops.upTo_short short
      rw [← ArchiveRun.tried_turns] at there
      have among : last ∈ run.turns settings media n := by
        have inside := List.mem_of_getElem? there
        rw [ArchiveRun.tried_turns] at inside
        exact (Loops.upTo_prefix _).subset inside
      exact ⟨last,there,ArchiveRun.global_stops (ArchiveRun.turn_code among) stop⟩
    · intro id untried
      by_cases backfills : ∃ replies now limit, run.actions n = .backfill replies now limit
      · obtain ⟨replies,now,limit,acted⟩ := backfills
        exact ((ArchiveRun.backfilled acted).spared id untried).queue
      · rw [(ArchiveRun.quiet_step fun replies now limit acted => backfills ⟨replies,now,limit,acted⟩).2.2]

-- Two confirmed scans, the newer one with frames.
namespace HiddenOutage
open Attachments (serial issuer program passport box reads post now)
open Sighted (around body tapped confirm recording)
open LateConfirmation (frames serve second_tier)

def settings : Settings := .sample
def media : MediaSettings := ⟨7*86400,true⟩
def session : Bytes32 := hashOf [10]

def tappedAgain : TapParams := ⟨some "04000000000001",some (.text "000002"),some "0000000000000000",none,none⟩

def certified : VerifyBody := {body with nonce := "0a00000000000000000000000000000000000000000000000000000000000000"
                                         tier := ⟨2,second_tier⟩
                                         attester := some (.key issuer)
                                         mediaHash := some "0700000000000000000000000000000000000000000000000000000000000000"
                                         tapId := some 9}

def message : List Byte :=
  buildMessage (Settings.sample.serialHash serial) box 2 Tamper.UNKNOWN 0 0 0 90 frames session now

def recorded : List Byte :=
  ixDisc .recordScan ++ Bytes.littleEndian 4 2 ++ [0,0,Fin.ofNat 256 Tamper.UNKNOWN,0,0,0,0,90,2,0] ++ frames.val ++ (hashOf [1]).val ++
    session.val ++ Bytes.signedLittleEndian 8 100 ++ [0]

def recordingAgain : TxResult :=
  ⟨["again"],[issuer,passport,.sealOf box,.scan (.sealOf box) 2,.registry,program,.foreign 3,.foreign 4,.foreign 5],1,[],[],
    [⟨some 6,[],[1,0,48,0,255,255,16,0,255,255,112,0,152,0,255,255] ++ zero32.val ++ Settings.sample.sign message ++ message⟩,
      ⟨some 5,[4,1,2,3,0,7,8],recorded⟩],[],none,none,[]⟩

def confirmAgain : Action :=
  .confirm ⟨some 6,none,none,some "again",none,some (.key issuer),none,none,none,none,none,none,none,none⟩ 6 (reads recordingAgain)

def act (action : MediaAction) : ArchiveAction := .other action

def refused (code : UploadError) : Upload := ⟨100,.error code⟩

def replies (_ : ℕ) : Replies := ⟨refused .sidecarUnavailable,refused .uploadFailed,refused .uploadFailed⟩

def run : ArchiveRun := ⟨fun
  | 0 => act (serve (.postEvent (post .mint "mint" none) (reads Attachments.minting) now))
  | 2 => act (serve (.postEvent (post .sealAttach "attach" (some "04000000000001")) (reads Attachments.attaching) now))
  | 4 => act (serve (.session Sighted.session now))
  | 5 => act (serve (.session session now))
  | 6 => act (.upload ⟨session,frames,10,1,.jpeg,[10],100⟩ 100)
  | 7 => act (serve (.tagLanding tapped around false))
  | 8 => act (serve (.verify body {around with tapIds := [8]}))
  | 9 => act (serve (.tagLanding tappedAgain {around with tapIds := [9]} false))
  | 10 => act (serve (.verify certified {around with tapIds := [10]}))
  | 11 => act (serve (confirm 4))
  | 13 => act (serve confirmAgain)
  | 15 => .backfill replies 100 BACKFILL_PER_CYCLE
  | _ => act (serve (.finish 0 now))⟩

-- The frames find the sidecar down, and the bundle right after them is refused on its own: the other scan is tried too.
theorem outage_hidden : ¬run.QueueComplete settings media 15 := by
  intro complete
  have first : ((run.tried settings media 15)[0]?).any (fun trial => trial.uploads.any (·.failedGlobally)) = true := by decide +kernel
  obtain ⟨trial,there,severe⟩ := (Option.any_eq_true _ _).mp first
  have ended : 0+1 = (run.tried settings media 15).length := complete.stops 0 trial there (List.any_eq_true.mp severe)
  exact absurd ended (by decide +kernel)

end HiddenOutage
end FlaconVault.Verifier
