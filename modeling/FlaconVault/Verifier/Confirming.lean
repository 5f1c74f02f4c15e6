import FlaconVault.Verifier.ScanViews
import FlaconVault.Verifier.Server
namespace FlaconVault.Verifier
open Guards

-- One confirmation of a scan that is not confirmed yet: by a posted transaction or by a reconcile cycle that found its
-- ScanProof and still carries the scan as it was signed.
inductive Confirms (settings : Settings) (db : Database) (id : ℕ) : Database → Prop
  | posted (job : ConfirmJob) (now : I64) (db' : Database) (row : EventRow) (this : job.eventId = id) (scan : job.type = .scan)
      (unsettled : ∀ event, db.getEvent id = some event → event.status ≠ .confirmed)
      (accepted : confirmWrite settings db job now = .ok (db',row)) : Confirms settings db id db'
  | reconciled (item : WorkItem) (acct : ScanProof) (ts : Int) (db' : Database) (this : item.event.id = id)
      (proof : item.proof = some acct)
      (unsettled : ∀ event, db.getEvent id = some event → event.status ≠ .confirmed ∧ event.status = item.event.status ∧
        event.payload.signedScan = item.event.payload.signedScan)
      (accepted : applyWork settings ts db item = .ok db') : Confirms settings db id db'

namespace ScanView

-- Confirming one scan.
def mark (id : ℕ) (view : ScanView) : ScanView := if view.id = id then view.confirm else view

@[simp] theorem mark_id (id : ℕ) (view : ScanView) : (view.mark id).id = view.id := by
  unfold mark
  split <;> rfl

@[simp] theorem mark_grade (id : ℕ) (view : ScanView) : (view.mark id).grade = view.grade := by
  unfold mark
  split <;> rfl

@[simp] theorem mark_serial (id : ℕ) (view : ScanView) : (view.mark id).serial = view.serial := by
  unfold mark
  split <;> rfl

@[simp] theorem mark_type (id : ℕ) (view : ScanView) : (view.mark id).type = view.type := by
  unfold mark
  split <;> rfl

@[simp] theorem newer_mark (id : ℕ) (other view : ScanView) : newer (other.mark id) view = newer other view := by
  unfold mark
  split <;> rfl

@[simp] theorem mark_newer (id : ℕ) (other view : ScanView) : newer other (view.mark id) = newer other view := by
  unfold mark
  split <;> rfl

theorem mark_other {id : ℕ} {view : ScanView} (other : view.id ≠ id) : view.mark id = view := if_neg other

end ScanView

-- Is another confirmed scan of the passport newer than this one?
def Database.overtaken (db : Database) (view : ScanView) : Bool :=
  db.scans.any fun other => other.confirmedFor view.serial && other.id != view.id && decide (other.newer view)

theorem overtaken_mark {db db' : Database} {view : ScanView} (marked : db'.scans = db.scans.map (·.mark view.id)) :
    db'.overtaken view = db.overtaken view := by
  unfold Database.overtaken
  rw [marked,List.any_map]
  congr 1
  funext other
  by_cases here : other.id = view.id
  · simp [here]
  · simp [ScanView.mark_other here]

-- What a confirmation does: the scan's view turns confirmed, and its passport takes the grade.
structure Confirmed (db : Database) (view : ScanView) (db' : Database) : Prop where
  scans : db'.scans = db.scans.map (·.mark view.id)
  standing : ∀ serial, db'.standing serial =
    if serial = view.serial then (db.standing serial).map fun old => passportAfterScan old.1 old.2 view.grade (!db.overtaken view)
    else db.standing serial

-- The update of the scan's row followed by the effects on shared state.
theorem confirm_applied {db start : Database} {view : ScanView} {event current : EventRow} {change : EventRow → EventRow}
    {keeps : ∀ row, (change row).id = row.id} (found : db.getEvent view.id = some current) (shown : current.view = some view)
    (turned : (change current).view = some view.confirm) (reread : start.getEvent view.id = some event)
    (events : start.events = (db.updateEvent view.id change keeps).events) (passports : start.passports = db.passports)
    (attester : Option Pubkey) (ts : Int) (chain : Option ChainValues) :
    Confirmed db view (start.applyConfirmedScan event attester ts chain) := by
  have this_one : event = change current := by
    have known : (db.updateEvent view.id change keeps).getEvent view.id = some (change current) := by
      unfold Database.getEvent Database.updateEvent
      rw [Log.get_update]
      have named : current.id = view.id := (Log.get_some.mp found).2
      unfold Database.getEvent at found
      simp [found,named]
    unfold Database.getEvent at reread known
    rw [events,known] at reread
    exact (Option.some.inj reread).symm
  have named : event.id = view.id := (Log.get_some.mp reread).2
  have present : start.getEvent event.id = some event := named ▸ reread
  have marked : start.scans = db.scans.map (·.mark view.id) := by
    have same : start.scans = (db.updateEvent view.id change keeps).scans := by unfold Database.scans; rw [events]
    rw [same,Database.scans_updateEvent (M := ScanView.confirm)]
    · rfl
    · intro row there here
      have only : row = current := db.events.table.same_row there (Log.get_some.mp found).1 (here.trans (Log.get_some.mp found).2.symm)
      rw [only,shown,turned]
      rfl
  have before : start.standing = db.standing := by
    unfold Database.standing Database.getPassport
    rw [passports]
  refine ⟨?_,?_⟩
  · rw [Database.applyConfirmedScan_scans present,marked]
  · intro serial
    have shows : event.view = some view.confirm := this_one ▸ turned
    rw [Database.applyConfirmedScan_standing present shows,before,← overtaken_mark marked]
    rfl

theorem posted_effects {settings : Settings} {db : Database} {job : ConfirmJob} {current : EventRow} {view : ScanView}
    (scan : job.type = .scan) (this : job.eventId = view.id) (found : db.getEvent job.eventId = some current)
    (shown : current.view = some view) (now : I64) :
    Confirmed db view
      (job.effects settings (db.updateEvent job.eventId job.posted job.posted_id) current (job.posted current) now) := by
  unfold ConfirmJob.effects
  rw [if_pos scan]
  rw [this] at found ⊢
  have reread : ((db.updateEvent view.id job.posted job.posted_id).upsertAttester job.actor now.val).getEvent view.id =
      some (job.posted current) := getEvent_updateEvent found
  refine confirm_applied found shown ?_ reread rfl rfl _ _ _
  obtain ⟨scan,signed,told⟩ := view_some.mp shown
  simp [EventRow.view,ConfirmJob.posted,signed,told,ScanView.confirm,EventRow.onChain]

theorem posted_confirmed {settings : Settings} {db db' : Database} {job : ConfirmJob} {now : I64} {row current : EventRow}
    {view : ScanView} (scan : job.type = .scan) (this : job.eventId = view.id) (found : db.getEvent view.id = some current)
    (shown : current.view = some view) (unsettled : current.status ≠ .confirmed)
    (accepted : confirmWrite settings db job now = .ok (db',row)) : Confirmed db view db' := by
  obtain ⟨current',found',outcome⟩ := confirmWrite_parts accepted
  have same : current = current' := by
    rw [this,found] at found'
    exact Option.some.inj found'
  subst same
  cases outcome with
  | filled status => exact absurd status unsettled
  | kept status => exact absurd status unsettled
  | repaired status => exact absurd status unsettled
  | posted => exact posted_effects scan this found' shown now

theorem reconciled_confirmed {settings : Settings} {db db' : Database} {item : WorkItem} {acct : ScanProof} {ts : Int}
    {current : EventRow} {view : ScanView} (this : item.event.id = view.id) (proof : item.proof = some acct)
    (found : db.getEvent view.id = some current) (shown : current.view = some view) (status : current.status = item.event.status)
    (same : current.payload.signedScan = item.event.payload.signedScan)
    (accepted : applyWork settings ts db item = .ok db') : Confirmed db view db' := by
  unfold applyWork at accepted
  rw [this,found] at accepted
  simp only [Option.filter,status,beq_self_eq_true,if_true,proof] at accepted
  unfold confirmScan at accepted
  dsimp only at accepted
  split at accepted
  · rename_i event reread
    cases accepted
    rw [this] at reread ⊢
    refine confirm_applied found shown ?_ reread rfl rfl _ _ _
    obtain ⟨scan,signed,told⟩ := view_some.mp shown
    rw [same] at signed
    have shows : (reconciledPayload item acct ts).signedScan = some {scan with chain := some (chainPart acct item.scanPda)} := by
      unfold reconciledPayload
      rw [signed]
      rfl
    simp [EventRow.view,WorkItem.confirm,shows,told,ScanView.confirm,EventRow.onChain]
  · cases accepted

-- Both ways of confirming do the same to the scan's view and to its passport.
theorem confirms_confirmed {settings : Settings} {db db' : Database} {view : ScanView} (known : view ∈ db.scans)
    (confirms : Confirms settings db view.id db') : Confirmed db view db' := by
  obtain ⟨current,present,shown⟩ := Database.mem_scans.mp known
  have found : db.getEvent view.id = some current := Log.get_some.mpr ⟨present,(view_id shown).symm⟩
  cases confirms with
  | posted job now _ row this scan unsettled accepted =>
    exact posted_confirmed scan this found shown (unsettled current found) accepted
  | reconciled item acct ts _ this proof unsettled accepted =>
    obtain ⟨_,status,same⟩ := unsettled current found
    exact reconciled_confirmed this proof found shown status same accepted

-- Any number of confirmations, one after the other.
inductive ConfirmsAll (settings : Settings) : Database → List ℕ → Database → Prop
  | none (db : Database) : ConfirmsAll settings db [] db
  | next (db db' db'' : Database) (id : ℕ) (ids : List ℕ) (first : Confirms settings db id db')
      (rest : ConfirmsAll settings db' ids db'') : ConfirmsAll settings db (id :: ids) db''

end FlaconVault.Verifier
