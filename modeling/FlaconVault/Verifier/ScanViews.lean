import FlaconVault.Verifier.Server
namespace FlaconVault.Verifier
open Guards

-- What the grade of a passport depends on in the row of a signed scan.
structure ScanView where
  id : ℕ
  serial : String
  type : EventType
  ts : Int
  sealUidHash : Option Bytes32
  counter : ℕ
  grade : ℕ
  status : Status
  anchored : Bool
  deriving DecidableEq

namespace ScanView

def confirmedFor (view : ScanView) (serial : String) : Bool :=
  view.serial == serial && view.type == .scan && view.status == .confirmed

def newer (other view : ScanView) : Prop :=
  if view.sealUidHash.isSome ∧ other.sealUidHash = view.sealUidHash then view.counter < other.counter
  else view.ts < other.ts ∨ view.ts = other.ts ∧ view.id < other.id

instance newer_decidable (other view : ScanView) : Decidable (newer other view) := by
  unfold newer
  infer_instance

def confirm (view : ScanView) : ScanView := {view with status := .confirmed
                                                       anchored := true}

@[simp] theorem confirm_id (view : ScanView) : view.confirm.id = view.id := rfl
@[simp] theorem confirm_grade (view : ScanView) : view.confirm.grade = view.grade := rfl
@[simp] theorem newer_confirm (other view : ScanView) : newer other.confirm view = newer other view := rfl
@[simp] theorem confirm_newer (other view : ScanView) : newer other view.confirm = newer other view := rfl

end ScanView

def EventRow.view (row : EventRow) : Option ScanView :=
  row.payload.signedScan.map fun scan =>
    ⟨row.id,row.serial,row.type,row.ts,row.sealUidHash,scan.bundle.counter,scan.grade,row.status,row.onChain⟩

theorem view_some {row : EventRow} {view : ScanView} : row.view = some view ↔ ∃ scan, row.payload.signedScan = some scan ∧
    view = ⟨row.id,row.serial,row.type,row.ts,row.sealUidHash,scan.bundle.counter,scan.grade,row.status,row.onChain⟩ := by
  simp only [EventRow.view,Option.map_eq_some_iff]
  constructor
  · intro ⟨scan,signed,shown⟩
    exact ⟨scan,signed,shown.symm⟩
  · intro ⟨scan,signed,shown⟩
    exact ⟨scan,signed,shown.symm⟩

theorem view_id {row : EventRow} {view : ScanView} (shown : row.view = some view) : view.id = row.id := by
  obtain ⟨_,_,rfl⟩ := view_some.mp shown
  rfl

-- Between signed scans the order of the rows is the order of their views.
theorem view_newer {other row : EventRow} {first second : ScanView} (shown : other.view = some first)
    (shown' : row.view = some second) : other.newer row = decide (first.newer second) := by
  obtain ⟨scan,signed,rfl⟩ := view_some.mp shown
  obtain ⟨scan',signed',rfl⟩ := view_some.mp shown'
  have counters : other.payload.counter = some scan.bundle.counter ∧ row.payload.counter = some scan'.bundle.counter := by
    constructor
    · unfold Payload.signedScan at signed
      unfold Payload.counter
      split at signed <;> simp_all
    · unfold Payload.signedScan at signed'
      unfold Payload.counter
      split at signed' <;> simp_all
  unfold EventRow.newer ScanView.newer
  rw [counters.1,counters.2]
  dsimp only
  split <;> simp_all

theorem view_confirmed {row : EventRow} {view : ScanView} (shown : row.view = some view) (serial : String) :
    view.confirmedFor serial = (row.serial == serial && row.confirmedScan) := by
  obtain ⟨scan,signed,rfl⟩ := view_some.mp shown
  simp [ScanView.confirmedFor,EventRow.confirmedScan,signed,Bool.and_assoc]

namespace Database

def scans (db : Database) : List ScanView := db.events.rows.filterMap (·.view)

theorem mem_scans {db : Database} {view : ScanView} : view ∈ db.scans ↔ ∃ row ∈ db.events.rows, row.view = some view :=
  List.mem_filterMap

theorem scans_distinct (db : Database) : (db.scans.map (·.id)).Nodup := by
  have general : ∀ rows : List EventRow, (rows.map (·.id)).Nodup → ((rows.filterMap (·.view)).map (·.id)).Nodup := by
    intro rows
    induction rows with
    | nil => simp
    | cons first rest ih =>
      intro distinct
      obtain ⟨apart,later⟩ := List.nodup_cons.mp distinct
      cases shown : first.view with
      | none => simpa [shown] using ih later
      | some view =>
        simp only [List.filterMap_cons,shown,List.map_cons,List.nodup_cons]
        refine ⟨?_,ih later⟩
        intro again
        obtain ⟨other,there,same⟩ := List.mem_map.mp again
        obtain ⟨row,present,shown'⟩ := List.mem_filterMap.mp there
        rw [view_id shown,view_id shown'] at same
        exact apart (List.mem_map.mpr ⟨row,present,same⟩)
  exact general _ db.events.table.unique

theorem scans_updateEvent {db : Database} {id : ℕ} {change : EventRow → EventRow} {keeps : ∀ row, (change row).id = row.id}
    {M : ScanView → ScanView} (moves : ∀ row ∈ db.events.rows, row.id = id → (change row).view = row.view.map M) :
    (db.updateEvent id change keeps).scans = db.scans.map fun view => if view.id = id then M view else view := by
  unfold scans updateEvent Log.rows Log.update Table.update
  rw [List.filterMap_map,List.map_filterMap]
  refine List.filterMap_congr ?_
  intro row present
  by_cases here : row.id = id
  · simp only [Function.comp_apply,here,decide_true,if_true,moves row present here]
    cases shown : row.view with
    | none => rfl
    | some view => simp [view_id shown,here]
  · simp only [Function.comp_apply,here,decide_false,Bool.false_eq_true,if_false]
    cases shown : row.view with
    | none => rfl
    | some view => simp [view_id shown,here]

theorem scans_updateEvent_same {db : Database} {id : ℕ} {change : EventRow → EventRow} {keeps : ∀ row, (change row).id = row.id}
    (same : ∀ row ∈ db.events.rows, row.id = id → (change row).view = row.view) : (db.updateEvent id change keeps).scans = db.scans := by
  rw [scans_updateEvent (M := fun view => view)]
  · simp
  · intro row present here
    simp [same row present here]

theorem scans_delete {db : Database} {chosen : EventRow → Bool} (sightings : ∀ row, chosen row = true → row.view = none) :
    ({db with events := db.events.delete chosen} : Database).scans = db.scans := by
  unfold scans Log.rows Log.delete Table.delete
  rw [List.filterMap_filter]
  refine List.filterMap_congr ?_
  intro row _
  cases gone : chosen row with
  | false => simp
  | true => simp [sightings row gone]

theorem scans_setPassportGrade (db : Database) (serial : String) (grade : ℕ) (latest : Bool) :
    (db.setPassportGrade serial grade latest).scans = db.scans := by
  unfold setPassportGrade
  split <;> rfl

theorem scans_dropSupersededSighting (db : Database) (serial : String) (sealUidHash : Bytes32) (counter keep : ℕ) :
    (db.dropSupersededSighting serial sealUidHash counter keep).scans = db.scans := by
  refine scans_delete ?_
  intro row chosen
  have unsigned : row.payload.signedScan = none := by
    simp only [Bool.and_eq_true,Option.isNone_iff_eq_none] at chosen
    exact chosen.2
  simp [EventRow.view,unsigned]

-- Whether a newer scan is confirmed shows in the views.
theorem newer_exists {db : Database} {event : EventRow} {view : ScanView} (shown : event.view = some view) :
    db.newerConfirmedScanExists event =
      db.scans.any fun other => other.confirmedFor view.serial && other.id != view.id && decide (other.newer view) := by
  obtain ⟨scan,_,told⟩ := view_some.mp shown
  have serial : view.serial = event.serial := by rw [told]
  rw [Bool.eq_iff_iff]
  unfold newerConfirmedScanExists
  simp only [List.any_eq_true,Bool.and_eq_true]
  constructor
  · intro ⟨row,present,⟨⟨here,confirmed⟩,apart⟩,later⟩
    have signed : row.payload.signedScan.isSome = true := by
      simp only [EventRow.confirmedScan,Bool.and_eq_true] at confirmed
      exact confirmed.2
    obtain ⟨other,shown'⟩ : ∃ other, row.view = some other := by
      obtain ⟨scan',signed⟩ := Option.isSome_iff_exists.mp signed
      exact ⟨_,view_some.mpr ⟨scan',signed,rfl⟩⟩
    refine ⟨other,mem_scans.mpr ⟨row,present,shown'⟩,⟨?_,?_⟩,?_⟩
    · rw [view_confirmed shown',serial,here,confirmed]
      rfl
    · rwa [view_id shown',view_id shown]
    · rwa [← view_newer shown' shown]
  · intro ⟨other,there,⟨confirmed,apart⟩,later⟩
    obtain ⟨row,present,shown'⟩ := mem_scans.mp there
    rw [view_confirmed shown',serial,Bool.and_eq_true] at confirmed
    refine ⟨row,present,⟨confirmed,?_⟩,?_⟩
    · rwa [view_id shown',view_id shown] at apart
    · rwa [view_newer shown' shown]

-- Grade and void flag of a passport.
def standing (db : Database) (serial : String) : Option (ℕ × Bool) :=
  (db.getPassport serial).map fun row => (row.grade,row.void)

theorem standing_setGrade (db : Database) (serial other : String) (graded : ℕ × Bool) :
    (db.setGrade serial graded).standing other =
      if other = serial then (db.standing other).map fun _ => graded else db.standing other := by
  unfold standing setGrade getPassport
  rw [Table.get_update]
  cases found : db.passports.get other with
  | none => simp
  | some row =>
    have named : row.serial = other := (Table.get_some.mp found).2
    by_cases here : other = serial
    · simp [here,named]
    · simp [here,named]

theorem standing_setPassportGrade (db : Database) (serial other : String) (grade : ℕ) (latest : Bool) :
    (db.setPassportGrade serial grade latest).standing other =
      if other = serial then (db.standing other).map fun old => passportAfterScan old.1 old.2 grade latest
      else db.standing other := by
  unfold setPassportGrade
  cases found : db.getPassport serial with
  | none =>
    by_cases here : other = serial
    · simp [here,standing,found]
    · simp [here]
  | some row =>
    rw [standing_setGrade]
    by_cases here : other = serial
    · simp [here,standing,found]
    · simp [here]

-- The scan's own row keeps what its view shows.
theorem scans_attested (db : Database) {event : EventRow} {scan : ScanPayload} (present : db.getEvent event.id = some event)
    (signed : event.payload.signedScan = some scan) (attestation : Attestation) (label : Option Pubkey) :
    ((db.updateEventPayload event.id (event.payload.setScan (scan.attested attestation))).setActorLabel event.id label).scans =
      db.scans := by
  unfold setActorLabel
  rw [scans_updateEvent_same]
  · unfold updateEventPayload
    rw [scans_updateEvent_same]
    intro row there here
    have this_one : row = event := db.events.table.same_row there (Table.get_some.mp present).1 here
    simp [EventRow.view,this_one,signed,ScanPayload.attested,EventRow.onChain]
  · intro row _ _
    rfl

-- Crediting attesters touches nothing else.
theorem creditAttester_only (db : Database) (event : EventRow) (scan : ScanPayload) (tier : ℕ) (attester : Option Pubkey) (ts : Int) :
    ∃ attesters, db.creditAttester event scan tier attester ts = {db with attesters := attesters} := by
  unfold creditAttester
  cases attester with
  | none => exact ⟨_,rfl⟩
  | some attester =>
    dsimp only
    split
    · exact ⟨_,rfl⟩
    · split
      · split <;> exact ⟨_,rfl⟩
      · exact ⟨_,rfl⟩

theorem replaceSighting_only (db : Database) (event : EventRow) (scan : ScanPayload) :
    ∃ events, db.replaceSighting event scan = {db with events := events} := by
  unfold replaceSighting
  split <;> exact ⟨_,rfl⟩

theorem scans_replaceSighting (db : Database) (event : EventRow) (scan : ScanPayload) : (db.replaceSighting event scan).scans = db.scans := by
  unfold replaceSighting
  split
  · exact scans_dropSupersededSighting _ _ _ _ _
  · rfl

-- What applying a confirmed scan does to the views and to the passports.
theorem applyConfirmedScan_scans {db : Database} {event : EventRow} (present : db.getEvent event.id = some event)
    (attester : Option Pubkey) (ts : Int) (chain : Option ChainValues) :
    (db.applyConfirmedScan event attester ts chain).scans = db.scans := by
  unfold applyConfirmedScan
  cases signed : event.payload.signedScan with
  | none => rfl
  | some scan =>
    dsimp only
    generalize attested : ({db with applied := db.applied ++ [event.id]} : Database).updateEventPayload event.id _ = stored
    obtain ⟨attesters,credited⟩ := creditAttester_only
      (((stored.setActorLabel event.id attester).setPassportGrade event.serial scan.grade
        (!(stored.setActorLabel event.id attester).newerConfirmedScanExists event)).replaceSighting event scan) event scan
      ((scan.attested (confirmedAttestation scan attester chain)).tier.getD 0) attester ts
    rw [credited]
    refine (scans_replaceSighting _ _ _).trans ?_
    rw [scans_setPassportGrade,← attested]
    exact scans_attested {db with applied := db.applied ++ [event.id]} present signed _ _

theorem applyConfirmedScan_standing {db : Database} {event : EventRow} {view : ScanView}
    (present : db.getEvent event.id = some event) (shown : event.view = some view)
    (attester : Option Pubkey) (ts : Int) (chain : Option ChainValues) (serial : String) :
    (db.applyConfirmedScan event attester ts chain).standing serial =
      if serial = view.serial then (db.standing serial).map fun old => passportAfterScan old.1 old.2 view.grade
        (!(db.scans.any fun other => other.confirmedFor view.serial && other.id != view.id && decide (other.newer view)))
      else db.standing serial := by
  obtain ⟨scan,signed,told⟩ := view_some.mp shown
  have named : view.serial = event.serial := by rw [told]
  have graded : view.grade = scan.grade := by rw [told]
  unfold applyConfirmedScan
  rw [signed]
  dsimp only
  have kept := scans_attested {db with applied := db.applied ++ [event.id]} present signed
    (confirmedAttestation scan attester chain) attester
  have before : ∀ attestation label, ((({db with applied := db.applied ++ [event.id]} : Database).updateEventPayload event.id
    (event.payload.setScan (scan.attested attestation))).setActorLabel event.id label).standing = db.standing := fun _ _ => rfl
  generalize stored_is : (({db with applied := db.applied ++ [event.id]} : Database).updateEventPayload event.id
    (event.payload.setScan (scan.attested (confirmedAttestation scan attester chain)))).setActorLabel event.id attester = stored at kept ⊢
  have start : stored.standing = db.standing := stored_is ▸ before _ _
  obtain ⟨events,dropped⟩ := replaceSighting_only
    (stored.setPassportGrade event.serial scan.grade (!stored.newerConfirmedScanExists event)) event scan
  obtain ⟨attesters,credited⟩ := creditAttester_only
    ((stored.setPassportGrade event.serial scan.grade (!stored.newerConfirmedScanExists event)).replaceSighting event scan) event scan
    ((scan.attested (confirmedAttestation scan attester chain)).tier.getD 0) attester ts
  rw [credited,dropped]
  refine (standing_setPassportGrade stored event.serial serial scan.grade _).trans ?_
  rw [newer_exists shown,kept,start,named,graded]
  rfl

end Database
end FlaconVault.Verifier
