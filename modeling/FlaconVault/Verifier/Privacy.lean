import FlaconVault.Lib.Masks
import FlaconVault.Verifier.BundleStability
import FlaconVault.Verifier.Views
namespace FlaconVault.Verifier
open Json Guards

-- The secrets of a scan that is not confirmed: the signed message, the server's signature, the session nonce and the hash
-- of its resume token.
def ScanPayload.blank (scan : ScanPayload) : ScanPayload :=
  {scan with msg := []
             bundle := {scan.bundle with nonce := zero32
                                         server := {scan.bundle.server with sig := []}}}

def PayloadBody.blank : PayloadBody → PayloadBody
  | .signedScan scan => .signedScan scan.blank
  | body => body

def Payload.blank (payload : Payload) : Payload := {payload with body := payload.body.blank}

def EventRow.blank (row : EventRow) : EventRow := {row with payload := row.payload.blank
                                                            resumeHash := none}

def EventRow.conceal (secret : ℕ → Bool) (row : EventRow) : EventRow := if secret row.id then row.blank else row

theorem Payload.blank_signedScan (payload : Payload) : payload.blank.signedScan = payload.signedScan.map ScanPayload.blank := by
  unfold Payload.blank Payload.signedScan PayloadBody.blank
  cases payload.body <;> rfl

theorem Payload.blank_counter (payload : Payload) : payload.blank.counter = payload.counter := by
  unfold Payload.blank Payload.counter PayloadBody.blank
  cases payload.body <;> rfl

section conceal
variable (secret : ℕ → Bool)

-- A field that the blanking leaves alone.
theorem blind_of_blank {α : Type*} {f : EventRow → α} (same : ∀ row : EventRow, f row.blank = f row) : Blind (EventRow.conceal secret) f := by
  intro row
  unfold EventRow.conceal
  split
  · exact same row
  · rfl

theorem blind_id : Blind (EventRow.conceal secret) EventRow.id := blind_of_blank secret fun _ => rfl
theorem blind_serial : Blind (EventRow.conceal secret) EventRow.serial := blind_of_blank secret fun _ => rfl
theorem blind_type : Blind (EventRow.conceal secret) EventRow.type := blind_of_blank secret fun _ => rfl
theorem blind_ts : Blind (EventRow.conceal secret) EventRow.ts := blind_of_blank secret fun _ => rfl
theorem blind_actor : Blind (EventRow.conceal secret) EventRow.actor := blind_of_blank secret fun _ => rfl
theorem blind_txSig : Blind (EventRow.conceal secret) EventRow.txSig := blind_of_blank secret fun _ => rfl
theorem blind_status : Blind (EventRow.conceal secret) EventRow.status := blind_of_blank secret fun _ => rfl
theorem blind_sealUidHash : Blind (EventRow.conceal secret) EventRow.sealUidHash := blind_of_blank secret fun _ => rfl
theorem blind_counter : Blind (EventRow.conceal secret) fun row => row.payload.counter :=
  blind_of_blank secret fun row => row.payload.blank_counter

theorem blind_signed : Blind (EventRow.conceal secret) fun row => row.payload.signedScan.isSome :=
  blind_of_blank secret fun row => by
    have signed := congrArg Option.isSome row.payload.blank_signedScan
    rwa [Option.isSome_map] at signed

theorem blind_confirmedScan : Blind (EventRow.conceal secret) EventRow.confirmedScan :=
  blind_of_blank secret fun row => by
    have signed := congrArg Option.isSome row.payload.blank_signedScan
    rw [Option.isSome_map] at signed
    simp only [EventRow.confirmedScan,EventRow.blank,signed]

theorem blind_onChain : Blind (EventRow.conceal secret) EventRow.onChain :=
  blind_of_blank secret fun row => by
    have chain : (row.blank.payload.signedScan.bind (·.chain)) = row.payload.signedScan.bind (·.chain) := by
      have blanked : row.blank.payload.signedScan = row.payload.signedScan.map ScanPayload.blank := row.payload.blank_signedScan
      rw [blanked]
      cases row.payload.signedScan <;> rfl
    unfold EventRow.onChain
    rw [chain]
    rfl

theorem blind_scanTier : Blind (EventRow.conceal secret) EventRow.scanTier :=
  blind_of_blank secret fun row => by
    have blanked : row.blank.payload.signedScan = row.payload.signedScan.map ScanPayload.blank := row.payload.blank_signedScan
    unfold EventRow.scanTier
    rw [blanked]
    cases row.payload.signedScan <;> rfl

theorem blind_readsIndicators : Blind (EventRow.conceal secret) EventRow.readsIndicators :=
  blind_of_blank secret fun row => by
    have blanked : row.blank.payload.signedScan = row.payload.signedScan.map ScanPayload.blank := row.payload.blank_signedScan
    unfold EventRow.readsIndicators
    rw [blanked]
    cases row.payload.signedScan <;> rfl

theorem blind_latestView : Blind (EventRow.conceal secret) latestView :=
  blind_of_blank secret fun row => by
    have blanked : row.blank.payload.signedScan = row.payload.signedScan.map ScanPayload.blank := row.payload.blank_signedScan
    unfold latestView
    rw [blanked]
    cases row.payload.signedScan <;> rfl

theorem blind_confirmedScanOf (serial : String) : Blind (EventRow.conceal secret) (EventRow.confirmedScanOf serial) :=
  blind_of_blank secret fun _ => rfl

theorem before_conceal (row other : EventRow) :
    EventRow.before (row.conceal secret) (other.conceal secret) ↔ EventRow.before row other := by
  unfold EventRow.before
  rw [blind_ts,blind_ts,blind_id,blind_id]

theorem newer_conceal (row other : EventRow) : EventRow.newer (other.conceal secret) (row.conceal secret) = EventRow.newer other row := by
  have counter := blind_counter secret row
  have counter' := blind_counter secret other
  dsimp only at counter counter'
  unfold EventRow.newer
  rw [counter,counter',blind_ts,blind_ts,blind_id,blind_id,blind_sealUidHash,blind_sealUidHash]

end conceal

def Database.conceal (secret : ℕ → Bool) (db : Database) : Database :=
  {db with events := db.events.mask (EventRow.conceal secret) (blind_id secret)}

-- Withholding a key of a dictionary, entry by entry.
def nulled (inner : String) : Json → Json
  | .obj part => .obj (setField part inner .null)
  | value => value

theorem withhold_map {fields : List (String × Json)} (nodup : (fields.map Prod.fst).Nodup) (key inner : String) :
    withhold fields key inner = fields.map fun field => if field.1 = key then (key,nulled inner field.2) else field := by
  unfold withhold
  cases found : get fields key with
  | none =>
    refine ((List.map_congr_left ?_).trans (List.map_id' fields)).symm
    intro field inside
    exact if_neg fun same => get_none.mp found (List.mem_map.mpr ⟨field,inside,same⟩)
  | some value =>
    have own (field : String × Json) (inside : field ∈ fields) (named : field.1 = key) : field.2 = value := by
      have other := (get_some nodup).mpr inside
      rw [named,found] at other
      exact (Option.some.inj other).symm
    have present : key ∈ fields.map Prod.fst := List.mem_map.mpr ⟨(key,value),(get_some nodup).mp found,rfl⟩
    cases value with
    | obj part =>
      dsimp only
      unfold setField
      rw [if_pos present]
      refine List.map_congr_left ?_
      intro field inside
      by_cases named : field.1 = key
      · rw [if_pos named,if_pos named,own field inside named]
        rfl
      · rw [if_neg named,if_neg named]
    | _ =>
      refine ((List.map_congr_left ?_).trans (List.map_id' fields)).symm
      intro field inside
      split
      · rename_i named
        rw [own field inside named]
        simp only [nulled]
        rw [← named,← own field inside named]
      · rfl

-- What is left of a scan's payload for anybody.
def shownFields (spell : Pubkey → String) (scan : ScanPayload) (note : Option ReconcilePart) : List (String × Json) :=
  withhold (withhold (dropField (payloadFields spell scan note) "msgHex") "server" "sig") "session" "nonce"

theorem shownFields_blank (spell : Pubkey → String) (scan : ScanPayload) (note : Option ReconcilePart) :
    shownFields spell scan.blank note = shownFields spell scan note := by
  have spelled (scan : ScanPayload) : shownFields spell scan note = ((dropField (payloadFields spell scan note) "msgHex").map
      fun field => if field.1 = "server" then ("server",nulled "sig" field.2) else field).map
      fun field => if field.1 = "session" then ("session",nulled "nonce" field.2) else field := by
    have dropped := nodup_dropField (@payload_nodup spell scan note) "msgHex"
    unfold shownFields
    rw [withhold_map dropped]
    refine withhold_map ?_ "session" "nonce"
    have keys : (Prod.fst ∘ fun field : String × Json => if field.1 = "server" then ("server",nulled "sig" field.2) else field) =
        Prod.fst := by
      funext field
      rw [Function.comp_apply]
      split
      · rename_i named
        exact named.symm
      · rfl
    rw [List.map_map,keys]
    exact dropped
  rw [spelled,spelled]
  unfold payloadFields signedFields buildBundle dropField
  simp [ScanPayload.blank,nulled,setField]

-- Views of events: the payload of a scan is the only place where a view reads a secret.
theorem publicPayload_blank (spell : Pubkey → String) {row : EventRow} (open_row : row.status ≠ .confirmed) :
    row.blank.publicPayload spell = row.publicPayload spell := by
  have blanked : row.blank.payload.signedScan = row.payload.signedScan.map ScanPayload.blank := row.payload.blank_signedScan
  have status : row.blank.status = row.status := rfl
  unfold EventRow.publicPayload
  rw [blanked,status]
  cases read : row.payload.signedScan with
  | none =>
    have same : row.blank.payload = row.payload := by
      unfold Payload.signedScan at read
      unfold EventRow.blank Payload.blank PayloadBody.blank
      cases body : row.payload.body with
      | signedScan scan => simp [body] at read
      | _ => simp [← body]
    simp only [Option.map_none]
    rw [same]
  | some scan =>
    simp only [Option.map_some,if_pos open_row]
    exact congrArg PublicPayload.scan (shownFields_blank spell scan row.payload.reconcile)

-- Every secret row is that of a scan that is not confirmed.
def Unpublished (secret : ℕ → Bool) (db : Database) : Prop :=
  ∀ row ∈ db.events.rows, secret row.id = true → row.type = .scan ∧ row.status ≠ .confirmed

theorem eventView_conceal (settings : Settings) (spell : Pubkey → String) (store : MediaStore) (secret : ℕ → Bool) {row : EventRow}
    (open_row : secret row.id = true → row.status ≠ .confirmed) :
    eventView settings spell store (row.conceal secret) = eventView settings spell store row := by
  unfold EventRow.conceal
  split
  · rename_i hidden
    have payload := publicPayload_blank spell (open_row hidden)
    unfold eventView
    rw [payload]
    rfl
  · rfl

namespace Database
variable (secret : ℕ → Bool) (db : Database)

theorem conceal_rows : (db.conceal secret).events.rows = db.events.rows.map (EventRow.conceal secret) := rfl

theorem eventsFor_conceal (serial : String) : (db.conceal secret).eventsFor serial = (db.eventsFor serial).map (EventRow.conceal secret) := by
  unfold eventsFor
  rw [conceal_rows,((blind_serial secret).map (· == serial)).filter]
  refine (List.map_insertionSort _ _ _ _ ?_).symm
  intro row _ other _
  exact (before_conceal secret row other).symm

theorem latest_conceal (serial : String) : ((db.conceal secret).latestScanWithIndicators serial).bind latestView =
    (db.latestScanWithIndicators serial).bind latestView := by
  have found : (db.conceal secret).latestScanWithIndicators serial = (db.latestScanWithIndicators serial).map (EventRow.conceal secret) := by
    unfold latestScanWithIndicators
    rw [conceal_rows,(blind_confirmedScanOf secret serial).filter,← (blind_readsIndicators secret).find?]
    congr 1
    refine (List.map_insertionSort _ _ _ _ ?_).symm
    intro row _ other _
    exact (before_conceal secret other row).symm
  rw [found]
  cases db.latestScanWithIndicators serial with
  | none => rfl
  | some row => exact blind_latestView secret row

theorem passportStats_conceal (serial : String) : (db.conceal secret).passportStats serial = db.passportStats serial := by
  unfold passportStats
  rw [conceal_rows,(blind_confirmedScanOf secret serial).filter]
  dsimp only
  rw [List.length_map,(blind_actor secret).filterMap,((blind_scanTier secret).map fun tier => decide (tier ≥ Tier.CERTIFIED)).countP,
    ((blind_signed secret).and (blind_onChain secret)).countP]
  rfl

theorem hasConfirmedEvent_conceal (serial : String) (type : EventType) :
    (db.conceal secret).hasConfirmedEvent serial type = db.hasConfirmedEvent serial type := by
  unfold hasConfirmedEvent
  rw [conceal_rows]
  exact ((((blind_serial secret).map (· == serial)).and ((blind_type secret).map (· == type))).and
    ((blind_status secret).map (· == .confirmed))).any _

theorem recentConfirmedSerialsFor_conceal (pubkey : Pubkey) :
    (db.conceal secret).recentConfirmedSerialsFor pubkey = db.recentConfirmedSerialsFor pubkey := by
  have own := ((blind_actor secret).map (· == some pubkey)).and ((blind_status secret).map (· == .confirmed))
  have dates (serial : String) (rows : List EventRow) : ((rows.map (EventRow.conceal secret)).filter (·.serial == serial)).map (·.ts) =
      (rows.filter (·.serial == serial)).map (·.ts) := by
    rw [((blind_serial secret).map (· == serial)).filter,(blind_ts secret).map_eq]
  unfold recentConfirmedSerialsFor
  rw [conceal_rows,own.filter]
  dsimp only
  rw [(blind_serial secret).map_eq]
  simp only [dates]

end Database

-- The public read endpoints see no secret.
theorem passportView_conceal (settings : Settings) (spell : Pubkey → String) (store : MediaStore) {secret : ℕ → Bool} {db : Database}
    (unpublished : Unpublished secret db) (serial : String) :
    passportView settings spell store (db.conceal secret) serial = passportView settings spell store db serial := by
  have shown : ((db.conceal secret).eventsFor serial).map (eventView settings spell store) =
      (db.eventsFor serial).map (eventView settings spell store) := by
    rw [db.eventsFor_conceal secret,List.map_map]
    refine List.map_congr_left ?_
    intro row inside
    have present : row ∈ db.events.rows := by
      unfold Database.eventsFor at inside
      exact (List.mem_filter.mp ((List.mem_insertionSort _).mp inside)).1
    exact eventView_conceal settings spell store secret fun hidden => (unpublished row present hidden).2
  unfold passportView
  rw [shown,db.latest_conceal secret,db.passportStats_conceal secret,db.hasConfirmedEvent_conceal secret]
  rfl

theorem passportListView_conceal (secret : ℕ → Bool) (db : Database) : passportListView (db.conceal secret) = passportListView db := by
  unfold passportListView
  rw [Database.conceal_rows]
  refine List.map_congr_left ?_
  intro row _
  have shown : Blind (EventRow.conceal secret) fun event => event.serial == row.serial && (event.status == .confirmed || event.status == .reported) :=
    ((blind_serial secret).map (· == row.serial)).and ((blind_status secret).map fun status => status == .confirmed || status == .reported)
  dsimp only
  rw [shown.filter,(blind_ts secret).map_eq,(blind_confirmedScanOf secret row.serial).countP]

theorem attesterView_conceal (secret : ℕ → Bool) (db : Database) (partners : Option (List Pubkey)) (pubkey : Pubkey) :
    attesterView (db.conceal secret) partners pubkey = attesterView db partners pubkey := by
  unfold attesterView
  have same : (db.conceal secret).getAttester pubkey = db.getAttester pubkey := rfl
  rw [same]
  congr 1
  funext row
  rw [db.recentConfirmedSerialsFor_conceal secret]

end FlaconVault.Verifier
