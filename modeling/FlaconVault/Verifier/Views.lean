import FlaconVault.Verifier.Bundles
import FlaconVault.Verifier.MediaStore
namespace FlaconVault.Verifier
open Json Guards PyText

-- What anybody may read of the database.

-- One key of a nested object set to null.
def withhold (fields : List (String × Json)) (key inner : String) : List (String × Json) :=
  match get fields key with
  | some (.obj part) => setField fields key (.obj (setField part inner .null))
  | _ => fields

-- The payload of a signed scan as JSON; the payloads of the other events have none of the keys this is about.
inductive PublicPayload where
  | scan (fields : List (String × Json))
  | other (payload : Payload)

def isCountryLetter (c : Char) : Bool := (65 ≤ c.toNat ∧ c.toNat ≤ 90) ∨ (97 ≤ c.toNat ∧ c.toNat ≤ 122)

structure EventView where
  id : ℕ
  type : EventType
  ts : Int
  actor : Option Pubkey
  actorLabel : Option String
  txSig : Option Signature
  status : Status
  sealUidHash : Option Bytes32
  payload : PublicPayload
  arBundle : Option String
  arMedia : Option String
  gradeAfter : Option ℕ
  location : Location

structure SealView where
  uidHash : Bytes32
  kind : ℕ
  lastCounter : ℕ
  dead : Bool
  attachedAt : Int
  deriving DecidableEq

structure LatestView where
  tamper : ℕ
  indicators : Indicators
  heatLevels : List ℕ
  fill : ℕ
  counter : ℕ
  ts : Int
  reviewRecommended : Bool
  eventId : ℕ
  attester : Option Pubkey
  deriving DecidableEq

structure PassportStats where
  scanCount : ℕ
  attesterCount : ℕ
  certifiedCount : ℕ
  onChainScanCount : ℕ
  counter : ℕ
  deriving DecidableEq

inductive SealStatus where
  | noResponse | opened | intact
  deriving DecidableEq

structure PassportView where
  serial : String
  serialHash : Bytes32
  brand : String
  name : String
  batch : Option String
  asset : Option Pubkey
  issuer : Option Pubkey
  issuerLabel : Option String
  grade : ℕ
  void : Bool
  createdAt : Int
  seals : List SealView
  sealStatus : SealStatus
  stats : PassportStats
  latest : Option LatestView
  events : List EventView

structure PassportLine where
  serial : String
  brand : String
  name : String
  grade : ℕ
  void : Bool
  scanCount : ℕ
  lastEventTs : Option Int
  deriving DecidableEq

structure AttesterView where
  pubkey : Pubkey
  label : Option String
  isPartner : Bool
  firstSeen : Int
  scanCount : ℕ
  certifiedCount : ℕ
  agreeCount : ℕ
  compareCount : ℕ
  agreeRate : Option ℚ
  escrowsOk : ℕ
  escrowsDisputed : ℕ
  recentSerials : List String

structure TapView where
  tapId : ℕ
  ts : Int
  verdict : Verdict
  counter : Option U24
  uid : Option String
  serial : Option String
  serialHash : Option Bytes32
  uidHash : Option Bytes32
  sealKind : Option ℕ
  sealDead : Option Bool
  message : String
  deriving DecidableEq

namespace EventRow

-- Only a scan shows where it was made: a country of two letters, a short printable city.
def location (settings : Settings) (row : EventRow) : Location :=
  if row.type ≠ .scan then ⟨none,none⟩
  else
    let country := row.country.filter fun text => text.toList.length = 2 && text.toList.all isCountryLetter
    ⟨country.map fun text => String.ofList (text.toList.map Char.toUpper),cleanText settings row.city 80⟩

-- Unless the event is confirmed, the signed message, the server's signature and the session nonce stay out.
def publicPayload (spell : Pubkey → String) (row : EventRow) : PublicPayload :=
  match row.payload.signedScan with
  | none => .other row.payload
  | some scan =>
    let fields := payloadFields spell scan row.payload.reconcile
    .scan (if row.status ≠ .confirmed then withhold (withhold (dropField fields "msgHex") "server" "sig") "session" "nonce" else fields)

-- Did the scan read one of the two indicators?
def readsIndicators (row : EventRow) : Bool :=
  row.payload.signedScan.any fun scan =>
    scan.bundle.indicators.heat != Indicator.MISSING || scan.bundle.indicators.humidity != Indicator.MISSING

def confirmedScanOf (serial : String) (row : EventRow) : Bool := row.serial == serial && row.type == .scan && row.status == .confirmed

-- ORDER BY ts, id.
def before (row other : EventRow) : Prop := row.ts < other.ts ∨ row.ts = other.ts ∧ row.id ≤ other.id

instance before_decidable (row other : EventRow) : Decidable (before row other) := by
  unfold before
  infer_instance

end EventRow

def eventView (settings : Settings) (spell : Pubkey → String) (store : MediaStore) (row : EventRow) : EventView :=
  let archive := store.getArchive row.id
  ⟨row.id,row.type,row.ts,row.actor,row.actorLabel,row.txSig,row.status,row.sealUidHash,row.publicPayload spell,
    archive.arBundle,archive.arMedia,row.gradeAfter,row.location settings⟩

def sealView (row : SealRow) : SealView := ⟨row.uidHash,row.kind,row.lastCounter,row.dead,row.attachedAt⟩

namespace Database

def eventsFor (db : Database) (serial : String) : List EventRow :=
  (db.events.rows.filter (·.serial == serial)).insertionSort EventRow.before

def latestScanWithIndicators (db : Database) (serial : String) : Option EventRow :=
  ((db.events.rows.filter (EventRow.confirmedScanOf serial)).insertionSort fun row other => EventRow.before other row).find?
    (·.readsIndicators)

def passportStats (db : Database) (serial : String) : PassportStats :=
  let scans := db.events.rows.filter (EventRow.confirmedScanOf serial)
  let counter := ((db.sealsFor serial).map (·.lastCounter)).foldr max 0
  ⟨scans.length,(scans.filterMap (·.actor)).dedup.length,scans.countP fun row => decide (row.scanTier ≥ Tier.CERTIFIED),
    scans.countP fun row => row.payload.signedScan.isSome && row.onChain,counter⟩

def hasConfirmedEvent (db : Database) (serial : String) (type : EventType) : Bool :=
  db.events.rows.any fun row => row.serial == serial && row.type == type && row.status == .confirmed

-- The passports with recent confirmed events of a wallet, the latest first.
def recentConfirmedSerialsFor (db : Database) (pubkey : Pubkey) : List String :=
  let rows := db.events.rows.filter fun row => row.actor == some pubkey && row.status == .confirmed
  let latest (serial : String) : Option Int := ((rows.filter (·.serial == serial)).map (·.ts)).max?
  (((rows.map (·.serial)).dedup).insertionSort fun serial other => (latest other).getD 0 ≤ (latest serial).getD 0).take 10

end Database

def latestView (row : EventRow) : Option LatestView :=
  row.payload.signedScan.map fun scan =>
    ⟨scan.bundle.tamper,scan.bundle.indicators,scan.bundle.heatLevels,scan.bundle.fill,scan.bundle.counter,row.ts,
      scan.reviewRecommended,row.id,row.actor⟩

def shownGrade (row : PassportRow) : ℕ := if row.void then Grade.VOID else row.grade

-- GET /api/passport/{serial}.
def passportView (settings : Settings) (spell : Pubkey → String) (store : MediaStore) (db : Database) (serial : String) :
    Option PassportView :=
  (db.getPassport serial).map fun row =>
    let seals := (db.sealsFor serial).insertionSort fun row other => row.attachedAt ≤ other.attachedAt
    let latest := (db.latestScanWithIndicators serial).bind latestView
    let anyDead := seals.any (·.dead) || db.hasConfirmedEvent serial .sealDead
    let opened := latest.any fun latest => latest.tamper == Tamper.OPENED_NOW || latest.tamper == Tamper.OPENED_BEFORE
    ⟨row.serial,row.serialHash,row.brand,row.name,row.batch,row.asset,row.issuer,row.issuerLabel,shownGrade row,row.void,
      row.createdAt,seals.map sealView,if anyDead then .noResponse else if opened then .opened else .intact,
      db.passportStats serial,latest,(db.eventsFor serial).map (eventView settings spell store)⟩

-- GET /api/passports.
def passportListView (db : Database) : List PassportLine :=
  (db.passports.rows.insertionSort fun row other => row.serial ≤ other.serial).map fun row =>
    let shown := db.events.rows.filter fun event => event.serial == row.serial && (event.status == .confirmed || event.status == .reported)
    ⟨row.serial,row.brand,row.name,shownGrade row,row.void,db.events.rows.countP (EventRow.confirmedScanOf row.serial),
      (shown.map (·.ts)).max?⟩

def gradeLetters : ℕ → String
  | 0 => "A"
  | 1 => "B"
  | 2 => "C"
  | 3 => "D"
  | 4 => "VOID"
  | other => toString other

def stripSlashes (url : String) : String := String.ofList ((url.toList.reverse.dropWhile (· == '/')).reverse)

-- GET /api/passport/{serial}/metadata.json. A valid serial needs no quoting in a URL.
def passportMetadata (db : Database) (serial webUrl : String) : Option Json :=
  (db.getPassport serial).map fun row =>
    let page := stripSlashes webUrl ++ "/p/" ++ serial
    let icon : Json := .str (stripSlashes webUrl ++ "/icon.svg")
    let trait (name value : String) : Json := .obj [("trait_type",.str name),("value",.str value)]
    .obj [("name",.str (String.ofList ((row.brand ++ " · " ++ row.name).toList.take 64))),("symbol",.str "FLACON"),
      ("description",.str ("FlaconVault passport " ++ serial ++ ": seal and handling record of a " ++ row.brand ++
        " bottle. Full history: " ++ page)),
      ("image",icon),("external_url",.str page),
      ("attributes",.arr ([trait "Serial" serial,trait "Brand" row.brand,trait "Grade" (gradeLetters (shownGrade row))] ++
        ((row.batch.filter (· ≠ "")).map (trait "Batch")).toList)),
      ("properties",.obj [("category",.str "image"),("files",.arr [.obj [("uri",icon),("type",.str "image/svg+xml")]])])]

-- GET /api/attester/{pubkey}, with the registry's partners when a registry could be read.
def attesterView (db : Database) (partners : Option (List Pubkey)) (pubkey : Pubkey) : Option AttesterView :=
  (db.getAttester pubkey).map fun row =>
    ⟨row.pubkey,row.label,match partners with
      | some keys => keys.contains row.pubkey
      | none => row.isPartner,
      row.firstSeen,row.scanCount,row.certifiedCount,row.agreeCount,row.compareCount,
      if row.compareCount = 0 then none else some ((row.agreeCount : ℚ)/row.compareCount),row.escrowsOk,row.escrowsDisputed,
      db.recentConfirmedSerialsFor row.pubkey⟩

-- str.upper() on what becomes hex: the digits, and the ligature of two of them. Other characters stay no hex.
def uppered (c : Char) : List Char := if c.toNat = 0xfb00 then ['F','F'] else [c.toUpper]

-- A UID as the column holds it: upper-case hex, or the text that was sent, in upper case.
def uidText : TapUid → String
  | .chip uid => String.ofList ((hex uid.val).map Char.toUpper)
  | .text sent => String.ofList (sent.toList.flatMap uppered)

def storedUidHash (settings : Settings) (text : String) : Option Bytes32 :=
  if text.toList.length ≠ 14 then none
  else (fromHex text.toList).bind fun bytes => if length : bytes.length = 7 then some (settings.uidHash ⟨bytes,length⟩) else none

def tapMessage (verdict : Verdict) (counter : Option U24) : String :=
  let n := counter.elim "–" fun n => toString n.val
  match verdict with
  | .valid => "Seal genuine · tap " ++ n
  | .replay => "Repeated tap · counter " ++ n
  | .invalid => "Seal not confirmed"
  | .unregistered => "Chip genuine · seal not assigned to any passport · tap " ++ n
  | .noResponse => "Seal not responding"
  | .nonceInvalid => "Session expired · please start again"

-- GET /api/tap/{id}. The column of the message holds what is made of the row's verdict and counter when it is logged.
def tapView (settings : Settings) (db : Database) (id : ℕ) : Option TapView :=
  (db.getTap id).map fun row =>
    let text := (row.uid.map uidText).filter (· ≠ "")
    let found := text.bind fun text => db.seals.rows.find? fun row => uidText (.chip row.uid) == text
    ⟨row.id,row.ts,row.verdict,row.ctr,if row.verdict = .unregistered then row.uid.map uidText else none,row.serial,
      row.serial.map settings.serialHash,(row.uid.map uidText).bind (storedUidHash settings),found.map (·.kind),found.map (·.dead),
      tapMessage row.verdict row.ctr⟩

def resumeNotFound : HttpError := ⟨404,"resume_not_found"⟩

-- GET /api/verify/{eventId}: the signed scan again, with its seal and without a token.
def resumeVerify (settings : Settings) (db : Database) (eventId : ℕ) (token : Option String) :
    Except HttpError (SignedScan × Option SealRow) := do
  let row ← orRefuse (db.getEvent eventId) resumeNotFound
  require (tokenMatches settings token row.resumeHash = true) resumeNotFound
  require (row.status = .pending ∧ row.type = .scan) resumeNotFound
  let scan ← orRefuse row.payload.signedScan internalError
  pure (signedResponse settings row scan "",row.sealUidHash.bind db.getSealByHash)

-- POST /api/events. The first half of a request reads the database as it is then, its second half, where there is one,
-- writes to the database as it is later.
def postEvents (settings : Settings) (db later : Database) (body : EventBody) (reads : ChainReads) (readAt writtenAt : I64)
    (allowed : Bool) : Database × Except HttpError EventRow :=
  let answered (outcome : Except HttpError (Database × EventRow)) : Database × Except HttpError EventRow :=
    match outcome with
    | .ok (written,row) => (written,.ok row)
    | .error error => (later,.error error)
  match body.eventId with
  | some eventId =>
    match confirmRead settings db body eventId reads with
    | .error error => (later,.error error)
    | .ok (.answered row) => (later,.ok row)
    | .ok (.refused error) => (later,.error error)
    | .ok (.fail eventId txSig) => (failWrite later eventId txSig,.error txFailed)
    | .ok (.write job) => answered (confirmWrite settings later job writtenAt)
  | none =>
    if body.type = some .sealDead ∧ body.txSig = none then answered (reportSealDead settings later body writtenAt allowed)
    else match eventRead settings db body reads readAt with
      | .error error => (later,.error error)
      | .ok (.answered row) => (later,.ok row)
      | .ok (.write job) => answered (eventWrite settings later job)

end FlaconVault.Verifier
