import FlaconVault.Verifier.Taps
import FlaconVault.Verifier.Transactions
namespace FlaconVault.Verifier
open Guards Bytes PyText

-- A key as a request sends it.
inductive KeyText where
  | key (pubkey : Pubkey)
  | other (sent : String)
  deriving DecidableEq

def KeyText.pubkey : KeyText → Option Pubkey
  | .key pubkey => some pubkey
  | .other _ => none

def internalError : HttpError := ⟨500,"internal"⟩

-- An exception of the database ends the request with its transaction rolled back.
def sql {α : Type} (outcome : Except SqlError α) : Except HttpError α :=
  match outcome with
  | .ok value => .ok value
  | .error _ => .error internalError

def isAlnum (c : Char) : Bool :=
  (48 ≤ c.toNat ∧ c.toNat ≤ 57) ∨ (65 ≤ c.toNat ∧ c.toNat ≤ 90) ∨ (97 ≤ c.toNat ∧ c.toNat ≤ 122)

def isSerialChar (c : Char) : Bool := isAlnum c || c == '.' || c == '_' || c == '-'

-- The end anchor of the pattern also matches before a line break at the end.
def validSerial (serial : String) : Bool :=
  let text := if serial.toList.getLast? = some '\n' then serial.toList.dropLast else serial.toList
  match text with
  | [] => false
  | first :: rest => isAlnum first && decide (2 ≤ rest.length ∧ rest.length ≤ 63) && rest.all isSerialChar

-- Hex with an optional 0x, of 32 bytes.
def parseHash (value : String) : Option Bytes32 :=
  match fromHex (stripHex (some value)) with
  | none => none
  | some bytes => if length : bytes.length = 32 then some ⟨bytes,length⟩ else none

def parseUidHex (value : String) : Option Uid :=
  match fromHex (stripHex (some value)) with
  | none => none
  | some bytes => if length : bytes.length = 7 then some ⟨bytes,length⟩ else none

abbrev HeatLevels := {levels : List (Fin 2) // levels.length = 6}

def heatLevelsToMask (levels : List ℕ) : ℕ := (levels.zipIdx.map fun entry => if entry.1 = 0 then 0 else 2^entry.2).sum

def MSG_PREFIX : List Byte := [0x46,0x56,0x53,0x43,0x41,0x4e,0x31]

def buildMessage (serialHash uidHash : Bytes32) (counter : U24) (tamper uv hum heat fill : ℕ) (mediaHash nonce : Bytes32)
    (ts : I64) : List Byte :=
  MSG_PREFIX ++ serialHash.val ++ uidHash.val ++ littleEndian 4 counter.val ++
    [Fin.ofNat 256 tamper,Fin.ofNat 256 uv,Fin.ofNat 256 hum,Fin.ofNat 256 heat,Fin.ofNat 256 fill] ++
    mediaHash.val ++ nonce.val ++ signedLittleEndian 8 ts.val

-- May this wallet attest certified scans? The chain's registry decides, whenever a program is configured.
def isRegistryPartner (settings : Settings) (db : Database) (chainPartners : Option (List Pubkey)) (pubkey : Option Pubkey) :
    Bool :=
  match pubkey with
  | none => false
  | some key =>
    if settings.programId.isNone then db.partnerPubkeys.contains key
    else chainPartners.any (·.contains key)

-- The bounds of the request model are part of the type: no other body reaches the handler.
structure VerifyBody where
  tap : TapParams
  nonce : String
  role : Fin 5
  tier : Fin 5
  heat : Fin 4
  humidity : Fin 4
  uv : Fin 4
  heatLevels : HeatLevels
  fill : Fin 101
  mediaHash : Option String
  serial : Option String
  location : Option Location
  attester : Option KeyText
  platform : Platform
  tapId : Option ℕ
  tapToken : Option String
  note : String
  deriving DecidableEq

-- What a request takes from its surroundings: the clock, the registry as read from chain, the row of an uploaded
-- file, random tap ids and tokens.
structure Surroundings where
  now : I64
  chainPartners : Option (List Pubkey)
  mediaAr : Option String
  tapIds : List ℕ
  token : String
  deriving DecidableEq

structure SignedScan where
  eventId : ℕ
  serial : String
  serialHash : Bytes32
  uidHash : Bytes32
  counter : ℕ
  grade : ℕ
  heatMask : ℕ
  serverSig : List Byte
  serverPubkey : Bytes32
  keyId : U8
  ts : Int
  msg : List Byte
  bundle : Bundle
  bundleHash : Bytes32
  resumeToken : String
  deriving DecidableEq

structure VerifyAnswer where
  verdict : Verdict
  check : Option TapCheck
  grade : ℕ
  reviewRecommended : Bool
  signed : Option SignedScan
  deriving DecidableEq

-- Mirrors record_scan: tier ≥ CERTIFIED or a VAULT/PARTNER role needs a registry partner as attester.
def needsPartner (tier role : ℕ) : Bool := decide (tier ≥ Tier.CERTIFIED) || role == Role.VAULT || role == Role.PARTNER

-- The checks before the write transaction; the media hash the scan commits to.
def admitVerify (settings : Settings) (db : Database) (body : VerifyBody) (around : Surroundings) :
    Except HttpError Bytes32 := do
  require (∀ text ∈ body.attester, text.pubkey.isSome) ⟨422,"attester must be a base58 pubkey"⟩
  require (∀ serial ∈ body.serial, validSerial serial) ⟨422,"invalid serial"⟩
  require (needsPartner body.tier.val body.role.val = false ∨
    isRegistryPartner settings db around.chainPartners (body.attester.bind (·.pubkey))) ⟨403,"not_partner"⟩
  require (¬((body.heat.val = Indicator.INTACT ∨ body.heat.val = Indicator.TRIGGERED) ∧
    some body.heat.val ≠ body.heatLevels.val[4]?.map (·.val))) ⟨422,"indicators.heat must equal heatLevels[4] (the 40 °C field)"⟩
  if body.tier.val ≥ 2 then
    match body.mediaHash.filter (· ≠ "") with
    | none => .error ⟨422,"mediaHash required for tier ≥ 2"⟩
    | some text => orRefuse (parseHash text) ⟨422,"mediaHash"⟩
  else pure zero32

def bundleOf (settings : Settings) (body : VerifyBody) (around : Surroundings) (row : SealRow) (uidHash : Bytes32)
    (counter : U24) (mediaHash : Bytes32) (session : NonceRow) (sig : List Byte) : Bundle where
  serial := row.serial
  serialHash := settings.serialHash row.serial
  uidHash := uidHash
  counter := counter.val
  sealKind := row.kind
  tamper := Tamper.UNKNOWN
  indicators := ⟨body.heat.val,body.humidity.val,body.uv.val⟩
  heatLevels := body.heatLevels.val.map (·.val)
  fill := body.fill.val
  note := body.note
  location := body.location.getD ⟨none,none⟩
  media := if body.tier.val ≥ 2 ∧ mediaHash ≠ zero32 then [⟨mediaHash,around.mediaAr⟩] else []
  nonce := session.nonce
  issuedAt := session.issuedAt
  platform := body.platform
  attester := ⟨body.role.val,body.tier.val,body.attester.bind (·.pubkey)⟩
  server := ⟨settings.serverKeyId,.valid,around.now.val,sig⟩
  ts := around.now.val

-- The signed scan as the response shows it, rebuilt from the stored event.
def signedResponse (settings : Settings) (event : EventRow) (scan : ScanPayload) (resumeToken : String) : SignedScan where
  eventId := event.id
  serial := event.serial
  serialHash := scan.bundle.serialHash
  uidHash := scan.bundle.uidHash
  counter := scan.bundle.counter
  grade := scan.grade
  heatMask := heatLevelsToMask scan.bundle.heatLevels
  serverSig := scan.bundle.server.sig
  serverPubkey := settings.serverPubkey
  keyId := scan.bundle.server.keyId
  ts := scan.bundle.server.ts
  msg := scan.msg
  bundle := scan.bundle
  bundleHash := scan.bundleHash
  resumeToken := resumeToken

def pendingScan (row : SealRow) (bundle : Bundle) (scan : ScanPayload) (resumeHash : Bytes32) (id : ℕ) : EventRow where
  id := id
  serial := row.serial
  type := .scan
  ts := bundle.ts
  actor := none
  actorLabel := none
  txSig := none
  status := .pending
  sealUidHash := some row.uidHash
  payload := ⟨.signedScan scan,none⟩
  gradeAfter := some scan.grade
  country := bundle.location.country
  city := bundle.location.city
  resumeHash := some resumeHash

-- Message, signature, nonce consumed, SCAN(pending) event.
def signScan (settings : Settings) (db : Database) (body : VerifyBody) (around : Surroundings) (row : SealRow)
    (uidHash : Bytes32) (counter : U24) (mediaHash : Bytes32) (session : NonceRow) (graded : ℕ × Bool) :
    Database × SignedScan :=
  let msg := buildMessage (settings.serialHash row.serial) uidHash counter Tamper.UNKNOWN body.uv.val body.humidity.val
    body.heat.val body.fill.val mediaHash session.nonce around.now
  let bundle := bundleOf settings body around row uidHash counter mediaHash session (settings.sign msg)
  let scan : ScanPayload := ⟨bundle,graded.1,graded.2,msg,settings.bundleHash bundle,none,none,none,none,none⟩
  let db := db.consumeNonce session.nonce around.now.val
  let make := pendingScan row bundle scan (settings.tokenHash around.token)
  (db.insertEvent make (fun _ => rfl),signedResponse settings (make db.events.next) scan around.token)

def tapOf (check : TapCheck) (verdict : Verdict) (ts : Int) (id : ℕ) : TapRow where
  id := id
  ts := ts
  source := .verify
  uid := check.uid
  ctr := check.counter
  cmac := check.cmac
  verdict := verdict
  serial := check.serial
  adoptHash := none
  adoptedAt := none

-- The write transaction of POST /api/verify.
def verify (settings : Settings) (db : Database) (body : VerifyBody) (around : Surroundings) :
    Except HttpError (Database × VerifyAnswer) := do
  let mediaHash ← admitVerify settings db body around
  let now := around.now.val
  let gradeFor (verdict : Verdict) (dead : Bool) :=
    computeGrade verdict Tamper.UNKNOWN body.heat.val body.humidity.val body.fill.val dead
  let session := ((parseHash body.nonce).bind db.getNonce).filter fun row => row.usedAt.isNone && decide (now ≤ row.expiresAt)
  match session with
  | none => pure (db,⟨.nonceInvalid,none,(gradeFor .nonceInvalid false).1,false,none⟩)
  | some session =>
    let (checked,check) := match body.tapId with
      | some tapId => adoptTap settings db tapId body.tapToken now
      | none => checkTap settings db (authenticateTap settings body.tap) true
    let verdict := if check.verdict = .valid ∧ check.sealDead then .noResponse else check.verdict
    require (¬(verdict = .valid ∧ (body.serial.filter (· ≠ "")).isSome ∧ body.serial ≠ check.serial)) ⟨409,"serial mismatch"⟩
    let logged ← match check.uid.filter (· ≠ .text "") with
      | some _ => (sql (checked.insertTapRandomId around.tapIds (tapOf check verdict now))).map (·.1)
      | none => pure checked
    let graded := gradeFor verdict check.sealDead
    match verdict,check.sealRow,check.uidHash,check.counter with
    | .valid,some row,some uidHash,some counter =>
      let (signedDb,signed) := signScan settings logged body around row uidHash counter mediaHash session graded
      pure (signedDb,⟨.valid,some check,graded.1,graded.2,some signed⟩)
    | _,_,_,_ => pure (logged,⟨verdict,some check,graded.1,graded.2,none⟩)

-- POST /api/preview reads only.
def preview (settings : Settings) (db : Database) (tap : TapParams) : TapCheck :=
  (checkTap settings db (authenticateTap settings tap) false).2

-- POST /api/session.
def session (settings : Settings) (db : Database) (nonce : Bytes32) (now : I64) : Except HttpError (Database × Bytes32) := do
  let issued ← sql (db.insertNonce nonce now.val (now.val+settings.nonceTtl))
  pure (issued.purgeNonces now.val,nonce)

structure TagAnswer where
  verdict : Verdict
  check : TapCheck
  tap : Option TapRow
  token : Option String
  deriving DecidableEq

-- A chip UID as text: fourteen hex digits, a line break at the end allowed by the pattern's anchor.
def showsUid : TapUid → Bool
  | .chip _ => true
  | .text sent =>
    let text := if sent.toList.getLast? = some '\n' then sent.toList.dropLast else sent.toList
    decide (text.length = 14) && allHexDigits text

def landedTap (check : TapCheck) (verdict : Verdict) (ts : Int) (adoptHash : Option Bytes32) (id : ℕ) : TapRow where
  id := id
  ts := ts
  source := .t
  uid := check.uid
  ctr := check.counter
  cmac := check.cmac
  verdict := verdict
  serial := check.serial
  adoptHash := adoptHash
  adoptedAt := none

def sightingEvent (db : Database) (row : SealRow) (counter : U24) (tapId : ℕ) (ts : Int) (id : ℕ) : EventRow where
  id := id
  serial := row.serial
  type := .scan
  ts := ts
  actor := none
  actorLabel := none
  txSig := none
  status := .confirmed
  sealUidHash := some row.uidHash
  payload := ⟨.sighting counter.val tapId,none⟩
  gradeAfter := (db.getPassport row.serial).map fun passport => if passport.void then Grade.VOID else passport.grade
  country := none
  city := none
  resumeHash := none

def INVALID_TAP_RETENTION_S : Int := 24*3600

-- GET /t: the landing page of a sticker's URL.
def tagLanding (settings : Settings) (db : Database) (tap : TapParams) (around : Surroundings) (purge : Bool) :
    Except HttpError (Database × TagAnswer) := do
  let now := around.now.val
  let (checked,check) := checkTap settings db (authenticateTap settings tap) true
  let verdict := if check.verdict = .valid ∧ check.sealDead then .noResponse else check.verdict
  let adoptHash := if verdict = .valid then some (settings.tokenHash around.token) else none
  let stored ← if verdict = .invalid ∧ ¬check.uid.any showsUid then pure (checked,none)
    else (sql (checked.insertTapRandomId around.tapIds (landedTap check verdict now adoptHash))).map fun logged =>
      (logged.1,some logged.2)
  let sighted := match verdict,check.sealRow,check.counter,stored.2 with
    | .valid,some row,some counter,some row' => stored.1.insertEvent (sightingEvent stored.1 row counter row'.id now) (fun _ => rfl)
    | _,_,_,_ => stored.1
  let purged := if purge then sighted.purgeInvalidTaps (now-INVALID_TAP_RETENTION_S) else sighted
  pure (purged,⟨verdict,check,stored.2,if verdict = .valid then some around.token else none⟩)

end FlaconVault.Verifier
