import FlaconVault.Verifier.Confirmation
import FlaconVault.Verifier.Scans
namespace FlaconVault.Verifier
open Guards PyText

-- POST /api/events. A `txSig` that is not base58 of 64 bytes never gets here. Requests read the database and the chain first and write in a later step, so each handler is
-- split there: the first half answers at once or hands a job to the second.
structure EventBody where
  eventId : Option ℕ
  serial : Option String
  type : Option EventType
  txSig : Option Signature
  sealUidHash : Option String
  actor : Option KeyText
  brand : Option String
  name : Option String
  batch : Option String
  uid : Option String
  carrier : Option String
  note : Option String
  source : Option String
  nonce : Option String
  deriving DecidableEq

-- A short printable text, white space collapsed.
def cleanText (settings : Settings) (value : Option String) (maxLen : ℕ) : Option String :=
  value.bind fun text =>
    let words := (text.toList.splitOnP isSpace).filter (· ≠ [])
    let joined := (words.intersperse [' ']).flatten
    if joined ≠ [] ∧ joined.all settings.printable then some (String.ofList (joined.take maxLen)) else none

def CARRIERS : List String :=
  ["DHL","DPD","UPS","GLS","Hermes","FedEx","TNT","Deutsche Post","Österreichische Post","Swiss Post","PostNL","bpost",
   "La Poste","Colissimo","Chronopost","Poste Italiane","Correos","Royal Mail","USPS","Canada Post","Japan Post","Courier",
   "Hand delivery"]

-- str.casefold() on what folds to ASCII. What folds to anything else stands in no listed name but for the `Ö`, which has one
-- capital and one small letter.
def casefold (c : Char) : List Char :=
  match c.toNat with
  | 0xdf => ['s','s']
  | 0xd6 => [Char.ofNat 0xf6]
  | 0x17f => ['s']
  | 0x1e9e => ['s','s']
  | 0x212a => ['k']
  | 0xfb00 => ['f','f']
  | 0xfb01 => ['f','i']
  | 0xfb02 => ['f','l']
  | 0xfb03 => ['f','f','i']
  | 0xfb04 => ['f','f','l']
  | 0xfb05 => ['s','t']
  | 0xfb06 => ['s','t']
  | _ => [c.toLower]

-- The listed spelling of a carrier, whatever case it is sent in.
def carrierOf (value : Option String) : Option String :=
  value.bind fun text =>
    let words := (text.toList.splitOnP isSpace).filter (· ≠ [])
    let folded := ((words.intersperse [' ']).flatten).flatMap casefold
    CARRIERS.find? fun carrier => carrier.toList.flatMap casefold == folded

def expectation (settings : Settings) (db : Database) (type : EventType) (serial : String) (sealUidHash : Option Bytes32)
    (scanCounter : Option ℕ) : Except HttpError Expectation := do
  let program ← orRefuse settings.programId ⟨503,"chain_not_configured"⟩
  let passport := Pubkey.passport (settings.serialHash serial)
  match flaconIx type with
  | some instructions =>
    let scan := match type,sealUidHash,scanCounter with
      | .scan,some sealUidHash,some counter => some (Pubkey.scan (.sealOf sealUidHash) (Fin.ofNat (2^32) counter))
      | _,_,_ => none
    pure ⟨program,instructions,passport,sealUidHash.map .sealOf,scan,false,[],none⟩
  | none =>
    let escrow ← orRefuse settings.escrowProgramId ⟨503,"chain_not_configured"⟩
    let toSeller := match type with
      | .release => some true
      | .dispute => some false
      | _ => none
    pure ⟨escrow,(escrowIx type).getD [],passport,none,none,true,db.eventActors serial .list,toSeller⟩

-- Once a MINT exists for the serial, only its issuer gets an answer.
def checkIssuer (db : Database) (serial : String) (passport : Option PassportRow) (actor : Pubkey) : Except HttpError Unit :=
  require (db.findEvent serial .mint none = none ∨ (passport.bind (·.issuer)) = some actor) ⟨403,"not_issuer"⟩

def sealOfSerial (db : Database) (sealUidHash : Bytes32) (serial : String) : Except HttpError Unit := do
  let row ← orRefuse (db.getSealByHash sealUidHash) ⟨404,"seal not found"⟩
  require (row.serial = serial) ⟨422,"seal belongs to another passport"⟩

def notDefault (key : Option Pubkey) : Option Pubkey := key.filter (· ≠ .default)

def scanCounterAt (settings : Settings) (reads : ChainReads) (address : Option Pubkey) : Option ℕ :=
  (notDefault address).bind fun key =>
    match reads.account key with
    | none => none
    | some data => ((decodeScanProof settings data).toOption).map (·.counter.val)

def positive (value : Option ℕ) : Option ℕ := value.filter (· ≠ 0)

def DISPUTE_REASON_MISMATCH : ℕ := 3

def disputeReason : ℕ → Option String
  | 0 => some "admin"
  | 1 => some "not shipped within the deadline"
  | 2 => some "Seal not responding"
  | 3 => some "scans disagree"
  | _ => none

def RESOLVED_TO_SELLER : String := "scans disagree · resolved by the escrow admin"
def RESOLVED_TO_BUYER : String := "scans disagree · refunded by the escrow admin"
def RELEASED_AFTER_TIMEOUT : String := "no receipt scan within the deadline"

-- The stored payload of a transaction-backed event: chain facts plus the few client fields the chain cannot know.
def txFacts (settings : Settings) (type : EventType) (vt : VerifiedTx) (body : EventBody) (serial : String)
    (reads : ChainReads) : Except HttpError Facts := do
  let args := vt.args settings
  let orderPrice := vt.order.map (·.price.val)
  match type with
  | .mint =>
    match args with
    | some (.mintPassport serialHash bindingHash asset) =>
      require (serialHash = settings.serialHash serial) txMismatch
      require (∀ core ∈ vt.account .coreAsset, core = asset) txMismatch
      pure (.mint (cleanText settings body.brand 200) (cleanText settings body.name 200) (cleanText settings body.batch 200)
        (some asset) (some bindingHash))
    | _ => .error txMismatch
  | .sealAttach =>
    match args with
    | some (.attachSeal uidHash kind) => pure (.sealAttach (some uidHash) (some kind.val))
    | _ => pure (.sealAttach none none)
  | .sealDead => pure .sealDead
  | .list =>
    let event := vt.ownEvents.findSome? fun event => match event with
      | .orderListed _ _ _ _ price .. => some price.val
      | _ => none
    let argument := match args with
      | some (.list price) => some price.val
      | _ => none
    pure (.list vt.orderAddress (positive event <|> argument) vt.actor)
  | .reserve =>
    let event := vt.ownEvents.findSome? fun event => match event with
      | .orderReserved _ buyer price .. => some (buyer,price.val)
      | _ => none
    let argument := match args with
      | some (.reserve price) => some price.val
      | _ => none
    pure (.reserve vt.orderAddress (positive (event.map (·.2)) <|> positive argument <|> orderPrice)
      ((event.map (·.1)).getD vt.actor))
  | .ship => pure (.ship vt.orderAddress (carrierOf body.carrier) (scanCounterAt settings reads (vt.order.map (·.sellerScan))))
  | .receive =>
    let proofAt (role : AccountRole) := (vt.account role).bind fun key =>
      (decodeScanProof settings ((vt.accountData.lookup key).join)).toOption
    let buyerScan := proofAt .scan
    let sellerScan := proofAt .sellerScan
    let distance (first second : U8) : ℕ := ((first.val : Int) - second.val).natAbs
    let event := vt.ownEvents.findSome? fun event => match event with
      | .receiptScanRecorded _ _ counter matched sellerFill buyerFill .. =>
        some (counter.val,matched,distance buyerFill sellerFill)
      | _ => none
    let preShip := sellerScan.map (·.counter.val)
    match event,buyerScan,sellerScan with
    | some (counter,matched,delta),_,_ => pure (.receive vt.orderAddress preShip (some counter) (some matched) (some delta))
    | none,some buyer,some seller =>
      let delta := distance buyer.fill seller.fill
      pure (.receive vt.orderAddress preShip (some buyer.counter.val)
        (some (buyer.heat == seller.heat && buyer.hum == seller.hum && decide (delta ≤ 5))) (some delta))
    | none,_,_ => pure (.receive vt.orderAddress preShip (buyerScan.map (·.counter.val)) none none)
  | .release =>
    if vt.name = .resolve then
      let event := vt.ownEvents.findSome? fun event => match event with
        | .orderResolved _ _ _ amount transferred _ => some (amount.val,transferred)
        | _ => none
      let buyer := (vt.order.map fun order => order.buyer.getD .default) <|> vt.account .buyer
      pure (.release vt.orderAddress (positive (event.map (·.1)) <|> orderPrice)
        ((vt.order.map (·.seller)) <|> vt.account .seller) (if event.any (·.2) then buyer else none) (some RESOLVED_TO_SELLER))
    else
      let event := vt.ownEvents.findSome? fun event => match event with
        | .orderReleased _ seller buyer amount transferred _ => some (seller,buyer,amount.val,transferred)
        | _ => none
      pure (.release vt.orderAddress (positive (event.map (·.2.2.1)) <|> orderPrice)
        ((event.map (·.1)) <|> vt.order.map (·.seller))
        (event.bind fun event => if event.2.2.2 then some event.2.1 else none)
        (if vt.name = .releaseAfterTimeout then some RELEASED_AFTER_TIMEOUT else none))
  | .dispute =>
    if vt.name = .resolve then
      let refunded := vt.ownEvents.findSome? fun event => match event with
        | .orderResolved _ _ _ amount .. => some amount.val
        | _ => none
      pure (.dispute vt.orderAddress (some RESOLVED_TO_BUYER) (some DISPUTE_REASON_MISMATCH) refunded)
    else
      let event := vt.ownEvents.findSome? fun event => match event with
        | .orderDisputed _ _ reason _ refunded .. => some (reason.val,refunded.val)
        | _ => none
      pure (.dispute vt.orderAddress ((event.map (·.1)).bind disputeReason) (event.map (·.1)) (event.map (·.2)))
  | .scan => .error txMismatch

-- The evidence for a new event, on its way to the write transaction.
structure EventJob where
  serial : String
  type : EventType
  txSig : Signature
  actor : Pubkey
  sealUidHash : Option Bytes32
  uid : Option Uid
  passportPda : Pubkey
  vt : VerifiedTx
  facts : Facts
  ts : Int
  deriving DecidableEq

-- Where the first half of a request ends.
inductive Stage (α : Type) where
  | answered (row : EventRow)
  | write (job : α)

def textTooLong (value : Option String) : Bool := value.any fun text => decide (text.length > 200)

-- The cheap checks of a new event; the event that already answers the request, if there is one, and the chip's UID.
def admitEvent (settings : Settings) (db : Database) (body : EventBody) (serial : String) (type : EventType)
    (txSig : Signature) (actor : Pubkey) (sealUidHash : Option Bytes32) :
    Except HttpError (Option EventRow × Option Uid × Option Bytes32) := do
  let passport := db.getPassport serial
  let confirmed (row : Option EventRow) := row.filter (·.status == .confirmed)
  match type with
  | .mint =>
    require (¬(textTooLong body.brand ∨ textTooLong body.name ∨ textTooLong body.batch)) ⟨422,"payload"⟩
    checkIssuer db serial passport actor
    match confirmed (db.findEvent serial .mint none) with
    | some row => pure (some row,none,sealUidHash)
    | none =>
      require (passport.isSome ∨ (cleanText settings body.brand 200).isSome ∧ (cleanText settings body.name 200).isSome)
        ⟨422,"MINT for an unknown serial needs payload.brand and payload.name"⟩
      pure (none,none,sealUidHash)
  | .sealAttach =>
    require passport.isSome ⟨404,"passport not found"⟩
    let text ← orRefuse (body.uid.filter (· ≠ "")) ⟨422,"SEAL_ATTACH needs payload.uid (7 bytes hex)"⟩
    let uid ← orRefuse (parseUidHex text) ⟨422,"uid"⟩
    let hash := settings.uidHash uid
    require (∀ other ∈ db.getSealByHash hash, other.serial = serial) ⟨409,"seal is attached to another passport"⟩
    pure (confirmed (db.findEvent serial .sealAttach (some hash)),some uid,some hash)
  | _ =>
    match db.eventForTx txSig serial type with
    | some row => pure (some row,none,sealUidHash)
    | none =>
      require passport.isSome ⟨404,"passport not found"⟩
      match type,sealUidHash with
      | .sealDead,some hash => sealOfSerial db hash serial
      | _,_ => pure ()
      pure (none,none,sealUidHash)

-- First half of a new event: checks, then the transaction from the chain.
def eventRead (settings : Settings) (db : Database) (body : EventBody) (reads : ChainReads) (now : I64) :
    Except HttpError (Stage EventJob) := do
  require (∀ text ∈ body.actor, text.pubkey.isSome) ⟨422,"actor must be a base58 pubkey"⟩
  let serial ← orRefuse body.serial ⟨422,"serial and type are required for a new event"⟩
  let type ← orRefuse body.type ⟨422,"serial and type are required for a new event"⟩
  require (validSerial serial) ⟨422,"invalid serial (3–64 characters: letters, digits, '.', '_', '-')"⟩
  let sealUidHash ← match body.sealUidHash.filter (· ≠ "") with
    | none => pure none
    | some text => (orRefuse (parseHash text) ⟨422,"sealUidHash"⟩).map some
  require (type ≠ .scan) ⟨422,"SCAN events come from /api/verify; confirm them with \x7beventId, txSig, actor\x7d"⟩
  let txSig ← orRefuse body.txSig ⟨422,"txSig and actor are required"⟩
  let actor ← orRefuse (body.actor.bind (·.pubkey)) ⟨422,"txSig and actor are required"⟩
  let (known,uid,sealUidHash) ← admitEvent settings db body serial type txSig actor sealUidHash
  match known with
  | some row => pure (.answered row)
  | none =>
    let exp ← expectation settings db type serial sealUidHash none
    let vt ← verifyTransaction settings reads txSig actor exp
    let facts ← txFacts settings type vt body serial reads
    let ts := match vt.blockTime with
      | some time => if time.val = 0 then now.val else time.val
      | none => now.val
    pure (.write ⟨serial,type,txSig,actor,sealUidHash,uid,exp.passport,vt,facts,ts⟩)

def newEvent (job : EventJob) (label : Option String) (sealUidHash : Option Bytes32) (facts : Facts) (passport : PassportRow)
    (id : ℕ) : EventRow where
  id := id
  serial := job.serial
  type := job.type
  ts := job.ts
  actor := some job.actor
  actorLabel := label
  txSig := some job.txSig
  status := .confirmed
  sealUidHash := sealUidHash
  payload := ⟨.facts facts,none⟩
  gradeAfter := some (if passport.void then Grade.VOID else passport.grade)
  country := none
  city := none
  resumeHash := none

-- Idempotent MINT and SEAL_ATTACH: a pending event of the same kind gets confirmed with the new facts.
def mergeFacts (old : PayloadBody) (new : Facts) : Facts :=
  match old,new with
  | .facts (.mint brand name batch asset bindingHash),.mint brand' name' batch' asset' bindingHash' =>
    .mint (brand' <|> brand) (name' <|> name) (batch' <|> batch) (asset' <|> asset) (bindingHash' <|> bindingHash)
  | _,new => new

def settleExisting (db : Database) (existing : EventRow) (facts : Facts) (txSig : Signature) (actor : Pubkey) : Database :=
  db.updateEvent existing.id (fun row => {row with payload := ⟨.facts (mergeFacts row.payload.body facts),row.payload.reconcile⟩
                                                   txSig := some txSig
                                                   status := .confirmed
                                                   actor := some actor}) (fun _ => rfl)

-- mark_seal_dead without a named seal: the passport's seal at the instruction's seal position.
def sealInTx (db : Database) (serial : String) (vt : VerifiedTx) : Option Bytes32 :=
  ((db.sealsFor serial).find? fun row => vt.account .sealAccount == some (.sealOf row.uidHash)).map (·.uidHash)

-- Effect of a verified SEAL_DEAD.
def applySealDead (db : Database) (serial : String) (sealUidHash : Option Bytes32) : Database :=
  let db := match sealUidHash with
    | some hash => db.markSealDead hash
    | none => db
  db.voidPassport serial

def escrowSeller (vt : VerifiedTx) : Option Pubkey :=
  let event := vt.ownEvents.findSome? fun event => match event with
    | .orderReleased _ seller .. => some seller
    | _ => none
  event <|> (vt.order.map (·.seller)) <|> vt.account .seller

-- A confirmed RELEASE or DISPUTE is the final state of its listing.
def recordOutcome (db : Database) (job : EventJob) : Except SqlError Database :=
  match job.vt.orderAddress with
  | none => .ok db
  | some address =>
    let event := job.vt.ownEvents.findSome? fun event => match event with
      | .orderReleased _ _ buyer .. => some buyer
      | _ => none
    let price := match job.facts with
      | .release _ price .. => positive price
      | .dispute _ _ _ refunded => positive refunded
      | _ => none
    db.recordEscrowOutcome address (if job.type = .release then ORDER_RELEASED else ORDER_DISPUTE)
      (job.vt.blockTime.map (·.val)) job.ts job.vt.order (some job.passportPda) (escrowSeller job.vt)
      (event <|> job.vt.account .buyer) price

-- The MINT row, for a new serial or one that exists without a MINT; its names are those the passport keeps.
def mintPassport (settings : Settings) (db : Database) (job : EventJob) (label brand name batch : Option String)
    (asset : Option Pubkey) (bindingHash : Option Bytes32) : Except HttpError (Database × Facts) := do
  let passport := db.getPassport job.serial
  require (passport.isSome ∨ brand.isSome ∧ name.isSome)
    ⟨422,"MINT for an unknown serial needs payload.brand and payload.name"⟩
  let kept (sent : Option String) (old : PassportRow → String) : String := (sent <|> passport.map old).getD ""
  let minted ← sql (db.upsertPassport ⟨job.serial,settings.serialHash job.serial,kept brand (·.brand),kept name (·.name),
    batch <|> passport.bind (·.batch),asset,some job.actor,label,Grade.A,false,job.ts⟩)
  let row ← orRefuse (minted.getPassport job.serial) internalError
  pure (minted,.mint (some row.brand) (some row.name) row.batch asset bindingHash)

-- Second half of a new event: one write transaction.
def eventWrite (settings : Settings) (db : Database) (job : EventJob) : Except HttpError (Database × EventRow) := do
  let dup := if job.type = .mint ∨ job.type = .sealAttach then none else db.eventForTx job.txSig job.serial job.type
  match dup with
  | some row => pure (db,row)
  | none =>
    let label := (db.getAttester job.actor).bind (·.label)
    let db := db.upsertAttester job.actor job.ts
    let store (db : Database) (sealUidHash : Option Bytes32) (facts : Facts) : Except HttpError (Database × EventRow) := do
      let passport ← orRefuse (db.getPassport job.serial) ⟨404,"passport not found"⟩
      let make := newEvent job label sealUidHash facts passport
      pure (db.insertEvent make (fun _ => rfl),make db.events.next)
    let settle (db : Database) (existing : Option EventRow) (sealUidHash : Option Bytes32) (facts : Facts) :
        Except HttpError (Database × EventRow) := do
      match existing with
      | some row =>
        let settled := settleExisting db row facts job.txSig job.actor
        pure (settled,← orRefuse (settled.getEvent row.id) internalError)
      | none => store db sealUidHash facts
    match job.type,job.facts with
    | .mint,.mint brand name batch asset bindingHash =>
      checkIssuer db job.serial (db.getPassport job.serial) job.actor
      match db.findEvent job.serial .mint none with
      | some row =>
        if row.status = .confirmed then pure (db,row)
        else
          let (minted,facts) ← mintPassport settings db job label brand name batch asset bindingHash
          settle minted (some row) job.sealUidHash facts
      | none =>
        let (minted,facts) ← mintPassport settings db job label brand name batch asset bindingHash
        settle minted none job.sealUidHash facts
    | .sealAttach,_ =>
      require (db.getPassport job.serial).isSome ⟨404,"passport not found"⟩
      match job.sealUidHash,job.uid with
      | some hash,some uid =>
        require (∀ other ∈ db.getSealByHash hash, other.serial = job.serial) ⟨409,"seal is attached to another passport"⟩
        let existing := db.findEvent job.serial .sealAttach (some hash)
        match existing.filter (·.status == .confirmed) with
        | some row => pure (db,row)
        | none =>
          match job.vt.args settings with
          | some (.attachSeal uidHash kind) =>
            require (uidHash = hash ∧ kind.val ≤ 1) txMismatch
            let attached ← sql (db.upsertSeal hash uid job.serial kind.val job.ts)
            settle attached existing (some hash) (.sealAttach (some hash) (some kind.val))
          | _ => .error txMismatch
      | _,_ => .error internalError
    | .sealDead,facts =>
      require (db.getPassport job.serial).isSome ⟨404,"passport not found"⟩
      let hash := job.sealUidHash <|> sealInTx db job.serial job.vt
      store (applySealDead db job.serial hash) hash facts
    | type,facts =>
      require (db.getPassport job.serial).isSome ⟨404,"passport not found"⟩
      if type = .release ∨ type = .dispute then
        let recorded ← sql (recordOutcome db job)
        store recorded job.sealUidHash facts
      else store db job.sealUidHash facts

def REPORT_WINDOW_S : Int := 24*3600
def REPORT_SOURCES : List String := ["nfc","manual","simulator","t"]

-- The chip a report names: fourteen hex digits, `0x` allowed.
def reportedUid (value : Option String) : Option Uid :=
  value.bind fun text =>
    let digits := removePrefix "0x".toList (strip text.toList)
    if digits.length = 14 ∧ allHexDigits digits then parseUidHex (String.ofList digits) else none

def reportEvent (serial : String) (sealUidHash : Option Bytes32) (source : String) (note : Option String)
    (reportedBy : Option Pubkey) (passport : PassportRow) (ts : Int) (id : ℕ) : EventRow where
  id := id
  serial := serial
  type := .sealDead
  ts := ts
  actor := none
  actorLabel := none
  txSig := none
  status := .reported
  sealUidHash := sealUidHash
  payload := ⟨.report source note reportedBy,none⟩
  gradeAfter := some (if passport.void then Grade.VOID else passport.grade)
  country := none
  city := none
  resumeHash := none

-- SEAL_DEAD without a transaction: stored as `reported`, for an unused session nonce; nothing else changes. The
-- per-IP budget is an input.
def reportSealDead (settings : Settings) (db : Database) (body : EventBody) (now : I64) (allowed : Bool) :
    Except HttpError (Database × EventRow) := do
  require (∀ text ∈ body.actor, text.pubkey.isSome) ⟨422,"actor must be a base58 pubkey"⟩
  let serial ← orRefuse body.serial ⟨422,"serial and type are required for a new event"⟩
  require (validSerial serial) ⟨422,"invalid serial (3–64 characters: letters, digits, '.', '_', '-')"⟩
  let sentSeal ← match body.sealUidHash.filter (· ≠ "") with
    | none => pure none
    | some text => (orRefuse (parseHash text) ⟨422,"sealUidHash"⟩).map some
  let text ← orRefuse (body.nonce.filter (· ≠ "")) ⟨422,"a SEAL_DEAD report without txSig needs a session nonce (POST /api/session)"⟩
  let nonce ← orRefuse (parseHash text) ⟨403,"nonce_invalid"⟩
  require (allowed = true) ⟨429,"report_limited"⟩
  let passport ← orRefuse (db.getPassport serial) ⟨404,"passport not found"⟩
  let source := (body.source.filter REPORT_SOURCES.contains).getD "manual"
  let named := ((reportedUid body.uid).bind db.getSealByUid).filter (·.serial == serial)
  let sealUidHash := sentSeal <|> named.map (·.uidHash)
  match sealUidHash with
  | some hash => sealOfSerial db hash serial
  | none => pure ()
  let session ← orRefuse ((db.getNonce nonce).filter fun row => row.usedAt.isNone && decide (now.val ≤ row.expiresAt))
    ⟨403,"nonce_invalid"⟩
  require (db.openSealDeadReport serial sealUidHash (now.val-REPORT_WINDOW_S) = false) ⟨429,"report_limited"⟩
  let consumed := db.consumeNonce session.nonce now.val
  let make := reportEvent serial sealUidHash source (cleanText settings body.note 120) (body.actor.bind (·.pubkey)) passport now.val
  pure (consumed.insertEvent make (fun _ => rfl),make consumed.events.next)

-- What record_scan wrote, from its arguments, and the fields the program does not check against the bundle.
def scanChainValues (settings : Settings) (vt : VerifiedTx) (payload : Payload) : Option ChainValues :=
  match vt.args settings with
  | some (.recordScan args) =>
    let bundle := match payload.signedScan with
      | some scan => if scan.bundleHash ≠ args.bundleHash then ["bundleHash"] else []
      | none => ["bundleHash"]
    let heat := match payload.signedScan with
      | some scan => if heatLevelsToMask scan.bundle.heatLevels ≠ args.heatLevels.val then ["heatLevels"] else []
      | none => []
    some ⟨some args.tier.val,some args.role.val,some args.siteId.val,.tx,bundle ++ heat⟩
  | _ => none

-- A scan that an older build confirmed from its ScanProof with a signature it had not checked.
def reconcileChoseSignature (event : EventRow) : Bool :=
  let part := event.payload.reconcile
  event.type == .scan && (event.payload.signedScan.bind (·.chain)).isSome && (part.bind (·.scanPda)).isSome &&
    !part.any (·.signatureChecked)

structure ConfirmJob where
  eventId : ℕ
  type : EventType
  txSig : Signature
  actor : Pubkey
  payload : Payload
  vt : VerifiedTx
  repair : Bool
  deriving DecidableEq

inductive ConfirmStage where
  | answered (row : EventRow)
  | refused (error : HttpError)
  | fail (eventId : ℕ) (txSig : Signature)
  | write (job : ConfirmJob)

-- First half of a confirmation: the event as it stands, the verified transaction, or what a refused one means.
def confirmRead (settings : Settings) (db : Database) (body : EventBody) (eventId : ℕ) (reads : ChainReads) :
    Except HttpError ConfirmStage := do
  require (∀ text ∈ body.actor, text.pubkey.isSome) ⟨422,"actor must be a base58 pubkey"⟩
  let event ← orRefuse (db.getEvent eventId) ⟨404,"event not found"⟩
  if event.status = .confirmed ∧ body.txSig.isSome ∧ event.txSig = body.txSig then pure (.answered event)
  else
    let repair := event.status == .confirmed && body.txSig.isSome && event.txSig.isSome && reconcileChoseSignature event
    require (event.status ≠ .confirmed ∨ body.txSig.isSome ∧ (event.txSig = none ∨ repair = true)) ⟨409,"event_confirmed"⟩
    let txSig ← orRefuse body.txSig ⟨422,"txSig is required to confirm an event"⟩
    require (flaconIx event.type ≠ none ∨ escrowIx event.type ≠ none) ⟨422,"event type cannot be confirmed"⟩
    let claimed := if event.type = .scan then event.payload.claimed else none
    let expected := event.actor <|> claimed
    let actor ← orRefuse ((body.actor.bind (·.pubkey)) <|> expected) ⟨422,"actor is required to confirm this event"⟩
    require (∀ key ∈ expected, actor = key) txMismatch
    let counter := if event.type = .scan then event.payload.counter else none
    let exp ← expectation settings db event.type event.serial event.sealUidHash counter
    match verifyTransaction settings reads txSig actor exp with
    | .error error =>
      if repair then pure (.refused ⟨409,"event_confirmed"⟩)
      else if error = txFailed ∧ event.type = .scan ∧ expected = some actor then pure (.fail eventId txSig)
      else pure (.refused error)
    | .ok vt =>
      let sameCounter := match vt.args settings with
        | some (.recordScan args) => decide (some args.counter.val = counter)
        | _ => true
      if event.type = .scan ∧ ¬(vt.account .signer = some actor ∧ sameCounter = true) then
        pure (.refused (if repair then ⟨409,"event_confirmed"⟩ else txMismatch))
      else pure (.write ⟨eventId,event.type,txSig,actor,event.payload,vt,repair⟩)

-- The claimed attester's own record_scan failed.
def failWrite (db : Database) (eventId : ℕ) (txSig : Signature) : Database :=
  let events := db.events.update (fun row => row.id = eventId ∧ row.status = .pending)
    (fun row => {row with status := .failed
                          txSig := some txSig}) (fun _ => rfl)
  {db with events := events}

def checkedSignature (row : EventRow) : EventRow :=
  {row with payload := {row.payload with reconcile := row.payload.reconcile.map fun part => {part with signatureChecked := true}}}

namespace ConfirmJob

-- The row of a confirmed event gets the signature it still lacks.
def fill (job : ConfirmJob) (row : EventRow) : EventRow :=
  let signed := if (row.payload.reconcile.bind (·.scanPda)).isSome then checkedSignature row else row
  {signed with txSig := some job.txSig}

-- A checked signature replaces the one an older build chose.
def repaired (job : ConfirmJob) (row : EventRow) : EventRow := {checkedSignature row with txSig := some job.txSig}

-- The row of an event that turns confirmed.
def posted (job : ConfirmJob) (row : EventRow) : EventRow :=
  {row with status := .confirmed
            txSig := some job.txSig
            actor := some job.actor
            resumeHash := none}

@[simp] theorem fill_id (job : ConfirmJob) (row : EventRow) : (job.fill row).id = row.id := by
  unfold fill
  dsimp only
  split <;> rfl

@[simp] theorem repaired_id (job : ConfirmJob) (row : EventRow) : (job.repaired row).id = row.id := rfl
@[simp] theorem posted_id (job : ConfirmJob) (row : EventRow) : (job.posted row).id = row.id := rfl

-- A confirmed event keeps its signature, unless it has none or the job repairs it.
def addSignature (job : ConfirmJob) (db : Database) (current : EventRow) : Except HttpError Database :=
  match current.txSig with
  | none => pure (db.updateEvent job.eventId job.fill job.fill_id)
  | some signature =>
    if signature = job.txSig then pure db
    else do
      require (job.repair = true ∧ reconcileChoseSignature current = true) ⟨409,"event_confirmed"⟩
      pure (db.updateEvent job.eventId job.repaired job.repaired_id)

-- What else changes when an event turns confirmed: `current` is its row before, `event` its row after.
def effects (settings : Settings) (job : ConfirmJob) (confirmed : Database) (current event : EventRow) (now : I64) : Database :=
  if job.type = .scan then
    (confirmed.upsertAttester job.actor now.val).applyConfirmedScan event (some job.actor) now.val
      (scanChainValues settings job.vt job.payload)
  else if job.type = .sealDead then
    let hash := current.sealUidHash <|> sealInTx confirmed current.serial job.vt
    let mark (row : EventRow) : EventRow := {row with gradeAfter := some Grade.VOID
                                                      sealUidHash := hash}
    (applySealDead confirmed current.serial hash).updateEvent job.eventId mark (fun _ => rfl)
  else confirmed

end ConfirmJob

-- Second half of a confirmation: one write transaction on the event as it stands then.
def confirmWrite (settings : Settings) (db : Database) (job : ConfirmJob) (now : I64) : Except HttpError (Database × EventRow) := do
  let current ← orRefuse (db.getEvent job.eventId) internalError
  if current.status = .confirmed then
    let filled ← job.addSignature db current
    pure (filled,← orRefuse (filled.getEvent job.eventId) internalError)
  else
    let confirmed := db.updateEvent job.eventId job.posted job.posted_id
    let event ← orRefuse (confirmed.getEvent job.eventId) internalError
    let applied := job.effects settings confirmed current event now
    pure (applied,← orRefuse (applied.getEvent job.eventId) internalError)

-- Everything the second half of a confirmation can do.
inductive ConfirmOutcome (settings : Settings) (db : Database) (job : ConfirmJob) (current : EventRow) (now : I64) : Database → Prop
  | filled (status : current.status = .confirmed) (bare : current.txSig = none) :
      ConfirmOutcome settings db job current now (db.updateEvent job.eventId job.fill job.fill_id)
  | kept (status : current.status = .confirmed) (same : current.txSig = some job.txSig) : ConfirmOutcome settings db job current now db
  | repaired (status : current.status = .confirmed) (repair : job.repair = true) (chosen : reconcileChoseSignature current = true) :
      ConfirmOutcome settings db job current now (db.updateEvent job.eventId job.repaired job.repaired_id)
  | posted (unsettled : current.status ≠ .confirmed) : ConfirmOutcome settings db job current now
      (job.effects settings (db.updateEvent job.eventId job.posted job.posted_id) current (job.posted current) now)

theorem getEvent_updateEvent {db : Database} {id : ℕ} {change : EventRow → EventRow} {keeps : ∀ row, (change row).id = row.id}
    {current : EventRow} (found : db.getEvent id = some current) : (db.updateEvent id change keeps).getEvent id = some (change current) := by
  have named : current.id = id := (Log.get_some.mp found).2
  unfold Database.getEvent at found
  unfold Database.getEvent Database.updateEvent
  rw [Log.get_update]
  simp [found,named]

theorem confirmWrite_parts {settings : Settings} {db db' : Database} {job : ConfirmJob} {now : I64} {row : EventRow}
    (accepted : confirmWrite settings db job now = .ok (db',row)) :
    ∃ current, db.getEvent job.eventId = some current ∧ ConfirmOutcome settings db job current now db' := by
  unfold confirmWrite at accepted
  obtain ⟨current,found,accepted⟩ := bind_ok.mp accepted
  rw [orRefuse_ok] at found
  refine ⟨current,found,?_⟩
  split at accepted
  · rename_i status
    obtain ⟨filled,passed,finished⟩ := bind_ok.mp accepted
    obtain ⟨_,_,done⟩ := bind_ok.mp finished
    obtain ⟨rfl,_⟩ := Prod.mk.inj (pure_ok.mp done)
    unfold ConfirmJob.addSignature at passed
    split at passed
    · rename_i bare
      exact pure_ok.mp passed ▸ .filled status bare
    · rename_i signature signed
      split at passed
      · rename_i same
        exact pure_ok.mp passed ▸ .kept status (same ▸ signed)
      · obtain ⟨_,allowed,done⟩ := bind_ok.mp passed
        obtain ⟨repair,chosen⟩ := require_ok.mp allowed
        exact pure_ok.mp done ▸ .repaired status repair chosen
  · rename_i unsettled
    obtain ⟨event,reread,finished⟩ := bind_ok.mp accepted
    obtain ⟨_,_,done⟩ := bind_ok.mp finished
    obtain ⟨rfl,_⟩ := Prod.mk.inj (pure_ok.mp done)
    rw [orRefuse_ok,getEvent_updateEvent found,Option.some.injEq] at reread
    exact reread ▸ .posted unsettled

-- A job for an event that is not confirmed yet goes through.
theorem confirmWrite_posted {settings : Settings} {db : Database} {job : ConfirmJob} {now : I64} {current row : EventRow}
    (found : db.getEvent job.eventId = some current) (unsettled : current.status ≠ .confirmed)
    (last : (job.effects settings (db.updateEvent job.eventId job.posted job.posted_id) current (job.posted current) now).getEvent
      job.eventId = some row) :
    confirmWrite settings db job now =
      .ok (job.effects settings (db.updateEvent job.eventId job.posted job.posted_id) current (job.posted current) now,row) := by
  unfold confirmWrite
  rw [found]
  simp only [orRefuse,ok_bind,if_neg unsettled,getEvent_updateEvent found,last]
  rfl

end FlaconVault.Verifier
