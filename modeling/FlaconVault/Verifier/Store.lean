import FlaconVault.Lib.Guards
import FlaconVault.Verifier.Grades
namespace FlaconVault.Verifier
open Guards

-- What SQLite or its Python binding raises; the write transaction around it is rolled back.
inductive SqlError where
  | overflow | integrity
  deriving DecidableEq

-- An integer parameter is bound only inside the signed 64-bit range.
def sqlInt (value : Int) : Except SqlError Unit := require (-2^63 ≤ value ∧ value < 2^63) .overflow

namespace Database

-- Passports.
def getPassport (db : Database) (serial : String) : Option PassportRow := db.passports.get serial

def upsertPassport (db : Database) (row : PassportRow) : Except SqlError Database :=
  match db.passports.insert row with
  | some passports =>
    if db.passports.rows.any (·.serialHash == row.serialHash) then .error .integrity
    else .ok {db with passports := passports}
  | none =>
    let passports := db.passports.update (·.serial = row.serial)
      (fun old => {old with batch := old.batch <|> row.batch
                            asset := row.asset <|> old.asset
                            issuer := row.issuer <|> old.issuer
                            issuerLabel := row.issuerLabel <|> old.issuerLabel}) (fun _ => rfl)
    .ok {db with passports := passports}

def setGrade (db : Database) (serial : String) (graded : ℕ × Bool) : Database :=
  let passports := db.passports.update (·.serial = serial)
    (fun row => {row with grade := graded.1
                          void := graded.2}) (fun _ => rfl)
  {db with passports := passports}

def setPassportGrade (db : Database) (serial : String) (grade : ℕ) (latest : Bool) : Database :=
  match db.getPassport serial with
  | none => db
  | some row => db.setGrade serial (passportAfterScan row.grade row.void grade latest)

def voidPassport (db : Database) (serial : String) : Database := db.setGrade serial (Grade.VOID,true)

-- Replay memory.
def consumingVerdict (verdict : Verdict) : Bool := verdict == .valid || verdict == .unregistered

-- Replay memory for a UID without a seal: the highest counter of a genuine tap seen so far.
def lastCounterUnregistered (db : Database) (uid : Uid) : ℕ :=
  ((db.taps.rows.filter fun row => row.uid == some (.chip uid) && consumingVerdict row.verdict).filterMap (·.ctr)).foldr (fun ctr highest => max ctr.val highest) 0

-- Seals.
def getSealByUid (db : Database) (uid : Uid) : Option SealRow := db.seals.rows.find? (·.uid == uid)
def getSealByHash (db : Database) (uidHash : Bytes32) : Option SealRow := db.seals.get uidHash
def sealsFor (db : Database) (serial : String) : List SealRow := db.seals.rows.filter (·.serial == serial)

-- The counter of a new seal starts at the highest counter already seen for its UID while it was unregistered.
def upsertSeal (db : Database) (uidHash : Bytes32) (uid : Uid) (serial : String) (kind : ℕ) (attachedAt : Int) :
    Except SqlError Database :=
  let lastCounter := max 0 (db.lastCounterUnregistered uid)
  match db.seals.insert ⟨uidHash,uid,serial,kind,lastCounter,false,attachedAt⟩ with
  | some seals =>
    if db.seals.rows.any (·.uid == uid) then .error .integrity else .ok {db with seals := seals}
  | none =>
    let seals := db.seals.update (·.uidHash = uidHash)
      (fun old => {old with serial := serial
                            kind := kind
                            lastCounter := max old.lastCounter lastCounter}) (fun _ => rfl)
    .ok {db with seals := seals}

def advanceSealCounter (db : Database) (uidHash : Bytes32) (counter : ℕ) : Database :=
  let seals := db.seals.update (fun row => row.uidHash = uidHash ∧ row.lastCounter < counter)
    (fun row => {row with lastCounter := counter}) (fun _ => rfl)
  {db with seals := seals}

def markSealDead (db : Database) (uidHash : Bytes32) : Database :=
  let seals := db.seals.update (·.uidHash = uidHash) (fun row => {row with dead := true}) (fun _ => rfl)
  {db with seals := seals}

-- Events.
def getEvent (db : Database) (id : ℕ) : Option EventRow := db.events.get id

def insertEvent (db : Database) (make : ℕ → EventRow) (named : ∀ number, (make number).id = number) : Database :=
  {db with events := db.events.append make named}

def updateEvent (db : Database) (id : ℕ) (change : EventRow → EventRow) (keeps : ∀ row, (change row).id = row.id) :
    Database :=
  {db with events := db.events.update (·.id = id) change keeps}

def updateEventPayload (db : Database) (id : ℕ) (payload : Payload) : Database :=
  db.updateEvent id (fun row => {row with payload := payload}) (fun _ => rfl)

def findEvent (db : Database) (serial : String) (type : EventType) (sealUidHash : Option Bytes32) : Option EventRow :=
  db.events.rows.find? fun row => row.serial == serial && row.type == type &&
    (sealUidHash.isNone || row.sealUidHash == sealUidHash)

def eventForTx (db : Database) (txSig : Signature) (serial : String) (type : EventType) : Option EventRow :=
  db.events.rows.find? fun row => row.txSig == some txSig && row.serial == serial && row.type == type

def eventActors (db : Database) (serial : String) (type : EventType) : List Pubkey :=
  ((db.events.rows.filter fun row => row.serial == serial && row.type == type).filterMap (·.actor)).dedup

def hasPendingEvents (db : Database) (serial : String) : Bool :=
  db.events.rows.any fun row => row.serial == serial && row.status == .pending

def previousScanBefore (db : Database) (serial : String) (before : ℕ) : Option EventRow :=
  db.events.rows.reverse.find? fun row => row.serial == serial && row.confirmedScan && decide (row.id < before)

-- Did the program apply another confirmed scan of this passport after this one?
def newerConfirmedScanExists (db : Database) (event : EventRow) : Bool :=
  db.events.rows.any fun row => row.serial == event.serial && row.confirmedScan && row.id != event.id && row.newer event

def onchainScanCount (db : Database) (serial : String) : ℕ :=
  db.events.rows.countP fun row => row.serial == serial && row.confirmedScan && row.onChain

def scanEventsToReconcile (db : Database) (failedSince : Int) : List EventRow :=
  db.events.rows.filter fun row => row.type == .scan && row.sealUidHash.isSome && row.payload.counter.isSome &&
    (row.status == .pending || (row.status == .failed && decide (row.ts ≥ failedSince)))

-- Pending events no ScanProof can ever confirm.
def stalePendingEvents (db : Database) (before : Int) : List EventRow :=
  db.events.rows.filter fun row => row.status == .pending && decide (row.ts < before) &&
    !(row.type == .scan && row.sealUidHash.isSome && row.payload.counter.isSome)

-- A confirmed signed scan replaces the sighting of the same physical tap.
def dropSupersededSighting (db : Database) (serial : String) (sealUidHash : Bytes32) (counter keep : ℕ) : Database :=
  {db with events := db.events.delete fun row => row.serial == serial && row.type == .scan && row.id != keep &&
    row.txSig.isNone && row.sealUidHash == some sealUidHash && row.payload.counter == some counter &&
    row.payload.signedScan.isNone}

def openSealDeadReport (db : Database) (serial : String) (sealUidHash : Option Bytes32) (since : Int) : Bool :=
  db.events.rows.any fun row => row.serial == serial && row.type == .sealDead && row.status == .reported &&
    decide (row.ts ≥ since) && (sealUidHash.isNone || row.sealUidHash.isNone || row.sealUidHash == sealUidHash)

-- Attesters.
def getAttester (db : Database) (pubkey : Pubkey) : Option AttesterRow := db.attesters.get pubkey

def updateAttester (db : Database) (pubkey : Pubkey) (change : AttesterRow → AttesterRow)
    (keeps : ∀ row, (change row).pubkey = row.pubkey) : Database :=
  {db with attesters := db.attesters.update (·.pubkey = pubkey) change keeps}

def upsertAttester (db : Database) (pubkey : Pubkey) (firstSeen : Int) : Database :=
  {db with attesters := db.attesters.ensure (.fresh pubkey firstSeen)}

def bumpAttester (db : Database) (pubkey : Pubkey) (ts : Int) (scans certified agree compare : ℕ) : Database :=
  (db.upsertAttester pubkey ts).updateAttester pubkey
    (fun row => {row with scanCount := row.scanCount + scans
                          certifiedCount := row.certifiedCount + certified
                          agreeCount := row.agreeCount + agree
                          compareCount := row.compareCount + compare}) (fun _ => rfl)

def partnerPubkeys (db : Database) : List Pubkey := (db.attesters.rows.filter (·.isPartner)).map (·.pubkey)

def syncRegistryPartners (db : Database) (partners : List Pubkey) (ts : Int) : Database :=
  let known := partners.foldl (fun db pubkey => db.upsertAttester pubkey ts) db
  let attesters := known.attesters.update (fun _ => true)
    (fun row => {row with isPartner := partners.contains row.pubkey}) (fun _ => rfl)
  {known with attesters := attesters}

-- Nonces.
def insertNonce (db : Database) (nonce : Bytes32) (issuedAt expiresAt : Int) : Except SqlError Database :=
  match db.nonces.insert ⟨nonce,issuedAt,expiresAt,none⟩ with
  | some nonces => .ok {db with nonces := nonces}
  | none => .error .integrity

def getNonce (db : Database) (nonce : Bytes32) : Option NonceRow := db.nonces.get nonce

def consumeNonce (db : Database) (nonce : Bytes32) (usedAt : Int) : Database :=
  {db with nonces := db.nonces.update (·.nonce = nonce) (fun row => {row with usedAt := some usedAt}) (fun _ => rfl)}

def purgeNonces (db : Database) (before : Int) : Database :=
  let expired (row : NonceRow) := decide (row.expiresAt < before) && (row.usedAt.isSome || decide (row.expiresAt < before-3600))
  {db with nonces := db.nonces.delete expired}

-- Taps.
def getTap (db : Database) (id : ℕ) : Option TapRow := db.taps.get id

-- The row gets the first of the drawn ids that is free; after eight taken ids the request fails.
def insertTapRandomId (db : Database) (ids : List ℕ) (make : ℕ → TapRow) : Except SqlError (Database × TapRow) :=
  match (ids.take 8).findSome? fun id => (db.taps.insert (make id)).map fun taps => (taps,make id) with
  | some (taps,tap) => .ok ({db with taps := taps},tap)
  | none => .error .integrity

def markTapAdopted (db : Database) (id : ℕ) (ts : Int) : Option Database :=
  match db.getTap id with
  | some tap =>
    if tap.adoptedAt.isNone then
      some {db with taps := db.taps.update (·.id = id) (fun row => {row with adoptedAt := some ts}) (fun _ => rfl)}
    else none
  | none => none

def purgeInvalidTaps (db : Database) (before : Int) : Database :=
  {db with taps := db.taps.delete fun row => row.verdict == .invalid && decide (row.ts < before)}

end Database

-- Escrow orders. RELEASED, DISPUTE and CANCELLED are final for one listing.
def ORDER_RELEASED : ℕ := 5
def ORDER_DISPUTE : ℕ := 7
def ORDER_TERMINAL : List ℕ := [ORDER_RELEASED,ORDER_DISPUTE,8]

-- An Order account as read from chain.
structure ChainOrder where
  passport : Pubkey
  seller : Pubkey
  buyer : Option Pubkey
  asset : Pubkey
  price : U64
  state : U8
  listedAt : I64
  reservedAt : I64
  shippedAt : I64
  sellerScan : Pubkey
  buyerScan : Pubkey
  disputeAfterS : I64
  assetDeposited : Bool
  deriving DecidableEq

namespace Database

-- ORDER BY listed_at LIMIT 1, from below and from above.
def oldestListing (rows : List OrderRow) : Option OrderRow :=
  Table.first (fun row held => row.listedAt < held.listedAt) rows

def newestListing (rows : List OrderRow) : Option OrderRow :=
  Table.first (fun row held => held.listedAt < row.listedAt) rows

-- INSERT … ON CONFLICT(order_pda, listed_at) DO UPDATE; both integers are bound as SQL parameters.
def putOrder (db : Database) (row : OrderRow) (merge : OrderRow → OrderRow)
    (keeps : ∀ old, ((merge old).orderPda,(merge old).listedAt) = (old.orderPda,old.listedAt)) : Except SqlError Database := do
  sqlInt row.listedAt
  sqlInt row.price
  match db.escrowOrders.insert row with
  | some orders => pure {db with escrowOrders := orders}
  | none =>
    let orders := db.escrowOrders.update (fun old => (old.orderPda,old.listedAt) = (row.orderPda,row.listedAt)) merge keeps
    pure {db with escrowOrders := orders}

-- Placeholder rows of a listing: those an outcome wrote while its Order was unreadable.
def placeholder (orderPda : Pubkey) (listedAt : Int) (row : OrderRow) : Bool :=
  row.orderPda == orderPda && decide (row.listedAt < 0) && decide (-row.listedAt ≥ listedAt)

def upsertEscrowOrder (db : Database) (orderPda : Pubkey) (order : ChainOrder) (ts : Int) : Except SqlError Database :=
  let listedAt := order.listedAt.val
  let found := oldestListing (db.escrowOrders.rows.filter (placeholder orderPda listedAt))
  let db := match found with
    | some _ => {db with escrowOrders := db.escrowOrders.delete (placeholder orderPda listedAt)}
    | none => db
  let state := match found with
    | some row => if order.state.val ∈ ORDER_TERMINAL then order.state.val else row.state
    | none => order.state.val
  db.putOrder ⟨orderPda,listedAt,order.passport,order.seller,order.buyer,order.price.val,state,ts⟩
    (fun old =>
      if old.state ∈ ORDER_TERMINAL ∨ (old.state = state ∧ old.buyer = order.buyer ∧ old.price = order.price.val) then old
      else {old with buyer := order.buyer
                     price := order.price.val
                     state := state
                     updatedAt := ts})
    (fun old => by split <;> rfl)

def participants (db : Database) : List (Pubkey × ℕ) :=
  db.escrowOrders.rows.flatMap fun row =>
    (row.seller,row.listedAt.natAbs) :: (row.buyer.map fun buyer => (buyer,row.listedAt.natAbs)).toList

-- SQLite's ABS raises on the smallest integer, wherever it stands in the table.
def syncEscrowCounters (db : Database) (only : Option (List Pubkey)) : Except SqlError Database := do
  require (∀ row ∈ db.escrowOrders.rows, row.listedAt ≠ -2^63) .overflow
  let known := db.participants.foldl (fun known entry => known.upsertAttester entry.1
    (((db.participants.filter (·.1 == entry.1)).map (·.2)).foldr min entry.2)) db
  let settled (state : ℕ) (pubkey : Pubkey) := db.escrowOrders.rows.countP fun row =>
    row.state == state && (row.seller == pubkey || row.buyer == some pubkey)
  let wanted (row : AttesterRow) := match only with
    | none => true
    | some pubkeys => pubkeys.contains row.pubkey
  let attesters := known.attesters.update wanted
    (fun row => {row with escrowsOk := settled ORDER_RELEASED row.pubkey
                          escrowsDisputed := settled ORDER_DISPUTE row.pubkey}) (fun _ => rfl)
  pure {known with attesters := attesters}

-- A confirmed RELEASE or DISPUTE at block time `at` becomes the final state of its listing: of the Order read with
-- the transaction, else of the newest known listing, else of a placeholder row.
def recordEscrowOutcome (db : Database) (orderPda : Pubkey) (state : ℕ) (blockTime : Option Int) (ts : Int)
    (order : Option ChainOrder) (passport seller buyer : Option Pubkey) (price : Option ℕ) : Except SqlError Database :=
  let read := order.filter fun order => match blockTime with
    | none => true
    | some moment => decide (order.listedAt.val ≤ moment)
  match read with
  | some order => do
    let buyer := order.buyer <|> buyer
    let db ← db.putOrder ⟨orderPda,order.listedAt.val,order.passport,order.seller,buyer,order.price.val,state,ts⟩
      (fun old => {old with buyer := buyer <|> old.buyer
                            price := order.price.val
                            state := state
                            updatedAt := ts}) (fun _ => rfl)
    db.syncEscrowCounters (some (order.seller :: buyer.toList))
  | none =>
    let listings := db.escrowOrders.rows.filter fun row => row.orderPda == orderPda && decide (row.listedAt ≥ 0) &&
      match blockTime with
      | none => true
      | some moment => decide (row.listedAt ≤ moment)
    match newestListing listings,passport,seller with
    | some row,_,_ =>
      let orders := db.escrowOrders.update (fun old => (old.orderPda,old.listedAt) = (orderPda,row.listedAt))
        (fun old => {old with state := state
                              buyer := old.buyer <|> buyer
                              updatedAt := ts}) (fun _ => rfl)
      Database.syncEscrowCounters {db with escrowOrders := orders} (some (row.seller :: (row.buyer <|> buyer).toList))
    | none,some passport,some seller => do
      let db ← db.putOrder ⟨orderPda,-(blockTime.getD ts),passport,seller,buyer,price.getD 0,state,ts⟩
        (fun old => {old with state := state
                              updatedAt := ts}) (fun _ => rfl)
      db.syncEscrowCounters (some (seller :: buyer.toList))
    | none,_,_ => pure db

end Database
end FlaconVault.Verifier
