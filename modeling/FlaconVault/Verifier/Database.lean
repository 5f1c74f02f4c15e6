import FlaconVault.Lib.Tables
import FlaconVault.Ledger.Accounts
namespace FlaconVault.Verifier

-- Columns that hold the text of some bytes (upper-case hex of a chip UID, lower-case hex of a hash, base58 of a key)
-- are modelled by what they spell: each of these spellings is one to one.
abbrev Uid := {bytes : List Byte // bytes.length = 7}
abbrev Signature := String

inductive EventType where
  | mint | sealAttach | scan | list | reserve | ship | receive | release | dispute | sealDead
  deriving DecidableEq

inductive Status where
  | pending | confirmed | failed | reported
  deriving DecidableEq

inductive Verdict where
  | valid | invalid | replay | nonceInvalid | unregistered | noResponse
  deriving DecidableEq

inductive Platform where
  | androidWeb | iosWeb | desktopWeb | simulator
  deriving DecidableEq

-- Why an account's data is not the account that was looked for.
inductive DecodeError where
  | noData
  | foreignDiscriminator (found : List Byte)
  | truncated (offset needed left : ℕ)
  | otherScan
  deriving DecidableEq

structure Indicators where
  heat : ℕ
  humidity : ℕ
  uv : ℕ
  deriving DecidableEq

structure AttesterClaim where
  role : ℕ
  tier : ℕ
  pubkey : Option Pubkey
  deriving DecidableEq

structure Location where
  country : Option String
  city : Option String
  deriving DecidableEq

structure Media where
  sha256 : Bytes32
  ar : Option String
  deriving DecidableEq

structure ServerPart where
  keyId : U8
  verdict : Verdict
  ts : Int
  sig : List Byte
  deriving DecidableEq

-- The signed evidence bundle. Its constant keys (schema, seal.uidHash, visual.loopIntact, logger) are left out.
structure Bundle where
  serial : String
  serialHash : Bytes32
  uidHash : Bytes32
  counter : ℕ
  sealKind : ℕ
  tamper : ℕ
  indicators : Indicators
  heatLevels : List ℕ
  fill : ℕ
  note : String
  location : Location
  media : List Media
  nonce : Bytes32
  issuedAt : Int
  platform : Platform
  attester : AttesterClaim
  server : ServerPart
  ts : Int
  deriving DecidableEq

inductive AttestationSource where
  | tx | chain | claimed | unverified
  deriving DecidableEq

structure Attestation where
  attester : Option Pubkey
  tier : Option ℕ
  role : Option ℕ
  siteId : Option ℕ
  source : AttestationSource
  mismatch : List String
  deriving DecidableEq

structure ChainPart where
  attester : Pubkey
  tier : ℕ
  role : ℕ
  siteId : ℕ
  counter : ℕ
  scanPda : Pubkey
  deriving DecidableEq

structure ReconcilePart where
  checkedAt : Option Int
  scanPda : Option Pubkey
  ignoredAccount : Option DecodeError
  reason : Option String
  mismatch : Option (List String)
  signatureChecked : Bool
  recoveredFrom : Option Status
  deriving DecidableEq

def ReconcilePart.empty : ReconcilePart := ⟨none,none,none,none,none,false,none⟩

-- payload_json of a scan signed by /api/verify: the bundle, what the server adds when signing, and what a
-- confirmation adds (`confirmed`, `tier`, `role`, `chain`).
structure ScanPayload where
  bundle : Bundle
  grade : ℕ
  reviewRecommended : Bool
  msg : List Byte
  bundleHash : Bytes32
  siteId : Option ℕ
  confirmed : Option Attestation
  tier : Option ℕ
  role : Option ℕ
  chain : Option ChainPart
  deriving DecidableEq

-- payload_json of a transaction-backed event, without what is only displayed (currency, priceUsdc, kindName, uidTail).
inductive Facts where
  | mint (brand name batch : Option String) (asset : Option Pubkey) (bindingHash : Option Bytes32)
  | sealAttach (uidHash : Option Bytes32) (kind : Option ℕ)
  | sealDead
  | list (order : Option Pubkey) (price : Option ℕ) (seller : Pubkey)
  | reserve (order : Option Pubkey) (price : Option ℕ) (buyer : Pubkey)
  | ship (order : Option Pubkey) (carrier : Option String) (preShipScanCounter : Option ℕ)
  | receive (order : Option Pubkey) (preShipScanCounter receiptScanCounter : Option ℕ) (matched : Option Bool)
      (fillDelta : Option ℕ)
  | release (order : Option Pubkey) (price : Option ℕ) (recipient passportTo : Option Pubkey) (reason : Option String)
  | dispute (order : Option Pubkey) (reason : Option String) (reasonCode refunded : Option ℕ)
  deriving DecidableEq

inductive PayloadBody where
  | signedScan (scan : ScanPayload)
  | sighting (counter tapId : ℕ)
  | facts (facts : Facts)
  | report (source : String) (note : Option String) (reportedBy : Option Pubkey)
  deriving DecidableEq

structure Payload where
  body : PayloadBody
  reconcile : Option ReconcilePart
  deriving DecidableEq

namespace Payload

-- `$.indicators IS NOT NULL`: the payload of a signed scan.
def signedScan (payload : Payload) : Option ScanPayload :=
  match payload.body with
  | .signedScan scan => some scan
  | _ => none

-- `$.counter`.
def counter (payload : Payload) : Option ℕ :=
  match payload.body with
  | .signedScan scan => some scan.bundle.counter
  | .sighting counter _ => some counter
  | _ => none

-- `$.attester.pubkey`.
def claimed (payload : Payload) : Option Pubkey := payload.signedScan.bind (·.bundle.attester.pubkey)

def setScan (payload : Payload) (scan : ScanPayload) : Payload := {payload with body := .signedScan scan}

@[simp] theorem signedScan_setScan (payload : Payload) (scan : ScanPayload) : (payload.setScan scan).signedScan = some scan := rfl
@[simp] theorem setScan_reconcile (payload : Payload) (scan : ScanPayload) : (payload.setScan scan).reconcile = payload.reconcile := rfl

end Payload

structure PassportRow where
  serial : String
  serialHash : Bytes32
  brand : String
  name : String
  batch : Option String
  asset : Option Pubkey
  issuer : Option Pubkey
  issuerLabel : Option String
  grade : ℕ
  void : Bool
  createdAt : Int
  deriving DecidableEq

structure SealRow where
  uidHash : Bytes32
  uid : Uid
  serial : String
  kind : ℕ
  lastCounter : ℕ
  dead : Bool
  attachedAt : Int
  deriving DecidableEq

structure EventRow where
  id : ℕ
  serial : String
  type : EventType
  ts : Int
  actor : Option Pubkey
  actorLabel : Option String
  txSig : Option Signature
  status : Status
  sealUidHash : Option Bytes32
  payload : Payload
  gradeAfter : Option ℕ
  country : Option String
  city : Option String
  resumeHash : Option Bytes32
  deriving DecidableEq

namespace EventRow

-- A confirmed, bundle-carrying scan.
def confirmedScan (row : EventRow) : Bool :=
  row.type == .scan && row.status == .confirmed && row.payload.signedScan.isSome

-- Did the program apply the scan `other` after the scan `row`? On one seal the counters tell, else signing time and id.
def newer (other row : EventRow) : Bool :=
  let signedLater := decide (row.ts < other.ts ∨ row.ts = other.ts ∧ row.id < other.id)
  match row.payload.counter,other.payload.counter with
  | some counter,some otherCounter =>
    if row.sealUidHash.isSome ∧ other.sealUidHash = row.sealUidHash then decide (counter < otherCounter) else signedLater
  | _,_ => signedLater

-- Counted in the passport's scan_count on chain: backed by its transaction, by its ScanProof or by decoded chain data.
def onChain (row : EventRow) : Bool :=
  row.txSig.isSome || (row.payload.reconcile.bind (·.scanPda)).isSome || (row.payload.signedScan.bind (·.chain)).isSome

-- The tier a confirmed scan counts with.
def scanTier (row : EventRow) : ℕ :=
  match row.payload.signedScan with
  | none => 0
  | some scan =>
    let claim := if row.actor.isSome ∧ row.actor = scan.bundle.attester.pubkey then some scan.bundle.attester.tier else none
    ((scan.chain.map (·.tier)) <|> scan.tier <|> claim).getD 0

end EventRow

structure AttesterRow where
  pubkey : Pubkey
  firstSeen : Int
  scanCount : ℕ
  certifiedCount : ℕ
  escrowsOk : ℕ
  escrowsDisputed : ℕ
  agreeCount : ℕ
  compareCount : ℕ
  label : Option String
  isPartner : Bool
  deriving DecidableEq

def AttesterRow.fresh (pubkey : Pubkey) (firstSeen : Int) : AttesterRow := ⟨pubkey,firstSeen,0,0,0,0,0,0,none,false⟩

structure NonceRow where
  nonce : Bytes32
  issuedAt : Int
  expiresAt : Int
  usedAt : Option Int
  deriving DecidableEq

inductive TapSource where
  | t | verify
  deriving DecidableEq

-- A tap row shows the chip's UID, or for a tap that could not be parsed the text that was sent.
inductive TapUid where
  | chip (uid : Uid)
  | text (sent : String)
  deriving DecidableEq

structure TapRow where
  id : ℕ
  ts : Int
  source : TapSource
  uid : Option TapUid
  ctr : Option U24
  cmac : Option (List Byte)
  verdict : Verdict
  serial : Option String
  adoptHash : Option Bytes32
  adoptedAt : Option Int
  deriving DecidableEq

structure OrderRow where
  orderPda : Pubkey
  listedAt : Int
  passport : Pubkey
  seller : Pubkey
  buyer : Option Pubkey
  price : ℕ
  state : ℕ
  updatedAt : Int
  deriving DecidableEq

-- The decoded registry in chain_state.
structure StoredRegistry where
  programId : Pubkey
  registry : Registry
  updatedAt : Int
  deriving DecidableEq

abbrev EventLog := Log EventRow.id

-- `applied` is no table of the schema: it records the calls of apply_confirmed_scan, so that statements can speak
-- about them. Nothing reads it.
structure Database where
  passports : Table PassportRow.serial
  seals : Table SealRow.uidHash
  events : EventLog
  attesters : Table AttesterRow.pubkey
  nonces : Table NonceRow.nonce
  taps : Table TapRow.id
  escrowOrders : Table fun row : OrderRow => (row.orderPda,row.listedAt)
  registry : Option StoredRegistry
  applied : List ℕ

def Database.empty : Database := ⟨.empty,.empty,.empty,.empty,.empty,.empty,.empty,none,[]⟩

end FlaconVault.Verifier
