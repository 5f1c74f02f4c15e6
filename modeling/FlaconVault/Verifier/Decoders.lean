import FlaconVault.Flacon.Instructions
import FlaconVault.Verifier.Settings
import FlaconVault.Verifier.Store
namespace FlaconVault.Verifier
open Bytes

-- Reading a buffer from front to back.
structure Cursor where
  offset : ℕ
  rest : List Byte

abbrev Reader := StateT Cursor (Except DecodeError)

namespace Reader

def take (size : ℕ) : Reader (List Byte) := fun cursor =>
  if size ≤ cursor.rest.length then .ok (cursor.rest.take size,⟨cursor.offset+size,cursor.rest.drop size⟩)
  else .error (.truncated cursor.offset size cursor.rest.length)

def u8 : Reader U8 := do return Fin.ofNat 256 (fromLittleEndian (← take 1))
def u16 : Reader U16 := do return Fin.ofNat (2^16) (fromLittleEndian (← take 2))
def u32 : Reader U32 := do return Fin.ofNat (2^32) (fromLittleEndian (← take 4))
def u64 : Reader U64 := do return Fin.ofNat (2^64) (fromLittleEndian (← take 8))

def i64 : Reader I64 := do
  let raw := fromLittleEndian (← take 8)
  return I64.clip (if raw < 2^63 then (raw : Int) else (raw : Int) - 2^64)

def bool : Reader Bool := do return (← u8) ≠ 0

def hash32 : Reader Bytes32 := fun cursor =>
  if size : 32 ≤ cursor.rest.length then
    .ok (⟨cursor.rest.take 32,by simp [size]⟩,⟨cursor.offset+32,cursor.rest.drop 32⟩)
  else .error (.truncated cursor.offset 32 cursor.rest.length)

def pubkey (settings : Settings) : Reader Pubkey := do return settings.keyOf (← hash32)

-- A Borsh vector: its length, then its elements.
def items {α : Type} (element : Reader α) : ℕ → Reader (List α)
  | 0 => pure []
  | count+1 => do
    let first ← element
    let rest ← items element count
    return first :: rest

def vec {α : Type} (element : Reader α) : Reader (List α) := do items element (← u32).val

def run {α : Type} (reader : Reader α) (data : List Byte) : Except DecodeError α :=
  (reader ⟨0,data⟩).map (·.1)

end Reader
open Reader

-- Account discriminators, as in the programs' IDLs.
inductive AccountName where
  | scanProof | passport | sealAccount | registry | order
  deriving DecidableEq

def accountDisc : AccountName → List Byte
  | .scanProof => [208,136,45,119,131,191,85,170]
  | .passport => [18,61,245,239,6,15,18,34]
  | .sealAccount => [162,149,250,10,100,125,36,168]
  | .registry => [47,174,110,246,184,182,252,218]
  | .order => [134,173,223,185,77,86,28,51]

def readAccount {α : Type} (name : AccountName) (fields : Reader α) (data : Option (List Byte)) : Except DecodeError α :=
  match data with
  | none => .error .noData
  | some data => Reader.run (do
      let disc ← take 8
      if disc = accountDisc name then fields else throw (.foreignDiscriminator disc)) data

def scanProofFields (settings : Settings) : Reader ScanProof := do
  let sealKey ← pubkey settings
  let counter ← u32
  let tier ← u8
  let role ← u8
  let tamper ← u8
  let uv ← u8
  let hum ← u8
  let heat ← u8
  let heatLevels ← u8
  let fill ← u8
  let siteId ← u16
  let mediaHash ← hash32
  let bundleHash ← hash32
  let attester ← pubkey settings
  let serverKeyId ← u8
  let ts ← i64
  let _bump ← u8
  return ⟨sealKey,counter,tier,role,tamper,uv,hum,heat,heatLevels,fill,siteId,mediaHash,bundleHash,attester,serverKeyId,ts⟩

def decodeScanProof (settings : Settings) (data : Option (List Byte)) : Except DecodeError ScanProof :=
  readAccount .scanProof (scanProofFields settings) data

structure PassportFacts where
  serialHash : Bytes32
  bindingHash : Bytes32
  asset : Pubkey
  issuer : Pubkey
  grade : U8
  scanCount : U32
  sealCount : U8
  void : Bool
  createdAt : I64
  deriving DecidableEq

def decodePassport (settings : Settings) (data : Option (List Byte)) : Except DecodeError PassportFacts :=
  readAccount .passport (do
    let serialHash ← hash32
    let bindingHash ← hash32
    let asset ← pubkey settings
    let issuer ← pubkey settings
    let grade ← u8
    let scanCount ← u32
    let sealCount ← u8
    let void ← bool
    let createdAt ← i64
    let _bump ← u8
    return ⟨serialHash,bindingHash,asset,issuer,grade,scanCount,sealCount,void,createdAt⟩) data

def decodeSeal (settings : Settings) (data : Option (List Byte)) : Except DecodeError Seal :=
  readAccount .sealAccount (do
    let passport ← pubkey settings
    let kind ← u8
    let uidHash ← hash32
    let lastCounter ← u32
    let dead ← bool
    let attachedAt ← i64
    let _bump ← u8
    return ⟨passport,kind,uidHash,lastCounter,dead,attachedAt⟩) data

def serverKeyFields : Reader ServerKey := do
  let keyId ← u8
  let pubkey ← hash32
  let validFrom ← i64
  let validTo ← i64
  return ⟨keyId,pubkey,validFrom,validTo⟩

def siteFields : Reader Site := do
  let siteId ← u16
  let label ← hash32
  return ⟨siteId,label⟩

def decodeRegistry (settings : Settings) (data : Option (List Byte)) : Except DecodeError Registry :=
  readAccount .registry (do
    let authority ← pubkey settings
    let serverKeys ← vec serverKeyFields
    let partners ← vec (pubkey settings)
    let sites ← vec siteFields
    return ⟨authority,serverKeys,partners,sites⟩) data

theorem zero32_length : (List.replicate 32 (0 : Byte)).length = 32 := List.length_replicate

def zero32 : Bytes32 := ⟨List.replicate 32 0,zero32_length⟩

-- `buyer` is empty until the order is reserved: the program stores the all-zero key.
def orderFields (settings : Settings) : Reader ChainOrder := do
  let passport ← pubkey settings
  let seller ← pubkey settings
  let buyer ← hash32
  let asset ← pubkey settings
  let price ← u64
  let state ← u8
  let listedAt ← i64
  let reservedAt ← i64
  let shippedAt ← i64
  let sellerScan ← pubkey settings
  let buyerScan ← pubkey settings
  let disputeAfterS ← i64
  let assetDeposited ← bool
  let _bump ← u8
  let _vaultBump ← u8
  return ⟨passport,seller,if buyer = zero32 then none else some (settings.keyOf buyer),asset,price,state,listedAt,reservedAt,
    shippedAt,sellerScan,buyerScan,disputeAfterS,assetDeposited⟩

def decodeOrder (settings : Settings) (data : Option (List Byte)) : Except DecodeError ChainOrder :=
  readAccount .order (orderFields settings) data

-- Instructions of the two programs that back events, with their discriminators and argument layouts.
inductive IxName where
  | mintPassport | attachSeal | markSealDead | recordScan | list | reserve | ship | recordPreShipScan | recordReceiptScan
  | release | releaseAfterTimeout | dispute | resolve
  deriving DecidableEq

def ixDisc : IxName → List Byte
  | .mintPassport => [191,229,65,107,110,33,228,202]
  | .attachSeal => [61,26,102,251,202,190,43,208]
  | .recordScan => [84,105,74,98,184,80,165,253]
  | .markSealDead => [65,179,161,140,252,105,7,85]
  | .list => [54,174,193,67,17,41,132,38]
  | .reserve => [92,99,244,209,28,65,213,157]
  | .ship => [174,78,207,150,205,74,165,217]
  | .recordPreShipScan => [112,252,169,209,191,114,140,158]
  | .recordReceiptScan => [192,183,232,178,90,45,91,74]
  | .release => [253,249,15,206,28,127,193,241]
  | .releaseAfterTimeout => [102,1,6,82,208,207,32,7]
  | .dispute => [216,92,128,146,202,85,135,73]
  | .resolve => [246,150,236,206,108,63,58,10]

inductive IxArgs where
  | mintPassport (serialHash bindingHash : Bytes32) (asset : Pubkey)
  | attachSeal (uidHash : Bytes32) (kind : U8)
  | recordScan (args : Flacon.RecordScanArgs)
  | list (price : U64)
  | reserve (expectedPrice : U64)
  | resolve (toSeller : Bool)
  deriving DecidableEq

def recordScanArgs : Reader Flacon.RecordScanArgs := do
  let counter ← u32
  let tier ← u8
  let role ← u8
  let tamper ← u8
  let uv ← u8
  let hum ← u8
  let heat ← u8
  let heatLevels ← u8
  let fill ← u8
  let siteId ← u16
  let mediaHash ← hash32
  let bundleHash ← hash32
  let nonce ← hash32
  let ts ← i64
  let serverKeyId ← u8
  return ⟨counter,tier,role,tamper,uv,hum,heat,heatLevels,fill,siteId,mediaHash,bundleHash,nonce,ts,serverKeyId⟩

def ixArgs (settings : Settings) : IxName → Option (Reader IxArgs)
  | .mintPassport => some do
    let serialHash ← hash32
    let bindingHash ← hash32
    let asset ← pubkey settings
    return .mintPassport serialHash bindingHash asset
  | .attachSeal => some do
    let uidHash ← hash32
    let kind ← u8
    return .attachSeal uidHash kind
  | .recordScan => some do return .recordScan (← recordScanArgs)
  | .list => some do return .list (← u64)
  | .reserve => some do return .reserve (← u64)
  | .resolve => some do return .resolve (← bool)
  | _ => none

-- Arguments after the discriminator; nothing when the instruction has none or they are truncated.
def decodeIxArgs (settings : Settings) (name : IxName) (data : List Byte) : Option IxArgs :=
  (ixArgs settings name).bind fun reader => (Reader.run reader (data.drop 8)).toOption

-- The escrow program's events that event payloads read.
inductive ChainEvent where
  | orderListed (order passport seller asset : Pubkey) (price : U64) (disputeAfterS ts : I64)
  | orderReserved (order buyer : Pubkey) (price : U64) (vault : Pubkey) (ts : I64)
  | preShipScanRecorded (order scanProof : Pubkey) (counter : U32) (ts : I64)
  | orderShipped (order : Pubkey) (ts : I64)
  | receiptScanRecorded (order scanProof : Pubkey) (counter : U32) (matched : Bool)
      (sellerFill buyerFill sellerHeat buyerHeat sellerHum buyerHum : U8) (ts : I64)
  | orderReleased (order seller buyer : Pubkey) (amount : U64) (assetTransferred : Bool) (ts : I64)
  | orderDisputed (order caller : Pubkey) (reason previousState : U8) (refunded : U64) (assetReturned : Bool) (ts : I64)
  | orderResolved (order admin : Pubkey) (toSeller : Bool) (amount : U64) (assetTransferred : Bool) (ts : I64)
  deriving DecidableEq

def ChainEvent.order : ChainEvent → Pubkey
  | .orderListed order .. | .orderReserved order .. | .preShipScanRecorded order .. | .orderShipped order ..
  | .receiptScanRecorded order .. | .orderReleased order .. | .orderDisputed order .. | .orderResolved order .. => order

def eventReader (settings : Settings) (disc : List Byte) : Option (Reader ChainEvent) :=
  let key := pubkey settings
  if disc = [235,55,154,70,133,71,114,30] then some do
    return .orderListed (← key) (← key) (← key) (← key) (← u64) (← i64) (← i64)
  else if disc = [31,26,190,19,176,19,69,154] then some do return .orderReserved (← key) (← key) (← u64) (← key) (← i64)
  else if disc = [228,148,141,200,112,5,58,250] then some do return .preShipScanRecorded (← key) (← key) (← u32) (← i64)
  else if disc = [200,225,83,123,179,86,221,24] then some do return .orderShipped (← key) (← i64)
  else if disc = [192,0,126,169,221,228,135,157] then some do
    return .receiptScanRecorded (← key) (← key) (← u32) (← bool) (← u8) (← u8) (← u8) (← u8) (← u8) (← u8) (← i64)
  else if disc = [171,232,93,217,184,222,234,29] then some do
    return .orderReleased (← key) (← key) (← key) (← u64) (← bool) (← i64)
  else if disc = [186,104,120,36,95,130,173,128] then some do
    return .orderDisputed (← key) (← key) (← u8) (← u8) (← u64) (← bool) (← i64)
  else if disc = [24,66,224,205,6,30,63,51] then some do
    return .orderResolved (← key) (← key) (← bool) (← u64) (← bool) (← i64)
  else none

def decodeEvent (settings : Settings) (data : List Byte) : Option ChainEvent :=
  (eventReader settings (data.take 8)).bind fun reader => (Reader.run reader (data.drop 8)).toOption

end FlaconVault.Verifier
