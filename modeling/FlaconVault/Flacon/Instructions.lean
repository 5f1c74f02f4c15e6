import FlaconVault.Flacon.Rules
namespace FlaconVault.Flacon
open Guards

-- One instruction of the transaction, as the instructions sysvar shows it.
structure RawInstruction where
  program : Pubkey
  data : List Byte
  deriving DecidableEq

structure RecordScanArgs where
  counter : U32
  tier : U8
  role : U8
  tamper : U8
  uv : U8
  hum : U8
  heat : U8
  heatLevels : U8
  fill : U8
  siteId : U16
  mediaHash : Bytes32
  bundleHash : Bytes32
  nonce : Bytes32
  ts : I64
  serverKeyId : U8
  deriving DecidableEq

-- The accounts each instruction is called with. A signer named here has signed the transaction.
structure AdminRegistry where
  registry : Pubkey
  authority : Pubkey
structure TransferAuthority where
  registry : Pubkey
  authority : Pubkey
  newAuthority : Pubkey
structure MintPassport where
  registry : Pubkey
  passport : Pubkey
  issuer : Pubkey
  coreAsset : Pubkey
structure AttachSeal where
  registry : Pubkey
  passport : Pubkey
  sealKey : Pubkey
  signer : Pubkey
structure MarkSealDead where
  registry : Pubkey
  passport : Pubkey
  sealKey : Pubkey
  signer : Pubkey
structure RecordScan where
  registry : Pubkey
  passport : Pubkey
  sealKey : Pubkey
  scanProof : Pubkey
  attester : Pubkey
  transaction : List RawInstruction
  currentIndex : U16

def loadRegistry (s : Ledger) (key : Pubkey) : Except ProgramError Registry := do
  require (key = .registry) .constraintSeeds
  orRefuse s.flacon.registry .accountNotInitialized

def loadPassport (s : Ledger) (key : Pubkey) : Except ProgramError Passport := do
  let passport ← orRefuse (s.flacon.passports key) .accountNotInitialized
  require (key = .passport passport.serialHash) .constraintSeeds
  return passport

def loadSeal (s : Ledger) (key : Pubkey) : Except ProgramError Seal := do
  let found ← orRefuse (s.flacon.seals key) .accountNotInitialized
  require (key = .sealOf found.uidHash) .constraintSeeds
  return found

def requireSigner (key : Pubkey) : Except ProgramError Unit := require key.canSign .notSigner

-- The registry as its authority may change it.
def loadAdminRegistry (s : Ledger) (a : AdminRegistry) : Except ProgramError Registry := do
  let registry ← loadRegistry s a.registry
  requireSigner a.authority
  require (registry.authority = a.authority) (.flacon .unauthorized)
  return registry

def handleInitRegistry (s : Ledger) (a : AdminRegistry) : Except ProgramError Ledger := do
  requireSigner a.authority
  require (a.registry = .registry) .constraintSeeds
  require (s.flacon.registry = none) .accountInUse
  require (s.flaconUpgradeAuthority = some a.authority) (.flacon .notUpgradeAuthority)
  return {s with flacon.registry := some ⟨a.authority,[],[],[]⟩}

def handleAddServerKey (s : Ledger) (a : AdminRegistry) (keyId : U8) (pubkey : Bytes32) (validFrom validTo : I64) :
    Except ProgramError Ledger := do
  let registry ← loadAdminRegistry s a
  require (validTo.1 = 0 ∨ validTo.1 ≥ validFrom.1) (.flacon .invalidKeyValidity)
  require (registry.serverKey keyId = none) (.flacon .duplicateServerKey)
  require (registry.serverKeys.length < MAX_SERVER_KEYS) (.flacon .serverKeysFull)
  return {s with flacon.registry := some {registry with serverKeys := registry.serverKeys ++ [⟨keyId,pubkey,validFrom,validTo⟩]}}

-- `server_key_mut`: the first key with this id is changed in place.
def reviseServerKey (keyId : U8) (revise : ServerKey → ServerKey) : List ServerKey → List ServerKey
  | [] => []
  | key :: rest => if key.keyId = keyId then revise key :: rest else key :: reviseServerKey keyId revise rest

def handleRevokeServerKey (s : Ledger) (a : AdminRegistry) (keyId : U8) (now : I64) : Except ProgramError Ledger := do
  let registry ← loadAdminRegistry s a
  let key ← orRefuse (registry.serverKey keyId) (.flacon .unknownServerKey)
  let validTo ← revokedValidTo key.validTo now
  return {s with flacon.registry := some {registry with
    serverKeys := reviseServerKey keyId (fun key => {key with validTo := validTo}) registry.serverKeys}}

def handleAddPartner (s : Ledger) (a : AdminRegistry) (partner : Pubkey) : Except ProgramError Ledger := do
  let registry ← loadAdminRegistry s a
  require (¬registry.isPartner partner) (.flacon .duplicatePartner)
  require (registry.partners.length < MAX_PARTNERS) (.flacon .partnersFull)
  return {s with flacon.registry := some {registry with partners := registry.partners ++ [partner]}}

def handleRemovePartner (s : Ledger) (a : AdminRegistry) (partner : Pubkey) : Except ProgramError Ledger := do
  let registry ← loadAdminRegistry s a
  require (partner ∈ registry.partners) (.flacon .partnerNotFound)
  return {s with flacon.registry := some {registry with partners := registry.partners.erase partner}}

def handleAddSite (s : Ledger) (a : AdminRegistry) (siteId : U16) (label : Bytes32) : Except ProgramError Ledger := do
  let registry ← loadAdminRegistry s a
  require (siteId ≠ 0) (.flacon .invalidSiteId)
  require (¬registry.hasSite siteId) (.flacon .duplicateSite)
  require (registry.sites.length < MAX_SITES) (.flacon .sitesFull)
  return {s with flacon.registry := some {registry with sites := registry.sites ++ [⟨siteId,label⟩]}}

def handleTransferAuthority (s : Ledger) (a : TransferAuthority) : Except ProgramError Ledger := do
  let registry ← loadAdminRegistry s ⟨a.registry,a.authority⟩
  requireSigner a.newAuthority
  return {s with flacon.registry := some {registry with authority := a.newAuthority}}

def checkMintAsset (assetOwner : Option Pubkey) (issuer : Pubkey) : Except ProgramError Unit := do
  let owner ← orRefuse assetOwner (.flacon .invalidAsset)
  require (owner = issuer) (.flacon .assetNotOwnedByIssuer)

def handleMintPassport (s : Ledger) (a : MintPassport) (serialHash bindingHash : Bytes32) (asset : Pubkey) (now : I64) :
    Except ProgramError Ledger := do
  let registry ← loadRegistry s a.registry
  requireSigner a.issuer
  require (a.passport = .passport serialHash) .constraintSeeds
  require (s.flacon.passports a.passport = none) .accountInUse
  require (registry.isPartnerOrAuthority a.issuer) (.flacon .notPartner)
  require (a.coreAsset = asset) (.flacon .assetMismatch)
  checkMintAsset (s.assets a.coreAsset) a.issuer
  return {s with flacon.passports := s.flacon.passports.put a.passport ⟨serialHash,bindingHash,asset,a.issuer,.a,0,0,false,now⟩}

def handleAttachSeal (s : Ledger) (a : AttachSeal) (uidHash : Bytes32) (kind : U8) (now : I64) :
    Except ProgramError Ledger := do
  let registry ← loadRegistry s a.registry
  let passport ← loadPassport s a.passport
  requireSigner a.signer
  require (a.sealKey = .sealOf uidHash) .constraintSeeds
  require (s.flacon.seals a.sealKey = none) .accountInUse
  require (registry.mayManagePassport a.signer passport) (.flacon .notIssuerOrAuthority)
  require (kind = SEAL_KIND_BOX ∨ kind = SEAL_KIND_NECK) (.flacon .invalidSealKind)
  require (¬passport.isVoided) (.flacon .passportVoid)
  require (passport.sealCount.val < MAX_SEALS_PER_PASSPORT) (.flacon .tooManySeals)
  let sealCount ← orRefuse (checkedAdd passport.sealCount 1) (.flacon .sealCountOverflow)
  return {s with
    flacon.passports := s.flacon.passports.put a.passport {passport with sealCount := sealCount}
    flacon.seals := s.flacon.seals.put a.sealKey ⟨a.passport,kind,uidHash,0,false,now⟩}

def handleMarkSealDead (s : Ledger) (a : MarkSealDead) : Except ProgramError Ledger := do
  let registry ← loadRegistry s a.registry
  let passport ← loadPassport s a.passport
  let found ← loadSeal s a.sealKey
  requireSigner a.signer
  require (found.passport = a.passport) (.flacon .sealPassportMismatch)
  require (registry.mayManagePassport a.signer passport) (.flacon .notIssuerOrAuthority)
  require (¬found.dead) (.flacon .sealDead)
  return {s with
    flacon.seals := s.flacon.seals.put a.sealKey {found with dead := true}
    flacon.passports := s.flacon.passports.put a.passport {passport with void := true, grade := .void}}

-- Step 1 of `record_scan`: the instruction right before it, who signed what in it, and when.
def checkSignature (registry : Registry) (passport : Passport) (found : Seal) (a : RecordScan) (args : RecordScanArgs)
    (now : I64) : Except ProgramError Unit := do
  require (a.currentIndex.val > 0) (.flacon .missingEd25519Instruction)
  let edIx ← orRefuse a.transaction[a.currentIndex.val-1]? (.flacon .missingEd25519Instruction)
  require (edIx.program = ED25519_PROGRAM_ID) (.flacon .missingEd25519Instruction)
  let payload ← parseSingleEd25519 edIx.data (a.currentIndex.val-1)
  let serverKey ← orRefuse (registry.serverKey args.serverKeyId) (.flacon .unknownServerKey)
  require (payload.pubkey = serverKey.pubkey.1) (.flacon .serverKeyMismatch)
  checkKeyAndFreshness serverKey args.ts now
  require (payload.message = buildScanMessage ⟨passport.serialHash,found.uidHash,args.counter,args.tamper,args.uv,args.hum,
    args.heat,args.fill,args.mediaHash,args.nonce,args.ts⟩) (.flacon .messageMismatch)

-- Step 2: the state of seal and passport.
def checkSealState (passportKey : Pubkey) (passport : Passport) (found : Seal) (args : RecordScanArgs) :
    Except ProgramError Unit := do
  require (found.passport = passportKey) (.flacon .sealPassportMismatch)
  require (¬found.dead) (.flacon .sealDead)
  require (¬passport.isVoided) (.flacon .passportVoid)
  require (args.counter > found.lastCounter) (.flacon .counterNotIncreasing)
  require (args.counter.val ≤ MAX_COUNTER) (.flacon .counterOutOfRange)

def roleIsPro (args : RecordScanArgs) : Bool := args.role == ROLE_VAULT || args.role == ROLE_PARTNER

-- Step 3: role, tier and fields.
def checkFields (registry : Registry) (attester : Pubkey) (args : RecordScanArgs) : Except ProgramError Unit := do
  require (args.role ≤ MAX_ROLE) (.flacon .invalidRole)
  require (args.tier ≤ MAX_TIER) (.flacon .invalidTier)
  require (¬roleIsPro args → args.tier ≤ TIER_SELF_MEDIA) (.flacon .tierNotAllowedForRole)
  require (roleIsPro args ∨ args.tier ≥ TIER_CERTIFIED → registry.isPartner attester) (.flacon .notPartner)
  require (args.siteId ≠ 0 → roleIsPro args) (.flacon .siteIdNotAllowed)
  require (args.siteId ≠ 0 → registry.hasSite args.siteId) (.flacon .unknownSite)
  require (args.tamper ≤ MAX_INDICATOR ∧ args.uv ≤ MAX_INDICATOR ∧ args.hum ≤ MAX_INDICATOR ∧ args.heat ≤ MAX_INDICATOR)
    (.flacon .invalidIndicator)
  require (args.fill ≤ MAX_FILL) (.flacon .invalidFill)
  require (args.heatLevels.val < 2^HEAT_LEVELS_BITS) (.flacon .invalidHeatLevels)
  require (args.heat = INDICATOR_INTACT ∨ args.heat = INDICATOR_TRIGGERED →
    args.heat.val = args.heatLevels.val / 2^HEAT_DECISIVE_INDEX % 2) (.flacon .heatInconsistent)

def scanProofOf (sealKey attester : Pubkey) (args : RecordScanArgs) : ScanProof :=
  ⟨sealKey,args.counter,args.tier,args.role,args.tamper,args.uv,args.hum,args.heat,args.heatLevels,args.fill,args.siteId,
    args.mediaHash,args.bundleHash,attester,args.serverKeyId,args.ts⟩

-- The ScanProof is `init_if_needed`: an account that already exists at the address is overwritten.
def handleRecordScan (s : Ledger) (a : RecordScan) (args : RecordScanArgs) (now : I64) : Except ProgramError Ledger := do
  let registry ← loadRegistry s a.registry
  let passport ← loadPassport s a.passport
  let found ← loadSeal s a.sealKey
  requireSigner a.attester
  require (a.scanProof = .scan a.sealKey args.counter) .constraintSeeds
  checkSignature registry passport found a args now
  checkSealState a.passport passport found args
  checkFields registry a.attester args
  let scanCount ← orRefuse (checkedAdd passport.scanCount 1) (.flacon .scanCountOverflow)
  let graded := passportAfterScan passport.grade passport.void args.tamper args.heat args.hum args.fill
  return {s with
    flacon.scans := s.flacon.scans.put a.scanProof (scanProofOf a.sealKey a.attester args)
    flacon.seals := s.flacon.seals.put a.sealKey {found with lastCounter := args.counter}
    flacon.passports := s.flacon.passports.put a.passport {passport with scanCount := scanCount, grade := graded.1, void := graded.2}}

end FlaconVault.Flacon
