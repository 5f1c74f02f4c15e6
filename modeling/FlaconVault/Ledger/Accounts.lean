import FlaconVault.Lib.Bytes
import FlaconVault.Lib.Cells
namespace FlaconVault

-- Addresses. A keypair address has a private key and can sign; a program-derived address is the free term
-- of its seeds, so derivations are injective, never meet and are never held by a key. `foreign` covers every
-- other address (programs, mints, associated token accounts); `foreign 0` is the all-zero default key.
inductive Pubkey where
  | keypair (id : ℕ)
  | foreign (id : ℕ)
  | registry
  | passport (serialHash : Bytes32)
  | sealOf (uidHash : Bytes32)
  | scan (sealKey : Pubkey) (counter : U32)
  | config
  | order (passport seller : Pubkey)
  | vault (order : Pubkey)
  deriving DecidableEq

namespace Pubkey
def default : Pubkey := .foreign 0

def canSign : Pubkey → Bool
  | .keypair _ => true
  | _ => false

-- Addresses of the two programs of this repository: only their own instructions create accounts there.
def derived : Pubkey → Bool
  | .keypair _ => false
  | .foreign _ => false
  | _ => true

end Pubkey

inductive Grade where
  | a | b | c | d | void
  deriving DecidableEq

structure ServerKey where
  keyId : U8
  pubkey : Bytes32
  validFrom : I64
  validTo : I64
  deriving DecidableEq

structure Site where
  siteId : U16
  label : Bytes32
  deriving DecidableEq

structure Registry where
  authority : Pubkey
  serverKeys : List ServerKey
  partners : List Pubkey
  sites : List Site
  deriving DecidableEq

structure Passport where
  serialHash : Bytes32
  bindingHash : Bytes32
  asset : Pubkey
  issuer : Pubkey
  grade : Grade
  scanCount : U32
  sealCount : U8
  void : Bool
  createdAt : I64
  deriving DecidableEq

structure Seal where
  passport : Pubkey
  kind : U8
  uidHash : Bytes32
  lastCounter : U32
  dead : Bool
  attachedAt : I64
  deriving DecidableEq

structure ScanProof where
  sealKey : Pubkey
  counter : U32
  tier : U8
  role : U8
  tamper : U8
  uv : U8
  hum : U8
  heat : U8
  heatLevels : U8
  fill : U8
  siteId : U16
  mediaHash : Bytes32
  bundleHash : Bytes32
  attester : Pubkey
  serverKeyId : U8
  ts : I64
  deriving DecidableEq

structure EscrowConfig where
  admin : Pubkey
  usdcMint : Pubkey
  disputeAfterS : I64
  deriving DecidableEq

inductive OrderState where
  | listed | reserved | preshipScanned | shipped | receiptScanned | released | mismatch | dispute | cancelled
  deriving DecidableEq

structure Order where
  passport : Pubkey
  seller : Pubkey
  buyer : Pubkey
  asset : Pubkey
  price : U64
  state : OrderState
  listedAt : I64
  reservedAt : I64
  shippedAt : I64
  sellerScan : Pubkey
  buyerScan : Pubkey
  disputeAfterS : I64
  assetDeposited : Bool
  deriving DecidableEq

structure TokenAccount where
  mint : Pubkey
  owner : Pubkey
  amount : U64
  deriving DecidableEq

-- One map per account type and owning program: an account of another type or of a foreign program at the
-- same address is simply not in the map, which is what the type check of a loaded account tests.
-- `assets` holds the owner of every Metaplex Core `AssetV1` account. The upgrade authorities are those of the
-- two programs' ProgramData accounts.
structure FlaconAccounts where
  registry : Option Registry
  passports : Cells Pubkey Passport
  seals : Cells Pubkey Seal
  scans : Cells Pubkey ScanProof

structure EscrowAccounts where
  config : Option EscrowConfig
  orders : Cells Pubkey Order

structure Ledger where
  flaconUpgradeAuthority : Option Pubkey
  escrowUpgradeAuthority : Option Pubkey
  flacon : FlaconAccounts
  escrow : EscrowAccounts
  tokens : Cells Pubkey TokenAccount
  assets : Cells Pubkey Pubkey

def Ledger.genesis (flaconUpgradeAuthority escrowUpgradeAuthority : Option Pubkey) : Ledger :=
  ⟨flaconUpgradeAuthority,escrowUpgradeAuthority,⟨none,.empty,.empty,.empty⟩,⟨none,.empty⟩,.empty,.empty⟩

namespace Order
def isFunded (order : Order) : Bool :=
  match order.state with
  | .reserved | .preshipScanned | .shipped | .receiptScanned | .mismatch => true
  | _ => false

def isTerminal (order : Order) : Bool :=
  match order.state with
  | .released | .dispute | .cancelled => true
  | _ => false
end Order

namespace Passport
def isVoided (passport : Passport) : Bool := passport.void || passport.grade == .void
end Passport

namespace ServerKey
def isValidAt (key : ServerKey) (t : I64) : Bool :=
  t.val ≥ key.validFrom.val && (key.validTo.val == 0 || t.val ≤ key.validTo.val)
end ServerKey

namespace Registry
def isAuthority (registry : Registry) (key : Pubkey) : Bool := registry.authority == key
def isPartner (registry : Registry) (key : Pubkey) : Bool := registry.partners.any (· == key)
def isPartnerOrAuthority (registry : Registry) (key : Pubkey) : Bool :=
  registry.isAuthority key || registry.isPartner key
def serverKey (registry : Registry) (keyId : U8) : Option ServerKey :=
  registry.serverKeys.find? (·.keyId == keyId)
def mayManagePassport (registry : Registry) (key : Pubkey) (passport : Passport) : Bool :=
  registry.isAuthority key || (passport.issuer == key && registry.isPartner key)
def hasSite (registry : Registry) (siteId : U16) : Bool := registry.sites.any (·.siteId == siteId)
end Registry

inductive FlaconError where
  | unauthorized | notPartner | duplicateServerKey | serverKeysFull | invalidKeyValidity | duplicatePartner
  | partnersFull | invalidSiteId | duplicateSite | sitesFull | invalidSealKind | sealCountOverflow
  | sealPassportMismatch | sealDead | passportVoid | counterNotIncreasing | invalidInstructionsSysvar
  | missingEd25519Instruction | malformedEd25519Instruction | unknownServerKey | serverKeyMismatch
  | serverKeyNotValidAtTs | messageMismatch | invalidRole | invalidTier | tierNotAllowedForRole
  | siteIdNotAllowed | unknownSite | invalidIndicator | invalidFill | invalidHeatLevels | heatInconsistent
  | scanCountOverflow | notIssuerOrAuthority | tooManySeals | serverKeyNotValidNow | staleScanTimestamp
  | counterOutOfRange | partnerNotFound | serverKeyAlreadyRevoked | notUpgradeAuthority | assetMismatch
  | invalidAsset | assetNotOwnedByIssuer
  deriving DecidableEq

inductive EscrowError where
  | invalidState | invalidPrice | invalidDisputeWindow | passportVoid | notSeller | notBuyer | sellerCannotBuy
  | unauthorized | wrongMint | scanSealMismatch | sealPassportMismatch | scanAttesterMismatch
  | sellerScanMismatch | receiptScanNotNewer | disputeWindowNotElapsed | sealNotDead | assetMismatch
  | assetAlreadyDeposited | missingAssetAccounts | invalidCoreProgram | invalidAsset | mathOverflow
  | priceChanged | notPassportOwner | receiptMatched | wrongTokenOwner | scanBeforeOrderStep
  | deadSealAfterShipping
  deriving DecidableEq

-- The framework's own refusals, and those of the token and asset programs, stand beside the typed ones.
inductive ProgramError where
  | flacon (error : FlaconError)
  | escrow (error : EscrowError)
  | accountNotInitialized | accountInUse | notSigner | constraintSeeds | constraintTokenMint
  | constraintTokenOwner | tokenProgram | coreProgram
  deriving DecidableEq

end FlaconVault
