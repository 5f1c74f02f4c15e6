import FlaconVault.Flacon.Instructions
import FlaconVault.Ledger.Tokens
import FlaconVault.Escrow.Rules
namespace FlaconVault.Escrow
open Guards
open Flacon (requireSigner)

-- The accounts each instruction is called with. A signer named here has signed the transaction.
structure InitConfig where
  config : Pubkey
  admin : Pubkey
  usdcMint : Pubkey
structure AdminConfig where
  config : Pubkey
  admin : Pubkey
structure ListAccounts where
  config : Pubkey
  passport : Pubkey
  order : Pubkey
  seller : Pubkey
  asset : Pubkey
  registry : Pubkey
structure DepositAsset where
  order : Pubkey
  seller : Pubkey
  asset : Pubkey
  mplCoreProgram : Pubkey
structure Cancel where
  order : Pubkey
  seller : Pubkey
  asset : Option Pubkey
  mplCoreProgram : Option Pubkey
structure CloseOrder where
  order : Pubkey
  seller : Pubkey
structure Reserve where
  config : Pubkey
  order : Pubkey
  buyer : Pubkey
  buyerToken : Pubkey
  usdcMint : Pubkey
  vault : Pubkey
  passport : Pubkey
  asset : Pubkey
  registry : Pubkey
structure RecordPreShipScan where
  order : Pubkey
  seller : Pubkey
  scanProof : Pubkey
  sealKey : Pubkey
structure Ship where
  order : Pubkey
  seller : Pubkey
structure RecordReceiptScan where
  order : Pubkey
  buyer : Pubkey
  scanProof : Pubkey
  sealKey : Pubkey
  sellerScan : Pubkey
structure Release where
  config : Pubkey
  order : Pubkey
  vault : Pubkey
  sellerToken : Pubkey
  buyer : Pubkey
  caller : Pubkey
  asset : Option Pubkey
  mplCoreProgram : Option Pubkey
structure Dispute where
  config : Pubkey
  order : Pubkey
  vault : Pubkey
  buyerToken : Pubkey
  buyer : Pubkey
  seller : Pubkey
  signer : Pubkey
  sealKey : Option Pubkey
  asset : Option Pubkey
  mplCoreProgram : Option Pubkey
structure Resolve where
  config : Pubkey
  order : Pubkey
  vault : Pubkey
  recipientToken : Pubkey
  buyer : Pubkey
  seller : Pubkey
  admin : Pubkey
  asset : Option Pubkey
  mplCoreProgram : Option Pubkey

def loadConfig (s : Ledger) (key : Pubkey) : Except ProgramError EscrowConfig := do
  require (key = .config) .constraintSeeds
  orRefuse s.escrow.config .accountNotInitialized

def loadOrder (s : Ledger) (key : Pubkey) : Except ProgramError Order := do
  let order ← orRefuse (s.escrow.orders key) .accountNotInitialized
  require (key = .order order.passport order.seller) .constraintSeeds
  return order

-- The order of an instruction that its seller signs.
def loadSellerOrder (s : Ledger) (key seller : Pubkey) : Except ProgramError Order := do
  let order ← loadOrder s key
  requireSigner seller
  require (order.seller = seller) (.escrow .notSeller)
  return order

def loadAdminConfig (s : Ledger) (key admin : Pubkey) : Except ProgramError EscrowConfig := do
  let config ← loadConfig s key
  requireSigner admin
  require (config.admin = admin) (.escrow .unauthorized)
  return config

-- A token account of the given mint, whoever owns it.
def loadTokenOf (s : Ledger) (key mint : Pubkey) : Except ProgramError TokenAccount := do
  let token ← orRefuse (s.tokens key) .accountNotInitialized
  require (token.mint = mint) .constraintTokenMint
  return token

def transferV1 (s : Ledger) (asset coreProgram authority newOwner : Pubkey) :
    Except ProgramError (Cells Pubkey Pubkey) := do
  require (coreProgram = MPL_CORE_PROGRAM_ID) (.escrow .invalidCoreProgram)
  require (s.assets asset ≠ none) (.escrow .invalidAsset)
  Core.transfer s.assets asset authority newOwner

def handleInitConfig (s : Ledger) (a : InitConfig) (disputeAfterS : I64) : Except ProgramError Ledger := do
  requireSigner a.admin
  require (a.config = .config) .constraintSeeds
  require (s.escrow.config = none) .accountInUse
  require (s.escrowUpgradeAuthority = some a.admin) (.escrow .unauthorized)
  checkWindow disputeAfterS
  return {s with escrow.config := some ⟨a.admin,a.usdcMint,disputeAfterS⟩}

def handleSetDisputeWindow (s : Ledger) (a : AdminConfig) (disputeAfterS : I64) : Except ProgramError Ledger := do
  let config ← loadAdminConfig s a.config a.admin
  checkWindow disputeAfterS
  return {s with escrow.config := some {config with disputeAfterS := disputeAfterS}}

def checkSellerOf (s : Ledger) (seller : Pubkey) (passport : Passport) (asset : Pubkey) (registry : Registry) :
    Except ProgramError Unit :=
  checkSeller seller passport.issuer (s.assets asset) (registry.isPartnerOrAuthority passport.issuer)

def handleList (s : Ledger) (a : ListAccounts) (price : U64) (now : I64) : Except ProgramError Ledger := do
  let config ← loadConfig s a.config
  let passport ← orRefuse (s.flacon.passports a.passport) .accountNotInitialized
  requireSigner a.seller
  let registry ← Flacon.loadRegistry s a.registry
  require (a.order = .order a.passport a.seller) .constraintSeeds
  require (s.escrow.orders a.order = none) .accountInUse
  require (a.asset = passport.asset) (.escrow .assetMismatch)
  require (price > 0) (.escrow .invalidPrice)
  require (¬passport.void ∧ passport.grade ≠ .void) (.escrow .passportVoid)
  checkSellerOf s a.seller passport a.asset registry
  return {s with escrow.orders := s.escrow.orders.put a.order ⟨a.passport,a.seller,.default,passport.asset,price,.listed,now,.zero,.zero,
    .default,.default,effectiveWindow config.disputeAfterS,false⟩}

def handleDepositAsset (s : Ledger) (a : DepositAsset) : Except ProgramError Ledger := do
  let order ← loadSellerOrder s a.order a.seller
  require (a.asset = order.asset) (.escrow .assetMismatch)
  require (a.mplCoreProgram = MPL_CORE_PROGRAM_ID) (.escrow .invalidCoreProgram)
  require (order.state = .listed) (.escrow .invalidState)
  require (¬order.assetDeposited) (.escrow .assetAlreadyDeposited)
  let assets ← transferV1 s a.asset a.mplCoreProgram a.seller a.order
  return {s with
    assets := assets
    escrow.orders := s.escrow.orders.put a.order {order with assetDeposited := true}}

-- A deposited asset leaves the order's custody, signed by the Order address.
def returnAsset (s : Ledger) (orderKey : Pubkey) (order : Order) (asset core : Option Pubkey) (newOwner : Pubkey) :
    Except ProgramError (Cells Pubkey Pubkey) :=
  if order.assetDeposited then
    match asset, core with
    | some asset, some core => do
      require (asset = order.asset) (.escrow .assetMismatch)
      transferV1 s asset core orderKey newOwner
    | _, _ => .error (.escrow .missingAssetAccounts)
  else .ok s.assets

def handleCancel (s : Ledger) (a : Cancel) : Except ProgramError Ledger := do
  let order ← loadSellerOrder s a.order a.seller
  require (order.state = .listed) (.escrow .invalidState)
  let assets ← returnAsset s a.order order a.asset a.mplCoreProgram a.seller
  return {s with
    assets := assets
    escrow.orders := s.escrow.orders.put a.order {order with state := .cancelled, assetDeposited := false}}

def handleCloseOrder (s : Ledger) (a : CloseOrder) : Except ProgramError Ledger := do
  let order ← loadSellerOrder s a.order a.seller
  require order.isTerminal (.escrow .invalidState)
  return {s with escrow.orders := s.escrow.orders.erase a.order}

-- The vault is `init_if_needed`: an account that exists already only has to be of this mint and order.
def initVault (tokens : Cells Pubkey TokenAccount) (vault mint orderKey : Pubkey) :
    Except ProgramError (Cells Pubkey TokenAccount) :=
  match tokens vault with
  | none => .ok (tokens.put vault ⟨mint,orderKey,0⟩)
  | some existing => do
    require (existing.mint = mint) .constraintTokenMint
    require (existing.owner = orderKey) .constraintTokenOwner
    return tokens

def handleReserve (s : Ledger) (a : Reserve) (expectedPrice : U64) (now : I64) : Except ProgramError Ledger := do
  let config ← loadConfig s a.config
  let order ← loadOrder s a.order
  requireSigner a.buyer
  let buyerToken ← loadTokenOf s a.buyerToken a.usdcMint
  require (buyerToken.owner = a.buyer) .constraintTokenOwner
  require (a.usdcMint = config.usdcMint) (.escrow .wrongMint)
  require (a.vault = .vault a.order) .constraintSeeds
  let tokens ← initVault s.tokens a.vault a.usdcMint a.order
  require (a.passport = order.passport) (.escrow .sealPassportMismatch)
  let passport ← orRefuse (s.flacon.passports a.passport) .accountNotInitialized
  require (a.asset = order.asset) (.escrow .assetMismatch)
  let registry ← Flacon.loadRegistry s a.registry
  require (order.state = .listed) (.escrow .invalidState)
  require (a.buyer ≠ order.seller) (.escrow .sellerCannotBuy)
  require (order.price = expectedPrice) (.escrow .priceChanged)
  require (¬passport.void ∧ passport.grade ≠ .void) (.escrow .passportVoid)
  if ¬order.assetDeposited then
    checkSellerOf s order.seller passport a.asset registry
  let tokens ← Tokens.transfer tokens a.buyerToken a.vault a.buyer order.price
  return {s with
    tokens := tokens
    escrow.orders := s.escrow.orders.put a.order {order with buyer := a.buyer, reservedAt := now, state := .reserved}}

def checkScan (order : Order) (scanProof : ScanProof) (sealKey : Pubkey) (found : Seal) (expectedAttester : Pubkey)
    (notBefore : I64) : Except ProgramError Unit := do
  require (scanProof.sealKey = sealKey) (.escrow .scanSealMismatch)
  require (found.passport = order.passport) (.escrow .sealPassportMismatch)
  require (scanProof.attester = expectedAttester) (.escrow .scanAttesterMismatch)
  checkScanNotBefore scanProof.ts notBefore

def handleRecordPreShipScan (s : Ledger) (a : RecordPreShipScan) : Except ProgramError Ledger := do
  let order ← loadSellerOrder s a.order a.seller
  let scanProof ← orRefuse (s.flacon.scans a.scanProof) .accountNotInitialized
  let found ← orRefuse (s.flacon.seals a.sealKey) .accountNotInitialized
  require (order.state = .reserved) (.escrow .invalidState)
  checkScan order scanProof a.sealKey found order.seller order.reservedAt
  return {s with escrow.orders := s.escrow.orders.put a.order {order with sellerScan := a.scanProof, state := .preshipScanned}}

def handleShip (s : Ledger) (a : Ship) (now : I64) : Except ProgramError Ledger := do
  let order ← loadSellerOrder s a.order a.seller
  require (order.state = .preshipScanned) (.escrow .invalidState)
  return {s with escrow.orders := s.escrow.orders.put a.order {order with shippedAt := now, state := .shipped}}

-- The comparison of the two scans that decides RECEIPT_SCANNED or MISMATCH.
def matched (buyerScan sellerScan : ScanProof) : Bool :=
  buyerScan.heat == sellerScan.heat && buyerScan.hum == sellerScan.hum &&
    decide (max buyerScan.fill.val sellerScan.fill.val - min buyerScan.fill.val sellerScan.fill.val ≤ FILL_TOLERANCE)

def handleRecordReceiptScan (s : Ledger) (a : RecordReceiptScan) : Except ProgramError Ledger := do
  let order ← loadOrder s a.order
  requireSigner a.buyer
  require (order.buyer = a.buyer) (.escrow .notBuyer)
  let buyerScan ← orRefuse (s.flacon.scans a.scanProof) .accountNotInitialized
  let found ← orRefuse (s.flacon.seals a.sealKey) .accountNotInitialized
  require (a.sellerScan = order.sellerScan) (.escrow .sellerScanMismatch)
  let sellerScan ← orRefuse (s.flacon.scans a.sellerScan) .accountNotInitialized
  require (order.state = .shipped) (.escrow .invalidState)
  checkScan order buyerScan a.sealKey found order.buyer order.shippedAt
  require (buyerScan.sealKey = sellerScan.sealKey → buyerScan.counter > sellerScan.counter) (.escrow .receiptScanNotNewer)
  let state : OrderState := if matched buyerScan sellerScan then .receiptScanned else .mismatch
  return {s with escrow.orders := s.escrow.orders.put a.order {order with buyerScan := a.scanProof, state := state}}

-- The whole vault balance moves to one account and the vault is closed, signed by the Order address.
def drainVault (s : Ledger) (orderKey vault destination : Pubkey) : Except ProgramError (Cells Pubkey TokenAccount) := do
  let held ← orRefuse (s.tokens vault) .accountNotInitialized
  let tokens ← if held.amount > 0 then Tokens.transfer s.tokens vault destination orderKey held.amount else .ok s.tokens
  Tokens.closeAccount tokens vault orderKey

-- The accounts `release` and `release_after_timeout` share, and the order they act on.
def loadRelease (s : Ledger) (a : Release) : Except ProgramError Order := do
  let config ← loadConfig s a.config
  let order ← loadOrder s a.order
  require (a.vault = .vault a.order) .constraintSeeds
  let sellerToken ← loadTokenOf s a.sellerToken config.usdcMint
  require (sellerToken.owner = order.seller) .constraintTokenOwner
  require (a.buyer = order.buyer) (.escrow .notBuyer)
  requireSigner a.caller
  return order

def settleToSeller (s : Ledger) (a : Release) (order : Order) : Except ProgramError Ledger := do
  let tokens ← drainVault s a.order a.vault a.sellerToken
  let assets ← returnAsset s a.order order a.asset a.mplCoreProgram a.buyer
  return {s with
    tokens := tokens
    assets := assets
    escrow.orders := s.escrow.orders.put a.order {order with state := .released, assetDeposited := false}}

def handleRelease (s : Ledger) (a : Release) : Except ProgramError Ledger := do
  let order ← loadRelease s a
  require (order.state = .receiptScanned) (.escrow .invalidState)
  settleToSeller s a order

def handleReleaseAfterTimeout (s : Ledger) (a : Release) (now : I64) : Except ProgramError Ledger := do
  let order ← loadRelease s a
  checkReleaseAfterTimeout order.state order.shippedAt order.disputeAfterS now
  settleToSeller s a order

-- The seal a buyer passes has to be one of the order's passport; what counts is whether it is dead.
def passedSealDead (s : Ledger) (order : Order) : Option Pubkey → Except ProgramError (Option Bool)
  | none => .ok none
  | some sealKey => do
    let found ← orRefuse (s.flacon.seals sealKey) .accountNotInitialized
    require (found.passport = order.passport) (.escrow .sealPassportMismatch)
    return some found.dead

def disputeReason (s : Ledger) (config : EscrowConfig) (order : Order) (signer : Pubkey) (sealKey : Option Pubkey)
    (now : I64) : Except ProgramError DisputeReason :=
  if signer = config.admin then do
    require (adminMayRefund order.state) (.escrow .invalidState)
    return .admin
  else if signer = order.buyer then do
    let sealDead ← passedSealDead s order sealKey
    buyerDisputeReason ⟨order.state,sealDead,order.reservedAt,order.disputeAfterS,now⟩
  else .error (.escrow .unauthorized)

def handleDispute (s : Ledger) (a : Dispute) (now : I64) : Except ProgramError Ledger := do
  let config ← loadConfig s a.config
  let order ← loadOrder s a.order
  require (a.vault = .vault a.order) .constraintSeeds
  let buyerToken ← loadTokenOf s a.buyerToken config.usdcMint
  require (buyerToken.owner = order.buyer) .constraintTokenOwner
  require (a.buyer = order.buyer) (.escrow .notBuyer)
  require (a.seller = order.seller) (.escrow .notSeller)
  requireSigner a.signer
  let _ ← disputeReason s config order a.signer a.sealKey now
  let tokens ← drainVault s a.order a.vault a.buyerToken
  let assets ← returnAsset s a.order order a.asset a.mplCoreProgram a.seller
  return {s with
    tokens := tokens
    assets := assets
    escrow.orders := s.escrow.orders.put a.order {order with state := .dispute, assetDeposited := false}}

def handleResolve (s : Ledger) (a : Resolve) (toSeller : Bool) : Except ProgramError Ledger := do
  let config ← loadAdminConfig s a.config a.admin
  let order ← loadOrder s a.order
  require (a.vault = .vault a.order) .constraintSeeds
  let recipientToken ← loadTokenOf s a.recipientToken config.usdcMint
  require (a.buyer = order.buyer) (.escrow .notBuyer)
  require (a.seller = order.seller) (.escrow .notSeller)
  require (order.state = .mismatch) (.escrow .invalidState)
  require (recipientToken.owner = if toSeller then order.seller else order.buyer) (.escrow .wrongTokenOwner)
  let tokens ← drainVault s a.order a.vault a.recipientToken
  let assets ← returnAsset s a.order order a.asset a.mplCoreProgram (if toSeller then a.buyer else a.seller)
  return {s with
    tokens := tokens
    assets := assets
    escrow.orders := s.escrow.orders.put a.order {order with state := if toSeller then .released else .dispute, assetDeposited := false}}

end FlaconVault.Escrow
