import FlaconVault.Web.EscrowRules
import FlaconVault.Verifier.Database
namespace FlaconVault.Web
open Guards Escrow
open Flacon (requireSigner)

-- The token library: the associated token account of an owner and a mint, at an address of the associated token program.
structure TokenLibrary where
  ata : Pubkey → Pubkey → Pubkey
  outside : ∀ owner mint, (ata owner mint).derived = false

-- The instructions the order page sends: the idempotent creation of an associated token account, and escrow instructions.
inductive Ix where
  | createAssociatedTokenAccountIdempotent (payer owner mint : Pubkey)
  | escrow (call : EscrowCall)

-- The key whose signature an instruction needs.
def signerOf : EscrowCall → Pubkey
  | .initConfig a _ => a.admin
  | .setDisputeWindow a _ => a.admin
  | .list a _ => a.seller
  | .depositAsset a => a.seller
  | .cancel a => a.seller
  | .closeOrder a => a.seller
  | .reserve a _ => a.buyer
  | .recordPreShipScan a => a.seller
  | .ship a => a.seller
  | .recordReceiptScan a => a.buyer
  | .release a => a.caller
  | .releaseAfterTimeout a => a.caller
  | .dispute a => a.signer
  | .resolve a _ => a.admin

def Ix.signer : Ix → Pubkey
  | .createAssociatedTokenAccountIdempotent payer _ _ => payer
  | .escrow call => signerOf call

section Transactions
variable (library : TokenLibrary)

-- An account that exists already only has to be the owner's, and of the mint.
def createIdempotent (s : Ledger) (payer owner mint : Pubkey) : Except ProgramError Ledger := do
  requireSigner payer
  match s.tokens (library.ata owner mint) with
  | none => return {s with tokens := s.tokens.put (library.ata owner mint) ⟨mint,owner,0⟩}
  | some existing => do
    require (existing.owner = owner) .tokenProgram
    require (existing.mint = mint) .tokenProgram
    return s

def processIx (now : I64) (s : Ledger) : Ix → Except ProgramError Ledger
  | .createAssociatedTokenAccountIdempotent payer owner mint => createIdempotent library s payer owner mint
  | .escrow call => processEscrow s now call

-- A transaction with the signature of one wallet: all of its instructions or none.
def sendSigned (wallet : Pubkey) (tx : List Ix) (now : I64) (s : Ledger) : Except ProgramError Ledger := do
  require (∀ ix ∈ tx, ix.signer = wallet) .notSigner
  tx.foldlM (processIx library now) s

end Transactions

-- The order fields the builders need.
structure IxOrder where
  pubkey : Pubkey
  passport : Pubkey
  seller : Pubkey
  buyer : Option Pubkey
  asset : Pubkey
  priceBase : U64
  sellerScan : Option Pubkey
  assetDeposited : Bool

-- The Core asset accounts when the asset sits in the order's custody, else nothing.
def custody (o : IxOrder) : Option Pubkey × Option Pubkey :=
  if o.assetDeposited then (some o.asset,some MPL_CORE_PROGRAM_ID) else (none,none)

inductive PayoutPath where
  | release | releaseAfterTimeout | dispute | resolve
  deriving DecidableEq

-- Who receives the USDC of a payout; a payout without its buyer cannot be built.
def payoutRecipient (o : IxOrder) (path : PayoutPath) (toSeller : Bool) : Option Pubkey :=
  if path = .release ∨ path = .releaseAfterTimeout then some o.seller
  else if path = .resolve ∧ toSeller then some o.seller
  else o.buyer

namespace escrowIx
variable (library : TokenLibrary)

def ensureAtaIx (payer owner mint : Pubkey) : Ix := .createAssociatedTokenAccountIdempotent payer owner mint

def list (passport seller : Pubkey) (priceBase : U64) (asset : Pubkey) : List Ix :=
  [.escrow (.list ⟨.config,passport,.order passport seller,seller,asset,.registry⟩ priceBase)]

def depositAsset (order seller asset : Pubkey) : List Ix :=
  [.escrow (.depositAsset ⟨order,seller,asset,MPL_CORE_PROGRAM_ID⟩)]

def cancel (o : IxOrder) : List Ix := [.escrow (.cancel ⟨o.pubkey,o.seller,(custody o).1,(custody o).2⟩)]

def closeOrder (o : IxOrder) : List Ix := [.escrow (.closeOrder ⟨o.pubkey,o.seller⟩)]

-- The expected price is the one the page shows.
def reserve (o : IxOrder) (buyer usdcMint : Pubkey) : List Ix :=
  [.escrow (.reserve ⟨.config,o.pubkey,buyer,library.ata buyer usdcMint,usdcMint,.vault o.pubkey,o.passport,o.asset,.registry⟩ o.priceBase)]

def preShip (o : IxOrder) (scanProof sealKey : Pubkey) : List Ix := [.escrow (.recordPreShipScan ⟨o.pubkey,o.seller,scanProof,sealKey⟩)]

def ship (o : IxOrder) : List Ix := [.escrow (.ship ⟨o.pubkey,o.seller⟩)]

def receipt (o : IxOrder) (scanProof sealKey : Pubkey) : Option (List Ix) := do
  let buyer ← o.buyer
  let sellerScan ← o.sellerScan
  return [.escrow (.recordReceiptScan ⟨o.pubkey,buyer,scanProof,sealKey,sellerScan⟩)]

def releaseAccounts (o : IxOrder) (caller usdcMint buyer : Pubkey) : Release :=
  ⟨.config,o.pubkey,.vault o.pubkey,library.ata o.seller usdcMint,buyer,caller,(custody o).1,(custody o).2⟩

def release (o : IxOrder) (caller usdcMint : Pubkey) : Option (List Ix) := do
  let buyer ← o.buyer
  let recipient ← payoutRecipient o .release false
  return [ensureAtaIx caller recipient usdcMint,.escrow (.release (releaseAccounts library o caller usdcMint buyer))]

def releaseAfterTimeout (o : IxOrder) (caller usdcMint : Pubkey) : Option (List Ix) := do
  let buyer ← o.buyer
  let recipient ← payoutRecipient o .releaseAfterTimeout false
  return [ensureAtaIx caller recipient usdcMint,.escrow (.releaseAfterTimeout (releaseAccounts library o caller usdcMint buyer))]

def dispute (o : IxOrder) (signer usdcMint : Pubkey) (sealKey : Option Pubkey) : Option (List Ix) := do
  let buyer ← o.buyer
  let recipient ← payoutRecipient o .dispute false
  return [ensureAtaIx signer recipient usdcMint,
    .escrow (.dispute ⟨.config,o.pubkey,.vault o.pubkey,library.ata buyer usdcMint,buyer,o.seller,signer,sealKey,(custody o).1,(custody o).2⟩)]

def resolve (o : IxOrder) (admin usdcMint : Pubkey) (toSeller : Bool) : Option (List Ix) := do
  let buyer ← o.buyer
  let recipient ← payoutRecipient o .resolve toSeller
  return [ensureAtaIx admin recipient usdcMint,
    .escrow (.resolve ⟨.config,o.pubkey,.vault o.pubkey,library.ata recipient usdcMint,buyer,o.seller,admin,(custody o).1,(custody o).2⟩ toSeller)]

end escrowIx

-- What the page reads from the chain. The default key stands for no buyer and no scan.
structure OrderView extends IxOrder where
  state : ℕ
  listedAt : Int
  reservedAt : Int
  shippedAt : Int
  buyerScan : Option Pubkey
  disputeAfterS : Int

structure EscrowConfigView where
  admin : Pubkey
  usdcMint : Pubkey
  disputeAfterS : Int

def nz (key : Pubkey) : Option Pubkey := if key = .default then none else some key

def toView (pubkey : Pubkey) (a : Order) : OrderView where
  pubkey := pubkey
  passport := a.passport
  seller := a.seller
  buyer := nz a.buyer
  asset := a.asset
  priceBase := a.price
  state := stateCode a.state
  listedAt := a.listedAt.1
  reservedAt := a.reservedAt.1
  shippedAt := a.shippedAt.1
  sellerScan := nz a.sellerScan
  buyerScan := nz a.buyerScan
  disputeAfterS := a.disputeAfterS.1
  assetDeposited := a.assetDeposited

def fetchConfig (s : Ledger) : Option EscrowConfigView := s.escrow.config.map fun c => ⟨c.admin,c.usdcMint,c.disputeAfterS.1⟩

def fetchOrder (s : Ledger) (pubkey : Pubkey) : Option OrderView := (s.escrow.orders pubkey).map (toView pubkey)

structure SealState where
  pda : Pubkey
  existing : Bool
  dead : Bool
  passport : Option Pubkey

def fetchSealStates (s : Ledger) (uidHashes : List Bytes32) : List SealState :=
  uidHashes.map fun uidHash =>
    match s.flacon.seals (.sealOf uidHash) with
    | some found => ⟨.sealOf uidHash,true,found.dead,some found.passport⟩
    | none => ⟨.sealOf uidHash,false,false,none⟩

-- The scans of a step. An indicator code is a number, or not one at all.
namespace INDICATOR
def INTACT : ℕ := 0
def TRIGGERED : ℕ := 1
def UNREADABLE : ℕ := 2
def MISSING : ℕ := 3
end INDICATOR

def SCAN_TS_SKEW_S : Int := 600

inductive ScanStep where
  | preShip | receipt
  deriving DecidableEq

def scanFitsStep (o : OrderLike) (step : ScanStep) (scanTs : Int) : Bool :=
  let stepAt := if step = .preShip then o.reservedAt else o.shippedAt
  scanTs ≥ stepAt - SCAN_TS_SKEW_S

def indicatorProblem (name : String) (code : Option ℕ) : Option String :=
  if code = some INDICATOR.INTACT ∨ code = some INDICATOR.TRIGGERED then none
  else if code = some INDICATOR.UNREADABLE then some (name ++ " unreadable")
  else some (name ++ " not read")

def scanUsableForOrder (heat humidity : Option ℕ) : Except String Unit :=
  let problems := [indicatorProblem "heat" heat,indicatorProblem "humidity" humidity].filterMap id
  if problems ≠ [] then .error (", ".intercalate problems) else .ok ()

-- A scan of the connected wallet as the page lists it; its address is also its key.
structure ScanOpt where
  counter : U32
  ts : Int
  sealKey : Pubkey
  pda : Pubkey
  unusable : Option String

structure StepScans where
  offered : List ScanOpt
  chosen : Option ScanOpt
  olderHidden : ℕ
  undecided : ℕ

def stepScanChoice (o : OrderLike) (step : Option ScanStep) (scans : List ScanOpt) (choice : Option Pubkey) : StepScans :=
  let offered := match step with
    | some step => scans.filter fun scan => scanFitsStep o step scan.ts
    | none => []
  let usable := offered.filter fun scan => scan.unusable.isNone
  ⟨offered,(usable.find? fun scan => choice == some scan.pda).or usable.head?,scans.length-offered.length,offered.length-usable.length⟩

-- What the page reads of an event of the passport's history.
structure PassportEvent where
  type : Verifier.EventType
  actor : Option Pubkey
  status : Verifier.Status
  sealUidHash : Option Bytes32
  ts : Int
  counter : Option U32
  heat : Option ℕ
  humidity : Option ℕ

def scanOpt (e : PassportEvent) : Option ScanOpt := do
  let uidHash ← e.sealUidHash
  let counter ← e.counter
  let unusable := match scanUsableForOrder e.heat e.humidity with
    | .ok _ => none
    | .error reason => some reason
  return ⟨counter,e.ts,.sealOf uidHash,.scan (.sealOf uidHash) counter,unusable⟩

-- The connected wallet's anchored scans on this passport, newest first.
def myScans (me : Pubkey) (events : List PassportEvent) : List ScanOpt :=
  ((events.filter fun e => e.type = .scan ∧ e.actor = some me ∧ e.status = .confirmed).filterMap scanOpt).reverse

-- The order page of a connected wallet: what it has loaded, and the scan picked in its list.
structure OrderPage where
  me : Pubkey
  order : OrderView
  config : Option EscrowConfigView
  deadSeal : Option Pubkey
  events : List PassportEvent
  scanChoice : Option Pubkey

namespace OrderPage

-- The page's `load`: config and order from the chain, seals and events of the passport from the verifier, and of each seal
-- whether the program says it is dead.
def load (me key : Pubkey) (sealHashes : List Bytes32) (events : List PassportEvent) (scanChoice : Option Pubkey) (s : Ledger) :
    Option OrderPage := do
  let order ← fetchOrder s key
  let dead := (fetchSealStates s sealHashes).find? fun state => state.dead && state.passport == some order.passport
  return ⟨me,order,fetchConfig s,dead.map (·.pda),events,scanChoice⟩

variable (page : OrderPage)

def like : OrderLike := ⟨page.order.state,page.order.reservedAt,page.order.shippedAt,page.order.disputeAfterS⟩

def viewer : Viewer where
  isSeller := page.order.seller == page.me
  isBuyer := page.order.buyer == some page.me
  isAdmin := page.config.any (·.admin == page.me)
  sealDead := page.deadSeal.isSome

def step : Option ScanStep :=
  if page.order.state = OrderState.RESERVED then some .preShip
  else if page.order.state = OrderState.SHIPPED then some .receipt
  else none

def chosen : Option ScanOpt := (stepScanChoice page.like page.step (myScans page.me page.events) page.scanChoice).chosen

def actions (now : Int) : List EscrowAction := availableActions page.like page.viewer now

-- The transaction behind each button; the two buttons of `resolve` say who is paid.
def act (library : TokenLibrary) (toSeller : Bool) : EscrowAction → Option (List Ix)
  | .reserve => do
    let config ← page.config
    return escrowIx.reserve library page.order.toIxOrder page.me config.usdcMint
  | .preShip => do
    let scan ← page.chosen
    return escrowIx.preShip page.order.toIxOrder scan.pda scan.sealKey
  | .ship => some (escrowIx.ship page.order.toIxOrder)
  | .receipt => do
    let scan ← page.chosen
    escrowIx.receipt page.order.toIxOrder scan.pda scan.sealKey
  | .release => do
    let config ← page.config
    escrowIx.release library page.order.toIxOrder page.me config.usdcMint
  | .releaseAfterTimeout => do
    let config ← page.config
    escrowIx.releaseAfterTimeout library page.order.toIxOrder page.me config.usdcMint
  | .refundNotShipped => do
    let config ← page.config
    escrowIx.dispute library page.order.toIxOrder page.me config.usdcMint none
  | .disputeSealDead => do
    let config ← page.config
    escrowIx.dispute library page.order.toIxOrder page.me config.usdcMint page.deadSeal
  | .adminRefund => do
    let config ← page.config
    escrowIx.dispute library page.order.toIxOrder page.me config.usdcMint none
  | .resolve => do
    let config ← page.config
    escrowIx.resolve library page.order.toIxOrder page.me config.usdcMint toSeller
  | .cancel => some (escrowIx.cancel page.order.toIxOrder)
  | .close => some (escrowIx.closeOrder page.order.toIxOrder)

end OrderPage
end FlaconVault.Web
