import FlaconVault.Escrow.Exits
namespace FlaconVault.Escrow
open Guards Flacon

-- The instructions that act on an order once it is listed; a dispute passes no seal, or one that is dead or not.
inductive GuardedCall where
  | reserve | cancel | recordPreShipScan | ship | recordReceiptScan | release | releaseAfterTimeout
  | dispute (sealDead : Option Bool) | resolve | closeOrder
  deriving DecidableEq

-- The state, role and time guards of each instruction, as its handler states them.
def disputeGuard (order : Order) (admin signer : Pubkey) (sealDead : Option Bool) (now : I64) : Except ProgramError DisputeReason :=
  if signer = admin then do
    require (adminMayRefund order.state) (.escrow .invalidState)
    return .admin
  else if signer = order.buyer then
    buyerDisputeReason ⟨order.state,sealDead,order.reservedAt,order.disputeAfterS,now⟩
  else .error (.escrow .unauthorized)

def GuardsPass (order : Order) (admin signer : Pubkey) (now : I64) : GuardedCall → Prop
  | .reserve => order.state = .listed ∧ signer ≠ order.seller
  | .cancel => order.seller = signer ∧ order.state = .listed
  | .recordPreShipScan => order.seller = signer ∧ order.state = .reserved
  | .ship => order.seller = signer ∧ order.state = .preshipScanned
  | .recordReceiptScan => order.buyer = signer ∧ order.state = .shipped
  | .release => order.state = .receiptScanned
  | .releaseAfterTimeout => checkReleaseAfterTimeout order.state order.shippedAt order.disputeAfterS now = .ok ()
  | .dispute sealDead => ∃ reason, disputeGuard order admin signer sealDead now = .ok reason
  | .resolve => admin = signer ∧ order.state = .mismatch
  | .closeOrder => order.seller = signer ∧ order.isTerminal

-- The instruction sent about an order and signed by a key; its other accounts are free. A dispute passes a seal of the order's
-- passport or none.
inductive Sends (s : Ledger) (key signer : Pubkey) (order : Order) : GuardedCall → EscrowCall → Prop where
  | reserve (a : Reserve) (price : U64) (here : a.order = key) (signed : a.buyer = signer) :
      Sends s key signer order .reserve (.reserve a price)
  | cancel (a : Cancel) (here : a.order = key) (signed : a.seller = signer) : Sends s key signer order .cancel (.cancel a)
  | recordPreShipScan (a : RecordPreShipScan) (here : a.order = key) (signed : a.seller = signer) :
      Sends s key signer order .recordPreShipScan (.recordPreShipScan a)
  | ship (a : Ship) (here : a.order = key) (signed : a.seller = signer) : Sends s key signer order .ship (.ship a)
  | recordReceiptScan (a : RecordReceiptScan) (here : a.order = key) (signed : a.buyer = signer) :
      Sends s key signer order .recordReceiptScan (.recordReceiptScan a)
  | release (a : Release) (here : a.order = key) (signed : a.caller = signer) : Sends s key signer order .release (.release a)
  | releaseAfterTimeout (a : Release) (here : a.order = key) (signed : a.caller = signer) :
      Sends s key signer order .releaseAfterTimeout (.releaseAfterTimeout a)
  | dispute (a : Dispute) (sealDead : Option Bool) (here : a.order = key) (signed : a.signer = signer)
      (passed : passedSealDead s order a.sealKey = .ok sealDead) : Sends s key signer order (.dispute sealDead) (.dispute a)
  | resolve (a : Resolve) (toSeller : Bool) (here : a.order = key) (signed : a.admin = signer) :
      Sends s key signer order .resolve (.resolve a toSeller)
  | closeOrder (a : CloseOrder) (here : a.order = key) (signed : a.seller = signer) :
      Sends s key signer order .closeOrder (.closeOrder a)

theorem disputeReason_passed (passed : passedSealDead s order sealKey = .ok sealDead) :
    disputeReason s config order signer sealKey now = disputeGuard order config.admin signer sealDead now := by
  unfold disputeReason disputeGuard
  rw [passed,ok_bind]

-- A seal of another passport, or one that is not there, is refused before any of the guards; the admin's dispute looks at none.
theorem foreign_seal_refused (found : s.escrow.orders a.order = some order) (configFound : s.escrow.config = some config)
    (passed : passedSealDead s order a.sealKey = .error error) (other : a.signer ≠ config.admin) :
    ∃ refused, handleDispute s a now = .error refused := by
  cases outcome : handleDispute s a now with
  | error refused => exact ⟨refused,rfl⟩
  | ok after =>
    simp only [handleDispute,bind_ok,loadConfig_ok,loadOrder_ok,require_ok,exists_const] at outcome
    obtain ⟨read,⟨-,configRead⟩,old,⟨there,-⟩,-,_,-,-,-,-,_,-,reason,decided,-⟩ := outcome
    cases Option.some.inj (configRead.symm.trans configFound)
    cases Option.some.inj (there.symm.trans found)
    unfold disputeReason at decided
    rw [if_neg other] at decided
    split at decided
    · rw [passed] at decided
      cases decided
    · cases decided

theorem dispute_guarded (found : s.escrow.orders a.order = some order) (configFound : s.escrow.config = some config)
    (passed : passedSealDead s order a.sealKey = .ok sealDead) (accepted : handleDispute s a now = .ok after) :
    ∃ reason, disputeGuard order config.admin a.signer sealDead now = .ok reason := by
  simp only [handleDispute,bind_ok,loadConfig_ok,loadOrder_ok,require_ok,exists_const] at accepted
  obtain ⟨read,⟨-,configRead⟩,old,⟨there,-⟩,-,_,-,-,-,-,_,-,reason,decided,-⟩ := accepted
  cases Option.some.inj (configRead.symm.trans configFound)
  cases Option.some.inj (there.symm.trans found)
  rw [disputeReason_passed passed] at decided
  exact ⟨reason,decided⟩

theorem release_after_timeout_guarded (found : s.escrow.orders a.order = some order)
    (accepted : handleReleaseAfterTimeout s a now = .ok after) :
    checkReleaseAfterTimeout order.state order.shippedAt order.disputeAfterS now = .ok () := by
  simp only [handleReleaseAfterTimeout,bind_ok] at accepted
  obtain ⟨old,loaded,done,late,-⟩ := accepted
  obtain ⟨config,-,at_,-⟩ := loadRelease_ok loaded
  cases Option.some.inj (at_.found.symm.trans found)
  exact late

-- Every accepted instruction passed its guards.
theorem accepted_guarded (found : s.escrow.orders key = some order) (configFound : s.escrow.config = some config)
    (sends : Sends s key signer order guarded call) (accepted : process ⟨.escrow call,now⟩ s = .ok after) :
    GuardsPass order config.admin signer now guarded := by
  have processed : processEscrow s now call = .ok after := accepted
  have same {old : Order} (at_ : OrderAt s key old) : old = order := Option.some.inj (at_.found.symm.trans found)
  cases sends with
  | reserve a price here signed =>
    subst here
    cases process_change processed with
    | reserve _ _ config old passport registry buyerToken created tokens configFound at_ signs paying ofMint ofBuyer
        passportFound registryFound state apart =>
      obtain rfl := same at_
      exact ⟨state,signed ▸ apart⟩
  | cancel a here signed =>
    subst here
    cases process_change processed with
    | cancel _ old assets at_ signs isSeller state =>
      obtain rfl := same at_
      exact ⟨isSeller.trans signed,state⟩
  | recordPreShipScan a here signed =>
    subst here
    cases process_change processed with
    | recordPreShipScan _ old scan at_ signs isSeller state =>
      obtain rfl := same at_
      exact ⟨isSeller.trans signed,state⟩
  | ship a here signed =>
    subst here
    cases process_change processed with
    | ship _ old at_ signs isSeller state =>
      obtain rfl := same at_
      exact ⟨isSeller.trans signed,state⟩
  | recordReceiptScan a here signed =>
    subst here
    cases process_change processed with
    | recordReceiptScan _ old buyerScan sellerScan at_ signs isBuyer state =>
      obtain rfl := same at_
      exact ⟨isBuyer.trans signed,state⟩
  | release a here signed =>
    subst here
    cases process_change processed with
    | release _ _ config old state settled =>
      obtain rfl := same settled.at_
      exact state
  | releaseAfterTimeout a here signed =>
    subst here
    exact release_after_timeout_guarded found processed
  | dispute a sealDead here signed passed =>
    subst here signed
    exact dispute_guarded found configFound passed processed
  | resolve a toSeller here signed =>
    subst here
    cases process_change processed with
    | resolve _ _ _ read old state signs isAdmin settled =>
      obtain rfl := same settled.at_
      cases Option.some.inj (settled.configFound.symm.trans configFound)
      exact ⟨isAdmin.trans signed,state⟩
  | closeOrder a here signed =>
    subst here
    cases process_change processed with
    | closeOrder _ old at_ signs isSeller terminal =>
      obtain rfl := same at_
      exact ⟨isSeller.trans signed,terminal⟩

-- A ledger in which the guards are all that can refuse an instruction about this order: every other account it reads is
-- there and in order.
namespace Stage

def noHash : Bytes32 := ⟨List.replicate 32 0,by simp⟩
def mint : Pubkey := .foreign 5
def buyerToken : Pubkey := .foreign 11
def sellerToken : Pubkey := .foreign 12
def payingToken : Pubkey := .foreign 13
def sealKey : Pubkey := .foreign 14
def latest : I64 := ⟨2^63-1,by decide⟩

def keyOf (order : Order) : Pubkey := .order order.passport order.seller
def receiptKey (order : Order) : Pubkey := .scan order.sellerScan 0
def scanBy (attester : Pubkey) (counter : U32) : ScanProof :=
  ⟨sealKey,counter,1,0,0,0,0,0,0,0,0,noHash,noHash,attester,0,latest⟩

def ledger (order : Order) (admin signer : Pubkey) (dead : Bool) : Ledger where
  flaconUpgradeAuthority := none
  escrowUpgradeAuthority := none
  flacon := {
    registry := some ⟨admin,[],[],[]⟩
    passports := Cells.empty.put order.passport ⟨noHash,noHash,order.asset,order.seller,.a,0,0,false,.zero⟩
    seals := Cells.empty.put sealKey ⟨order.passport,0,noHash,0,dead,.zero⟩
    scans := (Cells.empty.put order.sellerScan (scanBy order.seller 0)).put (receiptKey order) (scanBy order.buyer 1) }
  escrow := ⟨some ⟨admin,mint,.zero⟩,Cells.empty.put (keyOf order) order⟩
  tokens := (((Cells.empty.put (.vault (keyOf order)) ⟨mint,keyOf order,0⟩).put buyerToken ⟨mint,order.buyer,0⟩).put
    sellerToken ⟨mint,order.seller,0⟩).put payingToken ⟨mint,signer,order.price⟩
  assets := Cells.empty.put order.asset (if order.assetDeposited then keyOf order else order.seller)

variable {order : Order} {admin signer : Pubkey} {dead : Bool}

theorem vault_there : (ledger order admin signer dead).tokens (.vault (keyOf order)) = some ⟨mint,keyOf order,0⟩ := by
  simp [ledger,buyerToken,sellerToken,payingToken]

theorem settles (token : (ledger order admin signer dead).tokens account = some ⟨mint,payee,0⟩) (apart : .vault (keyOf order) ≠ account) :
    Settles (ledger order admin signer dead) (keyOf order) order ⟨admin,mint,.zero⟩ account ⟨mint,payee,0⟩ := by
  refine ⟨rfl,Cells.put_self _ _ _,rfl,loadTokenOf_ok.mpr ⟨token,rfl⟩,drain_accepted vault_there rfl token rfl apart (by simp),
    fun newOwner => return_accepted ?_ newOwner⟩
  intro deposited
  simp [ledger,deposited]

theorem buyer_settles : Settles (ledger order admin signer dead) (keyOf order) order ⟨admin,mint,.zero⟩ buyerToken
    ⟨mint,order.buyer,0⟩ := settles (by simp [ledger,buyerToken,sellerToken,payingToken]) (by simp [buyerToken])

theorem seller_settles : Settles (ledger order admin signer dead) (keyOf order) order ⟨admin,mint,.zero⟩ sellerToken
    ⟨mint,order.seller,0⟩ := settles (by simp [ledger,sellerToken,payingToken]) (by simp [sellerToken])

theorem seller_order (signs : order.seller.canSign) :
    loadSellerOrder (ledger order admin signer dead) (keyOf order) order.seller = .ok order :=
  loadSellerOrder_ok.mpr ⟨Cells.put_self _ _ _,rfl,signs,rfl⟩

theorem reserve_accepted (state : order.state = .listed) (foreign : signer ≠ order.seller) (signs : signer.canSign) :
    ∃ after, handleReserve (ledger order admin signer dead) ⟨.config,keyOf order,signer,payingToken,mint,.vault (keyOf order),
      order.passport,order.asset,.registry⟩ order.price now = .ok after := by
  have loadedConfig : loadConfig (ledger order admin signer dead) .config = .ok ⟨admin,mint,.zero⟩ := loadConfig_ok.mpr ⟨rfl,rfl⟩
  have loadedOrder : loadOrder (ledger order admin signer dead) (keyOf order) = .ok order :=
    loadOrder_ok.mpr ⟨Cells.put_self _ _ _,rfl⟩
  have paying : (ledger order admin signer dead).tokens payingToken = some ⟨mint,signer,order.price⟩ := Cells.put_self _ _ _
  have loadedToken : loadTokenOf (ledger order admin signer dead) payingToken mint = .ok ⟨mint,signer,order.price⟩ :=
    loadTokenOf_ok.mpr ⟨paying,rfl⟩
  have opened : initVault (ledger order admin signer dead).tokens (.vault (keyOf order)) mint (keyOf order) =
      .ok (ledger order admin signer dead).tokens := by
    simp [initVault,vault_there]
    rfl
  have passportFound : (ledger order admin signer dead).flacon.passports order.passport =
      some ⟨noHash,noHash,order.asset,order.seller,.a,0,0,false,.zero⟩ := Cells.put_self _ _ _
  have valid : ¬false ∧ Grade.a ≠ Grade.void := by decide
  have registryFound : (ledger order admin signer dead).flacon.registry = some ⟨admin,[],[],[]⟩ := rfl
  have entitled : ¬order.assetDeposited → checkSellerOf (ledger order admin signer dead) order.seller
      ⟨noHash,noHash,order.asset,order.seller,.a,0,0,false,.zero⟩ order.asset ⟨admin,[],[],[]⟩ = .ok () := by
    intro kept
    simp [checkSellerOf,checkSeller,ledger,kept]
  have room : (0 : U64).val + order.price.val < 2^64 := by simp
  have funded := transfer_accepted paying vault_there (le_refl _) rfl rfl (by simp [payingToken]) room
  simp only [handleReserve,loadedConfig,loadedOrder,loadedToken,opened,ok_bind,requireSigner,signs,require_pass,
    Flacon.loadRegistry,orRefuse,state,passportFound,registryFound,require_pass foreign,require_pass valid]
  split
  · rename_i kept
    rw [entitled kept,ok_bind,funded,ok_bind]
    exact ⟨_,rfl⟩
  · rw [funded,ok_bind]
    exact ⟨_,rfl⟩

theorem cancel_accepted (state : order.state = .listed) (signs : order.seller.canSign) :
    ∃ after, handleCancel (ledger order admin order.seller dead)
      ⟨keyOf order,order.seller,some order.asset,some MPL_CORE_PROGRAM_ID⟩ = .ok after := by
  have settles : Settles (ledger order admin order.seller dead) (keyOf order) order ⟨admin,mint,.zero⟩ sellerToken
    ⟨mint,order.seller,0⟩ := seller_settles
  obtain ⟨assets,returned⟩ := settles.returns order.seller
  simp only [handleCancel,seller_order signs,ok_bind,require_pass state,returned]
  exact ⟨_,rfl⟩

-- The scans of the stage are newer than every step.
theorem scan_dated (stepAt : I64) : checkScanNotBefore latest stepAt = .ok () := by
  have bounded := stepAt.2
  refine require_pass ?_
  simp only [latest,Flacon.MAX_SCAN_TS_SKEW_S]
  omega

theorem scan_checked (attester : Pubkey) (counter : U32) (stepAt : I64) (deadSeal : Bool) :
    checkScan order (scanBy attester counter) sealKey ⟨order.passport,0,noHash,0,deadSeal,.zero⟩ attester stepAt = .ok () := by
  simp [checkScan,scanBy,scan_dated,require_pass]

theorem seal_there : (ledger order admin signer dead).flacon.seals sealKey = some ⟨order.passport,0,noHash,0,dead,.zero⟩ :=
  Cells.put_self _ _ _

theorem receipt_apart : order.sellerScan ≠ receiptKey order := by
  intro same
  have sizes := congrArg sizeOf same
  simp only [receiptKey,Pubkey.scan.sizeOf_spec] at sizes
  omega

theorem seller_scan_there : (ledger order admin signer dead).flacon.scans order.sellerScan = some (scanBy order.seller 0) :=
  (Cells.put_other _ _ receipt_apart).trans (Cells.put_self _ _ _)

theorem pre_ship_accepted (state : order.state = .reserved) (signs : order.seller.canSign) :
    ∃ after, handleRecordPreShipScan (ledger order admin order.seller dead) ⟨keyOf order,order.seller,order.sellerScan,sealKey⟩ =
      .ok after := by
  simp only [handleRecordPreShipScan,seller_order signs,ok_bind,seller_scan_there,seal_there,orRefuse,require_pass state,
    scan_checked]
  exact ⟨_,rfl⟩

theorem receipt_accepted (state : order.state = .shipped) (signs : order.buyer.canSign) :
    ∃ after, handleRecordReceiptScan (ledger order admin order.buyer dead)
      ⟨keyOf order,order.buyer,receiptKey order,sealKey,order.sellerScan⟩ = .ok after := by
  have loadedOrder : loadOrder (ledger order admin order.buyer dead) (keyOf order) = .ok order :=
    loadOrder_ok.mpr ⟨Cells.put_self _ _ _,rfl⟩
  have scanned : (ledger order admin order.buyer dead).flacon.scans (receiptKey order) = some (scanBy order.buyer 1) :=
    Cells.put_self _ _ _
  have newer : (scanBy order.buyer 1).sealKey = (scanBy order.seller 0).sealKey →
      (scanBy order.buyer 1).counter > (scanBy order.seller 0).counter := by
    intro _
    exact Fin.zero_lt_one
  simp only [handleRecordReceiptScan,loadedOrder,ok_bind,requireSigner,signs,require_pass,scanned,seal_there,orRefuse,
    seller_scan_there,state,scan_checked,require_pass newer]
  exact ⟨_,rfl⟩

theorem passed_seal (sealDead : Option Bool) : passedSealDead (ledger order admin signer (sealDead.getD false)) order
    (sealDead.map fun _ => sealKey) = .ok sealDead := by
  cases sealDead with
  | none => rfl
  | some dead =>
    simp only [Option.map_some,Option.getD_some,passedSealDead,seal_there,orRefuse,ok_bind,require_pass]
    rfl

theorem dispute_accepted (sealDead : Option Bool) (signs : signer.canSign)
    (passes : disputeGuard order admin signer sealDead now = .ok reason) :
    ∃ after, handleDispute (ledger order admin signer (sealDead.getD false)) ⟨.config,keyOf order,.vault (keyOf order),buyerToken,
      order.buyer,order.seller,signer,sealDead.map fun _ => sealKey,some order.asset,some MPL_CORE_PROGRAM_ID⟩ now = .ok after := by
  have decided : disputeReason (ledger order admin signer (sealDead.getD false)) ⟨admin,mint,.zero⟩ order signer
      (sealDead.map fun _ => sealKey) now = .ok reason := (disputeReason_passed (passed_seal sealDead)).trans passes
  exact buyer_settles.dispute rfl signs decided

end Stage

-- The guards are exactly what an instruction about the order can be refused for when its other accounts are in order.
theorem guarded_accepted (passes : GuardsPass order admin signer now guarded) (signs : signer.canSign) :
    ∃ dead call, Sends (Stage.ledger order admin signer dead) (Stage.keyOf order) signer order guarded call ∧
      ∃ after, process ⟨.escrow call,now⟩ (Stage.ledger order admin signer dead) = .ok after := by
  cases guarded with
  | reserve => exact ⟨false,_,.reserve _ _ rfl rfl,Stage.reserve_accepted passes.1 passes.2 signs⟩
  | cancel =>
    obtain ⟨rfl,state⟩ := passes
    exact ⟨false,_,.cancel _ rfl rfl,Stage.cancel_accepted state signs⟩
  | recordPreShipScan =>
    obtain ⟨rfl,state⟩ := passes
    exact ⟨false,_,.recordPreShipScan _ rfl rfl,Stage.pre_ship_accepted state signs⟩
  | ship =>
    obtain ⟨rfl,state⟩ := passes
    refine ⟨false,_,.ship ⟨Stage.keyOf order,order.seller⟩ rfl rfl,?_⟩
    simp only [process,processEscrow,handleShip,Stage.seller_order signs,ok_bind,require_pass state]
    exact ⟨_,rfl⟩
  | recordReceiptScan =>
    obtain ⟨rfl,state⟩ := passes
    exact ⟨false,_,.recordReceiptScan _ rfl rfl,Stage.receipt_accepted state signs⟩
  | release => exact ⟨false,_,.release _ rfl rfl,Stage.seller_settles.release rfl signs passes⟩
  | releaseAfterTimeout =>
    exact ⟨false,_,.releaseAfterTimeout _ rfl rfl,Stage.seller_settles.release_after_timeout rfl signs passes⟩
  | dispute sealDead =>
    obtain ⟨reason,passes⟩ := passes
    exact ⟨_,_,.dispute _ sealDead rfl rfl (Stage.passed_seal sealDead),Stage.dispute_accepted sealDead signs passes⟩
  | resolve =>
    obtain ⟨rfl,state⟩ := passes
    exact ⟨false,_,.resolve _ true rfl rfl,Stage.seller_settles.resolve true rfl signs state⟩
  | closeOrder =>
    obtain ⟨rfl,terminal⟩ := passes
    refine ⟨false,_,.closeOrder ⟨Stage.keyOf order,order.seller⟩ rfl rfl,?_⟩
    simp only [process,processEscrow,handleCloseOrder,Stage.seller_order signs,ok_bind,require_pass terminal]
    exact ⟨_,rfl⟩

end FlaconVault.Escrow
