import FlaconVault.Flacon.Effects
namespace FlaconVault.Escrow
open Guards Flacon

theorem loadConfig_ok : loadConfig s key = .ok config ↔ key = .config ∧ s.escrow.config = some config := by
  simp only [loadConfig,bind_ok,require_ok,orRefuse_ok,exists_const]

theorem loadOrder_ok :
    loadOrder s key = .ok order ↔ s.escrow.orders key = some order ∧ key = .order order.passport order.seller := by
  simp only [loadOrder,bind_ok,require_ok,orRefuse_ok,exists_const,pure_ok]
  constructor
  · rintro ⟨found,present,here,rfl⟩
    exact ⟨present,here⟩
  · rintro ⟨present,here⟩
    exact ⟨order,present,here,rfl⟩

theorem loadSellerOrder_ok :
    loadSellerOrder s key seller = .ok order ↔
      s.escrow.orders key = some order ∧ key = .order order.passport order.seller ∧ seller.canSign ∧
        order.seller = seller := by
  simp only [loadSellerOrder,bind_ok,loadOrder_ok,requireSigner_ok,require_ok,exists_const,pure_ok]
  constructor
  · rintro ⟨found,⟨present,here⟩,signs,isSeller,rfl⟩
    exact ⟨present,here,signs,isSeller⟩
  · rintro ⟨present,here,signs,isSeller⟩
    exact ⟨order,⟨present,here⟩,signs,isSeller,rfl⟩

theorem loadAdminConfig_ok :
    loadAdminConfig s key admin = .ok config ↔
      key = .config ∧ s.escrow.config = some config ∧ admin.canSign ∧ config.admin = admin := by
  simp only [loadAdminConfig,bind_ok,loadConfig_ok,requireSigner_ok,require_ok,exists_const,pure_ok]
  constructor
  · rintro ⟨found,⟨here,present⟩,signs,isAdmin,rfl⟩
    exact ⟨here,present,signs,isAdmin⟩
  · rintro ⟨here,present,signs,isAdmin⟩
    exact ⟨config,⟨here,present⟩,signs,isAdmin,rfl⟩

theorem loadTokenOf_ok : loadTokenOf s key mint = .ok token ↔ s.tokens key = some token ∧ token.mint = mint := by
  simp only [loadTokenOf,bind_ok,require_ok,orRefuse_ok,exists_const,pure_ok]
  constructor
  · rintro ⟨found,present,ofMint,rfl⟩
    exact ⟨present,ofMint⟩
  · rintro ⟨present,ofMint⟩
    exact ⟨token,present,ofMint,rfl⟩

-- What a token transfer between two different accounts writes, and what it needed.
structure Transferred (tokens : Cells Pubkey TokenAccount) (source destination authority : Pubkey) (amount : ℕ)
    (after : Cells Pubkey TokenAccount) (paying paid : TokenAccount) (left total : U64) : Prop where
  apart : source ≠ destination
  sourceFound : tokens source = some paying
  destinationFound : tokens destination = some paid
  sameMint : paying.mint = paid.mint
  authorised : paying.owner = authority
  left_eq : left.val + amount = paying.amount.val
  total_eq : total.val = paid.amount.val + amount
  written : after = (tokens.put source {paying with amount := left}).put destination {paid with amount := total}

theorem transfer_parts (accepted : Tokens.transfer tokens source destination authority amount = .ok after) :
    (source = destination ∧ after = tokens) ∨
      ∃ paying paid left total, Transferred tokens source destination authority amount after paying paid left total := by
  simp only [Tokens.transfer,bind_ok,orRefuse_ok,require_ok,exists_const] at accepted
  obtain ⟨paying,sourceFound,paid,destinationFound,enough,sameMint,authorised,rest⟩ := accepted
  split at rest
  · rename_i same
    exact .inl ⟨same,(pure_ok.mp rest).symm⟩
  · rename_i apart
    simp only [bind_ok,orRefuse_ok,pure_ok] at rest
    obtain ⟨total,adds,rfl⟩ := rest
    have small : amount < 2^64 := by omega
    have left : (paying.amount - Fin.ofNat (2^64) amount).val + amount = paying.amount.val := by
      have cast : (Fin.ofNat (2^64) amount).val = amount := Nat.mod_eq_of_lt small
      rw [Fin.sub_val_of_le (by rw [Fin.le_def,cast]; exact enough),cast]
      omega
    exact .inr ⟨paying,paid,_,total,apart,sourceFound,destinationFound,sameMint,authorised,left,checkedAdd_some.mp adds,rfl⟩

-- The two ways a vault can be drained: an empty one is closed, and of any other the whole balance goes to the
-- destination.
inductive Drained (tokens : Cells Pubkey TokenAccount) (orderKey vault destination : Pubkey) :
    Cells Pubkey TokenAccount → Prop where
  | empty (held : TokenAccount) (found : tokens vault = some held) (owner : held.owner = orderKey)
      (nothing : held.amount.val = 0) : Drained tokens orderKey vault destination (tokens.erase vault)
  | paid (held paid : TokenAccount) (total : U64) (found : tokens vault = some held) (owner : held.owner = orderKey)
      (something : 0 < held.amount.val) (apart : destination ≠ vault) (destinationFound : tokens destination = some paid)
      (adds : total.val = paid.amount.val + held.amount.val) :
      Drained tokens orderKey vault destination ((tokens.put destination {paid with amount := total}).erase vault)

theorem close_parts (accepted : Tokens.closeAccount tokens account authority = .ok after) :
    ∃ closing, tokens account = some closing ∧ closing.amount = 0 ∧ closing.owner = authority ∧
      after = tokens.erase account := by
  simp only [Tokens.closeAccount,bind_ok,orRefuse_ok,require_ok,exists_const,pure_ok] at accepted
  obtain ⟨closing,found,empty,owner,rfl⟩ := accepted
  exact ⟨closing,found,empty,owner,rfl⟩

theorem drain_parts (accepted : drainVault s orderKey vault destination = .ok tokens) :
    Drained s.tokens orderKey vault destination tokens := by
  unfold drainVault at accepted
  obtain ⟨held,found,accepted⟩ := bind_ok.mp accepted
  replace found := orRefuse_ok.mp found
  split at accepted
  · rename_i positive
    have something : 0 < held.amount.val := positive
    obtain ⟨moved,moves,closes⟩ := bind_ok.mp accepted
    obtain ⟨closing,present,zero,owner,rfl⟩ := close_parts closes
    rcases transfer_parts moves with ⟨same,rfl⟩ | ⟨paying,paid,left,total,moved⟩
    · -- a vault drained into itself would still hold the money when it is closed
      rw [found] at present
      cases Option.some.inj present
      rw [zero] at something
      cases something
    · obtain ⟨apart,sourceFound,destinationFound,-,authorised,-,adds,rfl⟩ := moved
      rw [found] at sourceFound
      cases Option.some.inj sourceFound
      have result : Drained s.tokens orderKey vault destination
          ((s.tokens.put destination {paid with amount := total}).erase vault) :=
        .paid held paid total found authorised something (Ne.symm apart) destinationFound adds
      convert result using 1
      refine Cells.ext fun key => ?_
      simp only [Cells.erase_apply,Cells.put_apply]
      split <;> rfl
  · obtain ⟨closing,present,zero,owner,rfl⟩ := close_parts accepted
    rw [found] at present
    cases Option.some.inj present
    exact .empty held found owner (by rw [zero]; rfl)

-- The order an instruction acts on, at the address of its passport and seller.
structure OrderAt (s : Ledger) (key : Pubkey) (order : Order) : Prop where
  found : s.escrow.orders key = some order
  here : key = .order order.passport order.seller

-- A payout: the drained vault, the recipient's account it went to, the returned asset, and the final state.
structure Settlement (s : Ledger) (orderKey : Pubkey) (order : Order) (config : EscrowConfig) (destination payee : Pubkey)
    (assetTo : Pubkey) (final : OrderState) (after : Ledger) : Prop where
  at_ : OrderAt s orderKey order
  configFound : s.escrow.config = some config
  recipient : ∃ paid, s.tokens destination = some paid ∧ paid.mint = config.usdcMint ∧ paid.owner = payee
  written : ∃ asset core tokens assets, Drained s.tokens orderKey (.vault orderKey) destination tokens ∧
    returnAsset s orderKey order asset core assetTo = .ok assets ∧
    after = {s with
      tokens := tokens
      assets := assets
      escrow.orders := s.escrow.orders.put orderKey {order with state := final, assetDeposited := false}}

-- Why a dispute was accepted.
inductive DisputeGround (s : Ledger) (config : EscrowConfig) (order : Order) (signer : Pubkey) (now : I64) : Prop where
  | admin (isAdmin : signer = config.admin)
      (state : order.state = .reserved ∨ order.state = .preshipScanned ∨ order.state = .shipped)
  | timeout (isBuyer : signer = order.buyer) (state : order.state = .reserved ∨ order.state = .preshipScanned)
      (late : order.reservedAt.1 + (effectiveWindow order.disputeAfterS).1 < now.1)
  | deadSeal (isBuyer : signer = order.buyer) (state : order.state = .reserved ∨ order.state = .preshipScanned)
      (sealKey : Pubkey) (found : Seal) (there : s.flacon.seals sealKey = some found)
      (attached : found.passport = order.passport) (dead : found.dead)

-- A scan that an order step accepted.
structure ScanLinked (s : Ledger) (order : Order) (scanKey attester : Pubkey) (stepAt : I64) (scan : ScanProof) : Prop where
  scanFound : s.flacon.scans scanKey = some scan
  ofPassport : ∃ found, s.flacon.seals scan.sealKey = some found ∧ found.passport = order.passport
  attested : scan.attester = attester
  dated : stepAt.1 - Flacon.MAX_SCAN_TS_SKEW_S ≤ scan.ts.1

-- Everything an accepted escrow instruction checked that later proofs need, and everything it wrote.
inductive Change (s : Ledger) (now : I64) : EscrowCall → Ledger → Prop where
  | initConfig (a : InitConfig) (disputeAfterS : I64) (fresh : s.escrow.config = none) :
      Change s now (.initConfig a disputeAfterS) {s with escrow.config := some ⟨a.admin,a.usdcMint,disputeAfterS⟩}
  | setDisputeWindow (a : AdminConfig) (disputeAfterS : I64) (config : EscrowConfig) (found : s.escrow.config = some config) (isAdmin : config.admin = a.admin) :
      Change s now (.setDisputeWindow a disputeAfterS)
        {s with escrow.config := some {config with disputeAfterS := disputeAfterS}}
  | list (a : ListAccounts) (price : U64) (config : EscrowConfig) (passport : Passport) (registry : Registry) (configFound : s.escrow.config = some config)
      (found : s.flacon.passports a.passport = some passport) (registryFound : s.flacon.registry = some registry)
      (signed : a.seller.canSign) (here : a.order = .order a.passport a.seller) (fresh : s.escrow.orders a.order = none)
      (positive : 0 < price) (valid : ¬passport.void ∧ passport.grade ≠ .void)
      (entitled : checkSellerOf s a.seller passport passport.asset registry = .ok ()) :
      Change s now (.list a price) {s with
        escrow.orders := s.escrow.orders.put a.order ⟨a.passport,a.seller,.default,passport.asset,price,.listed,now,.zero,
          .zero,.default,.default,effectiveWindow config.disputeAfterS,false⟩}
  | depositAsset (a : DepositAsset) (order : Order) (assets : Cells Pubkey Pubkey) (at_ : OrderAt s a.order order) (signed : a.seller.canSign)
      (isSeller : order.seller = a.seller) (state : order.state = .listed) (notYet : ¬order.assetDeposited)
      (moved : Core.transfer s.assets order.asset a.seller a.order = .ok assets) :
      Change s now (.depositAsset a) {s with
        assets := assets
        escrow.orders := s.escrow.orders.put a.order {order with assetDeposited := true}}
  | cancel (a : Cancel) (order : Order) (assets : Cells Pubkey Pubkey) (at_ : OrderAt s a.order order) (signed : a.seller.canSign)
      (isSeller : order.seller = a.seller) (state : order.state = .listed)
      (returned : returnAsset s a.order order a.asset a.mplCoreProgram a.seller = .ok assets) :
      Change s now (.cancel a) {s with
        assets := assets
        escrow.orders := s.escrow.orders.put a.order {order with state := .cancelled, assetDeposited := false}}
  | closeOrder (a : CloseOrder) (order : Order) (at_ : OrderAt s a.order order) (signed : a.seller.canSign) (isSeller : order.seller = a.seller)
      (terminal : order.isTerminal) :
      Change s now (.closeOrder a) {s with escrow.orders := s.escrow.orders.erase a.order}
  | reserve (a : Reserve) (expectedPrice : U64) (config : EscrowConfig) (order : Order) (passport : Passport) (registry : Registry) (buyerToken : TokenAccount)
      (created tokens : Cells Pubkey TokenAccount) (configFound : s.escrow.config = some config)
      (at_ : OrderAt s a.order order) (signed : a.buyer.canSign) (buyerTokenFound : s.tokens a.buyerToken = some buyerToken)
      (ofMint : buyerToken.mint = config.usdcMint) (ofBuyer : buyerToken.owner = a.buyer)
      (passportFound : s.flacon.passports order.passport = some passport) (registryFound : s.flacon.registry = some registry)
      (state : order.state = .listed) (apart : a.buyer ≠ order.seller) (agreed : order.price = expectedPrice)
      (valid : ¬passport.void ∧ passport.grade ≠ .void)
      (entitled : order.assetDeposited ∨ checkSellerOf s order.seller passport order.asset registry = .ok ())
      (vault : initVault s.tokens (.vault a.order) config.usdcMint a.order = .ok created)
      (funded : Tokens.transfer created a.buyerToken (.vault a.order) a.buyer order.price.val = .ok tokens) :
      Change s now (.reserve a expectedPrice) {s with
        tokens := tokens
        escrow.orders := s.escrow.orders.put a.order {order with buyer := a.buyer, reservedAt := now, state := .reserved}}
  | recordPreShipScan (a : RecordPreShipScan) (order : Order) (scan : ScanProof) (at_ : OrderAt s a.order order) (signed : a.seller.canSign)
      (isSeller : order.seller = a.seller) (state : order.state = .reserved)
      (linked : ScanLinked s order a.scanProof order.seller order.reservedAt scan) :
      Change s now (.recordPreShipScan a) {s with
        escrow.orders := s.escrow.orders.put a.order {order with sellerScan := a.scanProof, state := .preshipScanned}}
  | ship (a : Ship) (order : Order) (at_ : OrderAt s a.order order) (signed : a.seller.canSign) (isSeller : order.seller = a.seller)
      (state : order.state = .preshipScanned) :
      Change s now (.ship a) {s with
        escrow.orders := s.escrow.orders.put a.order {order with shippedAt := now, state := .shipped}}
  | recordReceiptScan (a : RecordReceiptScan) (order : Order) (buyerScan sellerScan : ScanProof) (at_ : OrderAt s a.order order)
      (signed : a.buyer.canSign) (isBuyer : order.buyer = a.buyer) (state : order.state = .shipped)
      (linked : ScanLinked s order a.scanProof order.buyer order.shippedAt buyerScan)
      (sellerScanFound : s.flacon.scans order.sellerScan = some sellerScan)
      (newer : buyerScan.sealKey = sellerScan.sealKey → sellerScan.counter < buyerScan.counter) :
      Change s now (.recordReceiptScan a) {s with
        escrow.orders := s.escrow.orders.put a.order {order with
          buyerScan := a.scanProof
          state := if matched buyerScan sellerScan then .receiptScanned else .mismatch}}
  | release (a : Release) (after : Ledger) (config : EscrowConfig) (order : Order) (state : order.state = .receiptScanned)
      (settled : Settlement s a.order order config a.sellerToken order.seller order.buyer .released after) :
      Change s now (.release a) after
  | releaseAfterTimeout (a : Release) (after : Ledger) (config : EscrowConfig) (order : Order) (state : order.state = .shipped)
      (late : order.shippedAt.1 + (effectiveWindow order.disputeAfterS).1 < now.1)
      (settled : Settlement s a.order order config a.sellerToken order.seller order.buyer .released after) :
      Change s now (.releaseAfterTimeout a) after
  | dispute (a : Dispute) (after : Ledger) (config : EscrowConfig) (order : Order) (ground : DisputeGround s config order a.signer now)
      (signed : a.signer.canSign)
      (settled : Settlement s a.order order config a.buyerToken order.buyer order.seller .dispute after) :
      Change s now (.dispute a) after
  | resolve (a : Resolve) (toSeller : Bool) (after : Ledger) (config : EscrowConfig) (order : Order) (state : order.state = .mismatch) (signed : a.admin.canSign)
      (isAdmin : config.admin = a.admin)
      (settled : Settlement s a.order order config a.recipientToken (if toSeller then order.seller else order.buyer)
        (if toSeller then order.buyer else order.seller) (if toSeller then .released else .dispute) after) :
      Change s now (.resolve a toSeller) after

theorem init_config_change (accepted : handleInitConfig s a disputeAfterS = .ok after) :
    Change s now (.initConfig a disputeAfterS) after := by
  simp only [handleInitConfig,bind_ok,requireSigner_ok,require_ok,exists_const,checkWindow,pure_ok] at accepted
  obtain ⟨-,-,fresh,-,-,rfl⟩ := accepted
  exact .initConfig a disputeAfterS fresh

theorem set_dispute_window_change (accepted : handleSetDisputeWindow s a disputeAfterS = .ok after) :
    Change s now (.setDisputeWindow a disputeAfterS) after := by
  simp only [handleSetDisputeWindow,bind_ok,loadAdminConfig_ok,require_ok,exists_const,checkWindow,pure_ok] at accepted
  obtain ⟨config,⟨-,found,-,isAdmin⟩,-,rfl⟩ := accepted
  exact .setDisputeWindow a disputeAfterS config found isAdmin

theorem list_change (accepted : handleList s a price now = .ok after) : Change s now (.list a price) after := by
  simp only [handleList,bind_ok,loadConfig_ok,loadRegistry_ok,orRefuse_ok,requireSigner_ok,require_ok,exists_const,pure_ok]
    at accepted
  obtain ⟨config,⟨-,configFound⟩,passport,found,signed,registry,⟨-,registryFound⟩,here,fresh,isAsset,positive,valid,done,entitled,
    rfl⟩ := accepted
  rw [isAsset] at entitled
  exact .list a price config passport registry configFound found registryFound signed here fresh positive valid entitled

theorem deposit_change (accepted : handleDepositAsset s a = .ok after) : Change s now (.depositAsset a) after := by
  simp only [handleDepositAsset,bind_ok,loadSellerOrder_ok,transferV1,require_ok,exists_const,pure_ok] at accepted
  obtain ⟨order,⟨found,here,signed,isSeller⟩,isAsset,-,state,notYet,assets,⟨-,-,moved⟩,rfl⟩ := accepted
  rw [isAsset] at moved
  exact .depositAsset a order assets ⟨found,here⟩ signed isSeller state notYet moved

theorem cancel_change (accepted : handleCancel s a = .ok after) : Change s now (.cancel a) after := by
  simp only [handleCancel,bind_ok,loadSellerOrder_ok,require_ok,exists_const,pure_ok] at accepted
  obtain ⟨order,⟨found,here,signed,isSeller⟩,state,assets,returned,rfl⟩ := accepted
  exact .cancel a order assets ⟨found,here⟩ signed isSeller state returned

theorem close_change (accepted : handleCloseOrder s a = .ok after) : Change s now (.closeOrder a) after := by
  simp only [handleCloseOrder,bind_ok,loadSellerOrder_ok,require_ok,exists_const,pure_ok] at accepted
  obtain ⟨order,⟨found,here,signed,isSeller⟩,terminal,rfl⟩ := accepted
  exact .closeOrder a order ⟨found,here⟩ signed isSeller terminal

theorem reserve_change (accepted : handleReserve s a expectedPrice now = .ok after) :
    Change s now (.reserve a expectedPrice) after := by
  simp only [handleReserve,bind_ok,loadConfig_ok,loadOrder_ok,loadTokenOf_ok,loadRegistry_ok,orRefuse_ok,requireSigner_ok,
    require_ok,exists_const] at accepted
  obtain ⟨config,⟨-,configFound⟩,order,⟨found,here⟩,signed,buyerToken,⟨buyerTokenFound,ofMint⟩,ofBuyer,isMint,isVault,created,
    vault,isPassport,passport,passportFound,isAsset,registry,⟨-,registryFound⟩,state,apart,agreed,valid,rest⟩ := accepted
  rw [isMint] at ofMint
  rw [isVault,isMint] at vault
  rw [isPassport] at passportFound
  have settled : (order.assetDeposited ∨ checkSellerOf s order.seller passport order.asset registry = .ok ()) ∧
      ∃ tokens, Tokens.transfer created a.buyerToken (.vault a.order) a.buyer order.price.val = .ok tokens ∧
        after = {s with
          tokens := tokens
          escrow.orders := s.escrow.orders.put a.order {order with buyer := a.buyer, reservedAt := now, state := .reserved}} := by
    rw [isVault,isAsset] at rest
    split at rest
    · simp only [bind_ok,pure_ok] at rest
      obtain ⟨done,entitled,tokens,funded,rfl⟩ := rest
      exact ⟨.inr entitled,tokens,funded,rfl⟩
    · rename_i deposited
      simp only [bind_ok,pure_ok] at rest
      obtain ⟨tokens,funded,rfl⟩ := rest
      exact ⟨.inl (not_not.mp deposited),tokens,funded,rfl⟩
  obtain ⟨entitled,tokens,funded,rfl⟩ := settled
  exact .reserve a expectedPrice config order passport registry buyerToken created tokens configFound ⟨found,here⟩ signed buyerTokenFound ofMint
    ofBuyer passportFound registryFound state apart agreed valid entitled vault funded

theorem checkScan_parts (accepted : checkScan order scan sealKey found attester stepAt = .ok done)
    (scanFound : s.flacon.scans scanKey = some scan) (sealFound : s.flacon.seals sealKey = some found) :
    ScanLinked s order scanKey attester stepAt scan := by
  simp only [checkScan,checkScanNotBefore,bind_ok,require_ok,exists_const] at accepted
  obtain ⟨ofSeal,ofPassport,attested,dated⟩ := accepted
  have lower := scan.ts.2.1
  exact ⟨scanFound,⟨found,ofSeal ▸ sealFound,ofPassport⟩,attested,by omega⟩

theorem pre_ship_change (accepted : handleRecordPreShipScan s a = .ok after) :
    Change s now (.recordPreShipScan a) after := by
  simp only [handleRecordPreShipScan,bind_ok,loadSellerOrder_ok,orRefuse_ok,require_ok,exists_const,pure_ok] at accepted
  obtain ⟨order,⟨found,here,signed,isSeller⟩,scan,scanFound,onSeal,sealFound,state,done,checked,rfl⟩ := accepted
  exact .recordPreShipScan a order scan ⟨found,here⟩ signed isSeller state (checkScan_parts checked scanFound sealFound)

theorem ship_change (accepted : handleShip s a now = .ok after) : Change s now (.ship a) after := by
  simp only [handleShip,bind_ok,loadSellerOrder_ok,require_ok,exists_const,pure_ok] at accepted
  obtain ⟨order,⟨found,here,signed,isSeller⟩,state,rfl⟩ := accepted
  exact .ship a order ⟨found,here⟩ signed isSeller state

theorem receipt_change (accepted : handleRecordReceiptScan s a = .ok after) : Change s now (.recordReceiptScan a) after := by
  simp only [handleRecordReceiptScan,bind_ok,loadOrder_ok,orRefuse_ok,requireSigner_ok,require_ok,exists_const,pure_ok]
    at accepted
  obtain ⟨order,⟨found,here⟩,signed,isBuyer,buyerScan,scanFound,onSeal,sealFound,recorded,sellerScan,sellerFound,state,done,checked,
    newer,rfl⟩ := accepted
  rw [recorded] at sellerFound
  exact .recordReceiptScan a order buyerScan sellerScan ⟨found,here⟩ signed isBuyer state
    (checkScan_parts checked scanFound sealFound) sellerFound newer

theorem loadRelease_ok (accepted : loadRelease s a = .ok order) :
    ∃ config, s.escrow.config = some config ∧ OrderAt s a.order order ∧ a.vault = .vault a.order ∧ a.buyer = order.buyer ∧
      ∃ paid, s.tokens a.sellerToken = some paid ∧ paid.mint = config.usdcMint ∧ paid.owner = order.seller := by
  simp only [loadRelease,bind_ok,loadConfig_ok,loadOrder_ok,loadTokenOf_ok,requireSigner_ok,require_ok,exists_const,pure_ok]
    at accepted
  obtain ⟨config,⟨-,configFound⟩,loaded,⟨found,here⟩,isVault,paid,⟨paidFound,ofMint⟩,ofSeller,isBuyer,-,rfl⟩ := accepted
  exact ⟨config,configFound,⟨found,here⟩,isVault,isBuyer,paid,paidFound,ofMint,ofSeller⟩

theorem settle_to_seller_parts (loaded : loadRelease s a = .ok order) (accepted : settleToSeller s a order = .ok after) :
    ∃ config, Settlement s a.order order config a.sellerToken order.seller order.buyer .released after := by
  obtain ⟨config,configFound,at_,isVault,isBuyer,recipient⟩ := loadRelease_ok loaded
  simp only [settleToSeller,bind_ok,pure_ok] at accepted
  obtain ⟨tokens,drained,assets,returned,rfl⟩ := accepted
  rw [isVault] at drained
  rw [isBuyer] at returned
  exact ⟨config,at_,configFound,recipient,_,_,tokens,assets,drain_parts drained,returned,rfl⟩

theorem release_change (accepted : handleRelease s a = .ok after) : Change s now (.release a) after := by
  simp only [handleRelease,bind_ok,require_ok,exists_const] at accepted
  obtain ⟨order,loaded,state,settles⟩ := accepted
  obtain ⟨config,settled⟩ := settle_to_seller_parts loaded settles
  exact .release a after config order state settled

theorem release_after_timeout_change (accepted : handleReleaseAfterTimeout s a now = .ok after) :
    Change s now (.releaseAfterTimeout a) after := by
  simp only [handleReleaseAfterTimeout,bind_ok] at accepted
  obtain ⟨order,loaded,done,late,settles⟩ := accepted
  obtain ⟨config,settled⟩ := settle_to_seller_parts loaded settles
  obtain ⟨state,passed⟩ := checkReleaseAfterTimeout_parts late
  exact .releaseAfterTimeout a after config order state passed settled

theorem dispute_ground (accepted : disputeReason s config order signer sealKey now = .ok reason) :
    DisputeGround s config order signer now := by
  unfold disputeReason at accepted
  split at accepted
  · rename_i isAdmin
    simp only [bind_ok,require_ok,exists_const] at accepted
    exact .admin isAdmin (adminMayRefund_states accepted.1)
  · split at accepted
    · rename_i isBuyer
      obtain ⟨passed,known,accepted⟩ := bind_ok.mp accepted
      obtain ⟨state,ground⟩ := buyerDisputeReason_parts accepted
      rcases ground with dead | ⟨-,late⟩
      · cases sealKey with
        | none =>
          cases known
          cases dead
        | some sealKey =>
          simp only [passedSealDead,bind_ok,orRefuse_ok,require_ok,exists_const,pure_ok] at known
          obtain ⟨found,there,attached,isDead⟩ := known
          exact .deadSeal isBuyer state sealKey found there attached (Option.some.inj (isDead.trans dead))
      · exact .timeout isBuyer state late
    · cases accepted

theorem dispute_change (accepted : handleDispute s a now = .ok after) : Change s now (.dispute a) after := by
  simp only [handleDispute,bind_ok,loadConfig_ok,loadOrder_ok,loadTokenOf_ok,requireSigner_ok,require_ok,exists_const,pure_ok]
    at accepted
  obtain ⟨config,⟨-,configFound⟩,order,⟨found,here⟩,isVault,paid,⟨paidFound,ofMint⟩,ofBuyer,-,isSeller,signed,reason,ground,tokens,
    drained,assets,returned,rfl⟩ := accepted
  rw [isVault] at drained
  rw [isSeller] at returned
  exact .dispute a _ config order (dispute_ground ground) signed
    ⟨⟨found,here⟩,configFound,⟨paid,paidFound,ofMint,ofBuyer⟩,_,_,tokens,assets,drain_parts drained,returned,rfl⟩

theorem resolve_change (accepted : handleResolve s a toSeller = .ok after) : Change s now (.resolve a toSeller) after := by
  simp only [handleResolve,bind_ok,loadAdminConfig_ok,loadOrder_ok,loadTokenOf_ok,require_ok,exists_const,pure_ok] at accepted
  obtain ⟨config,⟨-,configFound,signed,isAdmin⟩,order,⟨found,here⟩,isVault,paid,⟨paidFound,ofMint⟩,isBuyer,isSeller,state,ofPayee,
    tokens,drained,assets,returned,rfl⟩ := accepted
  rw [isVault] at drained
  rw [isBuyer,isSeller] at returned
  exact .resolve a toSeller _ config order state signed isAdmin
    ⟨⟨found,here⟩,configFound,⟨paid,paidFound,ofMint,ofPayee⟩,_,_,tokens,assets,drain_parts drained,returned,rfl⟩

theorem process_change (accepted : processEscrow s now call = .ok after) : Change s now call after := by
  cases call with
  | initConfig => exact init_config_change accepted
  | setDisputeWindow => exact set_dispute_window_change accepted
  | list => exact list_change accepted
  | depositAsset => exact deposit_change accepted
  | cancel => exact cancel_change accepted
  | closeOrder => exact close_change accepted
  | reserve => exact reserve_change accepted
  | recordPreShipScan => exact pre_ship_change accepted
  | ship => exact ship_change accepted
  | recordReceiptScan => exact receipt_change accepted
  | release => exact release_change accepted
  | releaseAfterTimeout => exact release_after_timeout_change accepted
  | dispute => exact dispute_change accepted
  | resolve => exact resolve_change accepted

theorem Change.flacon_same (change : Change s now call after) : after.flacon = s.flacon := by
  cases change with
  | release a after config order state settled => obtain ⟨_,_,_,_,_,_,rfl⟩ := settled.written; rfl
  | releaseAfterTimeout a after config order state late settled => obtain ⟨_,_,_,_,_,_,rfl⟩ := settled.written; rfl
  | dispute a after config order ground signed settled => obtain ⟨_,_,_,_,_,_,rfl⟩ := settled.written; rfl
  | resolve a toSeller after config order state signed isAdmin settled => obtain ⟨_,_,_,_,_,_,rfl⟩ := settled.written; rfl
  | _ => rfl

end FlaconVault.Escrow

namespace FlaconVault
open Guards

-- Only flacon instructions change the accounts of the flacon program.
theorem flacon_step (accepted : process instruction s = .ok after) :
    after.flacon = s.flacon ∨ Flacon.Change s.flacon after.flacon := by
  unfold process at accepted
  split at accepted
  · exact .inr (Flacon.process_frame accepted).1
  · exact .inl (Escrow.process_change accepted).flacon_same
  · simp only [processToken,bind_ok,pure_ok] at accepted
    obtain ⟨tokens,-,rfl⟩ := accepted
    exact .inl rfl
  · simp only [processCore,bind_ok,pure_ok] at accepted
    obtain ⟨assets,-,rfl⟩ := accepted
    exact .inl rfl

end FlaconVault
