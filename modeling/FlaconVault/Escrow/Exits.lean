import FlaconVault.Escrow.Custody
namespace FlaconVault.Escrow
open Guards Flacon

theorem elapsed_ok (fits : start.1 + (effectiveWindow disputeAfterS).1 < 2^63)
    (late : start.1 + (effectiveWindow disputeAfterS).1 < now.1) : elapsed start disputeAfterS now = .ok true := by
  simp only [elapsed,bind_ok,require_ok,exists_const,pure_ok,decide_eq_true_eq]
  exact ⟨fits,late⟩

theorem buyer_dispute_late {order : Order} (state : order.state = .reserved ∨ order.state = .preshipScanned)
    (late : elapsed order.reservedAt order.disputeAfterS now = .ok true) :
    buyerDisputeReason ⟨order.state,none,order.reservedAt,order.disputeAfterS,now⟩ = .ok .timeout := by
  have open_ : order.state ≠ .receiptScanned := by
    rcases state with state | state <;> simp [state]
  simp only [buyerDisputeReason,bind_ok,require_ok,exists_const,pure_ok]
  exact ⟨open_,state,true,late,rfl,trivial⟩

theorem release_late {order : Order} (state : order.state = .shipped) (late : elapsed order.shippedAt order.disputeAfterS now = .ok true) :
    checkReleaseAfterTimeout order.state order.shippedAt order.disputeAfterS now = .ok () := by
  simp only [checkReleaseAfterTimeout,bind_ok,require_ok,exists_const]
  exact ⟨state,true,late,rfl⟩

theorem close_accepted (found : tokens account = some held) (nothing : held.amount = 0) (owner : held.owner = authority) :
    Tokens.closeAccount tokens account authority = .ok (Cells.erase tokens account) := by
  simp only [Tokens.closeAccount,bind_ok,orRefuse_ok,require_ok,exists_const,pure_ok]
  exact ⟨held,found,nothing,owner,trivial⟩

theorem transfer_accepted (sourceFound : tokens source = some paying) (destinationFound : tokens destination = some paid)
    (enough : amount ≤ paying.amount.val) (mint : paying.mint = paid.mint) (owner : paying.owner = authority)
    (apart : source ≠ destination) (room : paid.amount.val + amount < 2^64) :
    Tokens.transfer tokens source destination authority amount = .ok
      ((Cells.put tokens source {paying with amount := paying.amount - Fin.ofNat _ amount}).put destination
        {paid with amount := ⟨paid.amount.val+amount,room⟩}) := by
  have adds : checkedAdd paid.amount amount = some ⟨paid.amount.val+amount,room⟩ := dif_pos room
  simp only [Tokens.transfer,sourceFound,destinationFound,adds,orRefuse,ok_bind,require_pass enough,require_pass mint,
    require_pass owner,if_neg apart]
  rfl

-- A vault that the Order address owns can always be drained into another account of its mint that has room.
theorem drain_accepted (found : s.tokens vault = some held) (owner : held.owner = orderKey)
    (destinationFound : s.tokens destination = some paid) (mint : held.mint = paid.mint) (apart : vault ≠ destination)
    (room : paid.amount.val + held.amount.val < 2^64) : ∃ tokens, drainVault s orderKey vault destination = .ok tokens := by
  unfold drainVault
  simp only [bind_ok,orRefuse_ok]
  by_cases positive : held.amount > 0
  · have transferred := transfer_accepted found destinationFound (le_refl _) mint owner apart room
    let left : TokenAccount := {held with amount := held.amount - Fin.ofNat _ held.amount.val}
    let moved := (s.tokens.put vault left).put destination {paid with amount := ⟨paid.amount.val+held.amount.val,room⟩}
    have nothing : left.amount = 0 := by simp [left]
    have there : moved vault = some left := by
      unfold moved
      rw [Cells.put_other _ _ apart,Cells.put_self]
    refine ⟨moved.erase vault,held,found,?_⟩
    rw [if_pos positive,transferred,ok_bind]
    exact close_accepted there nothing owner
  · have nothing : held.amount = 0 := by simpa using positive
    refine ⟨s.tokens.erase vault,held,found,?_⟩
    rw [if_neg positive,ok_bind]
    exact close_accepted found nothing owner

theorem return_accepted (custody : order.assetDeposited = true → s.assets order.asset = some orderKey) (newOwner : Pubkey) :
    ∃ assets, returnAsset s orderKey order (some order.asset) (some MPL_CORE_PROGRAM_ID) newOwner = .ok assets := by
  unfold returnAsset
  split
  · rename_i deposited
    have owned := custody deposited
    have known : s.assets order.asset ≠ none := by simp [owned]
    simp only [transferV1,Core.transfer,owned,orRefuse,ok_bind,require_pass]
    exact ⟨_,rfl⟩
  · exact ⟨_,rfl⟩

-- The config is written once; later only its window changes.
theorem config_kept (run : Run) {n : ℕ} {config : EscrowConfig} (found : (run.ledger n).escrow.config = some config) :
    ∃ later, (run.ledger (n+1)).escrow.config = some later ∧ later.usdcMint = config.usdcMint ∧ later.admin = config.admin := by
  rw [run.ledger_succ]
  rcases execute_cases (run.schedule n) (run.ledger n) with same | accepted
  · exact ⟨config,by rw [same]; exact found,rfl,rfl⟩
  generalize execute (run.schedule n) (run.ledger n) = after at accepted ⊢
  generalize run.ledger n = s at accepted found
  unfold process at accepted
  split at accepted
  · obtain ⟨-,same,-⟩ := process_frame accepted
    exact ⟨config,by rw [same]; exact found,rfl,rfl⟩
  · cases process_change accepted with
    | initConfig a disputeAfterS fresh =>
      rw [found] at fresh
      cases fresh
    | setDisputeWindow a disputeAfterS old known isAdmin =>
      cases Option.some.inj (known.symm.trans found)
      exact ⟨_,rfl,rfl,rfl⟩
    | release a after config' order state settled =>
      obtain ⟨-,-,-,-,-,-,rfl⟩ := settled.written
      exact ⟨config,found,rfl,rfl⟩
    | releaseAfterTimeout a after config' order state late settled =>
      obtain ⟨-,-,-,-,-,-,rfl⟩ := settled.written
      exact ⟨config,found,rfl,rfl⟩
    | dispute a after config' order ground signed settled =>
      obtain ⟨-,-,-,-,-,-,rfl⟩ := settled.written
      exact ⟨config,found,rfl,rfl⟩
    | resolve a toSeller after config' order state signed isAdmin settled =>
      obtain ⟨-,-,-,-,-,-,rfl⟩ := settled.written
      exact ⟨config,found,rfl,rfl⟩
    | _ => exact ⟨config,found,rfl,rfl⟩
  · simp only [processToken,bind_ok,pure_ok] at accepted
    obtain ⟨tokens,-,rfl⟩ := accepted
    exact ⟨config,found,rfl,rfl⟩
  · simp only [processCore,bind_ok,pure_ok] at accepted
    obtain ⟨assets,-,rfl⟩ := accepted
    exact ⟨config,found,rfl,rfl⟩

-- The vaults hold the configured token.
def ConfiguredVault (s : Ledger) (key : Pubkey) : Prop :=
  ∀ vault, s.tokens (.vault key) = some vault → ∃ config, s.escrow.config = some config ∧ vault.mint = config.usdcMint

theorem configured_vault_at (run : Run) (n : ℕ) (key : Pubkey) : ConfiguredVault (run.ledger n) key := by
  induction n with
  | zero =>
    intro vault found
    cases found
  | succ n ih =>
    intro vault found
    by_cases pays : PaysOutAt run n key
    · obtain ⟨order,held,destination,paid,final,-,payout⟩ := payout_at run pays
      rw [payout.closed] at found
      cases found
    by_cases reserves : ReservesAt run n key
    · obtain ⟨call,ofKind,change⟩ := performs_change reserves
      rw [run.ledger_succ] at found ⊢
      generalize execute (run.schedule n) (run.ledger n) = after at found change ⊢
      cases change with
      | reserve a price config order passport registry buyerToken created tokens configFound at_ signed paying ofMint ofBuyer
          passportFound registryFound state apart agreed valid entitled opened funded =>
        cases ofKind
        obtain ⟨left,-,-,-,rfl⟩ := reserve_moves (backed_at run n) at_.found state paying opened funded
        cases Option.some.inj ((Cells.put_self _ _ _).symm.trans found)
        exact ⟨config,configFound,rfl⟩
      | _ => cases ofKind
    · rcases execute_funding (backed_at run n) (run.schedule n) key with pays' | reserves' | ⟨⟨absent,kept⟩,-⟩
      · exact absurd pays' pays
      · exact absurd reserves' reserves
      · rw [← run.ledger_succ] at absent kept
        cases before : (run.ledger n).tokens (.vault key) with
        | none =>
          rw [absent before] at found
          cases found
        | some old =>
          obtain ⟨new,there,sameMint,-⟩ := kept old before
          cases Option.some.inj (there.symm.trans found)
          obtain ⟨config,configFound,ofMint⟩ := ih old before
          obtain ⟨later,laterFound,mint,-⟩ := config_kept run configFound
          exact ⟨later,laterFound,sameMint.trans (ofMint.trans mint.symm)⟩

-- The admin is a key that signed for its config.
theorem config_signed (accepted : process instruction s = .ok after) (fresh : s.escrow.config = none)
    (found : after.escrow.config = some config) : config.admin.canSign := by
  unfold process at accepted
  split at accepted
  · obtain ⟨-,same,-⟩ := process_frame accepted
    rw [same,fresh] at found
    cases found
  · rename_i call called
    cases process_change accepted with
    | initConfig a disputeAfterS =>
      simp only [processEscrow,handleInitConfig,bind_ok,requireSigner_ok,exists_const] at accepted
      cases Option.some.inj found
      exact accepted.1
    | setDisputeWindow a disputeAfterS old known =>
      rw [fresh] at known
      cases known
    | release a after config' order state settled => cases fresh.symm.trans settled.configFound
    | releaseAfterTimeout a after config' order state late settled => cases fresh.symm.trans settled.configFound
    | dispute a after config' order ground signed settled => cases fresh.symm.trans settled.configFound
    | resolve a toSeller after config' order state signed isAdmin settled => cases fresh.symm.trans settled.configFound
    | _ => cases fresh.symm.trans found
  · simp only [processToken,bind_ok,pure_ok] at accepted
    obtain ⟨tokens,-,rfl⟩ := accepted
    cases fresh.symm.trans found
  · simp only [processCore,bind_ok,pure_ok] at accepted
    obtain ⟨assets,-,rfl⟩ := accepted
    cases fresh.symm.trans found

theorem admin_signs (run : Run) (n : ℕ) (found : (run.ledger n).escrow.config = some config) : config.admin.canSign := by
  induction n generalizing config with
  | zero => cases found
  | succ n ih =>
    cases before : (run.ledger n).escrow.config with
    | some old =>
      obtain ⟨later,there,-,admin⟩ := config_kept run before
      cases Option.some.inj (there.symm.trans found)
      rw [admin]
      exact ih before
    | none =>
      rw [run.ledger_succ] at found
      rcases execute_cases (run.schedule n) (run.ledger n) with same | accepted
      · rw [same] at found
        cases before.symm.trans found
      · exact config_signed accepted before found

-- Every instruction that writes a funded order moves it on, so an order that stays in its state stays as it is.
theorem Change.moves_on (change : Change s now call after) (here : orderOf call = some key)
    (found : s.escrow.orders key = some order) (funded : order.isFunded) (there : after.escrow.orders key = some later) :
    later.state ≠ order.state := by
  have idle {old : Order} (at_ : OrderAt s key old) (unfunded : old.isFunded = false) : later.state ≠ order.state := by
    cases Option.some.inj (at_.found.symm.trans found)
    simp [unfunded] at funded
  have settles {config : EscrowConfig} {old : Order} {destination payee assetTo : Pubkey} {final : OrderState}
      (settled : Settlement s key old config destination payee assetTo final after) (ends : final = .released ∨ final = .dispute) :
      later.state ≠ order.state := by
    cases Option.some.inj (settled.order_settled.symm.trans there)
    rcases ends with rfl | rfl
    · intro same
      simp [Order.isFunded,← same] at funded
    · intro same
      simp [Order.isFunded,← same] at funded
  cases change with
  | initConfig => cases here
  | setDisputeWindow => cases here
  | list a price config passport registry configFound passportFound registryFound signed atOrder fresh =>
    cases here
    cases fresh.symm.trans found
  | depositAsset a old assets at_ signed isSeller state =>
    cases here
    exact idle at_ (by simp [Order.isFunded,state])
  | cancel a old assets at_ signed isSeller state =>
    cases here
    exact idle at_ (by simp [Order.isFunded,state])
  | closeOrder a old at_ signed isSeller terminal =>
    cases here
    exact idle at_ (by cases state : old.state <;> simp [Order.isFunded,Order.isTerminal,state] at terminal ⊢)
  | reserve a price config old passport registry buyerToken created tokens configFound at_ signed paying ofMint ofBuyer
      passportFound registryFound state =>
    cases here
    exact idle at_ (by simp [Order.isFunded,state])
  | recordPreShipScan a old scan at_ signed isSeller state =>
    cases here
    cases Option.some.inj (at_.found.symm.trans found)
    cases Option.some.inj ((Cells.put_self _ _ _).symm.trans there)
    simp [state]
  | ship a old at_ signed isSeller state =>
    cases here
    cases Option.some.inj (at_.found.symm.trans found)
    cases Option.some.inj ((Cells.put_self _ _ _).symm.trans there)
    simp [state]
  | recordReceiptScan a old buyerScan sellerScan at_ signed isBuyer state =>
    cases here
    cases Option.some.inj (at_.found.symm.trans found)
    cases Option.some.inj ((Cells.put_self _ _ _).symm.trans there)
    dsimp only
    split <;> simp [state]
  | release a after config old state settled =>
    cases here
    exact settles settled (.inl rfl)
  | releaseAfterTimeout a after config old state late settled =>
    cases here
    exact settles settled (.inl rfl)
  | dispute a after config old ground signed settled =>
    cases here
    exact settles settled (.inr rfl)
  | resolve a toSeller after config old state signed isAdmin settled =>
    cases here
    exact settles settled (by cases toSeller <;> simp)

-- The order is in this state throughout a stretch of the run.
def StaysIn (run : Run) (n m : ℕ) (key : Pubkey) (state : OrderState) : Prop :=
  ∀ i, n ≤ i → i ≤ m → ∃ order, (run.ledger i).escrow.orders key = some order ∧ order.state = state

theorem StaysIn.same {run : Run} (stays : StaysIn run n m key order.state) (later : n ≤ m)
    (found : (run.ledger n).escrow.orders key = some order) (funded : order.isFunded) :
    (run.ledger m).escrow.orders key = some order := by
  induction m, later using Nat.le_induction with
  | base => exact found
  | succ m later ih =>
    have before := ih (fun i low high => stays i low (by omega))
    rcases order_step run m key with same | ⟨call,executes,here⟩
    · exact same.trans before
    · obtain ⟨new,there,state⟩ := stays (m+1) (by omega) (le_refl _)
      exact absurd state (executes.2.moves_on here before funded there)

-- A token account of the payee that can take the payment: of the configured mint, and with room for the vault's balance,
-- which the token program ensures by keeping the supply of a mint in 64 bits.
structure CanReceive (s : Ledger) (key payee account : Pubkey) (paid : TokenAccount) : Prop where
  found : s.tokens account = some paid
  owner : paid.owner = payee
  mint : ∀ config, s.escrow.config = some config → paid.mint = config.usdcMint
  room : ∀ held, s.tokens (.vault key) = some held → paid.amount.val + held.amount.val < 2^64

-- What every settling instruction finds when its order is funded and the payee can receive.
structure Settles (s : Ledger) (key : Pubkey) (order : Order) (config : EscrowConfig) (account : Pubkey) (paid : TokenAccount) :
    Prop where
  configFound : s.escrow.config = some config
  orderFound : s.escrow.orders key = some order
  orderHere : key = .order order.passport order.seller
  token : loadTokenOf s account config.usdcMint = .ok paid
  drains : ∃ tokens, drainVault s key (.vault key) account = .ok tokens
  returns : ∀ newOwner, ∃ assets, returnAsset s key order (some order.asset) (some MPL_CORE_PROGRAM_ID) newOwner = .ok assets

theorem settles_at (run : Run) (n : ℕ) {order : Order} (found : (run.ledger n).escrow.orders key = some order)
    (funded : order.isFunded) (receives : CanReceive (run.ledger n) key payee account paid) (signs : payee.canSign) :
    ∃ config, Settles (run.ledger n) key order config account paid := by
  have backed := backed_at run n
  obtain ⟨vault,vaultFound,owner,-⟩ := backed.backed key order found funded
  obtain ⟨config,configFound,ofMint⟩ := configured_vault_at run n key vault vaultFound
  have mint := receives.mint config configFound
  have apart : Pubkey.vault key ≠ account := by
    rintro rfl
    have unsigned := backed.vault_unsigned vaultFound
    cases Option.some.inj (vaultFound.symm.trans receives.found)
    exact unsigned (receives.owner ▸ signs)
  exact ⟨config,configFound,found,backed.orderHere key order found,loadTokenOf_ok.mpr ⟨receives.found,mint⟩,
    drain_accepted vaultFound owner receives.found (ofMint.trans mint.symm) apart (receives.room vault vaultFound),
    fun newOwner => return_accepted (custody_at run n key order found).held newOwner⟩

variable {s : Ledger} {key account : Pubkey} {order : Order} {config : EscrowConfig} {paid : TokenAccount}

theorem Settles.release_loads (settles : Settles s key order config account paid) (owner : paid.owner = order.seller)
    (signs : caller.canSign) : loadRelease s ⟨.config,key,.vault key,account,order.buyer,caller,some order.asset,
      some MPL_CORE_PROGRAM_ID⟩ = .ok order := by
  have loadedConfig : loadConfig s .config = .ok config := loadConfig_ok.mpr ⟨rfl,settles.configFound⟩
  have loadedOrder : loadOrder s key = .ok order := loadOrder_ok.mpr ⟨settles.orderFound,settles.orderHere⟩
  simp only [loadRelease,loadedConfig,loadedOrder,settles.token,ok_bind,require_pass,owner,requireSigner,signs]
  rfl

theorem Settles.pays_seller (settles : Settles s key order config account paid) :
    ∃ after, settleToSeller s ⟨.config,key,.vault key,account,order.buyer,caller,some order.asset,some MPL_CORE_PROGRAM_ID⟩
      order = .ok after := by
  obtain ⟨tokens,drained⟩ := settles.drains
  obtain ⟨assets,returned⟩ := settles.returns order.buyer
  simp only [settleToSeller,drained,returned,ok_bind]
  exact ⟨_,rfl⟩

theorem Settles.release (settles : Settles s key order config account paid) (owner : paid.owner = order.seller)
    (signs : caller.canSign) (state : order.state = .receiptScanned) :
    ∃ after, handleRelease s ⟨.config,key,.vault key,account,order.buyer,caller,some order.asset,some MPL_CORE_PROGRAM_ID⟩ =
      .ok after := by
  simp only [handleRelease,settles.release_loads owner signs,ok_bind,require_pass state]
  exact settles.pays_seller

theorem Settles.release_after_timeout (settles : Settles s key order config account paid) (owner : paid.owner = order.seller)
    (signs : caller.canSign) (late : checkReleaseAfterTimeout order.state order.shippedAt order.disputeAfterS now = .ok ()) :
    ∃ after, handleReleaseAfterTimeout s
      ⟨.config,key,.vault key,account,order.buyer,caller,some order.asset,some MPL_CORE_PROGRAM_ID⟩ now = .ok after := by
  simp only [handleReleaseAfterTimeout,settles.release_loads owner signs,ok_bind,late]
  exact settles.pays_seller

theorem Settles.dispute (settles : Settles s key order config account paid) (owner : paid.owner = order.buyer)
    (signs : signer.canSign) (reason : disputeReason s config order signer sealKey now = .ok ground) :
    ∃ after, handleDispute s ⟨.config,key,.vault key,account,order.buyer,order.seller,signer,sealKey,some order.asset,
      some MPL_CORE_PROGRAM_ID⟩ now = .ok after := by
  have loadedConfig : loadConfig s .config = .ok config := loadConfig_ok.mpr ⟨rfl,settles.configFound⟩
  have loadedOrder : loadOrder s key = .ok order := loadOrder_ok.mpr ⟨settles.orderFound,settles.orderHere⟩
  obtain ⟨tokens,drained⟩ := settles.drains
  obtain ⟨assets,returned⟩ := settles.returns order.seller
  simp only [handleDispute,loadedConfig,loadedOrder,settles.token,ok_bind,require_pass,owner,requireSigner,signs,reason,
    drained,returned]
  exact ⟨_,rfl⟩

theorem Settles.resolve (settles : Settles s key order config account paid) (toSeller : Bool)
    (owner : paid.owner = if toSeller then order.seller else order.buyer) (signs : config.admin.canSign)
    (state : order.state = .mismatch) :
    ∃ after, handleResolve s ⟨.config,key,.vault key,account,order.buyer,order.seller,config.admin,some order.asset,
      some MPL_CORE_PROGRAM_ID⟩ toSeller = .ok after := by
  have loadedConfig : loadAdminConfig s .config config.admin = .ok config :=
    loadAdminConfig_ok.mpr ⟨rfl,settles.configFound,signs,rfl⟩
  have loadedOrder : loadOrder s key = .ok order := loadOrder_ok.mpr ⟨settles.orderFound,settles.orderHere⟩
  obtain ⟨tokens,drained⟩ := settles.drains
  obtain ⟨assets,returned⟩ := settles.returns (if toSeller then order.buyer else order.seller)
  simp only [handleResolve,loadedConfig,loadedOrder,settles.token,ok_bind,require_pass,owner,state,drained,returned]
  exact ⟨_,rfl⟩

theorem Settles.buyer_dispute (settles : Settles s key order config account paid) (owner : paid.owner = order.buyer)
    (signs : order.buyer.canSign) (state : order.state = .reserved ∨ order.state = .preshipScanned)
    (late : elapsed order.reservedAt order.disputeAfterS now = .ok true) :
    ∃ after, handleDispute s ⟨.config,key,.vault key,account,order.buyer,order.seller,order.buyer,none,some order.asset,
      some MPL_CORE_PROGRAM_ID⟩ now = .ok after := by
  by_cases isAdmin : order.buyer = config.admin
  · -- a buyer who is also the admin takes the admin's path, which has no deadline
    have may : adminMayRefund order.state := by
      rcases state with state | state <;> simp [adminMayRefund,state]
    refine settles.dispute owner signs (?_ : disputeReason s config order order.buyer none now = .ok .admin)
    simp only [disputeReason,if_pos isAdmin,require_pass may,ok_bind]
    rfl
  · refine settles.dispute owner signs (?_ : disputeReason s config order order.buyer none now = .ok .timeout)
    simp only [disputeReason,if_neg isAdmin,if_true,passedSealDead,ok_bind]
    exact buyer_dispute_late state late

-- Both parties of an order signed for it.
theorem buyer_signs {run : Run} (since : ReservedSince run n key order r) : order.buyer.canSign := by
  obtain ⟨a,price,⟨-,change⟩,-,isBuyer⟩ := since.reserved
  generalize run.ledger (r+1) = after at change
  cases change with
  | reserve _ _ config old passport registry buyerToken created tokens configFound at_ signed => exact isBuyer ▸ signed

theorem seller_signs {run : Run} (shipped : ShippedAt run n key order p q) : order.seller.canSign := by
  obtain ⟨a,⟨-,change⟩,-,isSeller⟩ := shipped.shipped
  generalize run.ledger (q+1) = after at change
  cases change with
  | ship _ old at_ signed => exact isSeller ▸ signed

theorem shipped_of_history {run : Run} (history : History run n key order)
    (state : order.state = .shipped ∨ order.state = .receiptScanned ∨ order.state = .mismatch) :
    ∃ p q, ShippedAt run n key order p q := by
  rcases state with state | state | state
  · obtain ⟨r,p,q,shipScan,since,ship,shipped⟩ := history.of_state state
    exact ⟨p,q,shipped⟩
  · obtain ⟨r,p,q,b,shipScan,scan,since,ship,shipped,-⟩ := history.of_state state
    exact ⟨p,q,shipped⟩
  · obtain ⟨r,p,q,b,shipScan,scan,since,ship,shipped,-⟩ := history.of_state state
    exact ⟨p,q,shipped⟩

-- The step an order waits on, the instruction that settles it from there, and who is paid.
def stageStart (order : Order) : Int :=
  match order.state with
  | .shipped => order.shippedAt.1
  | _ => order.reservedAt.1

def settlingCall (order : Order) (key account caller : Pubkey) : EscrowCall :=
  match order.state with
  | .shipped => .releaseAfterTimeout ⟨.config,key,.vault key,account,order.buyer,caller,some order.asset,
      some MPL_CORE_PROGRAM_ID⟩
  | .receiptScanned => .release ⟨.config,key,.vault key,account,order.buyer,caller,some order.asset,some MPL_CORE_PROGRAM_ID⟩
  | _ => .dispute ⟨.config,key,.vault key,account,order.buyer,order.seller,order.buyer,none,some order.asset,
      some MPL_CORE_PROGRAM_ID⟩

def payeeOf (order : Order) : Pubkey :=
  match order.state with
  | .shipped => order.seller
  | .receiptScanned => order.seller
  | _ => order.buyer

def adminResolve (order : Order) (key account admin : Pubkey) : Resolve :=
  ⟨.config,key,.vault key,account,order.buyer,order.seller,admin,some order.asset,some MPL_CORE_PROGRAM_ID⟩

-- A payout of the order other than a dispute: it settles in the seller's favour or by the admin's decision.
def OtherPayout (call : EscrowCall) (key : Pubkey) : Prop := payoutOf call = some key ∧ ∀ a, call ≠ .dispute a

-- Funded orders always have a way out. Without the other party it opens at most 60 days and a second after the step the
-- order waits on; only the disagreement of two scans waits for the admin. The buyer's way out and the seller's are never
-- open together.
structure NoLockedFunds (run : Run) : Prop where
  exits : ∀ n key order, (run.ledger n).escrow.orders key = some order → order.isFunded → order.state ≠ .mismatch →
    order.reservedAt.1 ≤ 2^63-1-MAX_DISPUTE_AFTER_S → order.shippedAt.1 ≤ 2^63-1-MAX_DISPUTE_AFTER_S → ∀ present : I64,
    ∃ t : Int, present.1 ≤ t ∧ t ≤ max present.1 (stageStart order + MAX_DISPUTE_AFTER_S + 1) ∧
      (order.state = .receiptScanned → t = present.1) ∧
      ∀ m, n ≤ m → StaysIn run n m key order.state → ∀ (now : I64) (account caller : Pubkey) (paid : TokenAccount), t ≤ now.1 →
        CanReceive (run.ledger m) key (payeeOf order) account paid → caller.canSign →
        ∃ after, process ⟨.escrow (settlingCall order key account caller),now⟩ (run.ledger m) = .ok after
  resolved : ∀ n key order, (run.ledger n).escrow.orders key = some order → order.state = .mismatch →
    ∃ config, (run.ledger n).escrow.config = some config ∧ config.admin.canSign ∧ ∀ (toSeller : Bool) account paid now,
      CanReceive (run.ledger n) key (if toSeller then order.seller else order.buyer) account paid →
      ∃ after, process ⟨.escrow (.resolve (adminResolve order key account config.admin) toSeller),now⟩ (run.ledger n) = .ok after
  exclusive : ∀ n config, (run.ledger n).escrow.config = some config → ∀ (a : Dispute) now after, a.signer ≠ config.admin →
    process ⟨.escrow (.dispute a),now⟩ (run.ledger n) = .ok after → ∀ call later other, OtherPayout call a.order →
    process ⟨.escrow call,later⟩ (run.ledger n) ≠ .ok other

theorem exit_time (order : Order) (present : I64) : ∃ t : Int, present.1 ≤ t ∧
    t ≤ max present.1 (stageStart order + MAX_DISPUTE_AFTER_S + 1) ∧ (order.state = .receiptScanned → t = present.1) ∧
      (order.state ≠ .receiptScanned → stageStart order + (effectiveWindow order.disputeAfterS).1 < t) := by
  have window := (effectiveWindow_bounds order.disputeAfterS).2
  by_cases matched : order.state = .receiptScanned
  · exact ⟨present.1,le_refl _,le_max_left _ _,fun _ => rfl,fun other => absurd matched other⟩
  · refine ⟨max present.1 (stageStart order + (effectiveWindow order.disputeAfterS).1 + 1),le_max_left _ _,?_,
      fun same => absurd same matched,fun _ => ?_⟩
    · omega
    · omega

theorem settling_accepted {run : Run} {order : Order} (found : (run.ledger n).escrow.orders key = some order) (funded : order.isFunded)
    (decided : order.state ≠ .mismatch) (fits : stageStart order ≤ 2^63-1-MAX_DISPUTE_AFTER_S)
    (late : order.state ≠ .receiptScanned → stageStart order + (effectiveWindow order.disputeAfterS).1 < now.1)
    (receives : CanReceive (run.ledger n) key (payeeOf order) account paid) (signs : caller.canSign) :
    ∃ after, process ⟨.escrow (settlingCall order key account caller),now⟩ (run.ledger n) = .ok after := by
  have window := (effectiveWindow_bounds order.disputeAfterS).2
  have history := history_at run n key order found
  obtain ⟨r,since⟩ := history.reservation funded
  unfold stageStart at fits late
  unfold payeeOf at receives
  unfold settlingCall
  simp only [process,processEscrow]
  cases state : order.state with
  | reserved =>
    simp only [state] at fits late receives
    obtain ⟨config,settles⟩ := settles_at run n found funded receives (buyer_signs since)
    exact settles.buyer_dispute receives.owner (buyer_signs since) (.inl state) (elapsed_ok (by omega) (late (by decide)))
  | preshipScanned =>
    simp only [state] at fits late receives
    obtain ⟨config,settles⟩ := settles_at run n found funded receives (buyer_signs since)
    exact settles.buyer_dispute receives.owner (buyer_signs since) (.inr state) (elapsed_ok (by omega) (late (by decide)))
  | shipped =>
    simp only [state] at fits late receives
    obtain ⟨p,q,shipped⟩ := shipped_of_history history (.inl state)
    obtain ⟨config,settles⟩ := settles_at run n found funded receives (seller_signs shipped)
    exact settles.release_after_timeout receives.owner signs (release_late state (elapsed_ok (by omega) (late (by decide))))
  | receiptScanned =>
    simp only [state] at receives
    obtain ⟨p,q,shipped⟩ := shipped_of_history history (.inr (.inl state))
    obtain ⟨config,settles⟩ := settles_at run n found funded receives (seller_signs shipped)
    exact settles.release receives.owner signs state
  | mismatch => exact absurd state decided
  | _ => simp [Order.isFunded,state] at funded

-- A dispute of somebody else than the admin comes before shipping, every other payout after it.
theorem disputed_before_shipping (configFound : s.escrow.config = some config) (notAdmin : a.signer ≠ config.admin)
    (disputes : process ⟨.escrow (.dispute a),now⟩ s = .ok after) :
    ∃ order, s.escrow.orders a.order = some order ∧ (order.state = .reserved ∨ order.state = .preshipScanned) := by
  have disputed : processEscrow s now (.dispute a) = .ok after := disputes
  cases process_change disputed with
  | dispute _ _ read order ground signed settled =>
    cases Option.some.inj (settled.configFound.symm.trans configFound)
    refine ⟨order,settled.at_.found,?_⟩
    rcases ground with ⟨isAdmin,-⟩ | ⟨-,state,-⟩ | ⟨-,state,-⟩
    · exact absurd isAdmin notAdmin
    · exact state
    · exact state

theorem settled_after_shipping (pays : OtherPayout call key) (accepted : process ⟨.escrow call,now⟩ s = .ok after) :
    ∃ order, s.escrow.orders key = some order ∧
      (order.state = .shipped ∨ order.state = .receiptScanned ∨ order.state = .mismatch) := by
  obtain ⟨pays,undisputed⟩ := pays
  have settles : processEscrow s now call = .ok after := accepted
  cases process_change settles with
  | release a _ config order state settled =>
    cases pays
    exact ⟨order,settled.at_.found,.inr (.inl state)⟩
  | releaseAfterTimeout a _ config order state late settled =>
    cases pays
    exact ⟨order,settled.at_.found,.inl state⟩
  | resolve a toSeller _ config order state signed isAdmin settled =>
    cases pays
    exact ⟨order,settled.at_.found,.inr (.inr state)⟩
  | dispute a => exact absurd rfl (undisputed a)
  | _ => cases pays

theorem no_locked_funds (run : Run) : NoLockedFunds run := by
  refine ⟨?_,?_,?_⟩
  · intro n key order found funded decided reserved shipped present
    obtain ⟨t,atLeast,atMost,atOnce,late⟩ := exit_time order present
    refine ⟨t,atLeast,atMost,atOnce,?_⟩
    intro m later stays now account caller paid reached receives signs
    have fits : stageStart order ≤ 2^63-1-MAX_DISPUTE_AFTER_S := by
      unfold stageStart
      split
      · exact shipped
      · exact reserved
    exact settling_accepted (stays.same later found funded) funded decided fits (fun waits => lt_of_lt_of_le (late waits) reached)
      receives signs
  · intro n key order found state
    have funded : order.isFunded := by simp [Order.isFunded,state]
    have history := history_at run n key order found
    obtain ⟨r,since⟩ := history.reservation funded
    obtain ⟨p,q,shipped⟩ := shipped_of_history history (.inr (.inr state))
    obtain ⟨vault,vaultFound,-⟩ := (backed_at run n).backed key order found funded
    obtain ⟨config,configFound,-⟩ := configured_vault_at run n key vault vaultFound
    have admin := admin_signs run n configFound
    refine ⟨config,configFound,admin,?_⟩
    intro toSeller account paid now receives
    have signs : (if toSeller then order.seller else order.buyer).canSign := by
      cases toSeller
      · exact buyer_signs since
      · exact seller_signs shipped
    obtain ⟨read,settles⟩ := settles_at run n found funded receives signs
    cases Option.some.inj (settles.configFound.symm.trans configFound)
    exact settles.resolve toSeller receives.owner admin state
  · intro n config configFound a now after notAdmin disputes call later other pays accepted
    obtain ⟨order,found,before⟩ := disputed_before_shipping configFound notAdmin disputes
    obtain ⟨old,there,settling⟩ := settled_after_shipping pays accepted
    cases Option.some.inj (found.symm.trans there)
    rcases before with state | state <;> simp [state] at settling

end FlaconVault.Escrow
